/-! Countries whose mobile numbers a payment rail takes. -/

namespace RentalGuard

inductive MobileCountry where
  | netherlands
  | spain
  | portugal
deriving DecidableEq, Repr

namespace MobileCountry

def name : MobileCountry → String
  | netherlands => "netherlands"
  | spain => "spain"
  | portugal => "portugal"

/-- The country's name in messages. -/
def label : MobileCountry → String
  | netherlands => "オランダ"
  | spain => "スペイン"
  | portugal => "ポルトガル"

/-- The country code of international calls. -/
def callingCode : MobileCountry → String
  | netherlands => "31"
  | spain => "34"
  | portugal => "351"

/-- What may stand before the subscriber's digits. The empty one means that they may stand alone. -/
def dialPrefixes : MobileCountry → List String
  | netherlands => ["+31", "0031", "0"]
  | spain => ["", "+34", "0034"]
  | portugal => ["", "+351", "00351"]

/-- How the subscriber's digits of a mobile number start. -/
def mobileStarts : MobileCountry → List String
  | netherlands => ["6"]
  | spain => ["6", "7"]
  | portugal => ["91", "92", "93", "96"]

end MobileCountry

end RentalGuard
