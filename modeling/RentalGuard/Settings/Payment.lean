import RentalGuard.Bank.Iban
import RentalGuard.Text.Parts
import RentalGuard.Webhook.Verifier

/-! The settings for payments, which come from named variables. -/

namespace RentalGuard

/-- A variable has a value that cannot be used. -/
structure SettingsError where
  name : String
  value : String
deriving DecidableEq, Repr

def SettingsError.message (e : SettingsError) : String := e.name ++ " の値が不正です: " ++ e.value

structure PaymentSettings where
  sandboxIbans : List String
  gatewayKey : Option String
  /-- In seconds. -/
  webhookTolerance : Nat
deriving DecidableEq, Repr

namespace PaymentSettings

def sandboxVariable : String := "PAYMENT_SANDBOX_IBANS"

def keyVariable : String := "GATEWAY_API_KEY"

def toleranceVariable : String := "GATEWAY_WEBHOOK_TOLERANCE_SECS"

/-- The numbers in a list with commas. Blank places are left out. -/
def ibanList (value : String) : List String :=
  ((Text.parts ',' value.toList).map fun part => String.ofList (Text.trim part)).filter (· ≠ "")

/-- A number of seconds that fits in 32 bits. -/
def tolerance? (value : String) : Option Nat :=
  Text.unsigned? 0x100000000 (Text.trim value.toList)

/-- Reads the settings. A variable that is not set leaves its default. -/
def read (lookup : String → Option String) : Except SettingsError PaymentSettings :=
  let ibans := ((lookup sandboxVariable).map ibanList).getD []
  let key := (lookup keyVariable).filter fun key => !Text.isBlankText key
  match lookup toleranceVariable with
  | none => .ok ⟨ibans, key, WebhookVerifier.defaultTolerance⟩
  | some value =>
    match tolerance? value with
    | some seconds => .ok ⟨ibans, key, seconds⟩
    | none => .error ⟨toleranceVariable, value⟩

/-- The numbers whose check digits are not looked at. Without a list no number is exempt. -/
def sandbox (settings : PaymentSettings) : SandboxIbans :=
  if settings.sandboxIbans.isEmpty then .empty else .ofList settings.sandboxIbans

/-- The verifier for notifications. Without a key there is none. -/
def verifier (settings : PaymentSettings) : Except SignatureError (Option WebhookVerifier) :=
  match settings.gatewayKey with
  | none => .ok none
  | some key => do
    let v ← WebhookVerifier.ofKey key
    return some (v.withTolerance (settings.webhookTolerance * WebhookVerifier.second : Nat))

/-- The text for diagnostics, without the key. -/
def describe (settings : PaymentSettings) : String :=
  "PaymentConfig \x7b sandbox_ibans: [" ++
    ", ".intercalate (settings.sandboxIbans.map Text.quoted) ++ "], gateway_api_key: " ++
    (if settings.gatewayKey.isSome then "Some(\"***\")" else "None") ++
    ", webhook_tolerance: TimeDelta \x7b secs: " ++ toString settings.webhookTolerance ++
    ", nanos: 0 \x7d \x7d"

end PaymentSettings

end RentalGuard
