import RentalGuard.Phone.Country

/-! What can be wrong with a payment entry. Each cause knows the field it belongs to, its kind and
the reason that is shown to the user. -/

namespace RentalGuard

inductive FaultKind where
  | required
  | invalidFormat
  | invalidLength
  | invalidChecksum
  | unsupportedCountry
  | expired
deriving DecidableEq, Repr

def FaultKind.name : FaultKind → String
  | required => "required"
  | invalidFormat => "invalid_format"
  | invalidLength => "invalid_length"
  | invalidChecksum => "invalid_checksum"
  | unsupportedCountry => "unsupported_country"
  | expired => "expired"

/-- The entries that must not be blank. -/
inductive RequiredEntry where
  | cardNumber
  | securityCode
  | cardHolder
  | iban
  | accountHolder
  | bic
  | phone
deriving DecidableEq, Repr

namespace RequiredEntry

def field : RequiredEntry → String
  | cardNumber => "card_number"
  | securityCode => "cvv"
  | cardHolder => "holder"
  | iban => "iban"
  | accountHolder => "account_holder"
  | bic => "bic"
  | phone => "phone"

def label : RequiredEntry → String
  | cardNumber => "カード番号"
  | securityCode => "セキュリティコード"
  | cardHolder => "カード名義"
  | iban => "IBAN"
  | accountHolder => "口座名義"
  | bic => "BIC"
  | phone => "電話番号"

end RequiredEntry

/-- The least and the greatest number of digits of a card. -/
def cardDigitRange : Nat × Nat := (13, 19)

/-- The least and the greatest number of digits of a phone number. -/
def phoneDigitRange : Nat × Nat := (7, 15)

/-- A cause for which a payment entry is refused. -/
inductive PaymentFault where
  | missing (entry : RequiredEntry)
  | cardNumberCharacters
  | cardNumberLength
  | cardNumberChecksum
  | securityCodeCharacters
  | securityCodeLength (expected : Nat)
  | expiryMonth
  | expiryYear
  | cardExpired
  | ibanFormat
  | ibanLength (country : String) (expected : Nat)
  | ibanChecksum
  | bicLength
  | bicFormat
  | bicCountry (code : String)
  | phoneCharacters
  | phoneLength
  | phoneFormat
  | foreignMobile (country : MobileCountry)
deriving DecidableEq, Repr

namespace PaymentFault

def field : PaymentFault → String
  | missing entry => entry.field
  | cardNumberCharacters | cardNumberLength | cardNumberChecksum => "card_number"
  | securityCodeCharacters | securityCodeLength _ => "cvv"
  | expiryMonth => "expiry_month"
  | expiryYear => "expiry_year"
  | cardExpired => "expiry"
  | ibanFormat | ibanLength _ _ | ibanChecksum => "iban"
  | bicLength | bicFormat | bicCountry _ => "bic"
  | phoneCharacters | phoneLength | phoneFormat | foreignMobile _ => "phone"

def kind : PaymentFault → FaultKind
  | missing _ => .required
  | cardNumberCharacters | securityCodeCharacters | expiryMonth | expiryYear | ibanFormat
  | bicFormat | phoneCharacters | phoneFormat => .invalidFormat
  | cardNumberLength | securityCodeLength _ | ibanLength _ _ | bicLength | phoneLength =>
    .invalidLength
  | cardNumberChecksum | ibanChecksum => .invalidChecksum
  | bicCountry _ | foreignMobile _ => .unsupportedCountry
  | cardExpired => .expired

/-- The reason in the user's words. -/
def reason : PaymentFault → String
  | missing entry => entry.label ++ "は必須です"
  | cardNumberCharacters => "カード番号は数字のみで入力してください"
  | cardNumberLength =>
    "カード番号は " ++ toString cardDigitRange.1 ++ "〜" ++ toString cardDigitRange.2 ++
      " 桁である必要があります"
  | cardNumberChecksum => "カード番号のチェックサムが一致しません"
  | securityCodeCharacters => "セキュリティコードは数字のみで入力してください"
  | securityCodeLength expected =>
    "セキュリティコードは " ++ toString expected ++ " 桁である必要があります"
  | expiryMonth => "有効期限の月は 1〜12 である必要があります"
  | expiryYear => "有効期限の年は 2 桁または 4 桁で入力してください"
  | cardExpired => "カードの有効期限が切れています"
  | ibanFormat =>
    "IBAN の形式が不正です（国コード 2 文字 + チェックディジット 2 桁 + 口座番号）"
  | ibanLength country expected =>
    country ++ " の IBAN は " ++ toString expected ++ " 文字である必要があります"
  | ibanChecksum => "IBAN のチェックディジットが一致しません"
  | bicLength => "BIC は 8 文字または 11 文字である必要があります"
  | bicFormat =>
    "BIC の形式が不正です（銀行コード 4 文字 + 国コード 2 文字 + 所在地コード 2 文字）"
  | bicCountry code => "BIC の国コード " ++ code ++ " は認識できません"
  | phoneCharacters => "電話番号に使用できない文字が含まれています"
  | phoneLength =>
    "電話番号は " ++ toString phoneDigitRange.1 ++ "〜" ++ toString phoneDigitRange.2 ++
      " 桁である必要があります"
  | phoneFormat => "電話番号の形式が不正です"
  | foreignMobile country => country.label ++ "の携帯電話番号ではありません"

end PaymentFault

end RentalGuard
