import RentalGuard.Json.Record
import RentalGuard.Json.Reader
import RentalGuard.Payment.Method

/-! Payment entries in JSON. The field `type` names the kind of method. An entry may also be an
array: the kind, then the fields in their order. -/

namespace RentalGuard.PaymentEntry

open Json

/-- The fields of a kind of method. -/
def fieldNames : String → List String
  | "credit_card" => ["number", "cvv", "expiry_month", "expiry_year", "holder"]
  | "direct_debit" => ["iban", "account_holder", "bic"]
  | "ideal" => ["issuer_bic"]
  | "bizum" | "mb_way" => ["phone"]
  | _ => []

/-- Puts an entry together from the values of its fields. -/
def ofFields? (kind : String) (fields : List Field) : Option PaymentEntry :=
  match kind, fields with
  | "credit_card", [number, cvv, month, year, holder] => do
    let number ← number.required text?
    let cvv ← cvv.required text?
    let month ← month.required (natural? 0x100000000)
    let year ← year.required (signed? 0x80000000)
    let holder ← holder.required text?
    return .creditCard number cvv month year holder
  | "direct_debit", [iban, holder, bic] => do
    let iban ← iban.required text?
    let holder ← holder.required text?
    let bic ← bic.textOrNull
    return .directDebit iban holder bic
  | "ideal", [issuer] => do
    let issuer ← issuer.textOrNull
    return .ideal issuer
  | "bank_transfer", [] => some .bankTransfer
  | "bizum", [phone] => do
    let phone ← phone.required text?
    return .bizum phone
  | "mb_way", [phone] => do
    let phone ← phone.required text?
    return .mbWay phone
  | _, _ => none

/-- The kind, and the record without it. -/
def split? : Json → Option (String × Json)
  | object fields => do
    let kind ← (← field? fields "type").required text?
    return (kind, object (fields.filter fun f => f.1 != "type"))
  | array (string kind :: items) => some (kind, array items)
  | _ => none

/-- Reads an entry. Every token must have a value, also in fields that an entry does not have. -/
def ofJson? (v : Json) : Option PaymentEntry := do
  if !v.readable || maxDepth < v.depth then none
  let (kind, record) ← split? v
  ofFields? kind (← record? (fieldNames kind) record)

end RentalGuard.PaymentEntry
