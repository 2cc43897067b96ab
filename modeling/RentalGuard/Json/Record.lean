import RentalGuard.Json.Basic

/-! Records in JSON. A record is written as an object with its fields in any order, or as an array
with its fields in the declared order. Fields that the record does not have are skipped; a field
of the record that comes twice is a fault. -/

namespace RentalGuard.Json

/-- What a written record says about one field. -/
inductive Field where
  | present (value : Json)
  /-- The object has no such field. -/
  | absent
  /-- The array ends before this field. -/
  | beyond

/-- The values under `name`, in order. -/
def valuesOf (name : String) (fields : List (String × Json)) : List Json :=
  (fields.filter fun f => f.1 == name).map (·.2)

/-- The one field called `name`; `none` if there are several. -/
def field? (fields : List (String × Json)) (name : String) : Option Field :=
  match valuesOf name fields with
  | [] => some .absent
  | [v] => some (.present v)
  | _ => none

/-- The fields called `names`, in that order. -/
def record? (names : List String) : Json → Option (List Field)
  | object fields => names.mapM (field? fields)
  | array items =>
    if items.length ≤ names.length then
      some (items.map .present ++ List.replicate (names.length - items.length) .beyond)
    else none
  | _ => none

/-- A field that must be there. -/
def Field.required {α : Type} (read : Json → Option α) : Field → Option α
  | present v => read v
  | _ => none

/-- A field that may be missing from an object, or null. -/
def Field.optional {α : Type} (read : Json → Option α) : Field → Option (Option α)
  | present null => some none
  | present v => (read v).map some
  | absent => some none
  | beyond => none

/-- A field that may be missing from an object or from the end of an array. -/
def Field.orElse {α : Type} (default : α) (read : Json → Option α) : Field → Option α
  | present v => read v
  | _ => some default

/-- Text or null, and null if the field is missing. -/
def Field.textOrNull : Field → Option (Option String) :=
  orElse none fun
    | null => some none
    | v => v.text?.map some

end RentalGuard.Json
