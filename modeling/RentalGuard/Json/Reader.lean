import RentalGuard.Json.Token

/-! Reading a JSON text. The tokens drive a machine whose stack holds the arrays and objects that
are still open, so one pass over the tokens decides. -/

namespace RentalGuard.Json

/-- A field as it is read. A key can be without a value. -/
abbrev ReadField := Option String × Json

/-- An open array or object. What it holds so far is kept newest first. -/
inductive Frame where
  | items (done : List Json)
  /-- An object with a key whose value follows. -/
  | fields (done : List ReadField) (key : Option String)

/-- What may come next. -/
inductive Reading where
  | value (stack : List Frame)
  /-- Just after the start of an array. -/
  | firstItem (stack : List Frame)
  /-- Just after the start of an object. -/
  | firstKey (stack : List Frame)
  | key (done : List ReadField) (stack : List Frame)
  | colon (done : List ReadField) (key : Option String) (stack : List Frame)
  /-- A value has ended. -/
  | ended (value : Json) (stack : List Frame)

/-- Starts a value. -/
def Reading.start (stack : List Frame) : Token → Option Reading
  | .openArray => some (.firstItem stack)
  | .openObject => some (.firstKey stack)
  | .text (some s) => some (.ended (.string s) stack)
  | .text none => some (.ended .unreadable stack)
  | .scalar v => some (.ended v stack)
  | _ => none

/-- An object with these fields. If a key has no value, neither has the object. -/
def ofReadFields (fields : List ReadField) : Json :=
  match fields.mapM fun (key, v) => key.map fun k => (k, v) with
  | some fields => .object fields
  | none => .unreadable

def Reading.next : Reading → Token → Option Reading
  | .value stack, t => start stack t
  | .firstItem stack, .closeArray => some (.ended (.array []) stack)
  | .firstItem stack, t => start (.items [] :: stack) t
  | .firstKey stack, .closeObject => some (.ended (.object []) stack)
  | .firstKey stack, .text k => some (.colon [] k stack)
  | .key done stack, .text k => some (.colon done k stack)
  | .colon done k stack, .colon => some (.value (.fields done k :: stack))
  | .ended v (.items done :: stack), .comma => some (.value (.items (v :: done) :: stack))
  | .ended v (.items done :: stack), .closeArray =>
    some (.ended (.array (v :: done).reverse) stack)
  | .ended v (.fields done k :: stack), .comma => some (.key ((k, v) :: done) stack)
  | .ended v (.fields done k :: stack), .closeObject =>
    some (.ended (ofReadFields ((k, v) :: done).reverse) stack)
  | _, _ => none

/-- Reads a text that holds exactly one value. -/
def read? (cs : List Char) : Option Json := do
  let tokens ← tokens? cs
  match ← tokens.foldlM Reading.next (.value []) with
  | .ended v [] => some v
  | _ => none

end RentalGuard.Json
