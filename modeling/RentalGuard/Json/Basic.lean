import RentalGuard.Json.Double

/-! JSON texts as trees. A tree keeps what the text says: fields in their order and repeated ones
too. The ordered form, which values that are stored take, is in `RentalGuard.Json.Document`. -/

namespace RentalGuard

/-- A JSON text. -/
inductive Json where
  | null
  | bool (value : Bool)
  /-- A number without fraction or exponent that fits in 64 bits, with or without sign. -/
  | integer (value : Int)
  /-- Any other number. -/
  | double (value : Double)
  | string (value : String)
  /-- A token without a value: text with half of a surrogate pair, or a number too large for a
  double. It can be skipped and not used. -/
  | unreadable
  | array (items : List Json)
  | object (fields : List (String × Json))
deriving Repr, Inhabited

namespace Json

mutual

/-- How deep arrays and objects are nested. -/
def depth : Json → Nat
  | array items => depthItems items + 1
  | object fields => depthFields fields + 1
  | _ => 0

def depthItems : List Json → Nat
  | [] => 0
  | v :: rest => max v.depth (depthItems rest)

def depthFields : List (String × Json) → Nat
  | [] => 0
  | (_, v) :: rest => max v.depth (depthFields rest)

end

mutual

/-- Whether every token has a value. -/
def readable : Json → Bool
  | unreadable => false
  | array items => readableItems items
  | object fields => readableFields fields
  | _ => true

def readableItems : List Json → Bool
  | [] => true
  | v :: rest => v.readable && readableItems rest

def readableFields : List (String × Json) → Bool
  | [] => true
  | (_, v) :: rest => v.readable && readableFields rest

end

/-- The deepest nesting of a text of which all is kept. Skipped values may be deeper. -/
def maxDepth : Nat := 127

/-- Text or null. -/
def ofText? : Option String → Json
  | some s => string s
  | none => null

def text? : Json → Option String
  | string s => some s
  | _ => none

/-- A whole number below `limit`. -/
def natural? (limit : Nat) : Json → Option Nat
  | integer n => if 0 ≤ n ∧ n < limit then some n.toNat else none
  | _ => none

/-- A whole number from `-limit` up to `limit`, which is left out. -/
def signed? (limit : Nat) : Json → Option Int
  | integer n => if -(limit : Int) ≤ n ∧ n < limit then some n else none
  | _ => none

/-- An array whose items all have the form that `item?` reads. -/
def list? {α : Type} (item? : Json → Option α) : Json → Option (List α)
  | array items => items.mapM item?
  | _ => none

/-- The name of a case without content: text, or an object whose one field has that name and the
value null. -/
def caseName? : Json → Option String
  | string s => some s
  | object [(name, null)] => some name
  | _ => none

end Json

end RentalGuard
