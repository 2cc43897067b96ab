/-! Statements that are written from left to right. The place of a value gets its number when it is
written, and the number is that of the values that are bound by then. -/

namespace RentalGuard.Sql

/-- A part of the text of a statement. -/
inductive Part where
  | text (text : String)
  /-- The place of a bound value. -/
  | place (number : Nat)
deriving DecidableEq, Repr

namespace Part

def written : Part → String
  | text s => s
  | place number => "$" ++ toString number

def number? : Part → Option Nat
  | text _ => none
  | place number => some number

end Part

/-- A statement as far as it is written, with the values that are sent along with it. -/
structure Statement where
  parts : List Part
  values : List (List String)
deriving DecidableEq, Repr

namespace Statement

/-- A statement that begins with a text. -/
def start (text : String) : Statement := ⟨[.text text], []⟩

def push (s : Statement) (text : String) : Statement := { s with parts := s.parts ++ [.text text] }

/-- Binds a value and writes its place. -/
def pushBind (s : Statement) (value : List String) : Statement :=
  let values := s.values ++ [value]
  ⟨s.parts ++ [.place values.length], values⟩

def text (s : Statement) : String := String.join (s.parts.map Part.written)

/-- The numbers of the places, from left to right. -/
def places (s : Statement) : List Nat := s.parts.filterMap Part.number?

end Statement

end RentalGuard.Sql
