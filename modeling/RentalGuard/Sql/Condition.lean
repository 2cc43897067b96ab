/-! Conditions on the company column of a table: their text and what a database makes of them.
The logic has three values, since a comparison with NULL is neither true nor false. -/

namespace RentalGuard.Sql

/-- A condition on one column. Lists of identifiers are bound and not written. -/
inductive Condition where
  | always
  | isNull (column : String)
  /-- The column has one of the values. -/
  | equalsAny (column : String) (values : List String)
  /-- One of two conditions, in parentheses. -/
  | either (left right : Condition)
deriving DecidableEq, Repr

/-- A piece of a query: text as it is, or the place of a bound value. -/
inductive Piece where
  | text (text : String)
  | bound (values : List String)
deriving DecidableEq, Repr

namespace Condition

def pieces : Condition → List Piece
  | always => [.text "TRUE"]
  | isNull column => [.text column, .text " IS NULL"]
  | equalsAny column values => [.text column, .text " = ANY(", .bound values, .text ")"]
  | either left right => .text "(" :: left.pieces ++ .text " OR " :: right.pieces ++ [.text ")"]

/-- The value of a condition for a row whose column holds `cell`, where the inner `none` is NULL.
The outer `none` is the third truth value, unknown. -/
def holds? (cell : Option String) : Condition → Option Bool
  | always => some true
  | isNull _ => some cell.isNone
  | equalsAny _ values => cell.map values.contains
  | either left right =>
    match left.holds? cell, right.holds? cell with
    | some true, _ | _, some true => some true
    | some false, some false => some false
    | _, _ => none

/-- Whether a query with the condition keeps the row: the condition must be true. -/
def keeps (c : Condition) (cell : Option String) : Bool := c.holds? cell == some true

end Condition

end RentalGuard.Sql
