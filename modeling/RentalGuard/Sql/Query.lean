import RentalGuard.Sql.Condition

/-! Queries that are put together piece by piece. Bound values are numbered from one in the order
in which they are added. -/

namespace RentalGuard.Sql

structure Query where
  pieces : List Piece
deriving DecidableEq, Repr

namespace Query

/-- A query that begins with a text. -/
def start (text : String) : Query := ⟨[.text text]⟩

def add (q : Query) (pieces : List Piece) : Query := ⟨q.pieces ++ pieces⟩

def push (q : Query) (text : String) : Query := q.add [.text text]

def bind (q : Query) (values : List String) : Query := q.add [.bound values]

def filter (q : Query) (c : Condition) : Query := q.add c.pieces

/-- The text of pieces if `used` values have been bound before them. -/
def render (used : Nat) : List Piece → String
  | [] => ""
  | .text s :: rest => s ++ render used rest
  | .bound _ :: rest => "$" ++ toString (used + 1) ++ render (used + 1) rest

def text (q : Query) : String := render 0 q.pieces

/-- The values that are sent along with the text. -/
def binds (q : Query) : List (List String) :=
  q.pieces.filterMap fun
    | .bound values => some values
    | .text _ => none

end Query

end RentalGuard.Sql
