import RentalGuard.Sql.Query
import RentalGuard.Text.Blank
import RentalGuard.Text.Numeral

/-! How a database reads the text of a condition. The text is split into words, and what stands in
parentheses is one item. OR binds weaker than AND, and AND weaker than NOT. Whatever is not put
together in this way is a test, and its truth comes from the row. -/

namespace RentalGuard.Sql

/-- The value of a condition for a row. The missing value stands for unknown. -/
abbrev Truth := Option Bool

namespace Truth

def both : Truth → Truth → Truth
  | some false, _ | _, some false => some false
  | some true, some true => some true
  | _, _ => none

def either : Truth → Truth → Truth
  | some true, _ | _, some true => some true
  | some false, some false => some false
  | _, _ => none

def opposite (t : Truth) : Truth := t.map not

end Truth

inductive Lexeme where
  | word (text : String)
  /-- What stands in parentheses. -/
  | group (items : List Lexeme)

/-- Whether the item is this keyword, in whatever case. -/
def Lexeme.spells (keyword : String) : Lexeme → Bool
  | word text => text.toList.map Char.toUpper == keyword.toList
  | group _ => false

/-- A word whose end has not come yet, with the quote in it that is open. -/
structure OpenWord where
  chars : List Char
  quote : Option Char
deriving DecidableEq, Repr

namespace OpenWord

def none : OpenWord := ⟨[], .none⟩

/-- Whether the character ends the statement, or begins a comment or a quote with dollar signs,
which hide the text that follows. -/
def hides (chars : List Char) (c : Char) : Bool :=
  c == ';' || (c == '-' && chars.getLast? == some '-') ||
    (c == '*' && chars.getLast? == some '/') || (c == '$' && chars.contains '$')

/-- The word with one more character, if the character can belong to it. A backslash in quotes
could take away the meaning of the next quote, and is refused. -/
def extend? (w : OpenWord) (c : Char) : Option OpenWord :=
  match w.quote with
  | some q => if c == '\\' then .none else some ⟨w.chars ++ [c], if c = q then .none else some q⟩
  | .none =>
    if Text.isBlank c || c == '(' || c == ')' || hides w.chars c then .none
    else some ⟨w.chars ++ [c], if c == '\'' || c == '"' then some c else .none⟩

end OpenWord

/-- What has been read of a text. -/
structure Scan where
  /-- The items before each parenthesis that is open, the innermost one first. -/
  outer : List (List Lexeme)
  items : List Lexeme
  word : OpenWord

namespace Scan

def start : Scan := ⟨[], [], .none⟩

/-- The items with the word that has just ended, if there is one. -/
def closed (s : Scan) : List Lexeme :=
  if s.word.chars.isEmpty then s.items else s.items ++ [.word (String.ofList s.word.chars)]

def feed? (s : Scan) (c : Char) : Option Scan :=
  if s.word.quote.isSome then (s.word.extend? c).map fun word => { s with word }
  else if Text.isBlank c then some ⟨s.outer, s.closed, .none⟩
  else if c = '(' then some ⟨s.closed :: s.outer, [], .none⟩
  else if c = ')' then
    match s.outer with
    | items :: outer => some ⟨outer, items ++ [.group s.closed], .none⟩
    | [] => none
  else (s.word.extend? c).map fun word => { s with word }

def feedAll? (s : Scan) (cs : List Char) : Option Scan := cs.foldlM feed? s

end Scan

/-- The items of a text. There are none if a quote or a parenthesis has no partner. -/
def lexemes? (text : String) : Option (List Lexeme) :=
  match Scan.start.feedAll? text.toList with
  | some s => if s.outer.isEmpty && s.word.quote.isNone then some s.closed else none
  | none => none

theorem mem_of_mem_splitOnP {α : Type} {p : α → Bool} {a : α} : ∀ {items part : List α},
    part ∈ items.splitOnP p → a ∈ part → a ∈ items
  | [], part, hp, ha => by
    rw [List.splitOnP_nil, List.mem_singleton] at hp
    rw [hp] at ha
    exact ha
  | b :: rest, part, hp, ha => by
    rw [List.splitOnP_cons_eq_if_modifyHead] at hp
    obtain ⟨first, others, hs⟩ := List.exists_cons_of_ne_nil (List.splitOnP_ne_nil p rest)
    have hrest : ∀ q ∈ first :: others, a ∈ q → a ∈ rest := fun q hq =>
      mem_of_mem_splitOnP (hs ▸ hq)
    rw [hs] at hp
    by_cases hb : p b = true
    · rw [if_pos hb] at hp
      rcases List.mem_cons.mp hp with he | hm
      · rw [he] at ha
        cases ha
      · exact List.mem_cons_of_mem b (hrest part hm ha)
    · rw [if_neg hb, List.modifyHead_cons] at hp
      rcases List.mem_cons.mp hp with he | hm
      · rw [he] at ha
        rcases List.mem_cons.mp ha with hab | hf
        · exact hab ▸ List.mem_cons_self
        · exact List.mem_cons_of_mem b (hrest first List.mem_cons_self hf)
      · exact List.mem_cons_of_mem b (hrest part (List.mem_cons_of_mem first hm) ha)

/-- The truth of a condition with these items, from that of its tests. -/
def truth (test : List Lexeme → Truth) (items : List Lexeme) : Truth :=
  ((items.splitOnP (·.spells "OR")).attach.map fun ⟨conjunction, _⟩ =>
    ((conjunction.splitOnP (·.spells "AND")).attach.map fun ⟨operand, _⟩ =>
      let value := match _ : operand.dropWhile (·.spells "NOT") with
        | [.group inner] => truth test inner
        | words => test words
      if (operand.takeWhile (·.spells "NOT")).length % 2 = 0 then value
      else value.opposite).foldr .both (some true)).foldr .either (some false)
termination_by sizeOf items
decreasing_by
  rename_i hd
  have hg : Lexeme.group inner ∈ operand :=
    (List.dropWhile_suffix _).subset (hd ▸ List.mem_singleton_self _)
  have hs : sizeOf (Lexeme.group inner) < sizeOf items :=
    List.sizeOf_lt_of_mem (mem_of_mem_splitOnP ‹_› (mem_of_mem_splitOnP ‹_› hg))
  rw [Lexeme.group.sizeOf_spec] at hs
  omega

/-- The truth of one operand of AND. -/
def operandTruth (test : List Lexeme → Truth) (operand : List Lexeme) : Truth :=
  let value := match operand.dropWhile (·.spells "NOT") with
    | [.group inner] => truth test inner
    | words => test words
  if (operand.takeWhile (·.spells "NOT")).length % 2 = 0 then value else value.opposite

theorem truth_eq (test : List Lexeme → Truth) (items : List Lexeme) :
    truth test items =
      ((items.splitOnP (·.spells "OR")).map fun conjunction =>
        ((conjunction.splitOnP (·.spells "AND")).map (operandTruth test)).foldr Truth.both
          (some true)).foldr Truth.either (some false) := by
  rw [truth]
  simp only [List.map_attach_eq_pmap, List.pmap_eq_map]
  congr 1
  refine List.map_congr_left fun conjunction _ => ?_
  congr 1
  refine List.map_congr_left fun operand _ => ?_
  unfold operandTruth
  split <;> split <;> simp_all

/-- What a condition can ask about a row: the cell in the column of the owner, and the truth of
all other tests. -/
structure Row where
  column : String
  cell : Option String
  other : List Lexeme → Truth

namespace Row

/-- The values that are bound in a place, which is a dollar sign and its number. -/
def bound? (binds : List (List String)) (place : String) : Option (List String) :=
  match place.toList with
  | '$' :: digits =>
    match Text.natural? digits with
    | some (n + 1) => binds[n]?
    | _ => none
  | _ => none

/-- The truth of a test on a row. A comparison with a missing cell is unknown. -/
def test (row : Row) (binds : List (List String)) : List Lexeme → Truth
  | [.word name] => if Lexeme.spells "TRUE" (.word name) then some true else row.other [.word name]
  | [.word name, is, null] =>
    if name = row.column ∧ is.spells "IS" ∧ null.spells "NULL" then some row.cell.isNone
    else row.other [.word name, is, null]
  | [.word name, equals, any, .group [.word place]] =>
    match bound? binds place with
    | some values =>
      if name = row.column ∧ equals.spells "=" ∧ any.spells "ANY" then row.cell.map values.contains
      else row.other [.word name, equals, any, .group [.word place]]
    | none => row.other [.word name, equals, any, .group [.word place]]
  | items => row.other items

/-- Whether a query with this condition returns the row. The condition must be true. -/
def isKept (row : Row) (binds : List (List String)) (condition : String) : Bool :=
  (lexemes? condition).map (truth (row.test binds)) == some (some true)

end Row

end RentalGuard.Sql
