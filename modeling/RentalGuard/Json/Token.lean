import RentalGuard.Json.Number
import RentalGuard.Text.Hex

/-! The tokens of a JSON text. Strict: no control characters in strings, no leading zeros, no
comments, and no blanks but space, tab, line feed and carriage return. -/

namespace RentalGuard.Json

inductive Token where
  | openArray
  | closeArray
  | openObject
  | closeObject
  | comma
  | colon
  /-- A string; `none` if it holds half of a surrogate pair. -/
  | text (value : Option String)
  /-- A number, true, false or null. -/
  | scalar (value : Json)
deriving Repr

def isSpacing (c : Char) : Bool := c == ' ' || c == '\t' || c == '\n' || c == '\r'

/-- The text up to the closing quote and the text after it. A backslash protects the next
character. -/
def splitQuote : List Char → Option (List Char × List Char)
  | [] => none
  | '"' :: rest => some ([], rest)
  | '\\' :: c :: rest => (splitQuote rest).map fun p => ('\\' :: c :: p.1, p.2)
  | c :: rest => (splitQuote rest).map fun p => (c :: p.1, p.2)

theorem length_splitQuote {cs body rest : List Char} (h : splitQuote cs = some (body, rest)) :
    rest.length < cs.length := by
  fun_induction splitQuote cs generalizing body rest with
  | case1 => cases h
  | case2 r =>
    simp only [Option.some.injEq, Prod.mk.injEq] at h
    simp [← h.2]
  | case3 c r ih =>
    obtain ⟨p, hp, he⟩ := Option.map_eq_some_iff.mp h
    simp only [Prod.mk.injEq] at he
    have := ih (show splitQuote r = some (p.1, rest) by rw [hp, ← he.2])
    simp only [List.length_cons]
    omega
  | case4 c r _ _ ih =>
    obtain ⟨p, hp, he⟩ := Option.map_eq_some_iff.mp h
    simp only [Prod.mk.injEq] at he
    have := ih (show splitQuote r = some (p.1, rest) by rw [hp, ← he.2])
    simp only [List.length_cons]
    omega

/-- The value of four hexadecimal digits. -/
def unit? (a b c d : Char) : Option Nat := do
  let a ← Text.hexValue? a
  let b ← Text.hexValue? b
  let c ← Text.hexValue? c
  let d ← Text.hexValue? d
  return ((a.val * 16 + b.val) * 16 + c.val) * 16 + d.val

def isHighHalf (n : Nat) : Bool := 0xD800 ≤ n && n ≤ 0xDBFF

def isLowHalf (n : Nat) : Bool := 0xDC00 ≤ n && n ≤ 0xDFFF

/-- The character of a one-letter escape. -/
def shortEscape? : Char → Option Char
  | '"' => some '"'
  | '\\' => some '\\'
  | '/' => some '/'
  | 'b' => some (Char.ofNat 8)
  | 'f' => some (Char.ofNat 12)
  | 'n' => some '\n'
  | 'r' => some '\r'
  | 't' => some '\t'
  | _ => none

/-- The characters that the inside of a string stands for. The outer `none` is a fault of the
form, the inner one half of a surrogate pair. -/
def unescape : List Char → Option (Option (List Char))
  | [] => some (some [])
  | '\\' :: 'u' :: a :: b :: c :: d :: '\\' :: 'u' :: e :: f :: g :: h :: rest => do
    let first ← unit? a b c d
    let second ← unit? e f g h
    if isHighHalf first && isLowHalf second then
      let more ← unescape rest
      let code := 0x10000 + (first - 0xD800) * 0x400 + (second - 0xDC00)
      return more.map (Char.ofNat code :: ·)
    else
      let more ← unescape ('\\' :: 'u' :: e :: f :: g :: h :: rest)
      if isHighHalf first || isLowHalf first then return none
      return more.map (Char.ofNat first :: ·)
  | '\\' :: 'u' :: a :: b :: c :: d :: rest => do
    let n ← unit? a b c d
    let more ← unescape rest
    if isHighHalf n || isLowHalf n then return none
    return more.map (Char.ofNat n :: ·)
  | '\\' :: c :: rest => do
    let c ← shortEscape? c
    let more ← unescape rest
    return more.map (c :: ·)
  | c :: rest => do
    if c == '\\' || c.toNat < 0x20 then none
    let more ← unescape rest
    return more.map (c :: ·)

/-- A character that can stand in a number. -/
def isNumberChar (c : Char) : Bool :=
  c.isDigit || c == '-' || c == '+' || c == '.' || c == 'e' || c == 'E'

/-- All tokens of a text. -/
def tokens? : List Char → Option (List Token)
  | [] => some []
  | c :: rest =>
    if isSpacing c then tokens? rest
    else if c == '"' then
      match _h : splitQuote rest with
      | none => none
      | some (body, after) => do
        let value ← unescape body
        let more ← tokens? after
        return .text (value.map String.ofList) :: more
    else if isNumberChar c then do
      let value ← number? (c :: rest.takeWhile isNumberChar)
      let more ← tokens? (rest.dropWhile isNumberChar)
      return .scalar value :: more
    else match c, rest with
      | '[', rest => (tokens? rest).map (.openArray :: ·)
      | ']', rest => (tokens? rest).map (.closeArray :: ·)
      | '\x7b', rest => (tokens? rest).map (.openObject :: ·)
      | '\x7d', rest => (tokens? rest).map (.closeObject :: ·)
      | ',', rest => (tokens? rest).map (.comma :: ·)
      | ':', rest => (tokens? rest).map (.colon :: ·)
      | 't', 'r' :: 'u' :: 'e' :: rest => (tokens? rest).map (.scalar (.bool true) :: ·)
      | 'f', 'a' :: 'l' :: 's' :: 'e' :: rest => (tokens? rest).map (.scalar (.bool false) :: ·)
      | 'n', 'u' :: 'l' :: 'l' :: rest => (tokens? rest).map (.scalar .null :: ·)
      | _, _ => none
termination_by cs => cs.length
decreasing_by
  all_goals simp_wf
  · have := length_splitQuote _h; omega
  · have := (List.dropWhile_suffix isNumberChar (l := rest)).length_le; omega
  all_goals omega

end RentalGuard.Json
