import RentalGuard.Text.Hidden

/-! Text in double quotes for diagnostics. Quotes, backslashes and characters that do not show are
escaped, so the quoted form stays on one line. -/

namespace RentalGuard.Text

/-- The written form of one character between quotes. -/
def quotedChar (c : Char) : List Char :=
  if c == '"' then ['\\', '"']
  else if c == '\\' then ['\\', '\\']
  else if c == '\n' then ['\\', 'n']
  else if c == '\r' then ['\\', 'r']
  else if c == '\t' then ['\\', 't']
  else if c.toNat == 0 then ['\\', '0']
  else if isHidden c then "\\u\x7b".toList ++ Nat.toDigits 16 c.toNat ++ ['\x7d']
  else [c]

def quoted (s : String) : String :=
  String.ofList ('"' :: s.toList.flatMap quotedChar ++ ['"'])

variable {c : Char} {s : String}

theorem quotedChar_eq_self (hquote : c ≠ '"') (hslash : c ≠ '\\') (hshows : isHidden c = false) :
    quotedChar c = [c] := by
  have hother : ∀ d, isHidden d = true → c ≠ d := by
    rintro d hd rfl
    exact Bool.false_ne_true (hshows.symm.trans hd)
  have hzero : c.toNat ≠ 0 := fun h => hother '\x00' rfl (Char.toNat_inj.mp h)
  simp [quotedChar, hquote, hslash, hother '\n' rfl, hother '\r' rfl, hother '\t' rfl, hzero, hshows]

theorem flatMap_quotedChar {cs : List Char} (h : ∀ c ∈ cs, quotedChar c = [c]) :
    cs.flatMap quotedChar = cs := by
  induction cs with
  | nil => rfl
  | cons c rest ih =>
    obtain ⟨hc, hrest⟩ := List.forall_mem_cons.mp h
    rw [List.flatMap_cons, hc, ih hrest]
    rfl

/-- A text without anything to escape only gets the quotes. -/
theorem toList_quoted (h : ∀ c ∈ s.toList, quotedChar c = [c]) :
    (quoted s).toList = '"' :: s.toList ++ ['"'] := by
  rw [quoted, String.toList_ofList, flatMap_quotedChar h]

end RentalGuard.Text
