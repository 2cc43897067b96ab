import RentalGuard.Text.Blank

/-! Identifiers of rental companies. An identifier has only letters, digits, hyphens and
underscores, so that a list of them can be written with commas and read back. -/

namespace RentalGuard

/-- A character of an identifier. -/
def isCompanyChar (c : Char) : Bool := c.isAlphanum || c == '-' || c == '_'

structure CompanyId where
  text : String
  nonempty : text.toList ≠ []
  chars : text.toList.all isCompanyChar = true
deriving DecidableEq

theorem CompanyId.eq_of_text {a b : CompanyId} (h : a.text = b.text) : a = b := by
  cases a
  cases b
  cases h
  rfl

/-- Why a text is no identifier. -/
inductive CompanyFault where
  | missing
  | characters (text : String)
deriving DecidableEq, Repr

def CompanyFault.message : CompanyFault → String
  | missing => "会社 ID は必須です"
  | characters text => "会社 ID に使用できない文字が含まれています: " ++ text

namespace CompanyId

/-- Reads an identifier. Blanks around it are left out. -/
def parse (raw : String) : Except CompanyFault CompanyId :=
  let text := Text.trimmed raw
  if hn : text.toList = [] then .error .missing
  else if hc : text.toList.all isCompanyChar = true then .ok ⟨text, hn, hc⟩
  else .error (.characters text)

theorem parse_eq_ok_iff {raw : String} {id : CompanyId} :
    parse raw = .ok id ↔ id.text = Text.trimmed raw := by
  unfold parse
  simp only
  constructor
  · intro h
    split at h
    · cases h
    · split at h
      · cases h
        rfl
      · cases h
  · intro h
    rw [dif_neg (h ▸ id.nonempty), dif_pos (h ▸ id.chars)]
    exact congrArg Except.ok (eq_of_text h.symm)

theorem isBlank_of_isCompanyChar {c : Char} (h : isCompanyChar c = true) :
    Text.isBlank c = false := by
  have hchar : (((decide (65 ≤ c.toNat ∧ c.toNat ≤ 90) ||
      (decide (97 ≤ c.toNat) && decide (c.toNat ≤ 122))) ||
      (decide (48 ≤ c.toNat) && decide (c.toNat ≤ 57))) || c == '-' || c == '_') = true := h
  simp only [Bool.or_eq_true, Bool.and_eq_true, decide_eq_true_eq, beq_iff_eq] at hchar
  rcases hchar with (((h | h) | h) | rfl) | rfl
  · exact Text.isBlank_of_visible (by omega) (by omega)
  · exact Text.isBlank_of_visible (by omega) (by omega)
  · exact Text.isBlank_of_visible (by omega) (by omega)
  · decide
  · decide

/-- An identifier is read back from its own text. -/
theorem parse_text (id : CompanyId) : parse id.text = .ok id := by
  rw [parse_eq_ok_iff, ← String.toList_inj, Text.toList_trimmed]
  refine (Text.trim_eq_self fun c hc => ?_).symm
  exact isBlank_of_isCompanyChar (List.all_eq_true.mp id.chars c hc)

end CompanyId

end RentalGuard
