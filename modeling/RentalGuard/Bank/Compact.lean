import RentalGuard.Text.AsciiUppercase

/-! The form in which bank identifiers are compared and kept. -/

namespace RentalGuard

/-- The text without blanks and in upper case. -/
def compactForm (raw : String) : String := String.ofList (Text.compactUpper raw.toList)

theorem toList_compactForm (raw : String) :
    (compactForm raw).toList = (Text.withoutBlanks raw.toList).flatMap Text.upper :=
  String.toList_ofList

theorem isLower_of_mem_compactForm {raw : String} {c : Char} (h : c ∈ (compactForm raw).toList) :
    c.isLower = false := by
  rw [toList_compactForm] at h
  obtain ⟨d, -, hc⟩ := List.mem_flatMap.mp h
  exact Text.isLower_of_mem_upper hc

/-- A text of upper-case letters and digits is in compact form. -/
theorem compactForm_eq_self {text : String}
    (h : ∀ c ∈ text.toList, (c.isUpper || c.isDigit) = true) : compactForm text = text := by
  have hkept : Text.withoutBlanks text.toList = text.toList :=
    List.filter_eq_self.mpr fun c hc => by
      rw [Text.isBlank_of_isUpper_or_isDigit (h c hc), Bool.not_false]
  have hsame : text.toList.flatMap Text.upper = text.toList.map id :=
    Text.flatMap_eq_map fun c hc => Text.upper_eq_self (h c hc)
  rw [← String.toList_inj, toList_compactForm, hkept, hsame, List.map_id]

end RentalGuard
