import RentalGuard.Audit.EventId

/-! # Identifiers of events are read as they are written

Of the four forms in which an identifier can be read, it is written in the one with hyphens only.
-/

namespace RentalGuard.EventId

theorem length_hyphenated {cs : List Char} (h : 20 ≤ cs.length) :
    (hyphenated cs).length = cs.length + 4 := by
  simp only [hyphenated, List.length_append, List.length_cons, List.length_take, List.length_drop]
  omega

/-- The hyphens can be told from what they separate. -/
theorem filter_hyphenated {cs : List Char} (h : ∀ c ∈ cs, (c != '-') = true) :
    (hyphenated cs).filter (· != '-') = cs := by
  have hkept : ∀ {part : List Char}, (∀ c ∈ part, c ∈ cs) → part.filter (· != '-') = part :=
    fun hpart => List.filter_eq_self.mpr fun c hc => h c (hpart c hc)
  have hhyphen : ∀ rest : List Char, ('-' :: rest).filter (· != '-') = rest.filter (· != '-') :=
    fun rest => List.filter_cons_of_neg (by decide)
  have htake : ∀ {n m : Nat}, ((cs.drop n).take m).filter (· != '-') = (cs.drop n).take m :=
    hkept fun c hc => List.mem_of_mem_drop (List.mem_of_mem_take hc)
  have hfirst : (cs.take 8).filter (· != '-') = cs.take 8 :=
    hkept fun c hc => List.mem_of_mem_take hc
  have hlast : (cs.drop 20).filter (· != '-') = cs.drop 20 :=
    hkept fun c hc => List.mem_of_mem_drop hc
  have hjoin : ∀ n m : Nat, (cs.drop n).take m ++ cs.drop (n + m) = cs.drop n := by
    intro n m
    rw [← List.drop_drop, List.take_append_drop]
  simp only [hyphenated, List.filter_append, hhyphen, hfirst, htake, hlast, List.append_assoc]
  rw [hjoin 16 4, hjoin 12 4, hjoin 8 4, List.take_append_drop]

theorem unhyphenated?_hyphenated {cs : List Char} (hlength : cs.length = 32)
    (h : ∀ c ∈ cs, (c != '-') = true) : unhyphenated? (hyphenated cs) = some cs := by
  unfold unhyphenated?
  rw [filter_hyphenated h]
  exact if_pos (by simp [hlength])

theorem hexChar_ne_hyphen (d : Fin 16) : (Text.hexChar d != '-') = true := by
  revert d
  decide

/-- Every identifier is read back from its text. -/
theorem read?_write (id : EventId) : read? (write id) = some id := by
  have hlength : (id.digits.map Text.hexChar).length = 32 := by
    rw [List.length_map, id.length_eq]
  have hchars : ∀ c ∈ id.digits.map Text.hexChar, (c != '-') = true := by
    intro c hc
    obtain ⟨d, -, rfl⟩ := List.mem_map.mp hc
    exact hexChar_ne_hyphen d
  have hlong : (hyphenated (id.digits.map Text.hexChar)).length = 36 := by
    rw [length_hyphenated (by omega), hlength]
  have hplain : plainDigits? (hyphenated (id.digits.map Text.hexChar)) =
      some (id.digits.map Text.hexChar) := by
    unfold plainDigits?
    rw [hlong, if_neg (by decide), if_pos (by decide)]
    exact unhyphenated?_hyphenated hlength hchars
  have hdigits : (id.digits.map Text.hexChar).mapM Text.hexValue? = some id.digits := by
    have hvalue : (Text.hexValue? ∘ Text.hexChar) = some := funext Text.hexValue?_hexChar
    rw [List.mapM_map, hvalue]
    exact List.mapM_pure.trans (congrArg some (List.map_id' _))
  unfold read? write
  rw [String.toList_ofList, hplain]
  show ((id.digits.map Text.hexChar).mapM Text.hexValue?).bind ofDigits? = some id
  rw [hdigits, Option.bind_some, ofDigits?, dif_pos id.length_eq]

end RentalGuard.EventId
