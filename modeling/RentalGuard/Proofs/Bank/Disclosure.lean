import RentalGuard.Proofs.Bank.AccountNumber
import RentalGuard.Text.Bytes

/-! # What the diagnostics show of an account number

The text for diagnostics has the country and the last four characters of the number. Around both
stand characters that are in no number, so no more than four characters of it are shown in a row. An
account of five characters or more is never shown, and a shorter one always is. The registry has no
country with accounts that short.
-/

namespace RentalGuard

namespace Text

variable {c : Char} {cs front back : List Char} {kind : Char → Bool} {n : Nat}

/-- Whether no more than so many characters of a kind stand in a row. -/
def RunsWithin (kind : Char → Bool) (n : Nat) (cs : List Char) : Prop :=
  ∀ run, run <:+: cs → (∀ c ∈ run, kind c = true) → run.length ≤ n

namespace RunsWithin

theorem of_length_le (h : cs.length ≤ n) : RunsWithin kind n cs :=
  fun _ hrun _ => Nat.le_trans hrun.length_le h

/-- No run goes on over a character of another kind. -/
theorem append_cons (hfront : RunsWithin kind n front) (hc : kind c = false)
    (hback : RunsWithin kind n back) : RunsWithin kind n (front ++ c :: back) := by
  have hstop : ∀ run, run <+: c :: back → (∀ d ∈ run, kind d = true) → run = [] := by
    intro run hrun hkind
    obtain hnil | ⟨rest, rfl, -⟩ := List.prefix_cons_iff.mp hrun
    · exact hnil
    · exact absurd (hc.symm.trans (hkind c List.mem_cons_self)) Bool.false_ne_true
  intro run hrun hkind
  obtain hrun | hrun | ⟨left, right, rfl, hleft, hright⟩ := List.infix_append_iff.mp hrun
  · exact hfront run hrun hkind
  · obtain hrun | hrun := List.infix_cons_iff.mp hrun
    · rw [hstop run hrun hkind]
      exact Nat.zero_le n
    · exact hback run hrun hkind
  · have hnil := hstop right hright fun d hd => hkind d (List.mem_append_right left hd)
    rw [hnil, List.append_nil] at hkind ⊢
    exact hfront left hleft.isInfix hkind

end RunsWithin

end Text

namespace Iban

variable {sandbox : SandboxIbans} {raw : String} {iban : Iban}

/-- Whether a text is in the text for diagnostics. -/
def Shows (iban : Iban) (part : String) : Prop := part.toList <:+: iban.describe.toList

theorem quotedChar_of_isAccountChar {c : Char} (h : isAccountChar c = true) :
    Text.quotedChar c = [c] := by
  rw [isAccountChar, Bool.or_eq_true, Text.isUpper_iff_toNat, Text.isDigit_iff_toNat] at h
  have hquote : c ≠ '"' := fun he => by simp [he] at h
  have hslash : c ≠ '\\' := fun he => by simp [he] at h
  refine Text.quotedChar_eq_self hquote hslash ?_
  rw [Text.isHidden, if_pos (by omega), decide_eq_false_iff_not]
  omega

/-- The last four characters. -/
def lastFour (iban : Iban) : List Char := iban.text.toList.drop (iban.text.toList.length - 4)

theorem isAccountChar_of_mem_country (iban : Iban) :
    ∀ c ∈ iban.country.toList, isAccountChar c = true := by
  intro c hc
  rw [country, countryOf, String.toList_ofList] at hc
  exact iban.isAccountChar_of_mem c (List.mem_of_mem_take hc)

/-- Country and tail stand in quotes with an ellipsis between. None of it is escaped. -/
theorem toList_describe (iban : Iban) :
    iban.describe.toList =
      "Iban(\"".toList ++ (iban.country.toList ++ '…' :: iban.lastFour) ++ "\")".toList := by
  have hshown : (iban.country ++ "…" ++ String.ofList iban.lastFour).toList =
      iban.country.toList ++ '…' :: iban.lastFour := by
    simp
  have hplain : ∀ c ∈ (iban.country ++ "…" ++ String.ofList iban.lastFour).toList,
      Text.quotedChar c = [c] := by
    rw [hshown, List.forall_mem_append, List.forall_mem_cons]
    exact ⟨fun c hc => quotedChar_of_isAccountChar (iban.isAccountChar_of_mem_country c hc),
      by decide +kernel, fun c hc =>
        quotedChar_of_isAccountChar (iban.isAccountChar_of_mem c (List.mem_of_mem_drop hc))⟩
  have hquoted := Text.toList_quoted hplain
  rw [hshown] at hquoted
  have hdescribe : iban.describe = "Iban(" ++
      Text.quoted (iban.country ++ "…" ++ String.ofList iban.lastFour) ++ ")" := rfl
  rw [hdescribe, String.toList_append, String.toList_append, hquoted]
  simp

/-- The tail is cut out of the bytes of the number, which are as many as its characters. -/
theorem after?_lastFour (iban : Iban) :
    Text.after? iban.text (iban.text.utf8ByteSize - 4) = some (String.ofList iban.lastFour) := by
  have hsize : iban.text.utf8ByteSize = iban.text.toList.length := by
    rw [← Text.utf8ByteSize_ofList iban.isAscii, String.ofList_toList]
  refine Text.after?_of_toList (List.take_append_drop _ _).symm iban.isAscii ?_
  rw [hsize, List.length_take]
  omega

theorem exists_tail (iban : Iban) :
    ∃ tail, Text.after? iban.text (iban.text.utf8ByteSize - 4) = some tail ∧
      iban.describe = "Iban(\"" ++ iban.country ++ "…" ++ tail ++ "\")" := by
  refine ⟨_, iban.after?_lastFour, ?_⟩
  rw [← String.toList_inj, toList_describe]
  simp

/-- Country and tail are no longer than four, and the characters around them are in no number. -/
theorem runsWithin_describe (iban : Iban) :
    Text.RunsWithin isAccountChar 4 iban.describe.toList := by
  have hcountry : iban.country.toList.length ≤ 4 := by
    rw [country, countryOf, String.toList_ofList, List.length_take]
    omega
  have htail : iban.lastFour.length ≤ 4 := by
    rw [lastFour, List.length_drop]
    omega
  -- of the name, the capital might be part of a number
  have hname : Text.RunsWithin isAccountChar 4 (['I'] ++ 'b' :: ['a', 'n', '(']) :=
    .append_cons (.of_length_le (by simp)) rfl (.of_length_le (by simp))
  have hend : Text.RunsWithin isAccountChar 4 (iban.lastFour ++ "\")".toList) :=
    .append_cons (.of_length_le htail) rfl (.of_length_le (by simp))
  have hquoted : Text.RunsWithin isAccountChar 4
      (iban.country.toList ++ '…' :: (iban.lastFour ++ "\")".toList)) :=
    .append_cons (.of_length_le hcountry) rfl hend
  rw [toList_describe]
  simpa using hname.append_cons (c := '"') rfl hquoted

/-- No part of the number that is longer than the tail is shown. -/
theorem not_shows_of_isInfix {part : String} (hpart : part.toList <:+: iban.text.toList)
    (hlong : 5 ≤ part.toList.length) : ¬iban.Shows part := by
  intro hshows
  have hshort := iban.runsWithin_describe part.toList hshows fun c hc =>
    iban.isAccountChar_of_mem c (hpart.subset hc)
  omega

theorem toList_account (iban : Iban) : iban.account.toList = iban.text.toList.drop 4 :=
  String.toList_ofList

/-- A short account is the end of the tail. -/
theorem shows_account (hshort : iban.account.toList.length ≤ 4) : iban.Shows iban.account := by
  rw [toList_account, List.length_drop] at hshort
  have htail : iban.account.toList <:+: iban.lastFour := by
    rw [toList_account, lastFour]
    exact (List.drop_suffix_drop_left _ hshort).isInfix
  have hshown : iban.lastFour <:+: iban.describe.toList := by
    rw [toList_describe]
    exact ⟨"Iban(\"".toList ++ iban.country.toList ++ ['…'], "\")".toList, by simp⟩
  exact htail.trans hshown

theorem not_shows_account_iff : ¬iban.Shows iban.account ↔ 5 ≤ iban.account.toList.length := by
  constructor
  · intro hhidden
    exact Nat.lt_of_not_le fun hshort => hhidden (shows_account hshort)
  · intro hlong
    refine not_shows_of_isInfix ?_ hlong
    rw [toList_account]
    exact (List.drop_suffix 4 _).isInfix

/-- The accounts of the countries of the registry have at least eleven characters. -/
theorem eleven_le_length_account (h : parse sandbox raw = .ok iban) {length : Nat}
    (hlisted : (iban.country, length) ∈ ibanLengths) : 11 ≤ iban.account.toList.length := by
  have hall : ∀ e ∈ ibanLengths, 15 ≤ e.2 := by decide
  have hleast := hall _ hlisted
  obtain ⟨htext, hnumber⟩ := parse_eq_ok_iff.mp h
  rw [← htext] at hnumber
  have hlength := hnumber.length length hlisted
  rw [toList_account, List.length_drop]
  omega

/-- The text for diagnostics has the country and what the last four bytes of the number are. It
hides the account just if that has five characters or more, as the accounts of all countries of the
registry do. No five characters of the number are shown in a row. -/
theorem accounts_of_five_characters_or_more_are_hidden (h : parse sandbox raw = .ok iban) :
    (∃ tail, Text.after? iban.text (iban.text.utf8ByteSize - 4) = some tail ∧
      iban.describe = "Iban(\"" ++ iban.country ++ "…" ++ tail ++ "\")") ∧
    (¬iban.Shows iban.account ↔ 5 ≤ iban.account.toList.length) ∧
    (∀ length, (iban.country, length) ∈ ibanLengths → ¬iban.Shows iban.account) ∧
    ∀ part : String, part.toList <:+: iban.text.toList → 5 ≤ part.toList.length →
      ¬iban.Shows part := by
  refine ⟨iban.exists_tail, not_shows_account_iff, fun length hlisted => ?_,
    fun part => not_shows_of_isInfix⟩
  have hlong := eleven_le_length_account h hlisted
  exact not_shows_account_iff.mpr (by omega)

/-- A number of the registry, and two of a country that is not in it. The shorter one is shown. -/
theorem accounts_of_five_characters_or_more_are_hidden_in_three_numbers :
    (∃ iban, parse .empty "NL91ABNA0417164300" = .ok iban ∧
      iban.describe = "Iban(\"NL…4300\")" ∧ ¬iban.Shows iban.account ∧
      ¬iban.Shows "0417164300") ∧
    (∃ iban, parse .empty "US1212345" = .ok iban ∧
      iban.describe = "Iban(\"US…2345\")" ∧ ¬iban.Shows iban.account) ∧
    ∃ iban, parse .empty "US851234" = .ok iban ∧ iban.Shows iban.account := by
  have hdutch : parse .empty "NL91ABNA0417164300" = .ok ⟨"NL91ABNA0417164300", rfl⟩ := rfl
  have hlong : parse .empty "US1212345" = .ok ⟨"US1212345", rfl⟩ := rfl
  have hshort : parse .empty "US851234" = .ok ⟨"US851234", rfl⟩ := rfl
  obtain ⟨-, -, hregistry, hparts⟩ := accounts_of_five_characters_or_more_are_hidden hdutch
  obtain ⟨-, hhidden, -⟩ := accounts_of_five_characters_or_more_are_hidden hlong
  obtain ⟨-, hshown, -⟩ := accounts_of_five_characters_or_more_are_hidden hshort
  refine ⟨⟨_, hdutch, by decide +kernel, hregistry 18 (by decide), ?_⟩, ?_, ?_⟩
  · exact hparts "0417164300" ⟨"NL91ABNA".toList, [], rfl⟩ (by simp)
  · exact ⟨_, hlong, by decide +kernel, hhidden.mpr (by decide)⟩
  · exact ⟨_, hshort, Classical.byContradiction fun hnot => absurd (hshown.mp hnot) (by decide)⟩

/-- An account of four characters is the whole of the tail. -/
theorem four_characters_are_the_whole_account :
    (∃ iban, parse .empty "US851234" = .ok iban ∧ iban.account = "1234" ∧
      iban.describe = "Iban(\"US…1234\")") ∧
      ¬∀ (sandbox : SandboxIbans) (raw : String) (iban : Iban),
        parse sandbox raw = .ok iban → ¬iban.Shows iban.account := by
  have hparse : parse .empty "US851234" = .ok ⟨"US851234", rfl⟩ := rfl
  exact ⟨⟨_, hparse, rfl, by decide +kernel⟩, fun hhidden =>
    hhidden _ _ _ hparse ⟨"Iban(\"US…".toList, "\")".toList, by decide +kernel⟩⟩

end Iban

end RentalGuard
