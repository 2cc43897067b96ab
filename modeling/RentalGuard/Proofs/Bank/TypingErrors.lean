import RentalGuard.Proofs.Bank.AccountNumber

/-! # Typing errors in account numbers

A character in place of another of its class, and two neighbours of one class in the wrong order,
change what is left of the number when it is divided by 97. At the place of the error this is
arithmetic with numbers below 36; nothing that is written behind it makes up for it. Two neighbours
are torn apart when the first four characters move to the end: the second check digit and the first
character of the account. These are a power of ten apart, which is not one modulo 97, because the
number has fewer than 96 digits.
-/

namespace RentalGuard

namespace Checksum

/-! ## What is written behind an error -/

/-- The number after `n` when the text is written on behind it. -/
def written (cs : List Char) (n : Nat) : Nat := Nat.ofDigitChars 10 (cs.flatMap spelled) n

theorem written_append (front back : List Char) (n : Nat) :
    written (front ++ back) n = written back (written front n) := by
  rw [written, List.flatMap_append, Nat.ofDigitChars_append]
  rfl

/-- Two numbers that differ modulo 97 still do when the same digits are written behind both. -/
theorem ofDigitChars_mod_inj {digits : List Char} {m n : Nat}
    (h : Nat.ofDigitChars 10 digits m % 97 = Nat.ofDigitChars 10 digits n % 97) :
    m % 97 = n % 97 := by
  induction digits generalizing m n with
  | nil => exact h
  | cons c rest ih =>
    rw [Nat.ofDigitChars_cons, Nat.ofDigitChars_cons] at h
    have hrest := ih h
    omega

/-- What is written for the number of a character. -/
structure StandsFor (c : Char) (value : Nat) : Prop where
  lt : value < 36
  lt_ten_iff : value < 10 ↔ c.isDigit = true
  written_cons : ∀ rest n, written (c :: rest) n = written rest (append n value)
  length_spelled : (spelled c).length ≤ 2

theorem lt_ten_iff {c : Char} {value : Nat} (h : Text.digit36? c = some value) :
    value < 10 ↔ c.isDigit = true := by
  unfold Text.digit36? at h
  repeat' split at h
  all_goals
    rename_i hkind
    cases h
  · have hc := Text.isDigit_iff_toNat.mp hkind
    exact ⟨fun _ => hkind, fun _ => by omega⟩
  · have hc := Text.isUpper_iff_toNat.mp hkind
    exact ⟨fun hlt => by omega, fun hdigit => absurd hdigit ‹_›⟩
  · have hc := Text.isLower_iff_toNat.mp hkind
    exact ⟨fun hlt => by omega, fun hdigit => absurd hdigit ‹_›⟩

theorem standsFor {c : Char} {value : Nat} (h : Text.digit36? c = some value) :
    StandsFor c value := by
  have hc : c.isAlphanum = true := Classical.byContradiction fun hc => by
    rw [digit36?_eq_none hc] at h
    cases h
  obtain ⟨other, hlt, hother, hspelled⟩ := exists_value hc
  obtain rfl : value = other := Option.some.inj (h.symm.trans hother)
  refine ⟨hlt, lt_ten_iff h, fun rest n => ?_, ?_⟩
  · rw [written, List.flatMap_cons, Nat.ofDigitChars_append, hspelled,
      ofDigitChars_toDigits_eq_append n hlt]
    rfl
  · rw [hspelled, Nat.length_toDigits_le_iff (by decide) (by decide)]
    exact Nat.lt_trans hlt (by decide)

/-- Two characters of one class: two digits, or two letters in upper case. -/
def OfOneKind (c d : Char) : Prop :=
  (c.isDigit = true ∧ d.isDigit = true) ∨ (c.isUpper = true ∧ d.isUpper = true)

theorem OfOneKind.isDigit_iff {c d : Char} (h : OfOneKind c d) :
    c.isDigit = true ↔ d.isDigit = true := by
  rcases h with ⟨hc, hd⟩ | ⟨hc, hd⟩
  · rw [hc, hd]
  · rw [Text.isUpper_iff_toNat] at hc hd
    rw [Text.isDigit_iff_toNat, Text.isDigit_iff_toNat]
    omega

/-- Different characters of one class stand for different numbers, with as many digits. -/
theorem exists_standsFor {c d : Char} (h : OfOneKind c d) (hne : c ≠ d) :
    ∃ m n, StandsFor c m ∧ StandsFor d n ∧ m ≠ n ∧ (m < 10 ↔ n < 10) := by
  have hcodes : c.toNat ≠ d.toNat := fun heq => hne (Char.toNat_inj.mp heq)
  rcases h with ⟨hc, hd⟩ | ⟨hc, hd⟩
  · refine ⟨c.toNat - 48, d.toNat - 48, standsFor (if_pos hc), standsFor (if_pos hd), ?_, ?_⟩
    all_goals
      rw [Text.isDigit_iff_toNat] at hc hd
      omega
  · have hvalue : ∀ {e : Char}, e.isUpper = true → Text.digit36? e = some (e.toNat - 55) := by
      intro e he
      have hdigit : ¬e.isDigit = true := by
        rw [Text.isDigit_iff_toNat]
        rw [Text.isUpper_iff_toNat] at he
        omega
      rw [Text.digit36?, if_neg hdigit, if_pos he]
    refine ⟨c.toNat - 55, d.toNat - 55, standsFor (hvalue hc), standsFor (hvalue hd), ?_, ?_⟩
    all_goals
      rw [Text.isUpper_iff_toNat] at hc hd
      omega

/-- Another character of its class changes the remainder, wherever it stands. -/
theorem written_replaced {c d : Char} (h : OfOneKind c d) (hne : c ≠ d) (front back : List Char) :
    written (front ++ c :: back) 0 % 97 ≠ written (front ++ d :: back) 0 % 97 := by
  obtain ⟨m, n, hm, hn, hdiffer, hdigits⟩ := exists_standsFor h hne
  rw [written_append, written_append, hm.written_cons, hn.written_cons]
  intro heq
  have hplace := ofDigitChars_mod_inj heq
  have hlt := hm.lt
  have hlt' := hn.lt
  unfold append at hplace
  split at hplace <;> split at hplace <;> omega

/-- So does the exchange of two neighbours of one class. -/
theorem written_exchanged {c d : Char} (h : OfOneKind c d) (hne : c ≠ d)
    (front back : List Char) :
    written (front ++ c :: d :: back) 0 % 97 ≠ written (front ++ d :: c :: back) 0 % 97 := by
  obtain ⟨m, n, hm, hn, hdiffer, hdigits⟩ := exists_standsFor h hne
  rw [written_append, written_append, hm.written_cons, hn.written_cons, hn.written_cons,
    hm.written_cons]
  intro heq
  have hplace := ofDigitChars_mod_inj heq
  have hlt := hm.lt
  have hlt' := hn.lt
  unfold append at hplace
  split at hplace <;> split at hplace <;> omega

/-! ## The neighbours that are torn apart -/

/-- Ten has the order 96 modulo 97. -/
theorem pow_ten_mod {n : Nat} (hpos : 0 < n) (hlt : n < 96) : Nat.pow 10 n % 97 ≠ 1 := by
  have hall : (List.range 96).all (fun n => n == 0 || Nat.pow 10 n % 97 != 1) = true := by decide
  have hn := List.all_eq_true.mp hall n (List.mem_range.mpr hlt)
  rw [Bool.or_eq_true, beq_iff_eq, bne_iff_ne] at hn
  exact hn.resolve_left (by omega)

theorem eq_of_mul_mod {k m n : Nat} (hk : k % 97 ≠ 1) (hm : m < 10) (hn : n < 10)
    (h : (k * m + n) % 97 = (k * n + m) % 97) : m = n := by
  have hall : ∀ k < 97, k ≠ 1 → ∀ m < 10, ∀ n < 10, (k * m + n) % 97 = (k * n + m) % 97 → m = n := by
    decide +kernel
  refine hall (k % 97) (Nat.mod_lt k (by decide)) hk m hm n hn ?_
  have hmod : ∀ a b, (k % 97 * a + b) % 97 = (k * a + b) % 97 := by
    intro a b
    rw [Nat.add_mod, Nat.mod_mul_mod, ← Nat.add_mod]
  rw [hmod, hmod, h]

theorem length_flatMap_spelled {cs : List Char} (h : ∀ c ∈ cs, c.isAlphanum = true) :
    (cs.flatMap spelled).length ≤ 2 * cs.length := by
  induction cs with
  | nil => exact Nat.le_refl 0
  | cons c rest ih =>
    obtain ⟨hc, hrest⟩ := List.forall_mem_cons.mp h
    obtain ⟨value, -, hvalue, -⟩ := exists_value hc
    have hfirst := (standsFor hvalue).length_spelled
    have hothers := ih hrest
    rw [List.flatMap_cons, List.length_append, List.length_cons]
    omega

/-- The first digit of a text counts a power of ten, and the last one counts one. -/
theorem written_ends {c d : Char} {m n : Nat} (hm : StandsFor c m) (hn : StandsFor d n)
    (hc : m < 10) (hd : n < 10) (middle : List Char) :
    written (c :: (middle ++ [d])) 0 =
      Nat.pow 10 ((middle.flatMap spelled).length + 1) * m + n + 10 * written middle 0 := by
  have hmiddle : written middle m =
      Nat.pow 10 (middle.flatMap spelled).length * m + written middle 0 :=
    Nat.ofDigitChars_eq_ofDigitChars_zero
  have hpow : Nat.pow 10 ((middle.flatMap spelled).length + 1) * m =
      10 * (Nat.pow 10 (middle.flatMap spelled).length * m) := by
    rw [← Nat.mul_assoc, Nat.mul_comm 10]
    rfl
  have hfirst : append 0 m = m := by
    rw [append, if_pos hc, Nat.zero_mul, Nat.zero_add]
  have hlast : append (written middle m) n = written middle m * 10 + n := if_pos hd
  have hnil : ∀ k, written [] k = k := fun k => rfl
  rw [hm.written_cons, hfirst, written_append, hn.written_cons, hnil, hlast, hmiddle, hpow]
  omega

/-- Two digits at the ends of a text of fewer than 97 digits cannot be exchanged. -/
theorem written_torn_apart {c d : Char} (hc : c.isDigit = true) (hd : d.isDigit = true)
    (hne : c ≠ d) {middle : List Char} (hshort : (middle.flatMap spelled).length < 95) :
    written (d :: (middle ++ [c])) 0 % 97 ≠ written (c :: (middle ++ [d])) 0 % 97 := by
  obtain ⟨m, n, hm, hn, hdiffer, -⟩ := exists_standsFor (.inl ⟨hc, hd⟩) hne
  have hm10 := hm.lt_ten_iff.mpr hc
  have hn10 := hn.lt_ten_iff.mpr hd
  rw [written_ends hn hm hn10 hm10, written_ends hm hn hm10 hn10]
  intro heq
  have horder : Nat.pow 10 ((middle.flatMap spelled).length + 1) % 97 ≠ 1 :=
    pow_ten_mod (Nat.succ_pos _) (by omega)
  exact hdiffer (eq_of_mul_mod horder hm10 hn10 (by omega))

/-! ## Where the characters stand -/

theorem rotated_head (before middle after : List Char)
    (h : before.length + middle.length ≤ 4) :
    rotated (before ++ (middle ++ after)) =
      after.drop (4 - (before.length + middle.length)) ++ before ++
        (middle ++ after.take (4 - (before.length + middle.length))) := by
  have hfour : 4 = (before ++ middle).length + (4 - (before.length + middle.length)) := by
    rw [List.length_append]
    omega
  rw [rotated, ← List.append_assoc, hfour, List.take_length_add_append,
    List.drop_length_add_append, ← hfour, List.append_assoc, List.append_assoc]

theorem rotated_tail (before rest : List Char) (h : 4 ≤ before.length) :
    rotated (before ++ rest) = before.drop 4 ++ (rest ++ before.take 4) := by
  rw [rotated, List.take_append_of_le_length h, List.drop_append_of_le_length h, List.append_assoc]

/-- A character is moved with those around it. -/
theorem exists_rotated (before after : List Char) :
    ∃ front back, ∀ c, rotated (before ++ c :: after) = front ++ c :: back := by
  rcases Nat.lt_or_ge before.length 4 with hhead | htail
  · exact ⟨after.drop (4 - (before.length + 1)) ++ before, after.take (4 - (before.length + 1)),
      fun c => rotated_head before [c] after hhead⟩
  · exact ⟨before.drop 4, after ++ before.take 4,
      fun c => rotated_tail before (c :: after) htail⟩

/-- So are two neighbours, unless the text is cut between them. -/
theorem exists_rotated_pair (before after : List Char) :
    (∃ front back, ∀ c d, rotated (before ++ c :: d :: after) = front ++ c :: d :: back) ∨
      (before.length = 3 ∧ ∀ c d,
        rotated (before ++ c :: d :: after) = d :: (after ++ before ++ [c])) := by
  rcases Nat.lt_trichotomy before.length 3 with hhead | hcut | htail
  · exact .inl ⟨after.drop (4 - (before.length + 2)) ++ before,
      after.take (4 - (before.length + 2)),
      fun c d => rotated_head before [c, d] after (Nat.succ_le_of_lt (Nat.succ_lt_succ hhead))⟩
  · refine .inr ⟨hcut, fun c d => ?_⟩
    have hfour : before.length + [c].length = 4 := congrArg (· + 1) hcut
    have hrotated := rotated_head before [c] (d :: after) (Nat.le_of_eq hfour)
    rw [hfour] at hrotated
    simpa using hrotated
  · exact .inl ⟨before.drop 4, after ++ before.take 4,
      fun c d => rotated_tail before (c :: d :: after) htail⟩

/-! ## The whole number -/

theorem number_replaced {c d : Char} (h : OfOneKind c d) (hne : c ≠ d) (before after : List Char) :
    number (before ++ c :: after) % 97 ≠ number (before ++ d :: after) % 97 := by
  obtain ⟨front, back, hrotated⟩ := exists_rotated before after
  have hnumber : ∀ e, number (before ++ e :: after) = written (front ++ e :: back) 0 :=
    fun e => congrArg (written · 0) (hrotated e)
  rw [hnumber, hnumber]
  exact written_replaced h hne front back

end Checksum

namespace Iban

open Checksum

namespace HasForm

variable {before after : List Char} {c d : Char}

/-- The fourth character is a check digit. -/
theorem isDigit_of_fourth (h : HasForm (before ++ c :: after)) (hthree : before.length = 3) :
    c.isDigit = true := by
  obtain ⟨country, check, account, hparts, htext⟩ := h
  have hsplit : country ++ (check ++ account) = before ++ c :: after := by
    rw [htext, List.append_assoc]
  have hrest : (country ++ (check ++ account)).drop 2 = check ++ account :=
    List.drop_left' hparts.country_length
  rw [hsplit, List.drop_append_of_le_length (by omega)] at hrest
  have hone : (before.drop 2 ++ [c]).length = 2 := by
    rw [List.length_append, List.length_drop, hthree]
    rfl
  have hcheck : check = before.drop 2 ++ [c] := by
    refine (List.append_inj (hrest.symm.trans (List.append_cons ..)) ?_).1
    rw [hone, hparts.check_length]
  exact hparts.check_digits c (hcheck ▸ List.mem_concat_self)

theorem length_le (h : HasForm cs) : cs.length ≤ 34 := by
  obtain ⟨country, check, account, hparts, rfl⟩ := h
  have haccount := hparts.account_length.2
  rw [hparts.length]
  omega

/-- The number of an account has fewer than 96 digits, so the exchange of its ends shows. -/
theorem number_exchanged (hform : HasForm (before ++ c :: d :: after)) (h : OfOneKind c d)
    (hne : c ≠ d) :
    number (before ++ c :: d :: after) % 97 ≠ number (before ++ d :: c :: after) % 97 := by
  have hnumber : ∀ cs, number cs = written (rotated cs) 0 := fun cs => rfl
  rw [hnumber, hnumber]
  rcases exists_rotated_pair before after with ⟨front, back, hrotated⟩ | ⟨hcut, hrotated⟩
  · rw [hrotated, hrotated]
    exact written_exchanged h hne front back
  · have hc : c.isDigit = true := hform.isDigit_of_fourth hcut
    have hd : d.isDigit = true := h.isDigit_iff.mp hc
    have hlength := hform.length_le
    have hkind : ∀ e ∈ after ++ before, e.isAlphanum = true := by
      intro e he
      refine Text.isAlphanum_iff.mpr ((Bool.or_eq_true_iff.mp (hform.chars e ?_)).imp_right .inr)
      rcases List.mem_append.mp he with he | he
      · simp [he]
      · simp [he]
    have hshort := length_flatMap_spelled hkind
    rw [List.length_append] at hlength hshort
    rw [List.length_cons, List.length_cons] at hlength
    rw [hrotated, hrotated]
    exact written_torn_apart hc hd hne (by omega)

end HasForm

/-! ## Texts as they are typed -/

/-- Two characters of one class: two digits, or two letters of either case. -/
def SameClass (c d : Char) : Prop :=
  (c.isDigit = true ∧ d.isDigit = true) ∨ (c.isAlpha = true ∧ d.isAlpha = true)

theorem isUpper_toUpper {c : Char} (h : c.isAlpha = true) : c.toUpper.isUpper = true := by
  have hcase := Bool.or_eq_true_iff.mp h
  rw [Text.isUpper_iff_toNat, Text.isLower_iff_toNat] at hcase
  rw [Text.isUpper_iff_toNat, Text.toNat_toUpper]
  split <;> omega

theorem toUpper_of_isDigit {c : Char} (h : c.isDigit = true) : c.toUpper = c := by
  rw [Text.isDigit_iff_toNat] at h
  rw [← Char.toNat_inj, Text.toNat_toUpper, if_neg (by omega)]

theorem toUpper_of_isUpper {c : Char} (h : c.isUpper = true) : c.toUpper = c := by
  rw [Text.isUpper_iff_toNat] at h
  rw [← Char.toNat_inj, Text.toNat_toUpper, if_neg (by omega)]

namespace SameClass

variable {c d : Char}

theorem symm (h : SameClass c d) : SameClass d c := h.imp And.symm And.symm

/-- The characters of a compact form are of one class if they are of one kind. -/
theorem of_oneKind (h : OfOneKind c d) : SameClass c d :=
  h.imp_right fun ⟨hc, hd⟩ => ⟨Bool.or_eq_true_iff.mpr (.inl hc), Bool.or_eq_true_iff.mpr (.inl hd)⟩

theorem isAlphanum (h : SameClass c d) : c.isAlphanum = true := by
  rw [Text.isAlphanum_iff]
  rcases h with ⟨hc, -⟩ | ⟨hc, -⟩
  · exact .inr (.inr hc)
  · exact (Bool.or_eq_true_iff.mp hc).imp_right .inl

theorem toUpper (h : SameClass c d) : OfOneKind c.toUpper d.toUpper := by
  refine h.imp (fun h => ?_) fun h => ⟨isUpper_toUpper h.1, isUpper_toUpper h.2⟩
  rw [toUpper_of_isDigit h.1, toUpper_of_isDigit h.2]
  exact h

/-- Letters in upper case differ as letters if they differ at all. -/
theorem toUpper_ne (h : OfOneKind c d) (hne : c ≠ d) : c.toUpper ≠ d.toUpper := by
  rcases h with ⟨hc, hd⟩ | ⟨hc, hd⟩
  · rwa [toUpper_of_isDigit hc, toUpper_of_isDigit hd]
  · rwa [toUpper_of_isUpper hc, toUpper_of_isUpper hd]

end SameClass

section Typed

variable {before between after : List Char} {c d : Char} {cs : List Char}

theorem compact_typed (hc : c.isAlphanum = true) :
    Text.compactUpper (before ++ c :: after) =
      Text.compactUpper before ++ c.toUpper :: Text.compactUpper after := by
  rw [Text.compactUpper_append, Text.compactUpper_cons hc]

theorem compact_typed_pair (hbetween : ∀ e ∈ between, Text.isBlank e = true)
    (hc : c.isAlphanum = true) (hd : d.isAlphanum = true) :
    Text.compactUpper (before ++ c :: (between ++ d :: after)) =
      Text.compactUpper before ++ c.toUpper :: d.toUpper :: Text.compactUpper after := by
  rw [compact_typed hc, Text.compactUpper_append, Text.compactUpper_blanks hbetween,
    Text.compactUpper_cons hd, List.nil_append]

theorem toList_compactForm_ofList (cs : List Char) :
    (compactForm (String.ofList cs)).toList = Text.compactUpper cs := by
  rw [compactForm, String.toList_ofList, String.toList_ofList]

/-- Without exempt numbers the remainder must be one. -/
theorem remainder_of_parse {iban : Iban} (h : parse .empty (String.ofList cs) = .ok iban) :
    HasForm (Text.compactUpper cs) ∧ number (Text.compactUpper cs) % 97 = 1 := by
  have haccount := (parse_eq_ok_iff.mp h).2
  rw [← toList_compactForm_ofList]
  exact ⟨haccount.form, haccount.checksum.resolve_left Bool.false_ne_true⟩

theorem parse_of_toList {sandbox : SandboxIbans} {raw : String} {iban : Iban}
    (h : parse sandbox raw = .ok iban) (htext : iban.text.toList = cs) :
    parse sandbox (String.ofList cs) = .ok iban := by
  rw [← htext, String.ofList_toList]
  exact parse_text h

/-- Texts with one compact form are read alike. -/
theorem parse_of_sameForm {sandbox : SandboxIbans} {iban : Iban} {ds : List Char}
    (h : parse sandbox (String.ofList cs) = .ok iban)
    (hform : Text.compactUpper ds = Text.compactUpper cs) :
    parse sandbox (String.ofList ds) = .ok iban := by
  have hcompact : compactForm (String.ofList ds) = compactForm (String.ofList cs) := by
    rw [← String.toList_inj, toList_compactForm_ofList, toList_compactForm_ofList, hform]
  rw [parse_eq_ok_iff, hcompact]
  exact parse_eq_ok_iff.mp h

theorem exists_fault (h : number (Text.compactUpper cs) % 97 ≠ 1) :
    ∃ fault, parse .empty (String.ofList cs) = .error fault := by
  cases hparse : parse .empty (String.ofList cs) with
  | error fault => exact ⟨fault, rfl⟩
  | ok iban => exact absurd (remainder_of_parse hparse).2 h

theorem parse_of_replaced {iban : Iban}
    (h : parse .empty (String.ofList (before ++ c :: after)) = .ok iban) (hclass : SameClass c d)
    (hne : c.toUpper ≠ d.toUpper) :
    ∃ fault, parse .empty (String.ofList (before ++ d :: after)) = .error fault := by
  obtain ⟨-, hone⟩ := remainder_of_parse h
  rw [compact_typed hclass.isAlphanum] at hone
  refine exists_fault ?_
  rw [compact_typed hclass.symm.isAlphanum, ← hone]
  exact (number_replaced hclass.toUpper hne _ _).symm

theorem parse_of_exchanged {iban : Iban} (hbetween : ∀ e ∈ between, Text.isBlank e = true)
    (h : parse .empty (String.ofList (before ++ c :: (between ++ d :: after))) = .ok iban)
    (hclass : SameClass c d) (hne : c.toUpper ≠ d.toUpper) :
    ∃ fault, parse .empty (String.ofList (before ++ d :: (between ++ c :: after))) =
      .error fault := by
  obtain ⟨hform, hone⟩ := remainder_of_parse h
  rw [compact_typed_pair hbetween hclass.isAlphanum hclass.symm.isAlphanum] at hform hone
  refine exists_fault ?_
  rw [compact_typed_pair hbetween hclass.symm.isAlphanum hclass.isAlphanum, ← hone]
  exact (hform.number_exchanged hclass.toUpper hne).symm

end Typed

/-- The usual typing errors are noticed. Of an account number that is taken without being exempt,
one character is replaced by another digit if it is a digit and by another letter if it is a letter,
anywhere in the country, the check digits or the account; or two neighbours that are both digits or
both letters, and not the same, are exchanged. The number is refused then. The same holds of the
text as it was typed, with blanks anywhere and letters of either case, which count alike: where two
letters differ in nothing but the case, it is still the same number. -/
theorem typing_errors_are_refused :
    (∀ (raw : String) (iban : Iban), parse .empty raw = .ok iban →
      (∀ (before after : List Char) (c d : Char), iban.text.toList = before ++ c :: after →
        OfOneKind c d → c ≠ d →
        ∃ fault, parse .empty (String.ofList (before ++ d :: after)) = .error fault) ∧
      ∀ (before after : List Char) (c d : Char), iban.text.toList = before ++ c :: d :: after →
        OfOneKind c d → c ≠ d →
        ∃ fault, parse .empty (String.ofList (before ++ d :: c :: after)) = .error fault) ∧
    (∀ (before after : List Char) (c d : Char) (iban : Iban),
      parse .empty (String.ofList (before ++ c :: after)) = .ok iban → SameClass c d →
      let typed := String.ofList (before ++ d :: after)
      (c.toUpper ≠ d.toUpper → ∃ fault, parse .empty typed = .error fault) ∧
      (c.toUpper = d.toUpper → parse .empty typed = .ok iban)) ∧
    ∀ (before between after : List Char) (c d : Char) (iban : Iban),
      parse .empty (String.ofList (before ++ c :: (between ++ d :: after))) = .ok iban →
      (∀ e ∈ between, Text.isBlank e = true) → SameClass c d →
      let typed := String.ofList (before ++ d :: (between ++ c :: after))
      (c.toUpper ≠ d.toUpper → ∃ fault, parse .empty typed = .error fault) ∧
      (c.toUpper = d.toUpper → parse .empty typed = .ok iban) := by
  refine ⟨fun raw iban h => ⟨?replaced, ?exchanged⟩, ?typedReplaced, ?typedExchanged⟩
  case replaced =>
    intro before after c d htext hkind hne
    have hparse := parse_of_toList h htext
    exact parse_of_replaced hparse (.of_oneKind hkind) (SameClass.toUpper_ne hkind hne)
  case exchanged =>
    intro before after c d htext hkind hne
    have hnothing : ∀ e ∈ ([] : List Char), Text.isBlank e = true := List.forall_mem_nil _
    have hpair : iban.text.toList = before ++ c :: ([] ++ d :: after) := htext
    have hrefused := parse_of_exchanged hnothing (parse_of_toList h hpair) (.of_oneKind hkind)
      (SameClass.toUpper_ne hkind hne)
    rwa [List.nil_append] at hrefused
  case typedReplaced =>
    intro before after c d iban h hclass typed
    refine ⟨parse_of_replaced h hclass, fun hsame => parse_of_sameForm h ?_⟩
    rw [compact_typed hclass.isAlphanum, compact_typed hclass.symm.isAlphanum, hsame]
  case typedExchanged =>
    intro before between after c d iban h hbetween hclass typed
    refine ⟨parse_of_exchanged hbetween h hclass, fun hsame => parse_of_sameForm h ?_⟩
    rw [compact_typed_pair hbetween hclass.isAlphanum hclass.symm.isAlphanum,
      compact_typed_pair hbetween hclass.symm.isAlphanum hclass.isAlphanum, hsame]

/-- A country becomes another one with numbers of the same length. Two letters of a bank are
exchanged, in lower case too. The second check digit and the first digit of the account are
exchanged over a space. A letter in the other case changes nothing. -/
theorem typing_errors_are_refused_in_two_numbers :
    (∃ iban, parse .empty "GB82WEST12345698765432" = .ok iban) ∧
      (∃ fault, parse .empty "DB82WEST12345698765432" = .error fault) ∧
      (∃ fault, parse .empty "GB82WETS12345698765432" = .error fault) ∧
      (∃ iban, parse .empty "DE89 3704 0044 0532 0130 00" = .ok iban) ∧
      (∃ fault, parse .empty "DE83 9704 0044 0532 0130 00" = .error fault) ∧
      (∃ iban, parse .empty "gb82 west 1234 5698 7654 32" = .ok iban ∧
        parse .empty "Gb82 west 1234 5698 7654 32" = .ok iban) ∧
      ∃ fault, parse .empty "gb82 wets 1234 5698 7654 32" = .error fault := by
  obtain ⟨hnumber, hreplaced, hexchanged⟩ := typing_errors_are_refused
  have hbritish : parse .empty "GB82WEST12345698765432" =
      .ok ⟨"GB82WEST12345698765432", by decide⟩ := rfl
  have hgerman : parse .empty "DE89 3704 0044 0532 0130 00" =
      .ok ⟨"DE89370400440532013000", by decide⟩ := rfl
  have hlower : parse .empty "gb82 west 1234 5698 7654 32" =
      .ok ⟨"GB82WEST12345698765432", by decide⟩ := rfl
  have hspace := List.all_eq_true.mp (show [' '].all Text.isBlank = true by decide)
  refine ⟨⟨_, hbritish⟩, ?_, ?_, ⟨_, hgerman⟩, ?_, ⟨_, hlower, ?_⟩, ?_⟩
  · exact (hnumber _ _ hbritish).1 [] "B82WEST12345698765432".toList 'G' 'D' rfl
      (.inr ⟨rfl, rfl⟩) (by decide)
  · exact (hnumber _ _ hbritish).2 "GB82WE".toList "12345698765432".toList 'S' 'T' rfl
      (.inr ⟨rfl, rfl⟩) (by decide)
  · exact (hexchanged "DE8".toList [' '] "704 0044 0532 0130 00".toList '9' '3' _ hgerman hspace
      (.inl ⟨rfl, rfl⟩)).1 (by decide)
  · exact (hreplaced [] "b82 west 1234 5698 7654 32".toList 'g' 'G' _ hlower
      (.inr ⟨rfl, rfl⟩)).2 (by decide)
  · exact (hexchanged "gb82 we".toList [] " 1234 5698 7654 32".toList 's' 't' _ hlower (by simp)
      (.inr ⟨rfl, rfl⟩)).1 (by decide)

end Iban

end RentalGuard
