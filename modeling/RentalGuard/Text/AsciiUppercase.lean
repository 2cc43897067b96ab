import RentalGuard.Text.Letters
import RentalGuard.Text.Uppercase

/-! What upper case brings into ASCII. A few characters beyond ASCII turn into letters from A to Z;
all others keep a character beyond ASCII. No upper case holds a letter from a to z. -/

namespace RentalGuard.Text

/-- The characters beyond ASCII whose upper case is in ASCII, with the letters that they become. -/
def disguisedLetters : List (Char × List Char) := [
  ('ß', ['S', 'S']), ('ı', ['I']), ('ſ', ['S']), ('ﬀ', ['F', 'F']), ('ﬁ', ['F', 'I']),
  ('ﬂ', ['F', 'L']), ('ﬃ', ['F', 'F', 'I']), ('ﬄ', ['F', 'F', 'L']), ('ﬅ', ['S', 'T']),
  ('ﬆ', ['S', 'T'])]

/-- Whether the character is beyond ASCII and turns into letters of ASCII. -/
def isDisguised (c : Char) : Bool := (disguisedLetters.lookup c).isSome

/-- The upper case of letters of ASCII and of the listed characters. All others stay as they are. -/
def asciiUpper (c : Char) : List Char := (disguisedLetters.lookup c).getD [c.toUpper]

/-! ## The tables -/

/-- Whether the numbers from `first` to `last` are those of characters beyond ASCII. -/
def areBeyondAscii (first last : Int) : Bool :=
  0x80 ≤ first && (last < 0xD800 || 0xDFFF < first && last < 0x110000)

theorem toNat_ofNat_of_areBeyondAscii {first last : Int} {n : Nat}
    (h : areBeyondAscii first last = true) (hfirst : first ≤ n) (hlast : n ≤ last) :
    0x80 ≤ (Char.ofNat n).toNat := by
  simp only [areBeyondAscii, Bool.and_eq_true, Bool.or_eq_true, decide_eq_true_iff] at h
  have hvalid : n.isValidChar := by
    rcases h.2 with hlow | hhigh
    · exact .inl (by omega)
    · exact .inr ⟨by omega, by omega⟩
  unfold Char.ofNat
  rw [dif_pos hvalid]
  show 0x80 ≤ n
  omega

/-- Whether an upper case of several characters has letters from A to Z only, and is listed, or a
character beyond ASCII. -/
def expandsAsListed (e : Nat × List Nat) : Bool :=
  e.2.all (fun n => areBeyondAscii n n || (Char.ofNat n).isUpper) &&
    (e.2.any (fun n => areBeyondAscii n n) ||
      disguisedLetters.contains (Char.ofNat e.1, e.2.map Char.ofNat))

theorem expandsAsListed_of_mem {e : Nat × List Nat} (h : e ∈ caseExpansions) :
    expandsAsListed e = true :=
  List.all_eq_true.mp (show caseExpansions.all expandsAsListed = true by decide) e h

/-- Whether a span leads beyond ASCII, or holds one character, which is listed. -/
def CaseSpan.leadsAsListed (s : CaseSpan) : Bool :=
  areBeyondAscii (s.first + s.shift) (s.last + s.shift) ||
    (s.first == s.last &&
      disguisedLetters.contains (Char.ofNat s.first, [Char.ofNat (s.first + s.shift).toNat]))

theorem leadsAsListed_of_mem {s : CaseSpan} (h : s ∈ caseSpans) : s.leadsAsListed = true :=
  List.all_eq_true.mp (show caseSpans.all CaseSpan.leadsAsListed = true by decide) s h

theorem isUpper_of_disguised {c d : Char} {letters : List Char}
    (h : (c, letters) ∈ disguisedLetters) (hd : d ∈ letters) : d.isUpper = true := by
  have hall : disguisedLetters.all (fun e => e.2.all Char.isUpper) = true := by decide
  exact List.all_eq_true.mp (List.all_eq_true.mp hall _ h) d hd

/-- No character is listed twice. -/
theorem lookup_of_mem_disguisedLetters {c : Char} {letters : List Char}
    (h : (c, letters) ∈ disguisedLetters) : disguisedLetters.lookup c = some letters := by
  have hall : disguisedLetters.all (fun e => disguisedLetters.lookup e.1 == some e.2) = true := by
    decide
  exact beq_iff_eq.mp (List.all_eq_true.mp hall _ h)

/-- The listed characters are beyond ASCII, and none of them is a blank. -/
theorem kind_of_isDisguised {c : Char} (h : isDisguised c = true) :
    c.isAlphanum = false ∧ isBlank c = false := by
  obtain ⟨letters, hletters⟩ := Option.isSome_iff_exists.mp h
  obtain ⟨before, after, htable, -⟩ := List.lookup_eq_some_iff.mp hletters
  have hall : disguisedLetters.all (fun e => !e.1.isAlphanum && !isBlank e.1) = true := by decide
  have hmem : (c, letters) ∈ disguisedLetters := htable ▸ List.mem_append_cons_self
  simpa using List.all_eq_true.mp hall _ hmem

theorem isDisguised_of_isAlphanum {c : Char} (h : c.isAlphanum = true) : isDisguised c = false := by
  rw [← Bool.not_eq_true]
  intro hdisguised
  rw [(kind_of_isDisguised hdisguised).1] at h
  cases h

theorem asciiUpper_eq_toUpper {c : Char} (h : isDisguised c = false) :
    asciiUpper c = [c.toUpper] := by
  have hunlisted : disguisedLetters.lookup c = none :=
    Option.isNone_iff_eq_none.mp (Option.isSome_eq_false_iff.mp h)
  rw [asciiUpper, hunlisted]
  rfl

/-! ## The upper case of a character -/

/-- What upper case may make of a character: letters from A to Z and characters beyond ASCII, one of
the latter at least if the character is not listed. -/
def IsOutcome (c : Char) (cs : List Char) : Prop :=
  (∀ d ∈ cs, 0x80 ≤ d.toNat ∨ d.isUpper = true) ∧
    ((c, cs) ∈ disguisedLetters ∨ ∃ d ∈ cs, 0x80 ≤ d.toNat)

namespace IsOutcome

variable {c d : Char}

theorem disguised {letters : List Char} (h : (c, letters) ∈ disguisedLetters) :
    IsOutcome c letters :=
  ⟨fun _ hd => .inr (isUpper_of_disguised h hd), .inl h⟩

theorem beyond (h : 0x80 ≤ d.toNat) : IsOutcome c [d] :=
  ⟨fun _ he => .inl (List.mem_singleton.mp he ▸ h), .inr ⟨d, List.mem_singleton_self d, h⟩⟩

theorem expanded {ns : List Nat} (h : (c.toNat, ns) ∈ caseExpansions) :
    IsOutcome c (ns.map Char.ofNat) := by
  have hlisted := expandsAsListed_of_mem h
  simp only [expandsAsListed, Bool.and_eq_true, Bool.or_eq_true, List.all_eq_true,
    List.any_eq_true, List.contains_iff_mem, Char.ofNat_toNat] at hlisted
  have hbeyond : ∀ n : Nat, areBeyondAscii n n = true → 0x80 ≤ (Char.ofNat n).toNat :=
    fun n hn => toNat_ofNat_of_areBeyondAscii hn (Int.le_refl n) (Int.le_refl n)
  refine ⟨fun d hd => ?_, ?_⟩
  · obtain ⟨n, hn, rfl⟩ := List.mem_map.mp hd
    exact (hlisted.1 n hn).imp_left (hbeyond n)
  · rcases hlisted.2 with ⟨n, hn, hout⟩ | hdisguised
    · exact .inr ⟨_, List.mem_map_of_mem hn, hbeyond n hout⟩
    · exact .inl hdisguised

theorem shifted {s : CaseSpan} (h : s ∈ caseSpans) (hcovers : s.covers c.toNat = true) :
    IsOutcome c [Char.ofNat (c.toNat + s.shift).toNat] := by
  simp only [CaseSpan.covers, Bool.and_eq_true, decide_eq_true_iff] at hcovers
  rcases Bool.or_eq_true_iff.mp (leadsAsListed_of_mem h) with hout | hone
  · have hleast : 0x80 ≤ s.first + s.shift := of_decide_eq_true (Bool.and_eq_true_iff.mp hout).1
    exact beyond (toNat_ofNat_of_areBeyondAscii hout (by omega) (by omega))
  · -- a span of one character, which is the one that is listed
    obtain ⟨hsame, hdisguised⟩ := Bool.and_eq_true_iff.mp hone
    have hends : s.first = s.last := beq_iff_eq.mp hsame
    have hfirst : s.first = c.toNat := by omega
    rw [List.contains_iff_mem, hfirst, Char.ofNat_toNat] at hdisguised
    exact disguised hdisguised

end IsOutcome

variable {c d : Char}

theorem upper_of_ascii (h : c.toNat < 0x80) : upper c = [c.toUpper] := if_pos h

theorem isOutcome_upper (h : 0x80 ≤ c.toNat) : IsOutcome c (upper c) := by
  unfold upper
  rw [if_neg (Nat.not_lt.mpr h)]
  split
  · rename_i ns hlookup
    obtain ⟨before, after, htable, -⟩ := List.lookup_eq_some_iff.mp hlookup
    exact .expanded (htable ▸ List.mem_append_cons_self)
  · split
    · rename_i s hfind
      exact .shifted (List.mem_of_find?_eq_some hfind)
        (List.find?_some (p := fun s : CaseSpan => s.covers c.toNat) hfind)
    · exact .beyond h

/-- Upper case leaves no letter from a to z. -/
theorem isLower_of_mem_upper (h : d ∈ upper c) : d.isLower = false := by
  rw [← Bool.not_eq_true, isLower_iff_toNat]
  rcases Nat.lt_or_ge c.toNat 0x80 with hascii | hbeyond
  · rw [upper_of_ascii hascii, List.mem_singleton] at h
    rw [h, toNat_toUpper]
    split <;> omega
  · rcases (isOutcome_upper hbeyond).1 d h with hd | hd
    · omega
    · have := isUpper_iff_toNat.mp hd
      omega

theorem isBlank_of_isUpper_or_isDigit (h : (c.isUpper || c.isDigit) = true) :
    isBlank c = false := by
  rw [Bool.or_eq_true, isUpper_iff_toNat, isDigit_iff_toNat] at h
  exact isBlank_of_visible (by omega) (by omega)

/-- Upper-case letters and digits are their own upper case. -/
theorem upper_eq_self (h : (c.isUpper || c.isDigit) = true) : upper c = [c] := by
  rw [Bool.or_eq_true, isUpper_iff_toNat, isDigit_iff_toNat] at h
  have hsame : c.toUpper = c := by
    rw [← Char.toNat_inj, toNat_toUpper, if_neg (by omega)]
  rw [upper_of_ascii (by omega), hsame]

/-- Where each character stands for just one, a text is rewritten one by one. -/
theorem flatMap_eq_map {f : Char → Char} {g : Char → List Char} {cs : List Char}
    (h : ∀ c ∈ cs, g c = [f c]) : cs.flatMap g = cs.map f := by
  rw [List.map_eq_flatMap, List.flatMap_def, List.map_congr_left h, ← List.flatMap_def]

/-- If the upper case of a character consists of upper-case letters and digits, then the character
is itself a letter or digit of ASCII, or is listed. -/
theorem upper_eq_asciiUpper (h : ∀ d ∈ upper c, (d.isUpper || d.isDigit) = true) :
    (c.isAlphanum = true ∨ isDisguised c = true) ∧ upper c = asciiUpper c := by
  have hascii : ∀ d ∈ upper c, d.toNat < 0x80 := by
    intro d hd
    have := h d hd
    rw [Bool.or_eq_true, isUpper_iff_toNat, isDigit_iff_toNat] at this
    omega
  rcases Nat.lt_or_ge c.toNat 0x80 with hc | hbeyond
  · have hupper := upper_of_ascii hc
    have hkind := h c.toUpper (hupper ▸ List.mem_singleton_self _)
    rw [Bool.or_eq_true, isUpper_iff_toNat, isDigit_iff_toNat, toNat_toUpper] at hkind
    have halphanum : c.isAlphanum = true := by
      rw [isAlphanum_iff, isUpper_iff_toNat, isLower_iff_toNat, isDigit_iff_toNat]
      split at hkind <;> omega
    exact ⟨.inl halphanum,
      hupper.trans (asciiUpper_eq_toUpper (isDisguised_of_isAlphanum halphanum)).symm⟩
  · rcases (isOutcome_upper hbeyond).2 with hlisted | ⟨d, hd, hout⟩
    · have hlookup := lookup_of_mem_disguisedLetters hlisted
      rw [isDisguised, asciiUpper, hlookup]
      exact ⟨.inr rfl, rfl⟩
    · exact absurd (hascii d hd) (Nat.not_lt.mpr hout)

/-! ## The compact form of a text, part by part -/

theorem compactUpper_append (front back : List Char) :
    compactUpper (front ++ back) = compactUpper front ++ compactUpper back := by
  rw [compactUpper, withoutBlanks, List.filter_append, List.flatMap_append]
  rfl

theorem compactUpper_cons (h : c.isAlphanum = true) (rest : List Char) :
    compactUpper (c :: rest) = c.toUpper :: compactUpper rest := by
  rw [isAlphanum_iff, isUpper_iff_toNat, isLower_iff_toNat, isDigit_iff_toNat] at h
  have hvisible : isBlank c = false := isBlank_of_visible (by omega) (by omega)
  rw [compactUpper, withoutBlanks, List.filter_cons_of_pos (by rw [hvisible, Bool.not_false]),
    List.flatMap_cons, upper_of_ascii (by omega)]
  rfl

theorem compactUpper_blanks {cs : List Char} (h : ∀ c ∈ cs, isBlank c = true) :
    compactUpper cs = [] := by
  have hnone : withoutBlanks cs = [] := List.filter_eq_nil_iff.mpr fun c hc => by
    rw [h c hc, Bool.not_true]
    exact Bool.false_ne_true
  rw [compactUpper, hnone, List.flatMap_nil]

end RentalGuard.Text
