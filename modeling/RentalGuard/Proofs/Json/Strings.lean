import RentalGuard.Json.Token
import RentalGuard.Json.Writer

/-! # Strings are read as they are written

A character that is written with a backslash is read as that character, whatever comes after it. The
quote that ends a string is the first one without a backslash.
-/

namespace RentalGuard.Json

open Text

/-! ## Written characters -/

/-- The ways to write a character in a string. -/
inductive IsEscape (c : Char) : List Char → Prop
  | short {letter : Char} (h : shortEscape? letter = some c) : IsEscape c ['\\', letter]
  | code (h : c.toNat < 0x20) :
    IsEscape c ('\\' :: 'u' :: [0, 0, c.toNat / 16, c.toNat].map fun n => hexChar (nibble n))
  | plain (hquote : c ≠ '"') (hslash : c ≠ '\\') (h : 0x20 ≤ c.toNat) : IsEscape c [c]

theorem isEscape_escaped (c : Char) : IsEscape c (escaped c) := by
  have hcode : ∀ n : Nat, c.toNat = n → Char.ofNat n = c := fun n h => h ▸ Char.ofNat_toNat c
  unfold escaped
  simp only [beq_iff_eq]
  repeat' split
  · exact .short (by simp [*, shortEscape?])
  · exact .short (by simp [*, shortEscape?])
  · exact .short (congrArg some (hcode 8 ‹_›))
  · exact .short (congrArg some (hcode 9 ‹_›))
  · exact .short (congrArg some (hcode 10 ‹_›))
  · exact .short (congrArg some (hcode 12 ‹_›))
  · exact .short (congrArg some (hcode 13 ‹_›))
  · exact .code ‹_›
  · exact .plain ‹_› ‹_› (by omega)

theorem hexChar_ne {c : Char} (h : hexValue? c = none) (d : Fin 16) : hexChar d ≠ c := by
  intro hc
  rw [← hc, hexValue?_hexChar] at h
  cases h

/-! ## The end of a string -/

theorem splitQuote_cons {c : Char} (hquote : c ≠ '"') (hslash : c ≠ '\\') (rest : List Char) :
    splitQuote (c :: rest) = (splitQuote rest).map fun p => (c :: p.1, p.2) := by
  rw [splitQuote]
  · exact hquote
  · intro _ _ hc
    exact absurd hc hslash

theorem splitQuote_hexChar (d : Fin 16) (rest : List Char) :
    splitQuote (hexChar d :: rest) = (splitQuote rest).map fun p => (hexChar d :: p.1, p.2) :=
  splitQuote_cons (hexChar_ne rfl d) (hexChar_ne rfl d) rest

/-- A written character does not end the string. -/
theorem splitQuote_escape {c : Char} {cs : List Char} (h : IsEscape c cs) (rest : List Char) :
    splitQuote (cs ++ rest) = (splitQuote rest).map fun p => (cs ++ p.1, p.2) := by
  cases h with
  | short h => rfl
  | code h =>
    have hslash : ∀ more : List Char, splitQuote ('\\' :: 'u' :: more) =
        (splitQuote more).map fun p => ('\\' :: 'u' :: p.1, p.2) := fun _ => rfl
    simp only [List.map_cons, List.map_nil, List.cons_append, List.nil_append, hslash,
      splitQuote_hexChar, Option.map_map]
    rfl
  | plain hquote hslash h => exact splitQuote_cons hquote hslash rest

theorem splitQuote_flatMap_escaped (cs rest : List Char) :
    splitQuote (cs.flatMap escaped ++ '"' :: rest) = some (cs.flatMap escaped, rest) := by
  induction cs with
  | nil => rfl
  | cons c more ih =>
    rw [List.flatMap_cons, List.append_assoc, splitQuote_escape (isEscape_escaped c), ih]
    rfl

/-! ## The inside of a string -/

theorem unit?_hexChar (a b c d : Fin 16) : unit? (hexChar a) (hexChar b) (hexChar c) (hexChar d) =
    some (((a.val * 16 + b.val) * 16 + c.val) * 16 + d.val) := by
  simp only [unit?, hexValue?_hexChar]
  rfl

/-- What is read after a backslash and the letter u is a code. -/
theorem exists_unit?_of_unescape {a b c d : Char} {rest cs : List Char}
    (h : unescape ('\\' :: 'u' :: a :: b :: c :: d :: rest) = some (some cs)) :
    ∃ n, unit? a b c d = some n := by
  refine Option.ne_none_iff_exists'.mp fun hnone => ?_
  rw [unescape.eq_def] at h
  split at h
  · rename_i heq
    cases heq
  · rename_i heq
    cases heq
    rw [hnone] at h
    cases h
  · rename_i heq
    cases heq
    rw [hnone] at h
    cases h
  · rename_i hletter heq
    cases heq
    exact hletter _ _ _ _ _ rfl rfl
  · rename_i heq
    cases heq
    simp at h

/-- A code that is not half of a pair is read by itself, also before another code. -/
theorem unescape_code {a b c d : Char} {n : Nat} (h : unit? a b c d = some n)
    (hhigh : isHighHalf n = false) (hlow : isLowHalf n = false) {more cs : List Char}
    (hmore : unescape more = some (some cs)) :
    unescape ('\\' :: 'u' :: a :: b :: c :: d :: more) = some (some (Char.ofNat n :: cs)) := by
  by_cases hnext : ∃ e f g k rest, more = '\\' :: 'u' :: e :: f :: g :: k :: rest
  · obtain ⟨e, f, g, k, rest, rfl⟩ := hnext
    obtain ⟨m, hm⟩ := exists_unit?_of_unescape hmore
    rw [unescape, h, hm]
    simp [hhigh, hlow, hmore]
  · rw [unescape, h]
    · simp [hhigh, hlow, hmore]
    · intro e f g k rest he
      exact hnext ⟨e, f, g, k, rest, he⟩

theorem unescape_escape {c : Char} {written : List Char} (h : IsEscape c written)
    {more cs : List Char} (hmore : unescape more = some (some cs)) :
    unescape (written ++ more) = some (some (c :: cs)) := by
  cases h with
  | short h =>
    rename_i letter
    have hu : letter ≠ 'u' := by
      rintro rfl
      cases h
    show unescape ('\\' :: letter :: more) = _
    rw [unescape, h, hmore]
    · rfl
    · intro _ _ _ _ _ _ _ _ _ hc
      exact absurd hc hu
    · intro _ _ _ _ _ hc
      exact absurd hc hu
  | code h =>
    have hvalue : (((nibble 0).val * 16 + (nibble 0).val) * 16 + (nibble (c.toNat / 16)).val) * 16 +
        (nibble c.toNat).val = c.toNat := by
      simp only [nibble]
      omega
    have hunit := unit?_hexChar (nibble 0) (nibble 0) (nibble (c.toNat / 16)) (nibble c.toNat)
    rw [hvalue] at hunit
    have hread := unescape_code hunit (by simp [isHighHalf]; omega) (by simp [isLowHalf]; omega)
      hmore
    rw [Char.ofNat_toNat] at hread
    exact hread
  | plain hquote hslash h =>
    show unescape (c :: more) = _
    rw [unescape, hmore]
    · simp [hslash, Nat.not_lt_of_le h]
    all_goals
      intros
      simp_all

theorem unescape_flatMap_escaped (cs : List Char) :
    unescape (cs.flatMap escaped) = some (some cs) := by
  induction cs with
  | nil => rfl
  | cons c more ih => exact unescape_escape (isEscape_escaped c) ih

end RentalGuard.Json
