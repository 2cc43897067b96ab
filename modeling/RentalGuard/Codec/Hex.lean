import RentalGuard.Text.Hex

/-! Bytes as hexadecimal text, two digits for each byte. -/

namespace RentalGuard.Hex

open Text

def encode (bytes : List UInt8) : List Char :=
  bytes.flatMap fun b => [hexChar (nibble (b.toNat / 16)), hexChar (nibble b.toNat)]

def decode? : List Char → Option (List UInt8)
  | [] => some []
  | [_] => none
  | a :: b :: rest => do
    let high ← hexValue? a
    let low ← hexValue? b
    let bytes ← decode? rest
    return UInt8.ofNat (high.val * 16 + low.val) :: bytes

theorem encode_cons (b : UInt8) (rest : List UInt8) :
    encode (b :: rest) =
      hexChar (nibble (b.toNat / 16)) :: hexChar (nibble b.toNat) :: encode rest := rfl

/-- The byte that two digits stand for is written with these digits. -/
theorem encode_cons_ofDigits (high low : Fin 16) (rest : List UInt8) :
    encode (UInt8.ofNat (high.val * 16 + low.val) :: rest) =
      hexChar high :: hexChar low :: encode rest := by
  have hvalue : (UInt8.ofNat (high.val * 16 + low.val)).toNat = high.val * 16 + low.val := by
    rw [UInt8.toNat_ofNat']
    omega
  have hhigh : nibble ((high.val * 16 + low.val) / 16) = high := by
    apply Fin.ext
    simp only [nibble]
    omega
  have hlow : nibble (high.val * 16 + low.val) = low := by
    apply Fin.ext
    simp only [nibble]
    omega
  rw [encode_cons, hvalue, hhigh, hlow]

theorem ofDigits_nibbles (b : UInt8) :
    UInt8.ofNat ((nibble (b.toNat / 16)).val * 16 + (nibble b.toNat).val) = b := by
  have hb := b.toNat_lt
  have h : (nibble (b.toNat / 16)).val * 16 + (nibble b.toNat).val = b.toNat := by
    simp only [nibble]
    omega
  rw [h, UInt8.ofNat_toNat]

/-- What is read is what would be written, but for the case of letters. -/
theorem decode?_eq_some_iff {cs : List Char} {bytes : List UInt8} :
    decode? cs = some bytes ↔ cs.map Char.toLower = encode bytes := by
  constructor
  · intro h
    fun_induction decode? cs generalizing bytes with
    | case1 => cases h; rfl
    | case2 => cases h
    | case3 a b rest ih =>
      obtain ⟨high, hhigh, h⟩ := Option.bind_eq_some_iff.mp h
      obtain ⟨low, hlow, h⟩ := Option.bind_eq_some_iff.mp h
      obtain ⟨more, hmore, h⟩ := Option.bind_eq_some_iff.mp h
      cases h
      rw [encode_cons_ofDigits, List.map_cons, List.map_cons, hexValue?_eq_some_iff.mp hhigh,
        hexValue?_eq_some_iff.mp hlow, ih hmore]
  · intro h
    induction bytes generalizing cs with
    | nil =>
      rw [List.map_eq_nil_iff.mp h]
      rfl
    | cons b rest ih =>
      rw [encode_cons] at h
      obtain ⟨c, _, rfl, hc, h⟩ := List.map_eq_cons_iff.mp h
      obtain ⟨d, more, rfl, hd, h⟩ := List.map_eq_cons_iff.mp h
      simp only [decode?, hexValue?_eq_some_iff.mpr hc, hexValue?_eq_some_iff.mpr hd, ih h,
        Option.bind_eq_bind, Option.bind_some, pure, ofDigits_nibbles]

theorem map_toLower_encode (bytes : List UInt8) : (encode bytes).map Char.toLower = encode bytes := by
  have hlower : ∀ d, (hexChar d).toLower = hexChar d := fun d =>
    hexValue?_eq_some_iff.mp (hexValue?_hexChar d)
  induction bytes with
  | nil => rfl
  | cons b rest ih => rw [encode_cons, List.map_cons, List.map_cons, hlower, hlower, ih]

/-- Every text of digits in pairs is read, whatever the case of its letters. -/
theorem isSome_decode? (cs : List Char) :
    (decode? cs).isSome = (cs.length % 2 == 0 && cs.all Char.isHexDigit) := by
  fun_induction decode? cs with
  | case1 => rfl
  | case2 => rfl
  | case3 a b rest ih =>
    have hlength : (a :: b :: rest).length % 2 = rest.length % 2 := by
      rw [List.length_cons, List.length_cons]
      omega
    rw [hlength, List.all_cons, List.all_cons, ← isSome_hexValue?, ← isSome_hexValue?]
    cases hexValue? a with
    | none => simp
    | some high =>
      cases hexValue? b with
      | none => simp
      | some low =>
        rw [Option.isSome_some, Option.isSome_some, Bool.true_and, Bool.true_and, ← ih]
        cases decode? rest <;> rfl

/-- A text that is written like bytes, but for the case of its letters, has digits in pairs. -/
theorem digits_of_map_toLower {cs : List Char} {bytes : List UInt8}
    (h : cs.map Char.toLower = encode bytes) :
    cs.length % 2 = 0 ∧ ∀ c ∈ cs, c.isHexDigit = true := by
  have hread := isSome_decode? cs
  rw [decode?_eq_some_iff.mpr h, Option.isSome_some, eq_comm, Bool.and_eq_true, beq_iff_eq,
    List.all_eq_true] at hread
  exact hread

end RentalGuard.Hex
