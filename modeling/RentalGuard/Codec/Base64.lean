import RentalGuard.Text.Letters

/-! Bytes as text in base 64, with the standard alphabet and padding. Reading is strict: the
padding must be there, the bits that are not used must be zero, and nothing else may stand in the
text. -/

namespace RentalGuard.Base64

/-- The character for a group of six bits. -/
def digitChar (n : Nat) : Char :=
  if n < 26 then Char.ofNat (65 + n)
  else if n < 52 then Char.ofNat (71 + n)
  else if n < 62 then Char.ofNat (n - 4)
  else if n = 62 then '+'
  else '/'

/-- The group of six bits for a character. -/
def digitValue? (c : Char) : Option Nat :=
  if c.isUpper then some (c.toNat - 65)
  else if c.isLower then some (c.toNat - 71)
  else if c.isDigit then some (c.toNat + 4)
  else if c = '+' then some 62
  else if c = '/' then some 63
  else none

def encode : List UInt8 → List Char
  | [] => []
  | [a] =>
    let n := a.toNat * 16
    [digitChar (n / 64), digitChar (n % 64), '=', '=']
  | [a, b] =>
    let n := (a.toNat * 256 + b.toNat) * 4
    [digitChar (n / 4096), digitChar (n / 64 % 64), digitChar (n % 64), '=']
  | a :: b :: c :: rest =>
    let n := (a.toNat * 256 + b.toNat) * 256 + c.toNat
    digitChar (n / 262144) :: digitChar (n / 4096 % 64) :: digitChar (n / 64 % 64) ::
      digitChar (n % 64) :: encode rest

def decode? : List Char → Option (List UInt8)
  | [] => some []
  | [a, b, '=', '='] => do
    let a ← digitValue? a
    let b ← digitValue? b
    let n := a * 64 + b
    if n % 16 = 0 then some [UInt8.ofNat (n / 16)] else none
  | [a, b, c, '='] => do
    let a ← digitValue? a
    let b ← digitValue? b
    let c ← digitValue? c
    let n := (a * 64 + b) * 64 + c
    if n % 4 = 0 then some [UInt8.ofNat (n / 1024), UInt8.ofNat (n / 4 % 256)] else none
  | a :: b :: c :: d :: rest => do
    let a ← digitValue? a
    let b ← digitValue? b
    let c ← digitValue? c
    let d ← digitValue? d
    let n := ((a * 64 + b) * 64 + c) * 64 + d
    let bytes ← decode? rest
    return UInt8.ofNat (n / 65536) :: UInt8.ofNat (n / 256 % 256) :: UInt8.ofNat (n % 256) :: bytes
  | _ => none

theorem toNat_digitChar {n : Nat} (h : n < 64) :
    (digitChar n).toNat =
      if n < 26 then 65 + n else if n < 52 then 71 + n else if n < 62 then n - 4
      else if n = 62 then 43 else 47 := by
  revert n
  decide

theorem digitValue?_digitChar {n : Nat} (h : n < 64) : digitValue? (digitChar n) = some n := by
  revert n
  decide

theorem digitChar_of_digitValue? {c : Char} {n : Nat} (h : digitValue? c = some n) :
    n < 64 ∧ digitChar n = c := by
  have hdigit : c.isDigit = true ↔ 48 ≤ c.toNat ∧ c.toNat ≤ 57 := Char.isDigit_iff_toNat
  have hplus : c = '+' ↔ c.toNat = 43 := Char.toNat_inj.symm
  have hslash : c = '/' ↔ c.toNat = 47 := Char.toNat_inj.symm
  simp only [digitValue?, Text.isUpper_iff_toNat, Text.isLower_iff_toNat, hdigit, hplus,
    hslash] at h
  have hn : n < 64 := by grind
  refine ⟨hn, ?_⟩
  rw [← Char.toNat_inj, toNat_digitChar hn]
  grind

/-- The padding is no digit. -/
theorem digitChar_ne_pad {n : Nat} (h : n < 64) : digitChar n ≠ '=' := by
  intro hpad
  have hdigit := digitValue?_digitChar h
  rw [hpad] at hdigit
  cases hdigit

theorem decode?_four {a b c d : Char} (hd : d ≠ '=') (rest : List Char) :
    decode? (a :: b :: c :: d :: rest) = (do
      let a ← digitValue? a
      let b ← digitValue? b
      let c ← digitValue? c
      let d ← digitValue? d
      let n := ((a * 64 + b) * 64 + c) * 64 + d
      let bytes ← decode? rest
      return UInt8.ofNat (n / 65536) :: UInt8.ofNat (n / 256 % 256) :: UInt8.ofNat (n % 256) ::
        bytes) := by
  rw [decode?]
  · exact fun _ h _ => hd h
  · exact fun h _ => hd h

theorem decode?_encode (bytes : List UInt8) : decode? (encode bytes) = some bytes := by
  fun_induction encode bytes with
  | case1 => rfl
  | case2 a n =>
    have ha := a.toNat_lt
    have hn : n / 64 * 64 + n % 64 = n := Nat.div_add_mod' n 64
    rw [decode?, digitValue?_digitChar (by omega), digitValue?_digitChar (by omega)]
    simp only [Option.bind_eq_bind, Option.bind_some, hn]
    rw [if_pos (by omega), Nat.mul_div_cancel _ (by decide), UInt8.ofNat_toNat]
  | case3 a b n =>
    have ha := a.toNat_lt
    have hb := b.toNat_lt
    have hn : (n / 4096 * 64 + n / 64 % 64) * 64 + n % 64 = n := by omega
    rw [decode?, digitValue?_digitChar (by omega), digitValue?_digitChar (by omega),
      digitValue?_digitChar (by omega)]
    simp only [Option.bind_eq_bind, Option.bind_some, hn]
    have hna : n / 1024 = a.toNat := by omega
    have hnb : n / 4 % 256 = b.toNat := by omega
    rw [if_pos (by omega), hna, hnb, UInt8.ofNat_toNat, UInt8.ofNat_toNat]
    exact digitChar_ne_pad (by omega)
  | case4 a b c rest n ih =>
    have ha := a.toNat_lt
    have hb := b.toNat_lt
    have hc := c.toNat_lt
    have hn : ((n / 262144 * 64 + n / 4096 % 64) * 64 + n / 64 % 64) * 64 + n % 64 = n := by omega
    have hna : n / 65536 = a.toNat := by omega
    have hnb : n / 256 % 256 = b.toNat := by omega
    have hnc : n % 256 = c.toNat := by omega
    rw [decode?_four (digitChar_ne_pad (by omega)), digitValue?_digitChar (by omega),
      digitValue?_digitChar (by omega), digitValue?_digitChar (by omega),
      digitValue?_digitChar (by omega), ih]
    simp only [Option.bind_eq_bind, Option.bind_some, pure, hn, hna, hnb, hnc, UInt8.ofNat_toNat]

theorem toNat_ofNat_of_lt {n : Nat} (h : n < 256) : (UInt8.ofNat n).toNat = n := by
  rw [UInt8.toNat_ofNat', Nat.mod_eq_of_lt h]

/-- Reading is strict. The only text that is read as some bytes is the one that is written for
them. -/
theorem encode_of_decode? {cs : List Char} {bytes : List UInt8} (h : decode? cs = some bytes) :
    cs = encode bytes := by
  fun_induction decode? cs generalizing bytes with
  | case1 => cases h; rfl
  | case2 a b =>
    simp only [Option.bind_eq_bind, Option.bind_eq_some_iff, Option.ite_none_right_eq_some] at h
    obtain ⟨p, hp, q, hq, hunused, h⟩ := h
    obtain ⟨hp, rfl⟩ := digitChar_of_digitValue? hp
    obtain ⟨hq, rfl⟩ := digitChar_of_digitValue? hq
    cases h
    have hn : (p * 64 + q) / 16 * 16 = p * 64 + q := by omega
    simp only [encode, toNat_ofNat_of_lt (show (p * 64 + q) / 16 < 256 by omega), hn]
    rw [show (p * 64 + q) / 64 = p by omega, show (p * 64 + q) % 64 = q by omega]
  | case3 a b c =>
    simp only [Option.bind_eq_bind, Option.bind_eq_some_iff, Option.ite_none_right_eq_some] at h
    obtain ⟨p, hp, q, hq, r, hr, hunused, h⟩ := h
    obtain ⟨hp, rfl⟩ := digitChar_of_digitValue? hp
    obtain ⟨hq, rfl⟩ := digitChar_of_digitValue? hq
    obtain ⟨hr, rfl⟩ := digitChar_of_digitValue? hr
    cases h
    generalize hn : (p * 64 + q) * 64 + r = n at *
    have hvalue : (n / 1024 * 256 + n / 4 % 256) * 4 = n := by omega
    simp only [encode, toNat_ofNat_of_lt (show n / 1024 < 256 by omega),
      toNat_ofNat_of_lt (show n / 4 % 256 < 256 by omega), hvalue]
    rw [show n / 4096 = p by omega, show n / 64 % 64 = q by omega, show n % 64 = r by omega]
  | case4 a b c d rest _ _ ih =>
    simp only [Option.bind_eq_bind, Option.bind_eq_some_iff] at h
    obtain ⟨p, hp, q, hq, r, hr, s, hs, more, hmore, h⟩ := h
    obtain ⟨hp, rfl⟩ := digitChar_of_digitValue? hp
    obtain ⟨hq, rfl⟩ := digitChar_of_digitValue? hq
    obtain ⟨hr, rfl⟩ := digitChar_of_digitValue? hr
    obtain ⟨hs, rfl⟩ := digitChar_of_digitValue? hs
    cases h
    generalize hn : ((p * 64 + q) * 64 + r) * 64 + s = n at *
    have hvalue : (n / 65536 * 256 + n / 256 % 256) * 256 + n % 256 = n := by omega
    simp only [encode, toNat_ofNat_of_lt (show n / 65536 < 256 by omega),
      toNat_ofNat_of_lt (show n / 256 % 256 < 256 by omega),
      toNat_ofNat_of_lt (show n % 256 < 256 by omega), hvalue]
    rw [show n / 262144 = p by omega, show n / 4096 % 64 = q by omega,
      show n / 64 % 64 = r by omega, show n % 64 = s by omega, ih hmore]
  | case5 => cases h

theorem decode?_eq_some_iff {cs : List Char} {bytes : List UInt8} :
    decode? cs = some bytes ↔ cs = encode bytes :=
  ⟨encode_of_decode?, fun h => h ▸ decode?_encode bytes⟩

/-- No blank and no character outside ASCII is written. -/
theorem visible_of_mem_encode {bytes : List UInt8} {c : Char} (h : c ∈ encode bytes) :
    0x21 ≤ c.toNat ∧ c.toNat ≤ 0x7E := by
  have hdigit : ∀ {n}, n < 64 → 0x21 ≤ (digitChar n).toNat ∧ (digitChar n).toNat ≤ 0x7E := by
    decide
  fun_induction encode bytes with
  | case1 => cases h
  | case2 a n =>
    have ha := a.toNat_lt
    simp only [List.mem_cons, List.not_mem_nil, or_false] at h
    rcases h with rfl | rfl | rfl | rfl
    · exact hdigit (by omega)
    · exact hdigit (by omega)
    · decide
    · decide
  | case3 a b n =>
    have ha := a.toNat_lt
    have hb := b.toNat_lt
    simp only [List.mem_cons, List.not_mem_nil, or_false] at h
    rcases h with rfl | rfl | rfl | rfl
    · exact hdigit (by omega)
    · exact hdigit (by omega)
    · exact hdigit (by omega)
    · decide
  | case4 a b c rest n ih =>
    have ha := a.toNat_lt
    have hb := b.toNat_lt
    have hc := c.toNat_lt
    simp only [List.mem_cons] at h
    rcases h with rfl | rfl | rfl | rfl | h
    · exact hdigit (by omega)
    · exact hdigit (by omega)
    · exact hdigit (by omega)
    · exact hdigit (by omega)
    · exact ih h

end RentalGuard.Base64
