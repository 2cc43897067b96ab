import RentalGuard.Text.Parts
import RentalGuard.Webhook.Header

/-! # The texts that are read as a header

A header can be spelled in more than one way: blanks around it, zeros and a plus sign before its time
and capital digits in its signature make no difference. Base 64 itself leaves no choice. The reader
takes exactly these spellings, and no text spells two headers.
-/

namespace RentalGuard.SignatureHeader

/-! ## Characters and bytes -/

theorem asciiBytes_byteChars (bytes : List UInt8) : asciiBytes (byteChars bytes) = bytes := by
  unfold asciiBytes byteChars
  rw [List.map_map]
  refine (List.map_congr_left fun b _ => ?_).trans (List.map_id bytes)
  have hb := b.toNat_lt
  have hchar : (Char.ofNat b.toNat).toNat = b.toNat := by
    unfold Char.ofNat
    rw [dif_pos (.inl (by omega))]
    rfl
  show UInt8.ofNat (Char.ofNat b.toNat).toNat = b
  rw [hchar, UInt8.ofNat_toNat]

theorem byteChars_asciiBytes {cs : List Char} (h : ∀ c ∈ cs, c.toNat < 128) :
    byteChars (asciiBytes cs) = cs := by
  unfold asciiBytes byteChars
  rw [List.map_map]
  refine (List.map_congr_left fun c hc => ?_).trans (List.map_id cs)
  have hlt := h c hc
  show Char.ofNat (UInt8.ofNat c.toNat).toNat = c
  rw [UInt8.toNat_ofNat', Nat.mod_eq_of_lt (by omega), Char.ofNat_toNat]

/-- A text that has ASCII characters only has these bytes. -/
theorem asciiBytes_toList {s : String} (h : ∀ c ∈ s.toList, c.toNat < 128) :
    asciiBytes s.toList = s.toUTF8.data.toList := by
  have hbytes : s.toUTF8 = (s.toList.flatMap String.utf8EncodeChar).toByteArray :=
    String.utf8Encode_toList.symm
  have hchar : ∀ c ∈ s.toList, String.utf8EncodeChar c = [UInt8.ofNat c.toNat] := fun c hc =>
    if_pos (Nat.le_of_lt_succ (h c hc))
  rw [hbytes, List.data_toByteArray, asciiBytes, List.map_eq_flatMap, List.flatMap_def,
    List.flatMap_def, List.map_congr_left hchar]

/-! ## The text before base 64 -/

/-- The ways to write what a header says, before base 64. -/
def SpellsPlain (cs : List Char) (header : SignatureHeader) : Prop :=
  ∃ timestamp signature, cs = timestamp ++ ':' :: signature ∧
    Text.IsNumeral timestamp header.timestamp.toInt ∧
    signature.map Char.toLower = Hex.encode header.signature

theorem colon_notMem_of_isNumeral {cs : List Char} {n : Int} (h : Text.IsNumeral cs n) :
    ':' ∉ cs := fun hcolon => absurd (h.isDigit_or_sign ':' hcolon) (by decide)

theorem ofPlain?_eq_some_iff {cs : List Char} {header : SignatureHeader} :
    ofPlain? cs = some header ↔ SpellsPlain cs header := by
  constructor
  · intro h
    unfold ofPlain? at h
    split at h
    · rename_i c signature hdrop
      simp only [Option.bind_eq_bind, Option.bind_eq_some_iff, pure, Option.some.injEq] at h
      obtain ⟨timestamp, htimestamp, bytes, hbytes, rfl⟩ := h
      have hcolon : c = ':' := by
        have hhead := List.head?_dropWhile_not (· != ':') cs
        rw [hdrop] at hhead
        simpa using hhead
      subst hcolon
      refine ⟨cs.takeWhile (· != ':'), signature, ?_, Text.int64?_eq_some_iff.mp htimestamp,
        Hex.decode?_eq_some_iff.mp hbytes⟩
      rw [← hdrop, List.takeWhile_append_dropWhile]
    · cases h
  · rintro ⟨timestamp, signature, rfl, htimestamp, hsignature⟩
    obtain ⟨htake, hdrop⟩ := Text.divided_at (colon_notMem_of_isNumeral htimestamp) signature
    unfold ofPlain?
    rw [htake, hdrop]
    simp only [Text.int64?_eq_some_iff.mpr htimestamp, Hex.decode?_eq_some_iff.mpr hsignature,
      Option.bind_eq_bind, Option.bind_some, pure]

namespace SpellsPlain

variable {cs : List Char} {header : SignatureHeader}

theorem isAscii (h : SpellsPlain cs header) : ∀ c ∈ cs, c.toNat < 128 := by
  obtain ⟨timestamp, signature, rfl, htimestamp, hsignature⟩ := h
  intro c hc
  rcases List.mem_append.mp hc with htime | hrest
  · exact htimestamp.isAscii c htime
  · rcases List.mem_cons.mp hrest with rfl | hdigit
    · decide
    · exact Text.isAscii_of_isHexDigit ((Hex.digits_of_map_toLower hsignature).2 c hdigit)

theorem plainChars (header : SignatureHeader) : SpellsPlain header.plainChars header :=
  ⟨_, _, rfl, .toString _, Hex.map_toLower_encode _⟩

end SpellsPlain

/-! ## The text itself -/

/-- The ways to write a header. -/
def Spells (text : String) (header : SignatureHeader) : Prop :=
  ∃ cs, Text.trim text.toList = Base64.encode (asciiBytes cs) ∧ SpellsPlain cs header

theorem read?_eq_some_iff {text : String} {header : SignatureHeader} :
    read? text = some header ↔ Spells text header := by
  unfold read? Spells
  simp only [Option.bind_eq_bind, Option.bind_eq_some_iff, Base64.decode?_eq_some_iff,
    ofPlain?_eq_some_iff]
  constructor
  · rintro ⟨bytes, htext, hplain⟩
    exact ⟨byteChars bytes, by rw [asciiBytes_byteChars, htext], hplain⟩
  · rintro ⟨cs, htext, hplain⟩
    exact ⟨asciiBytes cs, htext, by rwa [byteChars_asciiBytes hplain.isAscii]⟩

theorem read?_eq_none_iff {text : String} :
    read? text = none ↔ ∀ header, ¬Spells text header := by
  simp only [Option.eq_none_iff_forall_ne_some, ne_eq, read?_eq_some_iff]

namespace Spells

variable {text : String} {header other : SignatureHeader}

theorem unique (h : Spells text header) (hother : Spells text other) : header = other :=
  Option.some.inj ((read?_eq_some_iff.mpr h).symm.trans (read?_eq_some_iff.mpr hother))

/-- Blanks around the text make no difference. -/
theorem padded {before cs after : List Char} (hbefore : ∀ c ∈ before, Text.isBlank c = true)
    (hafter : ∀ c ∈ after, Text.isBlank c = true) (h : SpellsPlain cs header) :
    Spells (String.ofList (before ++ Base64.encode (asciiBytes cs) ++ after)) header := by
  have hvisible : ∀ c ∈ Base64.encode (asciiBytes cs), Text.isBlank c = false := fun c hc =>
    Text.isBlank_of_visible (Base64.visible_of_mem_encode hc).1 (Base64.visible_of_mem_encode hc).2
  refine ⟨cs, ?_, h⟩
  rw [String.toList_ofList]
  exact Text.trim_padded hbefore hafter (fun c hc => hvisible c (List.mem_of_head? hc))
    fun c hc => hvisible c (List.mem_of_getLast? hc)

theorem write (header : SignatureHeader) : Spells header.write header := by
  have hnone : ∀ c ∈ ([] : List Char), Text.isBlank c = true := by simp
  have h := padded hnone hnone (SpellsPlain.plainChars header)
  rwa [List.nil_append, List.append_nil] at h

end Spells

theorem read?_write (header : SignatureHeader) : read? header.write = some header :=
  read?_eq_some_iff.mpr (.write header)

/-- Whether the text says something at all: in base 64 a numeral in 64 bits, a colon and
hexadecimal digits in pairs. -/
def HasForm (text : String) : Prop :=
  ∃ timestamp signature, ∃ t : Int64,
    Text.trim text.toList = Base64.encode (asciiBytes (timestamp ++ ':' :: signature)) ∧
    Text.IsNumeral timestamp t.toInt ∧
    signature.length % 2 = 0 ∧ ∀ c ∈ signature, c.isHexDigit = true

theorem hasForm_iff {text : String} : HasForm text ↔ ∃ header, Spells text header := by
  constructor
  · rintro ⟨timestamp, signature, t, htext, htimestamp, hpairs, hdigits⟩
    have hread : (Hex.decode? signature).isSome = true := by
      rw [Hex.isSome_decode?, hpairs, List.all_eq_true.mpr hdigits]
      rfl
    obtain ⟨bytes, hbytes⟩ := Option.isSome_iff_exists.mp hread
    exact ⟨⟨t, bytes⟩, _, htext, timestamp, signature, rfl, htimestamp,
      Hex.decode?_eq_some_iff.mp hbytes⟩
  · rintro ⟨⟨t, bytes⟩, _, htext, timestamp, signature, rfl, htimestamp, hsignature⟩
    obtain ⟨hpairs, hdigits⟩ := Hex.digits_of_map_toLower hsignature
    exact ⟨timestamp, signature, t, htext, htimestamp, hpairs, hdigits⟩

end RentalGuard.SignatureHeader
