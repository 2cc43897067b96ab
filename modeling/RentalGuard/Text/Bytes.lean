/-! Texts as UTF-8. A text can be cut at its end and at each byte at which a character starts. -/

namespace RentalGuard.Text

/-- The text before a byte and the text from that byte on. There is no cut if the text has too few
bytes, and none inside a character. -/
def cut? (s : String) (offset : Nat) : Option (String × String) :=
  (s.pos? ⟨offset⟩).map fun p => ((s.sliceTo p).copy, (s.sliceFrom p).copy)

def before? (s : String) (offset : Nat) : Option String := (cut? s offset).map (·.1)

def after? (s : String) (offset : Nat) : Option String := (cut? s offset).map (·.2)

/-- The text from one byte up to another. There is none if there is no cut at one of them, or if
they are in the wrong order. -/
def between? (s : String) (first last : Nat) : Option String :=
  (before? s last).bind fun front => after? front first

theorem pos?_eq_some_iff {s : String} {offset : Nat} {p : s.Pos} :
    s.pos? ⟨offset⟩ = some p ↔ p.offset.byteIdx = offset := by
  simp only [String.pos?, String.Slice.pos?, Option.map_eq_some_iff]
  constructor
  · rintro ⟨q, hq, rfl⟩
    split at hq
    · cases hq
      rfl
    · cases hq
  · rintro rfl
    have hv : String.Pos.Raw.isValidForSlice s.toSlice p.offset = true := by simp [p.isValid]
    exact ⟨s.toSlice.pos p.offset (by simpa using hv), dif_pos hv, rfl⟩

/-- The cuts of a text are the ways to write it as two texts. -/
theorem cut?_eq_some_iff {s t u : String} {offset : Nat} :
    cut? s offset = some (t, u) ↔ s = t ++ u ∧ t.utf8ByteSize = offset := by
  unfold cut?
  constructor
  · intro h
    obtain ⟨p, hp, hcut⟩ := Option.map_eq_some_iff.mp h
    cases hcut
    refine ⟨p.splits.eq_append, ?_⟩
    rw [← pos?_eq_some_iff.mp hp, p.splits.offset_eq_rawEndPos]
    rfl
  · rintro ⟨rfl, rfl⟩
    have hvalid : t.rawEndPos.IsValid (t ++ u) :=
      String.Pos.Raw.isValid_iff_exists_append.mpr ⟨t, u, rfl, rfl⟩
    let p : (t ++ u).Pos := ⟨t.rawEndPos, hvalid⟩
    have hp : (t ++ u).pos? ⟨t.utf8ByteSize⟩ = some p := pos?_eq_some_iff.mpr rfl
    have hsplits : p.Splits t u := ⟨rfl, rfl⟩
    rw [hp, Option.map_some, p.splits.eq_left hsplits, p.splits.eq_right hsplits]

/-- An ASCII character takes one byte. -/
theorem utf8ByteSize_ofList {cs : List Char} (h : ∀ c ∈ cs, c.toNat < 128) :
    (String.ofList cs).utf8ByteSize = cs.length := by
  induction cs with
  | nil => rfl
  | cons c rest ih =>
    obtain ⟨hc, hrest⟩ := List.forall_mem_cons.mp h
    have hsize : c.utf8Size = 1 := Char.utf8Size_eq_one_iff.mpr (Nat.le_of_lt_succ hc)
    rw [String.ofList_cons, String.utf8ByteSize_append, String.utf8ByteSize_singleton, hsize,
      ih hrest, List.length_cons, Nat.add_comm]

section Ascii

variable {s : String} {front back : List Char} {first last offset : Nat}

/-- In ASCII a text can be cut behind any number of characters. -/
theorem cut?_of_toList (hs : s.toList = front ++ back) (hascii : ∀ c ∈ s.toList, c.toNat < 128)
    (hoffset : front.length = offset) :
    cut? s offset = some (String.ofList front, String.ofList back) := by
  rw [hs] at hascii
  refine cut?_eq_some_iff.mpr ⟨?_, ?_⟩
  · rw [← String.ofList_append, ← hs, String.ofList_toList]
  · rw [utf8ByteSize_ofList fun c hc => hascii c (List.mem_append_left _ hc), hoffset]

theorem after?_of_toList (hs : s.toList = front ++ back) (hascii : ∀ c ∈ s.toList, c.toNat < 128)
    (hoffset : front.length = offset) : after? s offset = some (String.ofList back) := by
  rw [after?, cut?_of_toList hs hascii hoffset, Option.map_some]

theorem between?_of_toList (front middle back : List Char)
    (hs : s.toList = front ++ middle ++ back) (hascii : ∀ c ∈ s.toList, c.toNat < 128)
    (hfirst : front.length = first) (hlast : (front ++ middle).length = last) :
    between? s first last = some (String.ofList middle) := by
  have hbefore : before? s last = some (String.ofList (front ++ middle)) := by
    rw [before?, cut?_of_toList hs hascii hlast, Option.map_some]
  rw [between?, hbefore, Option.bind_some]
  refine after?_of_toList String.toList_ofList (fun c hc => hascii c ?_) hfirst
  rw [String.toList_ofList] at hc
  rw [hs]
  exact List.mem_append_left _ hc

end Ascii

end RentalGuard.Text
