import RentalGuard.Proofs.Json.Tokens

/-! # The whole numbers of what is read

Whatever text a value is read from, its whole numbers have 64 bits. So what has been read can be
written and read again, as far as its doubles can.
-/

namespace RentalGuard.Json

/-- A whole number has 64 bits. -/
def WholeFits : Json → Prop
  | integer n => FitsInteger n
  | _ => True

/-- A double is read from its text. -/
def DoubleReadsBack : Json → Prop
  | double d => d.ReadsBack
  | _ => True

/-- What makes a value legible. -/
theorem legible_of_parts {v : Json} (hreadable : v.readable = true) (hwhole : v.Every WholeFits)
    (hdouble : v.Every DoubleReadsBack) : v.Every Legible := by
  refine Every.imp (fun w h => ?_) ((every_readable hreadable).and (hwhole.and hdouble))
  obtain ⟨hvalue, hinteger, hdouble⟩ := h
  cases w with
  | integer _ => exact hinteger
  | double _ => exact hdouble
  | unreadable => exact absurd rfl hvalue
  | _ => trivial

/-! ## Tokens -/

/-- The whole numbers in what a token tells have 64 bits. -/
def Token.Fits : Token → Prop
  | .scalar v => v.Every WholeFits
  | _ => True

theorem wholeFits_of_number? {cs : List Char} {v : Json} (h : number? cs = some v) :
    v.Every WholeFits := by
  obtain ⟨n, -, rfl⟩ := Option.map_eq_some_iff.mp h
  have hfits : ∀ {w : Json}, Numeral.IsValue w → w.Every WholeFits := fun hw => by
    cases hw with
    | integer h => exact h
    | _ => trivial
  exact hfits n.isValue

theorem fits_of_map_cons {t : Token} {after : Option (List Token)} {ts : List Token}
    (h : after.map (t :: ·) = some ts) (ht : t.Fits)
    (hafter : ∀ {more}, after = some more → ∀ t ∈ more, t.Fits) : ∀ t ∈ ts, t.Fits := by
  obtain ⟨more, hmore, rfl⟩ := Option.map_eq_some_iff.mp h
  exact List.forall_mem_cons.mpr ⟨ht, hafter hmore⟩

/-- Every token of a text fits. -/
theorem fits_of_tokens? {cs : List Char} {ts : List Token} (h : tokens? cs = some ts) :
    ∀ t ∈ ts, t.Fits := by
  fun_induction tokens? cs generalizing ts with
  | case1 =>
    cases h
    exact fun t ht => by cases ht
  | case2 _ _ _ ih => exact ih h
  | case3 => cases h
  | case4 _ _ _ _ body after _ ih =>
    obtain ⟨value, -, h⟩ := Option.bind_eq_some_iff.mp h
    exact fits_of_map_cons ((Option.map_eq_bind ..).trans h) trivial ih
  | case5 _ _ _ _ _ ih =>
    obtain ⟨value, hvalue, h⟩ := Option.bind_eq_some_iff.mp h
    exact fits_of_map_cons ((Option.map_eq_bind ..).trans h) (wholeFits_of_number? hvalue) ih
  | case15 => cases h
  | _ =>
    rename_i ih
    exact fits_of_map_cons h trivial ih

/-! ## The reader -/

/-- What an open array or object holds fits. -/
def Frame.Fits : Frame → Prop
  | .items done => ∀ v ∈ done, v.Every WholeFits
  | .fields done _ => ∀ f ∈ done, f.2.Every WholeFits

/-- What has been read so far fits. -/
def Reading.Fits : Reading → Prop
  | .value stack | .firstItem stack | .firstKey stack => ∀ frame ∈ stack, frame.Fits
  | .key done stack | .colon done _ stack =>
    (∀ f ∈ done, f.2.Every WholeFits) ∧ ∀ frame ∈ stack, frame.Fits
  | .ended v stack => v.Every WholeFits ∧ ∀ frame ∈ stack, frame.Fits

theorem wholeFits_ofReadFields {fields : List ReadField} (h : ∀ f ∈ fields, f.2.Every WholeFits) :
    (ofReadFields fields).Every WholeFits := by
  have hnamed : ∀ {fields : List ReadField} {others : List (String × Json)},
      (∀ f ∈ fields, f.2.Every WholeFits) →
      fields.mapM (fun f => f.1.map fun k => (k, f.2)) = some others →
        EveryField WholeFits others := by
    intro fields
    induction fields with
    | nil =>
      intro others _ hothers
      cases hothers
      trivial
    | cons f rest ih =>
      intro others hfit hothers
      obtain ⟨hf, hrest⟩ := List.forall_mem_cons.mp hfit
      rw [List.mapM_cons] at hothers
      obtain ⟨g, hg, hothers⟩ := Option.bind_eq_some_iff.mp hothers
      obtain ⟨more, hmore, hothers⟩ := Option.bind_eq_some_iff.mp hothers
      obtain ⟨k, -, rfl⟩ := Option.map_eq_some_iff.mp hg
      cases hothers
      exact ⟨hf, ih hrest hmore⟩
  unfold ofReadFields
  split
  · exact hnamed h ‹_›
  · trivial

theorem fits_start {stack : List Frame} (hstack : ∀ frame ∈ stack, frame.Fits) {t : Token}
    (ht : t.Fits) {r : Reading} (h : Reading.start stack t = some r) : r.Fits := by
  unfold Reading.start at h
  split at h
  all_goals cases h
  · exact hstack
  · exact hstack
  · exact ⟨trivial, hstack⟩
  · exact ⟨trivial, hstack⟩
  · exact ⟨ht, hstack⟩

/-- One token more leaves what has been read fitting. -/
theorem fits_next {r r' : Reading} (hr : r.Fits) {t : Token} (ht : t.Fits)
    (h : r.next t = some r') : r'.Fits := by
  unfold Reading.next at h
  split at h
  · exact fits_start hr ht h
  · cases h
    exact ⟨trivial, hr⟩
  · have hopen : Frame.Fits (.items []) := List.forall_mem_nil _
    exact fits_start (List.forall_mem_cons.mpr ⟨hopen, hr⟩) ht h
  · cases h
    exact ⟨trivial, hr⟩
  · cases h
    exact ⟨List.forall_mem_nil _, hr⟩
  · cases h
    exact hr
  · cases h
    exact List.forall_mem_cons.mpr hr
  · -- the value is one more item
    obtain ⟨hv, hframes⟩ := hr
    obtain ⟨hdone, hstack⟩ := List.forall_mem_cons.mp hframes
    cases h
    exact List.forall_mem_cons.mpr ⟨List.forall_mem_cons.mpr ⟨hv, hdone⟩, hstack⟩
  · obtain ⟨hv, hframes⟩ := hr
    obtain ⟨hdone, hstack⟩ := List.forall_mem_cons.mp hframes
    cases h
    refine ⟨everyItem_iff.mpr fun w hw => ?_, hstack⟩
    exact List.forall_mem_cons.mpr ⟨hv, hdone⟩ w (List.mem_reverse.mp hw)
  · -- the value belongs to the key before it
    obtain ⟨hv, hframes⟩ := hr
    obtain ⟨hdone, hstack⟩ := List.forall_mem_cons.mp hframes
    cases h
    exact ⟨List.forall_mem_cons.mpr ⟨hv, hdone⟩, hstack⟩
  · obtain ⟨hv, hframes⟩ := hr
    obtain ⟨hdone, hstack⟩ := List.forall_mem_cons.mp hframes
    cases h
    refine ⟨wholeFits_ofReadFields fun f hf => ?_, hstack⟩
    rcases List.mem_cons.mp (List.mem_reverse.mp hf) with rfl | hold
    · exact hv
    · exact hdone f hold
  · cases h

theorem fits_foldlM_next : ∀ {ts : List Token} {r r' : Reading}, r.Fits → (∀ t ∈ ts, t.Fits) →
    ts.foldlM Reading.next r = some r' → r'.Fits
  | [], _, _, hr, _, h => by
    cases h
    exact hr
  | t :: rest, r, r', hr, hts, h => by
    obtain ⟨ht, hrest⟩ := List.forall_mem_cons.mp hts
    obtain ⟨middle, hmiddle, h⟩ := Option.bind_eq_some_iff.mp h
    exact fits_foldlM_next (fits_next hr ht hmiddle) hrest h

/-- Whatever is read from a text fits. -/
theorem wholeFits_of_read? {cs : List Char} {v : Json} (h : read? cs = some v) :
    v.Every WholeFits := by
  obtain ⟨ts, hts, h⟩ := Option.bind_eq_some_iff.mp h
  obtain ⟨r, hr, h⟩ := Option.bind_eq_some_iff.mp h
  have hstart : Reading.Fits (.value []) := List.forall_mem_nil _
  have hfits := fits_foldlM_next hstart (fits_of_tokens? hts) hr
  split at h
  · cases h
    exact hfits.1
  · cases h

end RentalGuard.Json
