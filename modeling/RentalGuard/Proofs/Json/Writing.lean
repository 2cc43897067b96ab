import RentalGuard.Proofs.Json.Tokens

/-! # Values are told apart by their texts

No two values have the same text, and no text of a value starts the text of another one if a number
at its end does not go on. The first character tells the kind of a value, and the texts of two
values of one kind are compared part by part.
-/

namespace RentalGuard.Json

open Text

/-! ## Strings -/

theorem stringChars_append_inj {s t : String} {r r' : List Char}
    (h : stringChars s ++ r = stringChars t ++ r') : s = t ∧ r = r' := by
  have hsplit : ∀ (u : String) (rest : List Char), splitQuote (stringChars u ++ rest).tail =
      some (u.toList.flatMap escaped, rest) := fun u rest => by
    rw [stringChars, List.append_assoc]
    exact splitQuote_flatMap_escaped u.toList rest
  have hparts := (hsplit s r).symm.trans ((congrArg (splitQuote ·.tail) h).trans (hsplit t r'))
  simp only [Option.some.injEq, Prod.mk.injEq] at hparts
  have hinside := congrArg unescape hparts.1
  simp only [unescape_flatMap_escaped, Option.some.injEq] at hinside
  exact ⟨String.toList_inj.mp hinside, hparts.2⟩

/-! ## Numbers -/

/-- The parts of a written number. -/
def numeralOf? : Json → Option Numeral
  | integer n => some (.ofInt n)
  | double d => some d.numeral
  | _ => none

section

variable {v w : Json} {n : Numeral}

theorem isWritten_of_numeralOf? (h : v.numeralOf? = some n) :
    n.IsWritten ∧ v.chars = n.chars := by
  cases v with
  | integer i =>
    cases h
    exact ⟨Numeral.isWritten_ofInt i, (Numeral.chars_ofInt i).symm⟩
  | double d =>
    cases h
    exact ⟨Double.isWritten_numeral, rfl⟩
  | _ => cases h

theorem numeralOf?_inj (hv : v.numeralOf? = some n) (hw : w.numeralOf? = some n) : v = w := by
  -- the text of a double has a point or an exponent
  have hdouble : ∀ {i : Int} {d : Double}, d.numeral ≠ .ofInt i := fun {i d} h => by
    have hparts := d.decimal.fraction_or_exponent d.negative
    rw [show d.decimal.numeral d.negative = .ofInt i from h] at hparts
    exact hparts.elim (fun hfraction => hfraction rfl) fun hexponent => hexponent rfl
  cases v with
  | integer i =>
    cases hv
    cases w with
    | integer j => exact congrArg integer (Numeral.ofInt_inj (Option.some.inj hw)).symm
    | double d => exact absurd (Option.some.inj hw) hdouble
    | _ => cases hw
  | double d =>
    cases hv
    cases w with
    | integer j => exact absurd (Option.some.inj hw).symm hdouble
    | double e =>
      have hchars : e.chars = d.chars := congrArg Numeral.chars (Option.some.inj hw)
      exact congrArg double (Double.chars_inj.mp hchars.symm)
    | _ => cases hw
  | _ => cases hv

/-- A number ends where no character of a number follows. -/
theorem number_append_inj {m : Numeral} {r r' : List Char} (hv : v.numeralOf? = some n)
    (hw : w.numeralOf? = some m) (hr : EndsRun isNumberChar r) (hr' : EndsRun isNumberChar r')
    (h : v.chars ++ r = w.chars ++ r') : v = w ∧ r = r' := by
  obtain ⟨hn, hvchars⟩ := isWritten_of_numeralOf? hv
  obtain ⟨hm, hwchars⟩ := isWritten_of_numeralOf? hw
  have hrun := fun c (hc : c ∈ n.chars) => Numeral.isNumberChar_of_mem_chars hn hc
  have hrun' := fun c (hc : c ∈ m.chars) => Numeral.isNumberChar_of_mem_chars hm hc
  rw [hvchars, hwchars] at h
  have hchars := congrArg (List.takeWhile isNumberChar) h
  have hrest := congrArg (List.dropWhile isNumberChar) h
  rw [takeWhile_run hrun hr, takeWhile_run hrun' hr'] at hchars
  rw [dropWhile_run hrun hr, dropWhile_run hrun' hr'] at hrest
  rw [(Numeral.chars_inj hn hm).mp hchars] at hv
  exact ⟨numeralOf?_inj hv hw, hrest⟩

end

/-! ## Kinds -/

inductive Kind where
  | null
  | bool
  | number
  | string
  | array
  | object

/-- The kind of the value whose text starts with the character. -/
def Kind.ofFirst? (c : Char) : Option Kind :=
  if isNumberChar c then some .number
  else match c with
    | 'n' => some .null
    | 't' | 'f' => some .bool
    | '"' => some .string
    | '[' => some .array
    | '\x7b' => some .object
    | _ => none

def kind : Json → Kind
  | null | unreadable => .null
  | bool _ => .bool
  | integer _ | double _ => .number
  | string _ => .string
  | array _ => .array
  | object _ => .object

theorem first_of_numeralOf? {v : Json} {n : Numeral} (h : v.numeralOf? = some n) :
    ∃ c rest, v.chars = c :: rest ∧ Kind.ofFirst? c = some .number := by
  obtain ⟨hn, hchars⟩ := isWritten_of_numeralOf? h
  have hne : n.chars ≠ [] := by
    simp [Numeral.chars, hn.whole_ne_nil]
  obtain ⟨c, rest, hfirst⟩ := List.exists_cons_of_ne_nil hne
  have hc := Numeral.isNumberChar_of_mem_chars hn (hfirst ▸ List.mem_cons_self)
  exact ⟨c, rest, hchars.trans hfirst, if_pos hc⟩

theorem first_chars (v : Json) :
    ∃ c rest, v.chars = c :: rest ∧ Kind.ofFirst? c = some v.kind := by
  cases v with
  | null => exact ⟨_, _, rfl, rfl⟩
  | bool b => cases b <;> exact ⟨_, _, rfl, rfl⟩
  | integer n => exact first_of_numeralOf? rfl
  | double d => exact first_of_numeralOf? rfl
  | string s => exact ⟨_, _, rfl, rfl⟩
  | unreadable => exact ⟨_, _, rfl, rfl⟩
  | array items => cases items <;> exact ⟨_, _, rfl, rfl⟩
  | object fields => rcases fields with _ | ⟨⟨k, v⟩, rest⟩ <;> exact ⟨_, _, rfl, rfl⟩

theorem kind_eq {v w : Json} {r r' : List Char} (h : v.chars ++ r = w.chars ++ r') :
    v.kind = w.kind := by
  obtain ⟨c, rest, hv, hkind⟩ := first_chars v
  obtain ⟨c', rest', hw, hkind'⟩ := first_chars w
  rw [hv, hw] at h
  have hfirst : c = c' := (List.cons.inj h).1
  rw [← hfirst, hkind] at hkind'
  exact Option.some.inj hkind'

/-- No value starts with a character that ends an array or an object. -/
theorem chars_append_ne {v : Json} {c : Char} (hc : Kind.ofFirst? c = none) {r r' : List Char} :
    v.chars ++ r ≠ c :: r' := by
  intro h
  obtain ⟨first, rest, hv, hkind⟩ := first_chars v
  rw [hv] at h
  rw [(List.cons.inj h).1, hc] at hkind
  cases hkind

/-! ## Values -/

mutual

/-- The text tells the value and where it ends. -/
theorem chars_append_inj : ∀ {v w : Json} {r r' : List Char}, v.readable = true →
    w.readable = true → EndsRun isNumberChar r → EndsRun isNumberChar r' →
    v.chars ++ r = w.chars ++ r' → v = w ∧ r = r'
  | null, w, _, _, _, hw, _, _, h => by
    have hkind := kind_eq h
    cases w with
    | null => exact ⟨rfl, List.append_cancel_left h⟩
    | unreadable => cases hw
    | _ => cases hkind
  | bool b, w, _, _, _, _, _, _, h => by
    have hkind := kind_eq h
    cases w with
    | bool b' => cases b <;> cases b' <;> simp_all [chars]
    | _ => cases hkind
  | integer n, w, _, _, _, _, hr, hr', h => by
    have hkind := kind_eq h
    cases w with
    | integer m => exact number_append_inj rfl rfl hr hr' h
    | double d => exact number_append_inj rfl rfl hr hr' h
    | _ => cases hkind
  | double d, w, _, _, _, _, hr, hr', h => by
    have hkind := kind_eq h
    cases w with
    | integer m => exact number_append_inj rfl rfl hr hr' h
    | double e => exact number_append_inj rfl rfl hr hr' h
    | _ => cases hkind
  | string s, w, _, _, _, _, _, _, h => by
    have hkind := kind_eq h
    cases w with
    | string t =>
      obtain ⟨hs, hrest⟩ := stringChars_append_inj h
      exact ⟨congrArg string hs, hrest⟩
    | _ => cases hkind
  | unreadable, _, _, _, hv, _, _, _, _ => nomatch hv
  | array [], w, _, _, _, _, _, _, h => by
    have hkind := kind_eq h
    cases w with
    | array others =>
      cases others with
      | nil => exact ⟨rfl, List.append_cancel_left h⟩
      | cons u more =>
        simp only [chars, List.cons_append, List.append_assoc] at h
        exact absurd (List.cons.inj h).2.symm (chars_append_ne rfl)
    | _ => cases hkind
  | array (v :: rest), w, _, _, hv, hw, _, _, h => by
    have hkind := kind_eq h
    cases w with
    | array others =>
      cases others with
      | nil =>
        simp only [chars, List.cons_append, List.append_assoc] at h
        exact absurd (List.cons.inj h).2 (chars_append_ne rfl)
      | cons u more =>
        obtain ⟨hv, hrest⟩ := Bool.and_eq_true_iff.mp hv
        obtain ⟨hu, hmore⟩ := Bool.and_eq_true_iff.mp hw
        simp only [chars, List.cons_append, List.append_assoc] at h
        obtain ⟨rfl, hitems⟩ := chars_append_inj hv hu (endsRun_restChars rest _)
          (endsRun_restChars more _) (List.cons.inj h).2
        obtain ⟨rfl, hend⟩ := restChars_append_inj hrest hmore hitems
        exact ⟨rfl, hend⟩
    | _ => cases hkind
  | object [], w, _, _, _, _, _, _, h => by
    have hkind := kind_eq h
    cases w with
    | object others =>
      rcases others with _ | ⟨⟨l, u⟩, more⟩
      · exact ⟨rfl, List.append_cancel_left h⟩
      · exact absurd (List.cons.inj (List.cons.inj h).2).1 (by decide)
    | _ => cases hkind
  | object ((k, v) :: rest), w, _, _, hv, hw, _, _, h => by
    have hkind := kind_eq h
    cases w with
    | object others =>
      rcases others with _ | ⟨⟨l, u⟩, more⟩
      · exact absurd (List.cons.inj (List.cons.inj h).2).1 (by decide)
      · obtain ⟨hv, hrest⟩ := Bool.and_eq_true_iff.mp hv
        obtain ⟨hu, hmore⟩ := Bool.and_eq_true_iff.mp hw
        simp only [chars, List.cons_append, List.append_assoc] at h
        obtain ⟨rfl, hvalue⟩ := stringChars_append_inj (List.cons.inj h).2
        obtain ⟨rfl, hfields⟩ := chars_append_inj hv hu (endsRun_restFieldChars rest _)
          (endsRun_restFieldChars more _) (List.cons.inj hvalue).2
        obtain ⟨rfl, hend⟩ := restFieldChars_append_inj hrest hmore hfields
        exact ⟨rfl, hend⟩
    | _ => cases hkind

theorem restChars_append_inj : ∀ {items others : List Json} {r r' : List Char},
    readableItems items = true → readableItems others = true →
    restChars items ++ r = restChars others ++ r' → items = others ∧ r = r'
  | [], [], _, _, _, _, h => ⟨rfl, (List.cons.inj h).2⟩
  | [], _ :: _, _, _, _, _, h => absurd (List.cons.inj h).1 (by decide)
  | _ :: _, [], _, _, _, _, h => absurd (List.cons.inj h).1 (by decide)
  | v :: rest, u :: more, _, _, hitems, hothers, h => by
    obtain ⟨hv, hrest⟩ := Bool.and_eq_true_iff.mp hitems
    obtain ⟨hu, hmore⟩ := Bool.and_eq_true_iff.mp hothers
    simp only [restChars, List.cons_append, List.append_assoc] at h
    obtain ⟨rfl, hitems⟩ := chars_append_inj hv hu (endsRun_restChars rest _)
      (endsRun_restChars more _) (List.cons.inj h).2
    obtain ⟨rfl, hend⟩ := restChars_append_inj hrest hmore hitems
    exact ⟨rfl, hend⟩

theorem restFieldChars_append_inj : ∀ {fields others : List (String × Json)} {r r' : List Char},
    readableFields fields = true → readableFields others = true →
    restFieldChars fields ++ r = restFieldChars others ++ r' → fields = others ∧ r = r'
  | [], [], _, _, _, _, h => ⟨rfl, (List.cons.inj h).2⟩
  | [], (_, _) :: _, _, _, _, _, h => absurd (List.cons.inj h).1 (by decide)
  | (_, _) :: _, [], _, _, _, _, h => absurd (List.cons.inj h).1 (by decide)
  | (k, v) :: rest, (l, u) :: more, _, _, hfields, hothers, h => by
    obtain ⟨hv, hrest⟩ := Bool.and_eq_true_iff.mp hfields
    obtain ⟨hu, hmore⟩ := Bool.and_eq_true_iff.mp hothers
    simp only [restFieldChars, List.cons_append, List.append_assoc] at h
    obtain ⟨rfl, hvalue⟩ := stringChars_append_inj (List.cons.inj h).2
    obtain ⟨rfl, hfields⟩ := chars_append_inj hv hu (endsRun_restFieldChars rest _)
      (endsRun_restFieldChars more _) (List.cons.inj hvalue).2
    obtain ⟨rfl, hend⟩ := restFieldChars_append_inj hrest hmore hfields
    exact ⟨rfl, hend⟩

end

/-- Two values are the same if their texts are. -/
theorem compact_inj {v w : Json} (hv : v.readable = true) (hw : w.readable = true) :
    v.compact = w.compact ↔ v = w := by
  refine ⟨fun h => ?_, congrArg compact⟩
  have hchars : v.chars ++ [] = w.chars ++ [] := congrArg (· ++ []) (String.ofList_injective h)
  exact (chars_append_inj hv hw endsRun_nil endsRun_nil hchars).1

end RentalGuard.Json
