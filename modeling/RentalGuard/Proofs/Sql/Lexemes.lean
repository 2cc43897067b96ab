import RentalGuard.Sql.Reading

/-! # Reading text that is put together from parts

A word, parts with a blank between them and parts in parentheses are read as the items that the
parts are read as, wherever a word may begin. -/

namespace RentalGuard.Sql

/-- A text that is one word wherever a word may begin. -/
def IsWord (text : String) : Prop :=
  text.toList ≠ [] ∧ text.toList.foldlM OpenWord.extend? .none = some ⟨text.toList, none⟩

instance : DecidablePred IsWord := fun _ => inferInstanceAs (Decidable (_ ∧ _))

/-- The words by which conditions are put together. -/
def connectives : List String := ["OR", "AND", "NOT"]

/-- The name of a column, in quotes or not: a word that is no connective. -/
def IsName (text : String) : Prop :=
  IsWord text ∧ ∀ k ∈ connectives, (Lexeme.word text).spells k = false

instance : DecidablePred IsName := fun _ => inferInstanceAs (Decidable (_ ∧ _))

/-- The text is read as the items, whatever was read before it. -/
def Reads (text : List Char) (items : List Lexeme) : Prop :=
  ∀ outer before, ∃ s, Scan.feedAll? ⟨outer, before, .none⟩ text = some s ∧
    s.outer = outer ∧ s.word.quote = none ∧ s.closed = before ++ items

namespace Scan

theorem feedAll?_append (s : Scan) (as bs : List Char) :
    s.feedAll? (as ++ bs) = (s.feedAll? as).bind fun t => t.feedAll? bs := by
  unfold feedAll?
  rw [List.foldlM_append]
  rfl

theorem feedAll?_cons (s : Scan) (c : Char) (cs : List Char) :
    s.feedAll? (c :: cs) = (s.feed? c).bind fun t => t.feedAll? cs := rfl

@[simp] theorem closed_none (outer : List (List Lexeme)) (items : List Lexeme) :
    (Scan.mk outer items .none).closed = items := rfl

theorem feed?_blank {s : Scan} (hq : s.word.quote = none) :
    s.feed? ' ' = some ⟨s.outer, s.closed, .none⟩ := by
  unfold feed?
  rw [hq]
  rfl

theorem feed?_opening {s : Scan} (hq : s.word.quote = none) :
    s.feed? '(' = some ⟨s.closed :: s.outer, [], .none⟩ := by
  unfold feed?
  rw [hq]
  rfl

theorem feed?_closing {s : Scan} {items : List Lexeme} {outer : List (List Lexeme)}
    (hq : s.word.quote = none) (ho : s.outer = items :: outer) :
    s.feed? ')' = some ⟨outer, items ++ [.group s.closed], .none⟩ := by
  unfold feed?
  rw [hq, ho]
  rfl

/-- A character of a word only changes the word. -/
theorem feed?_extend {s : Scan} {c : Char} {w : OpenWord} (h : s.word.extend? c = some w) :
    s.feed? c = some { s with word := w } := by
  unfold feed?
  cases hq : s.word.quote with
  | some q => simp [h]
  | none =>
    have hn : ¬(Text.isBlank c || c == '(' || c == ')' ||
        OpenWord.hides s.word.chars c) = true := by
      intro hc
      simp only [OpenWord.extend?, hq, if_pos hc] at h
      cases h
    simp only [Bool.or_eq_true, beq_iff_eq, not_or] at hn
    obtain ⟨⟨⟨hb, ho⟩, hc⟩, -⟩ := hn
    simp [hb, ho, hc, h]

theorem feedAll?_word {cs : List Char} {w : OpenWord} : ∀ {s : Scan},
    cs.foldlM OpenWord.extend? s.word = some w → s.feedAll? cs = some { s with word := w } := by
  induction cs with
  | nil =>
    intro s h
    cases h
    rfl
  | cons c rest ih =>
    intro s h
    rw [List.foldlM_cons] at h
    obtain ⟨v, hv, hw⟩ := Option.bind_eq_some_iff.mp h
    rw [feedAll?_cons, feed?_extend hv, Option.bind_some]
    exact ih (s := { s with word := v }) hw

end Scan

theorem IsWord.reads {text : String} (h : IsWord text) : Reads text.toList [.word text] := by
  intro outer before
  refine ⟨⟨outer, before, ⟨text.toList, none⟩⟩, Scan.feedAll?_word h.2, rfl, rfl, ?_⟩
  simp [Scan.closed, h.1]

namespace Reads

theorem nil : Reads [] [] := fun outer before => ⟨⟨outer, before, .none⟩, rfl, rfl, rfl, by simp⟩

/-- Parts with a blank between them. -/
theorem blank {a b : List Char} {as bs : List Lexeme} (ha : Reads a as) (hb : Reads b bs) :
    Reads (a ++ ' ' :: b) (as ++ bs) := by
  intro outer before
  obtain ⟨s, hs, ho, hq, hc⟩ := ha outer before
  obtain ⟨t, ht, hto, htq, htc⟩ := hb outer (before ++ as)
  refine ⟨t, ?_, hto, htq, by rw [htc, List.append_assoc]⟩
  rw [Scan.feedAll?_append, hs, Option.bind_some, Scan.feedAll?_cons, Scan.feed?_blank hq,
    Option.bind_some, ho, hc]
  exact ht

/-- A part in parentheses, after a part or alone. -/
theorem call {a b : List Char} {as bs : List Lexeme} (ha : Reads a as) (hb : Reads b bs) :
    Reads (a ++ '(' :: (b ++ [')'])) (as ++ [.group bs]) := by
  intro outer before
  obtain ⟨s, hs, ho, hq, hc⟩ := ha outer before
  obtain ⟨t, ht, hto, htq, htc⟩ := hb ((before ++ as) :: outer) []
  refine ⟨⟨outer, (before ++ as) ++ [.group bs], .none⟩, ?_, rfl, rfl, by simp⟩
  rw [Scan.feedAll?_append, hs, Option.bind_some, Scan.feedAll?_cons, Scan.feed?_opening hq,
    Option.bind_some, ho, hc, Scan.feedAll?_append, ht, Option.bind_some, Scan.feedAll?_cons,
    Scan.feed?_closing htq hto, htc]
  rfl

theorem group {a : List Char} {as : List Lexeme} (ha : Reads a as) :
    Reads ('(' :: (a ++ [')'])) [.group as] := nil.call ha

end Reads

/-! ## A text that can be read by itself can be read anywhere -/

namespace Scan

variable (outer : List (List Lexeme)) (before : List Lexeme)

/-- The levels of a scan, the innermost one apart, with `before` and `outer` put below them. -/
def raised : List Lexeme → List (List Lexeme) → List Lexeme × List (List Lexeme)
  | items, [] => (before ++ items, outer)
  | items, level :: rest => (items, (raised level rest).1 :: (raised level rest).2)

def raise (s : Scan) : Scan :=
  ⟨(raised outer before s.items s.outer).2, (raised outer before s.items s.outer).1, s.word⟩

theorem raise_mk (levels : List (List Lexeme)) (items : List Lexeme) (word : OpenWord) :
    (Scan.mk levels items word).raise outer before =
      ⟨(raised outer before items levels).2, (raised outer before items levels).1, word⟩ := rfl

theorem raised_append (items more : List Lexeme) (levels : List (List Lexeme)) :
    raised outer before (items ++ more) levels =
      ((raised outer before items levels).1 ++ more, (raised outer before items levels).2) := by
  cases levels with
  | nil => simp [raised]
  | cons level rest => rfl

theorem raised_closed (s : Scan) : raised outer before s.closed s.outer =
    ((s.raise outer before).closed, (s.raise outer before).outer) := by
  unfold closed raise
  split
  · rfl
  · rw [raised_append]

theorem feed?_raise {s t : Scan} {c : Char} (h : s.feed? c = some t) :
    (s.raise outer before).feed? c = some (t.raise outer before) := by
  have hc := raised_closed outer before s
  have hword : (s.raise outer before).word = s.word := rfl
  unfold feed? at h ⊢
  rw [hword]
  split at h
  · rename_i hq
    obtain ⟨w, hw, rfl⟩ := Option.map_eq_some_iff.mp h
    rw [if_pos hq, hw]
    rfl
  · rename_i hq
    rw [if_neg hq]
    split at h
    · rename_i hb
      cases h
      rw [if_pos hb, raise_mk outer before s.outer s.closed, hc]
    · rename_i hb
      rw [if_neg hb]
      split at h
      · rename_i ho
        cases h
        have hn : raised outer before [] (s.closed :: s.outer) =
            ([], (s.raise outer before).closed :: (s.raise outer before).outer) := by
          rw [raised.eq_2, hc]
        rw [if_pos ho, raise_mk outer before (s.closed :: s.outer) [], hn]
      · rename_i ho
        rw [if_neg ho]
        split at h
        · rename_i hcl
          rw [if_pos hcl]
          cases hs : s.outer with
          | nil =>
            rw [hs] at h
            cases h
          | cons level rest =>
            rw [hs] at h hc
            cases h
            have hout : (s.raise outer before).outer =
                (raised outer before level rest).1 :: (raised outer before level rest).2 :=
              (congrArg Prod.snd hc).symm
            have hclosed : (s.raise outer before).closed = s.closed :=
              (congrArg Prod.fst hc).symm
            rw [hout, hclosed, raise_mk outer before rest, raised_append]
        · rename_i hcl
          obtain ⟨w, hw, rfl⟩ := Option.map_eq_some_iff.mp h
          rw [if_neg hcl, hw]
          rfl

theorem feedAll?_raise {cs : List Char} : ∀ {s t : Scan}, s.feedAll? cs = some t →
    (s.raise outer before).feedAll? cs = some (t.raise outer before) := by
  induction cs with
  | nil =>
    intro s t h
    cases h
    rfl
  | cons c rest ih =>
    intro s t h
    rw [feedAll?_cons] at h
    obtain ⟨u, hu, ht⟩ := Option.bind_eq_some_iff.mp h
    rw [feedAll?_cons, feed?_raise outer before hu, Option.bind_some]
    exact ih ht

end Scan

theorem lexemes?_eq_some {text : String} {items : List Lexeme} (h : lexemes? text = some items) :
    ∃ s, Scan.start.feedAll? text.toList = some s ∧ s.outer = [] ∧ s.word.quote = none ∧
      s.closed = items := by
  unfold lexemes? at h
  cases hs : Scan.start.feedAll? text.toList with
  | none =>
    rw [hs] at h
    cases h
  | some s =>
    rw [hs] at h
    simp only [Option.ite_none_right_eq_some, Bool.and_eq_true, List.isEmpty_iff,
      Option.isNone_iff_eq_none, Option.some.injEq] at h
    exact ⟨s, rfl, h.1.1, h.1.2, h.2⟩

theorem reads_iff_lexemes? {text : String} {items : List Lexeme} :
    Reads text.toList items ↔ lexemes? text = some items := by
  constructor
  · intro h
    obtain ⟨s, hs, ho, hq, hc⟩ := h [] []
    have hs' : Scan.start.feedAll? text.toList = some s := hs
    unfold lexemes?
    rw [hs']
    simp [ho, hq, hc]
  · intro h outer before
    obtain ⟨s, hs, ho, hq, hc⟩ := lexemes?_eq_some h
    have hr := Scan.raised_closed outer before s
    rw [ho, hc, Scan.raised, Prod.mk.injEq] at hr
    have hb : Scan.start.raise outer before = ⟨outer, before, .none⟩ := by
      simp [Scan.raise, Scan.start, Scan.raised]
    refine ⟨s.raise outer before, ?_, hr.2.symm, hq, hr.1.symm⟩
    rw [← hb]
    exact Scan.feedAll?_raise outer before hs

end RentalGuard.Sql
