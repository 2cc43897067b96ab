import RentalGuard.Proofs.Sql.Lexemes

/-! # The text of a condition means what the condition means

However conditions are put together, their text is one operand: it holds no connective outside
parentheses. Read with the values that the query binds, it has the truth that `Condition.holds?`
gives, and AND with it keeps the rows that both sides keep. -/

namespace RentalGuard.Sql

namespace Query

theorem binds_append (as bs : List Piece) :
    (Query.mk (as ++ bs)).binds = (Query.mk as).binds ++ (Query.mk bs).binds := by
  unfold binds
  rw [List.filterMap_append]

theorem render_append (used : Nat) (as bs : List Piece) :
    render used (as ++ bs) = render used as ++ render (used + (Query.mk as).binds.length) bs := by
  induction as generalizing used with
  | nil => simp [render, binds]
  | cons piece rest ih =>
    cases piece with
    | text s => simp [render, ih, binds, String.append_assoc]
    | bound values =>
      have hn : used + 1 + (Query.mk rest).binds.length =
          used + ((Query.mk rest).binds.length + 1) := by omega
      simp only [binds] at hn
      simp [render, ih, binds, String.append_assoc, hn]

end Query

/-! ## Words -/

theorem extend?_digit {cs : List Char} {d : Char} (h : d.isDigit = true) :
    OpenWord.extend? ⟨cs, none⟩ d = some ⟨cs ++ [d], none⟩ := by
  have hb : Text.isBlank d = false := by
    simp only [Char.isDigit, Bool.and_eq_true, decide_eq_true_eq] at h
    exact Text.isBlank_of_visible (Nat.le_trans (by decide) h.1) (Nat.le_trans h.2 (by decide))
  have hne : ∀ x : Char, x.isDigit = false → d ≠ x := by
    intro x hx he
    rw [← he, h] at hx
    cases hx
  simp [OpenWord.extend?, OpenWord.hides, hb, hne]

theorem isWord_place (n : Nat) : IsWord ("$" ++ toString n) := by
  have hd : ∀ (cs ds : List Char), (∀ d ∈ ds, d.isDigit = true) →
      ds.foldlM OpenWord.extend? ⟨cs, none⟩ = some ⟨cs ++ ds, none⟩ := by
    intro cs ds
    induction ds generalizing cs with
    | nil => simp
    | cons d rest ih =>
      intro h
      obtain ⟨hf, hr⟩ := List.forall_mem_cons.mp h
      rw [List.foldlM_cons, extend?_digit hf, Option.bind_eq_bind, Option.bind_some, ih _ hr]
      simp
  have ht : ("$" ++ toString n).toList = '$' :: (toString n).toList := by simp
  refine ⟨by rw [ht]; simp, ?_⟩
  rw [ht, List.foldlM_cons]
  exact hd ['$'] _ fun d hm => Text.isDigit_of_mem_toString hm

namespace Condition

/-- Whether the condition asks for this column and no other. -/
def On (column : String) : Condition → Prop
  | always => True
  | isNull name => name = column
  | equalsAny name _ => name = column
  | either left right => left.On column ∧ right.On column

/-- The values that the condition binds, in order. -/
def binds (c : Condition) : List (List String) := (Query.mk c.pieces).binds

/-- The items of the text of a condition before which `used` values have been bound. -/
def items (used : Nat) : Condition → List Lexeme
  | always => [.word "TRUE"]
  | isNull column => [.word column, .word "IS", .word "NULL"]
  | equalsAny column _ =>
    [.word column, .word "=", .word "ANY", .group [.word ("$" ++ toString (used + 1))]]
  | either left right =>
    [.group (left.items used ++ .word "OR" :: right.items (used + left.binds.length))]

theorem reads_render {column : String} (hcolumn : IsWord column) (c : Condition) :
    c.On column → ∀ used, Reads (Query.render used c.pieces).toList (c.items used) := by
  induction c with
  | always =>
    intro _ used
    have h : IsWord "TRUE" := by decide
    exact h.reads
  | isNull name =>
    intro hon used
    have hname : IsWord name := hon ▸ hcolumn
    have his : IsWord "IS" := by decide
    have hnull : IsWord "NULL" := by decide
    have h := hname.reads.blank (.blank his.reads hnull.reads)
    simpa [pieces, Query.render, items] using h
  | equalsAny name values =>
    intro hon used
    have hname : IsWord name := hon ▸ hcolumn
    have hequals : IsWord "=" := by decide
    have hany : IsWord "ANY" := by decide
    have h := hname.reads.blank (.blank hequals.reads
      (.call hany.reads (isWord_place (used + 1)).reads))
    simpa [pieces, Query.render, items] using h
  | either left right ihl ihr =>
    intro hon used
    have hor : IsWord "OR" := by decide
    have h := Reads.group (.blank (ihl hon.1 used)
      (.blank hor.reads (ihr hon.2 (used + left.binds.length))))
    simpa [pieces, Query.render, Query.render_append, items, binds] using h

end Condition

/-! ## Truth -/

namespace Truth

@[simp] theorem both_true (t : Truth) : both t (some true) = t := by
  cases t with
  | none => rfl
  | some b => cases b <;> rfl

@[simp] theorem true_both (t : Truth) : both (some true) t = t := by
  cases t with
  | none => rfl
  | some b => cases b <;> rfl

@[simp] theorem either_false (t : Truth) : either t (some false) = t := by
  cases t with
  | none => rfl
  | some b => cases b <;> rfl

theorem both_assoc (a b c : Truth) : both (both a b) c = both a (both b c) := by
  rcases a with _ | _ | _ <;> rcases b with _ | _ | _ <;> rcases c with _ | _ | _ <;> rfl

theorem both_eq_true {a b : Truth} : both a b = some true ↔ a = some true ∧ b = some true := by
  rcases a with _ | _ | _ <;> rcases b with _ | _ | _ <;> decide

theorem either_assoc (a b c : Truth) : either (either a b) c = either a (either b c) := by
  rcases a with _ | _ | _ <;> rcases b with _ | _ | _ <;> rcases c with _ | _ | _ <;> rfl

theorem false_either (t : Truth) : either (some false) t = t := by
  rcases t with _ | _ | _ <;> rfl

theorem true_either (t : Truth) : either (some true) t = some true := by
  rcases t with _ | _ | _ <;> rfl

theorem foldr_either_append (ts us : List Truth) :
    (ts ++ us).foldr either (some false) =
      either (ts.foldr either (some false)) (us.foldr either (some false)) := by
  induction ts with
  | nil => exact (false_either _).symm
  | cons first rest ih => rw [List.cons_append, List.foldr_cons, ih, List.foldr_cons, either_assoc]

theorem foldr_both_concat (ts : List Truth) (t : Truth) :
    (ts ++ [t]).foldr both (some true) = both (ts.foldr both (some true)) t := by
  induction ts with
  | nil => simp
  | cons first rest ih => simp [ih, both_assoc]

end Truth

/-- Items among which there is no connective. -/
def Plain (items : List Lexeme) : Prop := ∀ i ∈ items, ∀ k ∈ connectives, i.spells k = false

namespace Plain

variable {items : List Lexeme}

theorem splitOnP (h : Plain items) {k : String} (hk : k ∈ connectives) :
    items.splitOnP (·.spells k) = [items] :=
  List.splitOnP_eq_singleton fun i hi => h i hi k hk

theorem truth (h : Plain items) (test : List Lexeme → Truth) :
    truth test items = operandTruth test items := by
  rw [truth_eq, h.splitOnP (by decide)]
  simp [h.splitOnP (k := "AND") (by decide)]

/-- Words without a connective are a test. -/
theorem truth_test (h : Plain items) (hg : ∀ inner, items ≠ [.group inner])
    (test : List Lexeme → Truth) : Sql.truth test items = test items := by
  have hd : items.dropWhile (·.spells "NOT") = items ∧ items.takeWhile (·.spells "NOT") = [] := by
    cases items with
    | nil => exact ⟨rfl, rfl⟩
    | cons i rest =>
      have hn : i.spells "NOT" = false := h i List.mem_cons_self "NOT" (by decide)
      simp [hn]
  rw [h.truth, operandTruth]
  -- the case of a lone group is excluded by `hg`
  simp only [hd.1, hd.2, List.length_nil, Nat.zero_mod, if_true]

end Plain

variable {test : List Lexeme → Truth} {ls rs : List Lexeme}

theorem plain_group (inner : List Lexeme) : Plain [.group inner] := by
  intro i hi k _
  rw [List.mem_singleton] at hi
  rw [hi]
  rfl

theorem truth_group (inner : List Lexeme) : truth test [.group inner] = truth test inner :=
  (plain_group inner).truth test

/-- OR takes all that is before it and all that is behind it. -/
theorem truth_or (ls rs : List Lexeme) :
    truth test (ls ++ .word "OR" :: rs) = (truth test ls).either (truth test rs) := by
  rw [truth_eq, List.splitOnP_append_cons ls rs (by decide), List.map_append,
    Truth.foldr_either_append, ← truth_eq, ← truth_eq]

/-- AND takes the whole of what is before it if that has no OR outside parentheses. -/
theorem truth_and (hl : ∀ i ∈ ls, i.spells "OR" = false) (hr : Plain rs) :
    truth test (ls ++ .word "AND" :: rs) = (truth test ls).both (truth test rs) := by
  have hor : ∀ i ∈ ls ++ .word "AND" :: rs, i.spells "OR" = false := by
    intro i hi
    rcases List.mem_append.mp hi with hi | hi
    · exact hl i hi
    · rcases List.mem_cons.mp hi with he | hi
      · rw [he]
        decide
      · exact hr i hi "OR" (by decide)
  have hls : ls.splitOnP (·.spells "OR") = [ls] := List.splitOnP_eq_singleton hl
  rw [truth_eq, List.splitOnP_eq_singleton hor, truth_eq test ls, hls, hr.truth test]
  simp only [List.map_cons, List.map_nil, List.foldr_cons, List.foldr_nil, Truth.either_false]
  rw [List.splitOnP_append_cons ls rs (by decide), hr.splitOnP (by decide), List.map_append,
    List.map_cons, List.map_nil, Truth.foldr_both_concat]

namespace Condition

theorem plain_items {column : String} (hcolumn : IsName column) {c : Condition}
    (hc : c.On column) (used : Nat) : Plain (c.items used) := by
  cases c with
  | always => unfold Plain items; decide
  | isNull name =>
    have hname : IsName name := hc ▸ hcolumn
    intro i hi
    simp only [items, List.mem_cons, List.not_mem_nil, or_false] at hi
    rcases hi with he | he | he
    · rw [he]; exact hname.2
    · rw [he]; decide
    · rw [he]; decide
  | equalsAny name values =>
    have hname : IsName name := hc ▸ hcolumn
    intro i hi
    simp only [items, List.mem_cons, List.not_mem_nil, or_false] at hi
    rcases hi with he | he | he | he
    · rw [he]; exact hname.2
    · rw [he]; decide
    · rw [he]; decide
    · rw [he]; intro k _; rfl
  | either left right => exact plain_group _

/-- The values of a condition among those that a whole query binds. -/
def BoundAt (used : Nat) (c : Condition) (binds : List (List String)) : Prop :=
  ∀ n values, c.binds[n]? = some values → binds[used + n]? = some values

theorem truth_items {row : Row} (hcolumn : IsName row.column) {bound : List (List String)}
    (c : Condition) : c.On row.column → ∀ used, c.BoundAt used bound →
      truth (row.test bound) (c.items used) = c.holds? row.cell := by
  induction c with
  | always =>
    intro hc used _
    rw [(plain_items hcolumn hc used).truth_test (by intro inner h; cases h)]
    rfl
  | isNull name =>
    intro hc used _
    rw [(plain_items hcolumn hc used).truth_test (by intro inner h; cases h)]
    have hname : name = row.column := hc
    have hspells : (Lexeme.word "IS").spells "IS" ∧ (Lexeme.word "NULL").spells "NULL" := by decide
    exact if_pos ⟨hname, hspells⟩
  | equalsAny name values =>
    intro hc used hb
    rw [(plain_items hcolumn hc used).truth_test (by intro inner h; cases h)]
    have hname : name = row.column := hc
    have hspells : (Lexeme.word "=").spells "=" ∧ (Lexeme.word "ANY").spells "ANY" := by decide
    have hbound : Row.bound? bound ("$" ++ toString (used + 1)) = some values := by
      have hv : bound[used]? = some values := hb 0 values rfl
      have ht : ("$" ++ toString (used + 1)).toList = '$' :: (toString (used + 1)).toList := by simp
      simp only [Row.bound?, ht, Text.natural?_toString, hv]
    unfold items Row.test
    simp only [hbound]
    exact if_pos ⟨hname, hspells⟩
  | either left right ihl ihr =>
    intro hc used hb
    have hbinds : (either left right).binds = left.binds ++ right.binds := by
      simp [binds, pieces, Query.binds]
    have hbl : left.BoundAt used bound := by
      intro n values h
      refine hb n values ?_
      rw [hbinds, List.getElem?_append_left (List.getElem?_eq_some_iff.mp h).1, h]
    have hbr : right.BoundAt (used + left.binds.length) bound := by
      intro n values h
      rw [Nat.add_assoc]
      refine hb (left.binds.length + n) values ?_
      rw [hbinds, List.getElem?_append_right (Nat.le_add_right _ _), Nat.add_sub_cancel_left, h]
    rw [items, truth_group, truth_or, ihl hc.1 used hbl, ihr hc.2 _ hbr]
    rfl

/-- The text that the condition adds to a query. -/
def textIn (q : Query) (c : Condition) : String := Query.render q.binds.length c.pieces

theorem text_filter (q : Query) (c : Condition) : (q.filter c).text = q.text ++ c.textIn q := by
  unfold Query.filter Query.add Query.text textIn
  rw [Query.render_append, Nat.zero_add]

theorem boundAt_filter (q : Query) (c : Condition) :
    c.BoundAt q.binds.length (q.filter c).binds := by
  intro n values h
  have hb : (q.filter c).binds = q.binds ++ c.binds := Query.binds_append q.pieces c.pieces
  rw [hb, List.getElem?_append_right (Nat.le_add_right _ _), Nat.add_sub_cancel_left, h]

end Condition

/-- A text that can be read by itself and has no OR outside parentheses. Only such a text is as a
whole the left operand of an AND that follows it. -/
def IsConjunction (text : String) : Prop :=
  ∃ items, lexemes? text = some items ∧ ∀ i ∈ items, i.spells "OR" = false

/-- A condition as one operand. -/
def parenthesised (text : String) : String := "(" ++ text ++ ")"

theorem lexemes?_parenthesised {text : String} {items : List Lexeme}
    (h : lexemes? text = some items) : lexemes? (parenthesised text) = some [.group items] := by
  have hg := (reads_iff_lexemes?.mpr h).group
  have ht : (parenthesised text).toList = '(' :: (text.toList ++ [')']) := by simp [parenthesised]
  rw [← ht] at hg
  exact reads_iff_lexemes?.mp hg

theorem isConjunction_parenthesised {text : String} {items : List Lexeme}
    (h : lexemes? text = some items) : IsConjunction (parenthesised text) := by
  refine ⟨_, lexemes?_parenthesised h, ?_⟩
  intro i hi
  exact plain_group items i hi "OR" (by decide)

namespace Row

variable {row : Row} {c : Condition}

theorem isKept_parenthesised (row : Row) (binds : List (List String)) {text : String}
    {items : List Lexeme} (h : lexemes? text = some items) :
    row.isKept binds (parenthesised text) = row.isKept binds text := by
  unfold isKept
  rw [lexemes?_parenthesised h, h, Option.map_some, Option.map_some, truth_group]

/-- A row that passes the first alternative is returned, whatever else is asked in the second
one. -/
theorem isKept_or {binds : List (List String)} {first : String}
    (h : row.isKept binds first = true) (second : String)
    (hreads : (lexemes? second).isSome = true) :
    row.isKept binds (first ++ " OR " ++ second) = true := by
  obtain ⟨bs, hbs⟩ := Option.isSome_iff_exists.mp hreads
  cases has : lexemes? first with
  | none => simp [isKept, has] at h
  | some as =>
    have hor : IsWord "OR" := by decide
    have hl : lexemes? (first ++ " OR " ++ second) = some (as ++ .word "OR" :: bs) := by
      have hboth := (reads_iff_lexemes?.mpr has).blank
        (hor.reads.blank (reads_iff_lexemes?.mpr hbs))
      exact reads_iff_lexemes?.mp (by simpa using hboth)
    have htrue : truth (row.test binds) as = some true := by simpa [isKept, has] using h
    unfold isKept
    rw [hl, Option.map_some, truth_or, htrue, Truth.true_either]
    rfl

theorem isKept_textIn (hcolumn : IsName row.column) (hc : c.On row.column) (q : Query) :
    row.isKept (q.filter c).binds (c.textIn q) = c.keeps row.cell := by
  have hl := reads_iff_lexemes?.mp (c.reads_render hcolumn.1 hc q.binds.length)
  unfold isKept Condition.textIn
  rw [hl, Option.map_some, c.truth_items hcolumn hc _ (c.boundAt_filter q)]
  rfl

theorem isKept_and (hcolumn : IsName row.column) (hc : c.On row.column) (q : Query) {p : String}
    (hp : IsConjunction p) :
    row.isKept (q.filter c).binds (p ++ " AND " ++ c.textIn q) =
      (row.isKept (q.filter c).binds p && c.keeps row.cell) := by
  obtain ⟨ps, hps, hor⟩ := hp
  have hand : IsWord "AND" := by decide
  have hl : lexemes? (p ++ " AND " ++ c.textIn q) =
      some (ps ++ .word "AND" :: c.items q.binds.length) := by
    have h := (reads_iff_lexemes?.mpr hps).blank
      (hand.reads.blank (c.reads_render hcolumn.1 hc q.binds.length))
    apply reads_iff_lexemes?.mp
    simpa [Condition.textIn] using h
  unfold isKept
  rw [hl, hps, Option.map_some, Option.map_some, truth_and hor (Condition.plain_items hcolumn hc _),
    c.truth_items hcolumn hc _ (c.boundAt_filter q), Bool.eq_iff_iff, Bool.and_eq_true]
  simp only [Condition.keeps, beq_iff_eq, Option.some.injEq]
  exact Truth.both_eq_true

end Row

end RentalGuard.Sql
