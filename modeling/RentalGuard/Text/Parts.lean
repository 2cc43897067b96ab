/-! Lists in text: parts with a separator between them. -/

namespace RentalGuard.Text

/-- The parts of a text between separators. There is one more part than separators. -/
def parts (separator : Char) : List Char → List (List Char)
  | [] => [[]]
  | c :: rest =>
    if c = separator then [] :: parts separator rest
    else match parts separator rest with
      | part :: others => (c :: part) :: others
      | [] => [[c]]

/-- The parts with a separator between each and the next. -/
def joined (separator : Char) : List (List Char) → List Char
  | [] => []
  | [part] => part
  | part :: rest => part ++ separator :: joined separator rest

theorem joined_ne_nil {separator : Char} {first : List Char} {rest : List (List Char)}
    (h : first ≠ []) : joined separator (first :: rest) ≠ [] := by
  cases rest with
  | nil => exact h
  | cons second others => simp [joined]

theorem parts_of_notMem {separator : Char} : ∀ {cs : List Char}, separator ∉ cs →
    parts separator cs = [cs]
  | [], _ => rfl
  | c :: rest, h => by
    rw [List.mem_cons, not_or] at h
    simp [parts, Ne.symm h.1, parts_of_notMem h.2]

theorem parts_append {separator : Char} {after : List Char} : ∀ {cs : List Char},
    separator ∉ cs → parts separator (cs ++ separator :: after) = cs :: parts separator after
  | [], _ => by simp [parts]
  | c :: rest, h => by
    rw [List.mem_cons, not_or] at h
    simp [parts, Ne.symm h.1, parts_append h.2]

/-- Parts that do not hold the separator can be told apart again. -/
theorem parts_joined {separator : Char} : ∀ {ps : List (List Char)}, ps ≠ [] →
    (∀ p ∈ ps, separator ∉ p) → parts separator (joined separator ps) = ps
  | [p], _, h => parts_of_notMem (h p (by simp))
  | p :: q :: rest, _, h => by
    rw [joined, parts_append (h p (by simp)),
      parts_joined (by simp) fun r hr => h r (List.mem_cons_of_mem _ hr)]
    simp

theorem parts_eq_splitOn {separator : Char} : ∀ cs : List Char,
    parts separator cs = cs.splitOn separator
  | [] => (List.splitOn_nil separator).symm
  | c :: rest => by
    obtain ⟨part, others, hparts⟩ :=
      List.exists_cons_of_ne_nil (List.splitOn_ne_nil separator rest)
    rw [List.splitOn_cons_eq_if_modifyHead, parts, parts_eq_splitOn rest, hparts]
    by_cases hc : c = separator
    · rw [if_pos hc, if_pos (beq_iff_eq.mpr hc)]
    · rw [if_neg hc, if_neg (by simpa using hc)]
      rfl

/-! ## Runs -/

section
variable {α : Type} {p : α → Bool} {run rest : List α}

/-- The list does not go on with an item of the kind. -/
def EndsRun (p : α → Bool) (rest : List α) : Prop := ∀ c ∈ rest.head?, p c = false

theorem endsRun_nil : EndsRun p [] := fun _ h => by cases h

theorem endsRun_cons {c : α} (h : p c = false) : EndsRun p (c :: rest) := by
  rintro d ⟨⟩
  exact h

theorem takeWhile_run (hrun : ∀ c ∈ run, p c = true) (hrest : EndsRun p rest) :
    (run ++ rest).takeWhile p = run := by
  rw [List.takeWhile_append_of_pos hrun]
  cases rest with
  | nil => exact List.append_nil run
  | cons c more =>
    rw [List.takeWhile_cons_of_neg (by simp [hrest c rfl]), List.append_nil]

theorem dropWhile_run (hrun : ∀ c ∈ run, p c = true) (hrest : EndsRun p rest) :
    (run ++ rest).dropWhile p = rest := by
  rw [List.dropWhile_append_of_pos hrun]
  cases rest with
  | nil => rfl
  | cons c more => exact List.dropWhile_cons_of_neg (by simp [hrest c rfl])

end

/-! ## At the first separator -/

section
variable {α : Type} [BEq α] [LawfulBEq α] {separator : α}

/-- The first separator divides a list into what is before it and the rest. -/
theorem divided_at {before : List α} (h : separator ∉ before) (after : List α) :
    (before ++ separator :: after).takeWhile (· != separator) = before ∧
      (before ++ separator :: after).dropWhile (· != separator) = separator :: after := by
  have hbefore : ∀ c ∈ before, (c != separator) = true := fun c hc =>
    bne_iff_ne.mpr fun hsame => h (hsame ▸ hc)
  have hafter : EndsRun (· != separator) (separator :: after) := endsRun_cons (bne_self_eq_false _)
  exact ⟨takeWhile_run hbefore hafter, dropWhile_run hbefore hafter⟩

theorem divided_inj {before before' after after' : List α} (hbefore : separator ∉ before)
    (hbefore' : separator ∉ before')
    (h : before ++ separator :: after = before' ++ separator :: after') :
    before = before' ∧ after = after' := by
  obtain ⟨htake, hdrop⟩ := divided_at hbefore after
  obtain ⟨htake', hdrop'⟩ := divided_at hbefore' after'
  rw [h] at htake hdrop
  exact ⟨htake.symm.trans htake', List.tail_eq_of_cons_eq (hdrop.symm.trans hdrop')⟩

end

end RentalGuard.Text
