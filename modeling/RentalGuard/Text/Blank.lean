/-! Blank characters and trimming. One class serves everywhere: the 25 code points with the
Unicode property White_Space. -/

namespace RentalGuard.Text

/-- Whether the character has the property White_Space. The zero-width characters and the
information separators U+001C to U+001F do not have it. -/
def isBlank (c : Char) : Bool :=
  let n := c.toNat
  (9 ≤ n && n ≤ 13) || n == 0x20 || n == 0x85 || n == 0xA0 || n == 0x1680 ||
    (0x2000 ≤ n && n ≤ 0x200A) || n == 0x2028 || n == 0x2029 || n == 0x202F ||
    n == 0x205F || n == 0x3000

/-- No visible ASCII character is blank. -/
theorem isBlank_of_visible {c : Char} (hl : 0x21 ≤ c.toNat) (hu : c.toNat ≤ 0x7E) :
    isBlank c = false := by
  simp only [isBlank, Bool.or_eq_false_iff, Bool.and_eq_false_iff, decide_eq_false_iff_not,
    beq_eq_false_iff_ne]
  omega

/-- The characters that are not blank, in order. -/
def withoutBlanks (cs : List Char) : List Char := cs.filter fun c => !isBlank c

def trimStart (cs : List Char) : List Char := cs.dropWhile isBlank

def trimEnd (cs : List Char) : List Char := (cs.reverse.dropWhile isBlank).reverse

/-- The text between the first and the last character that is not blank. -/
def trim (cs : List Char) : List Char := trimEnd (trimStart cs)

theorem trimStart_eq_self {cs : List Char} (h : ∀ c ∈ cs.head?, isBlank c = false) :
    trimStart cs = cs := by
  cases cs with
  | nil => rfl
  | cons c rest => exact List.dropWhile_cons_of_neg (by simp [h c rfl])

theorem trimStart_append {before rest : List Char} (h : ∀ c ∈ before, isBlank c = true) :
    trimStart (before ++ rest) = trimStart rest :=
  List.dropWhile_append_of_pos h

theorem trimEnd_eq (cs : List Char) : trimEnd cs = (trimStart cs.reverse).reverse := rfl

/-- Blanks around a text that neither starts nor ends with one are all that trimming takes. -/
theorem trim_padded {before core after : List Char} (hbefore : ∀ c ∈ before, isBlank c = true)
    (hafter : ∀ c ∈ after, isBlank c = true) (hhead : ∀ c ∈ core.head?, isBlank c = false)
    (hlast : ∀ c ∈ core.getLast?, isBlank c = false) :
    trim (before ++ core ++ after) = core := by
  have hstart : trimStart (before ++ core ++ after) = trimStart (core ++ after) := by
    rw [List.append_assoc, trimStart_append hbefore]
  cases core with
  | nil =>
    have hnil : trimStart (after ++ []) = [] := trimStart_append hafter
    rw [trim, hstart, List.nil_append, ← List.append_nil after, hnil]
    rfl
  | cons c rest =>
    have hkept : trimStart (c :: rest ++ after) = c :: rest ++ after :=
      trimStart_eq_self fun d hd => hhead d hd
    have hreverse : ∀ d ∈ (c :: rest).reverse.head?, isBlank d = false := by
      rw [List.head?_reverse]
      exact hlast
    rw [trim, hstart, hkept, trimEnd_eq, List.reverse_append,
      trimStart_append fun d hd => hafter d (List.mem_reverse.mp hd),
      trimStart_eq_self hreverse, List.reverse_reverse]

/-- Trimming takes blanks at both ends and nothing else. -/
theorem exists_padded_trim (cs : List Char) : ∃ before after, cs = before ++ trim cs ++ after ∧
    (∀ c ∈ before, isBlank c = true) ∧ ∀ c ∈ after, isBlank c = true := by
  have hblank : ∀ ds : List Char, ∀ c ∈ ds.takeWhile isBlank, isBlank c = true := by
    intro ds c hc
    exact List.all_eq_true.mp List.all_takeWhile c hc
  refine ⟨cs.takeWhile isBlank, ((trimStart cs).reverse.takeWhile isBlank).reverse, ?_, hblank cs,
    fun c hc => hblank _ c (List.mem_reverse.mp hc)⟩
  have hend : trim cs ++ ((trimStart cs).reverse.takeWhile isBlank).reverse = trimStart cs := by
    rw [trim, trimEnd, ← List.reverse_append, List.takeWhile_append_dropWhile,
      List.reverse_reverse]
  rw [List.append_assoc, hend, trimStart, List.takeWhile_append_dropWhile]

theorem trim_eq_self {cs : List Char} (h : ∀ c ∈ cs, isBlank c = false) : trim cs = cs := by
  have hp : trim ([] ++ cs ++ []) = cs :=
    trim_padded (by simp) (by simp) (fun c hc => h c (List.mem_of_head? hc))
      fun c hc => h c (List.mem_of_getLast? hc)
  simpa using hp

theorem isBlank_of_mem_head?_trimStart {cs : List Char} {c : Char}
    (h : c ∈ (trimStart cs).head?) : isBlank c = false := by
  have hstart := List.head?_dropWhile_not isBlank cs
  rw [trimStart, Option.mem_def] at h
  rw [h] at hstart
  exact hstart

/-- Nothing is left to trim after trimming. -/
theorem trim_trim (cs : List Char) : trim (trim cs) = trim cs := by
  have hkept : trim cs <+: trimStart cs := by
    rw [← List.reverse_suffix, trim, trimEnd_eq, List.reverse_reverse]
    exact List.dropWhile_suffix isBlank
  obtain ⟨rest, hrest⟩ := hkept
  have hhead : ∀ c ∈ (trim cs).head?, isBlank c = false := by
    intro c hc
    have hfirst : c ∈ (trimStart cs).head? := by
      rw [← hrest, List.head?_append, Option.mem_def.mp hc]
      exact Option.mem_some_self c
    exact isBlank_of_mem_head?_trimStart hfirst
  have hlast : ∀ c ∈ (trim cs).getLast?, isBlank c = false := by
    intro c hc
    rw [trim, trimEnd_eq, List.getLast?_reverse] at hc
    exact isBlank_of_mem_head?_trimStart hc
  have hagain : trim ([] ++ trim cs ++ []) = trim cs :=
    trim_padded (by simp) (by simp) hhead hlast
  rwa [List.nil_append, List.append_nil] at hagain

/-- Trimming on strings. -/
def trimmed (s : String) : String := String.ofList (trim s.toList)

/-- Whether nothing is left after trimming. -/
def isBlankText (s : String) : Bool := (trim s.toList).isEmpty

@[simp] theorem toList_trimmed (s : String) : (trimmed s).toList = trim s.toList := by
  simp [trimmed]

end RentalGuard.Text
