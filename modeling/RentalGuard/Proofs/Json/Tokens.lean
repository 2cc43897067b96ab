import RentalGuard.Json.Reader
import RentalGuard.Proofs.Json.Doubles
import RentalGuard.Proofs.Json.Leaves
import RentalGuard.Proofs.Json.Strings

/-! # The tokens of a written value

The text of a value falls into the tokens of which the value consists, whatever stands after it, as
long as a number at its end does not go on. Only a number may be read as another one than the one
that was written.
-/

namespace RentalGuard.Json

open Text

/-! ## Single tokens -/

/-- The characters are read as the tokens, whatever stands after them. -/
def ReadAs (cs : List Char) (ts : List Token) : Prop :=
  ∀ rest, tokens? (cs ++ rest) = (tokens? rest).map (ts ++ ·)

/-- The same, but what stands after the characters does not go on with a number. -/
def ReadAsNumber (cs : List Char) (ts : List Token) : Prop :=
  ∀ rest, EndsRun isNumberChar rest → tokens? (cs ++ rest) = (tokens? rest).map (ts ++ ·)

section

variable {cs cs' : List Char} {ts ts' : List Token}

theorem ReadAs.readAsNumber (h : ReadAs cs ts) : ReadAsNumber cs ts := fun rest _ => h rest

theorem ReadAsNumber.append (h : ReadAsNumber cs ts) (h' : ReadAs cs' ts')
    (hends : ∀ rest, EndsRun isNumberChar (cs' ++ rest)) : ReadAs (cs ++ cs') (ts ++ ts') := by
  intro rest
  rw [List.append_assoc, h _ (hends rest), h' rest, Option.map_map]
  exact congrArg (Option.map · _) (funext fun more => (List.append_assoc ts ts' more).symm)

theorem ReadAs.append (h : ReadAs cs ts) (h' : ReadAs cs' ts') :
    ReadAs (cs ++ cs') (ts ++ ts') := by
  intro rest
  rw [List.append_assoc, h, h' rest, Option.map_map]
  exact congrArg (Option.map · _) (funext fun more => (List.append_assoc ts ts' more).symm)

end

theorem readAs_string (s : String) : ReadAs (stringChars s) [.text (some s)] := by
  intro rest
  have hsplit := splitQuote_flatMap_escaped s.toList rest
  have hchars : stringChars s ++ rest = '"' :: (s.toList.flatMap escaped ++ '"' :: rest) := by
    simp [stringChars]
  rw [hchars, tokens?.eq_def]
  dsimp only
  rw [if_neg (by decide), if_pos (by decide)]
  split
  · rename_i hnone
    rw [hsplit] at hnone
    cases hnone
  · rename_i body after hsome
    rw [hsplit] at hsome
    cases hsome
    rw [unescape_flatMap_escaped]
    cases tokens? rest <;> simp

theorem ne_of_isNumberChar {c : Char} (h : isNumberChar c = true) :
    isSpacing c = false ∧ (c == '"') = false := by
  have hother : ∀ d : Char, isNumberChar d = false → (c == d) = false := fun d hd =>
    beq_false_of_ne fun hcd => by simp [← hcd, h] at hd
  refine ⟨?_, hother '"' rfl⟩
  unfold isSpacing
  rw [hother ' ' rfl, hother '\t' rfl, hother '\n' rfl, hother '\r' rfl]
  rfl

/-- A number is read together with all characters that can stand in it. -/
theorem readAsNumber_numeral {n : Numeral} (h : n.IsWritten) :
    ReadAsNumber n.chars [.scalar n.value] := by
  intro rest hrest
  have hcs : ∀ c ∈ n.chars, isNumberChar c = true := fun _ hc =>
    Numeral.isNumberChar_of_mem_chars h hc
  have hread : number? n.chars = some n.value := by
    rw [number?, Numeral.numeral?_chars h, Option.map_some]
  cases hchars : n.chars with
  | nil =>
    rw [hchars] at hread
    cases hread
  | cons c more =>
    rw [hchars] at hcs hread
    obtain ⟨hc, hmore⟩ := List.forall_mem_cons.mp hcs
    obtain ⟨hspacing, hquote⟩ := ne_of_isNumberChar hc
    rw [List.cons_append, tokens?.eq_def]
    dsimp only
    rw [if_neg (by simp [hspacing]), if_neg (by simp [hquote]), if_pos hc,
      takeWhile_run hmore hrest, dropWhile_run hmore hrest, hread]
    cases tokens? rest <;> simp

/-- The characters that are tokens by themselves. -/
def mark? : Char → Option Token
  | '[' => some .openArray
  | ']' => some .closeArray
  | '\x7b' => some .openObject
  | '\x7d' => some .closeObject
  | ',' => some .comma
  | ':' => some .colon
  | _ => none

theorem readAs_mark {c : Char} {t : Token} (h : mark? c = some t) : ReadAs [c] [t] := by
  intro rest
  show tokens? (c :: rest) = _
  unfold mark? at h
  split at h
  all_goals
    cases h
    try
      rw [tokens?, if_neg (by decide), if_neg (by decide), if_neg (by decide)]
      rfl

theorem readAs_null : ReadAs null.chars [.scalar null] := by
  intro rest
  show tokens? ('n' :: 'u' :: 'l' :: 'l' :: rest) = _
  rw [tokens?, if_neg (by decide), if_neg (by decide), if_neg (by decide)]
  rfl

theorem readAs_bool (b : Bool) : ReadAs (bool b).chars [.scalar (bool b)] := by
  intro rest
  cases b with
  | true =>
    show tokens? ('t' :: 'r' :: 'u' :: 'e' :: rest) = _
    rw [tokens?, if_neg (by decide), if_neg (by decide), if_neg (by decide)]
    rfl
  | false =>
    show tokens? ('f' :: 'a' :: 'l' :: 's' :: 'e' :: rest) = _
    rw [tokens?, if_neg (by decide), if_neg (by decide), if_neg (by decide)]
    rfl

/-! ## Values -/

/-- What the text of a leaf is read as. -/
def rereadLeaf : Json → Json
  | integer n => (Numeral.ofInt n).value
  | double d => d.numeral.value
  | unreadable => null
  | v => v

/-- What the text of a value is read as. -/
def reread (v : Json) : Json := v.mapLeaves rereadLeaf

theorem keepsLeaves_rereadLeaf : KeepsLeaves rereadLeaf where
  isLeaf {v} h := by
    have hvalue : ∀ {w : Json}, Numeral.IsValue w → w.IsLeaf := fun hw => by cases hw <;> trivial
    cases v with
    | integer n => exact hvalue (Numeral.isValue _)
    | double d => exact hvalue (Numeral.isValue _)
    | array _ | object _ => exact h.elim
    | _ => trivial
  string {v s} h hs := by
    have hvalue : ∀ {w : Json}, Numeral.IsValue w → w ≠ string s := fun hw => by
      cases hw <;> exact fun h => nomatch h
    cases v with
    | integer n => exact absurd hs (hvalue (Numeral.isValue _))
    | double d => exact absurd hs (hvalue (Numeral.isValue _))
    | unreadable => cases hs
    | _ => exact hs

/-- The text of the leaf is read as the leaf: a whole number has 64 bits, and a double is read from
its text. -/
def Legible : Json → Prop
  | integer n => FitsInteger n
  | double d => d.ReadsBack
  | unreadable => False
  | _ => True

theorem rereadLeaf_eq_self_iff : ∀ {v : Json}, rereadLeaf v = v ↔ v.Legible
  | null | bool _ | string _ | array _ | object _ => by
    all_goals exact iff_of_true rfl trivial
  | integer n => by
    refine ⟨fun h => ?_, fun h => Numeral.value_of_integer? (Numeral.integer?_ofInt h)⟩
    have hvalue := (Numeral.ofInt n).isValue
    rw [show (Numeral.ofInt n).value = integer n from h] at hvalue
    cases hvalue
    assumption
  | double _ => Double.value_numeral_eq_iff
  | unreadable => iff_of_false (fun h => nomatch h) id

theorem reread_eq_self_iff {v : Json} : v.reread = v ↔ v.Every Legible :=
  mapLeaves_eq_self_iff.trans ⟨Every.imp fun _ => rereadLeaf_eq_self_iff.mp,
    Every.imp fun _ => rereadLeaf_eq_self_iff.mpr⟩

mutual

/-- The tokens of which a written value consists. -/
def tokens : Json → List Token
  | string s => [.text (some s)]
  | array [] => [.openArray, .closeArray]
  | array (v :: rest) => .openArray :: v.tokens ++ restTokens rest
  | object [] => [.openObject, .closeObject]
  | object ((k, v) :: rest) =>
    .openObject :: .text (some k) :: .colon :: v.tokens ++ restFieldTokens rest
  | v => [.scalar v]

/-- The tokens of the items after the first one, and of the end of the array. -/
def restTokens : List Json → List Token
  | [] => [.closeArray]
  | v :: rest => .comma :: v.tokens ++ restTokens rest

/-- The tokens of the fields after the first one, and of the end of the object. -/
def restFieldTokens : List (String × Json) → List Token
  | [] => [.closeObject]
  | (k, v) :: rest => .comma :: .text (some k) :: .colon :: v.tokens ++ restFieldTokens rest

end

/-- The value of a number is one token. -/
theorem readAsNumber_value {n : Numeral} (h : n.IsWritten) :
    ReadAsNumber n.chars n.value.tokens := by
  have htokens : ∀ {v : Json}, Numeral.IsValue v → v.tokens = [.scalar v] := fun h => by
    cases h <;> rfl
  rw [htokens n.isValue]
  exact readAsNumber_numeral h

theorem endsRun_restChars (items : List Json) (rest : List Char) :
    EndsRun isNumberChar (restChars items ++ rest) := by
  cases items <;> exact endsRun_cons rfl

theorem endsRun_restFieldChars (fields : List (String × Json)) (rest : List Char) :
    EndsRun isNumberChar (restFieldChars fields ++ rest) := by
  rcases fields with _ | ⟨⟨k, v⟩, more⟩ <;> exact endsRun_cons rfl

theorem readAs_key (k : String) :
    ReadAs (stringChars k ++ [':']) [.text (some k), .colon] :=
  (readAs_string k).append (readAs_mark rfl)

mutual

/-- The text of a value is read as tokens. -/
theorem readAs_chars : ∀ v : Json, ReadAsNumber v.chars v.reread.tokens
  | null => readAs_null.readAsNumber
  | bool b => (readAs_bool b).readAsNumber
  | integer n => by
    rw [chars, ← Numeral.chars_ofInt]
    exact readAsNumber_value (Numeral.isWritten_ofInt n)
  | double _ => readAsNumber_value Double.isWritten_numeral
  | string s => (readAs_string s).readAsNumber
  | unreadable => readAs_null.readAsNumber
  | array [] => ((readAs_mark rfl).append (readAs_mark rfl)).readAsNumber
  | array (v :: more) => by
    have hitems := (readAs_chars v).append (readAs_restChars more) (endsRun_restChars more)
    exact ((readAs_mark (c := '[') rfl).append hitems).readAsNumber
  | object [] => ((readAs_mark rfl).append (readAs_mark rfl)).readAsNumber
  | object ((k, v) :: more) => by
    have hfields := (readAs_chars v).append (readAs_restFieldChars more)
      (endsRun_restFieldChars more)
    have hall := (readAs_mark (c := '\x7b') rfl).append ((readAs_key k).append hfields)
    simpa only [chars, reread, mapLeaves, mapFields, tokens, List.append_assoc, List.cons_append,
      List.nil_append] using hall.readAsNumber

theorem readAs_restChars : ∀ items : List Json,
    ReadAs (restChars items) (restTokens (mapItems rereadLeaf items))
  | [] => readAs_mark rfl
  | v :: more => by
    have hitems := (readAs_chars v).append (readAs_restChars more) (endsRun_restChars more)
    exact (readAs_mark (c := ',') rfl).append hitems

theorem readAs_restFieldChars : ∀ fields : List (String × Json),
    ReadAs (restFieldChars fields) (restFieldTokens (mapFields rereadLeaf fields))
  | [] => readAs_mark rfl
  | (k, v) :: more => by
    have hfields := (readAs_chars v).append (readAs_restFieldChars more)
      (endsRun_restFieldChars more)
    have hall := (readAs_mark (c := ',') rfl).append ((readAs_key k).append hfields)
    simpa only [restFieldChars, reread, mapFields, restFieldTokens, List.append_assoc,
      List.cons_append, List.nil_append] using hall

end

end RentalGuard.Json
