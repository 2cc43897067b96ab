import RentalGuard.Proofs.Webhook.Spelling
import RentalGuard.Webhook.Verifier

/-! # What a header is worth

A header is malformed, forged or authentic, whatever the time is. The clock is asked only about
authentic headers, and it does not see how they are spelled: the signature is taken anew from the
time that has been read.
-/

namespace RentalGuard

/-- What the header of a notification is worth to the holder of a key. -/
inductive Standing where
  /-- The header says nothing. -/
  | malformed
  /-- The header has a signature, but not that of its time and the body. -/
  | forged
  | authentic (timestamp : Int64)

namespace WebhookVerifier

open SignatureHeader

variable {v : WebhookVerifier} {text : String} {body : List UInt8}

/-- Neither the tolerance nor the time has a part in this. -/
def Rates (v : WebhookVerifier) (text : String) (body : List UInt8) : Standing → Prop
  | .malformed => ¬HasForm text
  | .forged => ∃ header, Spells text header ∧ header.signature ≠ v.digest header.timestamp body
  | .authentic timestamp => Spells text ⟨timestamp, v.digest timestamp body⟩

/-- The answer to a header that is authentic. -/
def verdict (v : WebhookVerifier) (timestamp : Int64) (now : Instant) :
    Except SignatureError Int64 :=
  if (now.seconds - timestamp.toInt).natAbs ≤ v.toleranceSeconds then .ok timestamp
  else .error (.expired timestamp)

theorem timestamp_of_verdict {timestamp reported : Int64} {now : Instant}
    (h : v.verdict timestamp now = .ok reported ∨
      v.verdict timestamp now = .error (.expired reported)) : reported = timestamp := by
  unfold verdict at h
  split at h
  · rcases h with h | h
    · exact (Except.ok.inj h).symm
    · cases h
  · rcases h with h | h
    · cases h
    · exact (SignatureError.expired.inj (Except.error.inj h)).symm

/-- The colon is the only byte between the digits of the time and the body. -/
theorem signedBytes_eq (timestamp : Int64) (body : List UInt8) :
    signedBytes timestamp body = asciiBytes (timestampChars timestamp) ++ 0x3A :: body := by
  unfold signedBytes asciiBytes
  rw [List.map_append, List.append_assoc]
  rfl

/-! ## One standing -/

theorem exists_rates (v : WebhookVerifier) (text : String) (body : List UInt8) :
    ∃ s, v.Rates text body s := by
  by_cases hform : HasForm text
  · obtain ⟨⟨timestamp, signature⟩, hspells⟩ := hasForm_iff.mp hform
    by_cases hmac : signature = v.digest timestamp body
    · subst hmac
      exact ⟨.authentic timestamp, hspells⟩
    · exact ⟨.forged, ⟨timestamp, signature⟩, hspells, hmac⟩
  · exact ⟨.malformed, hform⟩

theorem Rates.not_malformed {header : SignatureHeader} (h : Spells text header) :
    ¬v.Rates text body .malformed := fun hform => hform (hasForm_iff.mpr ⟨header, h⟩)

theorem Rates.not_forged {timestamp : Int64} (h : v.Rates text body (.authentic timestamp)) :
    ¬v.Rates text body .forged := by
  rintro ⟨header, hspells, hmac⟩
  have hsame := hspells.unique h
  subst hsame
  exact hmac rfl

theorem Rates.unique {s other : Standing} (h : v.Rates text body s)
    (hother : v.Rates text body other) : s = other := by
  cases s with
  | malformed =>
    cases other with
    | malformed => rfl
    | forged =>
      obtain ⟨header, hspells, -⟩ := hother
      exact absurd h (not_malformed hspells)
    | authentic timestamp => exact absurd h (not_malformed hother)
  | forged =>
    cases other with
    | malformed =>
      obtain ⟨header, hspells, -⟩ := h
      exact absurd hother (not_malformed hspells)
    | forged => rfl
    | authentic timestamp => exact absurd h (not_forged hother)
  | authentic timestamp =>
    cases other with
    | malformed => exact absurd hother (not_malformed h)
    | forged => exact absurd hother (not_forged h)
    | authentic timestamp' => exact congrArg (Standing.authentic ·.timestamp) (Spells.unique h hother)

/-! ## The answer to each standing -/

theorem fst_verify (v : WebhookVerifier) (text : String) (body : List UInt8) (now : Instant) :
    (v.verify text body now).1 = v.check text body now := rfl

theorem check_of_malformed (h : v.Rates text body .malformed) (now : Instant) :
    v.check text body now = .error .malformedHeader := by
  have hread : read? text = none :=
    read?_eq_none_iff.mpr fun header hspells => h (hasForm_iff.mpr ⟨header, hspells⟩)
  unfold check
  rw [hread]

theorem check_of_spells {header : SignatureHeader} (h : Spells text header) (now : Instant) :
    v.check text body now =
      if v.digest header.timestamp body = header.signature then v.verdict header.timestamp now
      else .error .mismatch := by
  unfold check verdict
  rw [read?_eq_some_iff.mpr h]
  simp only [bne_iff_ne, ne_eq, ite_not, gt_iff_lt, ← Nat.not_le]

theorem check_of_forged (h : v.Rates text body .forged) (now : Instant) :
    v.check text body now = .error .mismatch := by
  obtain ⟨header, hspells, hmac⟩ := h
  rw [check_of_spells hspells, if_neg (Ne.symm hmac)]

theorem check_of_authentic {timestamp : Int64} (h : v.Rates text body (.authentic timestamp))
    (now : Instant) : v.check text body now = v.verdict timestamp now := by
  rw [check_of_spells h, if_pos rfl]

/-- A notification is checked against the header of another one. -/
theorem check_sign (v : WebhookVerifier) (timestamp : Int64) (signed body : List UInt8)
    (now : Instant) :
    v.check (v.sign timestamp signed) body now =
      if v.digest timestamp body = v.digest timestamp signed then v.verdict timestamp now
      else .error .mismatch :=
  check_of_spells (.write _) now

theorem rates_sign (v : WebhookVerifier) (timestamp : Int64) (body : List UInt8) :
    v.Rates (v.sign timestamp body) body (.authentic timestamp) := Spells.write _

/-- Only an authentic header gets an answer that has a time in it. -/
theorem rates_of_check {reported : Int64} {now : Instant}
    (h : v.check text body now = .ok reported ∨
      v.check text body now = .error (.expired reported)) :
    v.Rates text body (.authentic reported) := by
  obtain ⟨s, hs⟩ := exists_rates v text body
  cases s with
  | malformed =>
    rw [check_of_malformed hs] at h
    rcases h with h | h <;> cases h
  | forged =>
    rw [check_of_forged hs] at h
    rcases h with h | h <;> cases h
  | authentic timestamp =>
    rw [check_of_authentic hs] at h
    rwa [timestamp_of_verdict h]

/-- Every header has one standing under a key: what it is worth is settled by the code that the key
gives to the decimal digits of the time, a colon and the body. The answer to a header that is
malformed or forged is the same at all times and with all tolerances. The answer to an authentic
header is that to the header which is written for its time, however it is spelled itself, and the
window alone decides what it is. No other header is called too old. -/
theorem clock_judges_authentic_headers_only (v : WebhookVerifier) (text : String)
    (body : List UInt8) :
    (∀ timestamp, v.digest timestamp body =
      hmacSha512 v.key ((toString timestamp.toInt).toUTF8.data.toList ++ 0x3A :: body)) ∧
    (∃ s, v.Rates text body s ∧ ∀ other, v.Rates text body other → other = s) ∧
    ∀ (tolerance : Int) (now : Instant),
      let w := v.withTolerance tolerance
      (v.Rates text body .malformed →
        (w.verify text body now).1 = .error .malformedHeader) ∧
      (v.Rates text body .forged → (w.verify text body now).1 = .error .mismatch) ∧
      (∀ timestamp, v.Rates text body (.authentic timestamp) →
        (w.verify text body now).1 = w.verdict timestamp now ∧
        w.verify text body now = w.verify (w.sign timestamp body) body now) ∧
      ∀ timestamp, (w.verify text body now).1 = .ok timestamp ∨
        (w.verify text body now).1 = .error (.expired timestamp) →
        v.Rates text body (.authentic timestamp) := by
  refine ⟨?digest, ?standing, fun tolerance now => ?answers⟩
  case digest =>
    intro timestamp
    rw [← asciiBytes_toList (Text.IsNumeral.toString timestamp.toInt).isAscii]
    exact congrArg (hmacSha512 v.key) (signedBytes_eq timestamp body)
  case standing =>
    obtain ⟨s, hs⟩ := exists_rates v text body
    exact ⟨s, hs, fun other hother => hother.unique hs⟩
  case answers =>
    intro w
    -- the key is that of `v`, so the standing is the same
    have hkey : ∀ s, v.Rates text body s → w.Rates text body s := fun _ h => h
    refine ⟨fun h => check_of_malformed (hkey _ h) now, fun h => check_of_forged (hkey _ h) now,
      fun timestamp h => ?_, fun timestamp h => rates_of_check (v := w) h⟩
    have hanswer := check_of_authentic (hkey _ h) now
    have hsigned := check_of_authentic (rates_sign w timestamp body) now
    refine ⟨hanswer, ?_⟩
    unfold verify
    rw [hanswer, hsigned]

/-- A header is authentic in an unusual spelling too: with blanks around it, a plus sign and zeros
before the time and capital digits in the signature. -/
theorem clock_judges_authentic_headers_only_in_three_cases :
    let v : WebhookVerifier := ⟨[0x6B], 0⟩
    let forged := SignatureHeader.write ⟨7, []⟩
    let capitals := (Hex.encode (v.digest 7 [])).map Char.toUpper
    let spelled := String.ofList
      ([' ', '\n'] ++ Base64.encode (asciiBytes (['+', '0', '7'] ++ ':' :: capitals)) ++ ['\t'])
    let early : Instant := ⟨0, 0, by decide, by decide⟩
    let late : Instant := ⟨18, 0, by decide, by decide⟩
    let w := v.withTolerance (-10999999999)
    (v.Rates "" [] .malformed ∧ (w.verify "" [] early).1 = .error .malformedHeader) ∧
    (v.Rates forged [] .forged ∧ (w.verify forged [] early).1 = .error .mismatch) ∧
    v.Rates spelled [] (.authentic 7) ∧
    (w.verify spelled [] early).1 = .ok 7 ∧ (w.verify spelled [] late).1 = .error (.expired 7) ∧
    w.verify spelled [] late = w.verify (w.sign 7 []) [] late := by
  intro v forged capitals spelled early late w
  have hmalformed : v.Rates "" [] .malformed := fun hform => by
    obtain ⟨header, hspells⟩ := hasForm_iff.mp hform
    have hread : read? "" = none := rfl
    exact read?_eq_none_iff.mp hread header hspells
  have hforged : v.Rates forged [] .forged := by
    refine ⟨_, .write _, fun hmac => ?_⟩
    have hlength := congrArg List.length hmac
    rw [digest, length_hmacSha512] at hlength
    cases hlength
  have hspelled : v.Rates spelled [] (.authentic 7) := by
    refine Spells.padded (List.all_eq_true.mp rfl) (List.all_eq_true.mp rfl)
      ⟨_, _, rfl, .plus ⟨1, by decide⟩, ?_⟩
    rw [List.map_map]
    exact (List.map_congr_left fun c _ => Text.toLower_toUpper c).trans (Hex.map_toLower_encode _)
  have hearly := (clock_judges_authentic_headers_only v spelled []).2.2 (-10999999999) early
  have hlate := (clock_judges_authentic_headers_only v spelled []).2.2 (-10999999999) late
  obtain ⟨htaken, -⟩ := hearly.2.2.1 7 hspelled
  obtain ⟨hexpired, hsigned⟩ := hlate.2.2.1 7 hspelled
  refine ⟨⟨hmalformed, ?_⟩, ⟨hforged, ?_⟩, hspelled, htaken.trans (if_pos (by decide)),
    hexpired.trans (if_neg (by decide)), hsigned⟩
  · exact ((clock_judges_authentic_headers_only v "" []).2.2 _ early).1 hmalformed
  · exact ((clock_judges_authentic_headers_only v forged []).2.2 _ early).2.1 hforged

end WebhookVerifier

end RentalGuard
