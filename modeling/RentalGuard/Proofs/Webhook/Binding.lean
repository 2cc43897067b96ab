import RentalGuard.Proofs.Webhook.Standing

/-! # A signature binds its time and its body

The time and the body are signed in one run of bytes, without lengths. The colon after the time is
the first one, whatever the body holds, so the run can be taken apart in one way only.
-/

namespace RentalGuard.WebhookVerifier

open SignatureHeader

/-! ## What is signed -/

theorem byteChars_timestamp (timestamp : Int64) :
    byteChars (asciiBytes (timestampChars timestamp)) = timestampChars timestamp :=
  byteChars_asciiBytes (Text.IsNumeral.toString timestamp.toInt).isAscii

theorem colon_notMem_timestamp (timestamp : Int64) :
    0x3A ∉ asciiBytes (timestampChars timestamp) := by
  intro h
  have hcolon : ':' ∈ byteChars (asciiBytes (timestampChars timestamp)) :=
    List.mem_map.mpr ⟨0x3A, h, rfl⟩
  rw [byteChars_timestamp] at hcolon
  exact colon_notMem_of_isNumeral (.toString timestamp.toInt) hcolon

theorem timestampChars_inj {t t' : Int64} (h : timestampChars t = timestampChars t') : t = t' := by
  have hread : ∀ s, Text.int64? (timestampChars s) = some s := fun s =>
    Text.int64?_eq_some_iff.mpr (.toString s.toInt)
  exact Option.some.inj ((hread t).symm.trans (h ▸ hread t'))

theorem signedBytes_inj {t t' : Int64} {body body' : List UInt8}
    (h : signedBytes t body = signedBytes t' body') : t = t' ∧ body = body' := by
  rw [signedBytes_eq, signedBytes_eq] at h
  obtain ⟨htime, hbody⟩ := Text.divided_inj (colon_notMem_timestamp t) (colon_notMem_timestamp t') h
  refine ⟨timestampChars_inj ?_, hbody⟩
  rw [← byteChars_timestamp t, ← byteChars_timestamp t', htime]

/-! ## Two bodies under one signature -/

/-- Two messages that cannot be told apart by their codes. -/
def Collide (key message other : List UInt8) : Prop :=
  message ≠ other ∧ hmacSha512 key message = hmacSha512 key other

/-- The bytes that are signed say what the time and the body are. So the header of one notification
is taken for another, or called too old with it, only if the bodies are the same or the code has a
collision, and the time that is reported is the one that was signed. -/
theorem signature_binds_time_and_body :
    (∀ (t t' : Int64) (body body' : List UInt8),
      signedBytes t body = signedBytes t' body' → t = t' ∧ body = body') ∧
    ∀ (v : WebhookVerifier) (t : Int64) (body body' : List UInt8) (now : Instant)
      (reported : Int64),
      let answer := (v.verify (v.sign t body) body' now).1
      answer = .ok reported ∨ answer = .error (.expired reported) →
      reported = t ∧
        (body' = body ∨ Collide v.key (signedBytes t body) (signedBytes t body')) := by
  refine ⟨fun _ _ _ _ h => signedBytes_inj h, fun v t body body' now reported => ?_⟩
  intro answer h
  have hanswer : answer = if v.digest t body' = v.digest t body then v.verdict t now
      else .error .mismatch := (fst_verify ..).trans (check_sign v t body body' now)
  rw [hanswer] at h
  split at h
  · rename_i hmac
    refine ⟨timestamp_of_verdict h, ?_⟩
    by_cases hbody : body' = body
    · exact .inl hbody
    · exact .inr ⟨fun hsame => hbody (signedBytes_inj hsame).2.symm, hmac.symm⟩
  · rcases h with h | h <;> cases h

/-- A time cannot be cut short in favour of the body. -/
theorem signature_binds_time_and_body_at_cut :
    let v : WebhookVerifier := ⟨[0x6B], 0⟩
    let now : Instant := ⟨0, 0, by decide, by decide⟩
    let body : List UInt8 := [0x3A]
    signedBytes 12 [] = [0x31, 0x32, 0x3A] ∧ signedBytes 1 [0x32] = [0x31, 0x3A, 0x32] ∧
    signedBytes 12 [] ≠ signedBytes 1 [0x32] ∧
    (v.verify (v.sign 12 body) body now).1 = .error (.expired 12) ∧
    (body = body ∨ Collide v.key (signedBytes 12 body) (signedBytes 12 body)) := by
  intro v now body
  have hanswer : (v.verify (v.sign 12 body) body now).1 = .error (.expired 12) :=
    (fst_verify ..).trans
      ((check_of_authentic (rates_sign v 12 body) now).trans (if_neg (by decide)))
  refine ⟨by decide, by decide, fun h => ?_, hanswer,
    (signature_binds_time_and_body.2 v 12 body body now 12 (.inr hanswer)).2⟩
  exact absurd (signature_binds_time_and_body.1 12 1 [] [0x32] h).1 (by decide)

end RentalGuard.WebhookVerifier
