import RentalGuard.Calendar.Instant
import RentalGuard.Digest.Hmac
import RentalGuard.Log
import RentalGuard.Webhook.Header

/-! Signing notifications and checking their signatures. The signature is looked at first, so only
a notification that is authentic can be called too old. -/

namespace RentalGuard

/-- Why a notification is not taken. -/
inductive SignatureError where
  /-- The key is blank. -/
  | invalidKey
  | malformedHeader
  | mismatch
  /-- The time lies too far from now, before or after. -/
  | expired (timestamp : Int64)
deriving DecidableEq, Repr

namespace SignatureError

def message : SignatureError → String
  | invalidKey => "API キーが設定されていません"
  | malformedHeader => "署名ヘッダーの形式が不正です"
  | mismatch => "署名が一致しません"
  | expired timestamp =>
    "署名のタイムスタンプが許容範囲外です: " ++ toString timestamp.toInt

end SignatureError

/-- A key, and how far the time of a notification may lie from now. -/
structure WebhookVerifier where
  key : List UInt8
  /-- In nanoseconds. -/
  tolerance : Nat
deriving DecidableEq, Repr

namespace WebhookVerifier

/-- The nanoseconds of a second. -/
def second : Nat := 1000000000

/-- In seconds. -/
def defaultTolerance : Nat := 300

/-- A verifier with the key, whose blanks count, and the default tolerance. -/
def ofKey (key : String) : Except SignatureError WebhookVerifier :=
  if Text.isBlankText key then .error .invalidKey
  else .ok ⟨key.toUTF8.toList, defaultTolerance * second⟩

/-- Another tolerance, in nanoseconds. Its sign makes no difference. -/
def withTolerance (v : WebhookVerifier) (tolerance : Int) : WebhookVerifier :=
  { v with tolerance := tolerance.natAbs }

/-- The whole seconds of the tolerance. -/
def toleranceSeconds (v : WebhookVerifier) : Nat := v.tolerance / second

/-- The bytes that are signed. -/
def signedBytes (timestamp : Int64) (body : List UInt8) : List UInt8 :=
  SignatureHeader.asciiBytes (SignatureHeader.timestampChars timestamp ++ [':']) ++ body

def digest (v : WebhookVerifier) (timestamp : Int64) (body : List UInt8) : List UInt8 :=
  hmacSha512 v.key (signedBytes timestamp body)

/-- The header of a notification. -/
def sign (v : WebhookVerifier) (timestamp : Int64) (body : List UInt8) : String :=
  SignatureHeader.write ⟨timestamp, v.digest timestamp body⟩

/-- The time of a notification, if its header is in order. -/
def check (v : WebhookVerifier) (header : String) (body : List UInt8) (now : Instant) :
    Except SignatureError Int64 :=
  match SignatureHeader.read? header with
  | none => .error .malformedHeader
  | some h =>
    if v.digest h.timestamp body != h.signature then .error .mismatch
    else if (now.seconds - h.timestamp.toInt).natAbs > v.toleranceSeconds then
      .error (.expired h.timestamp)
    else .ok h.timestamp

/-- The entry that records the result of a check. -/
def logEntry : Except SignatureError Int64 → LogEntry
  | .ok timestamp =>
    .security .info
      [("event.category", .text "payment"), ("event.action", .text "payment.webhook_verified"),
        ("event.result", .text "success"), ("webhook.timestamp", .integer timestamp.toInt)]
      "Webhook 署名を検証"
  | .error e =>
    .security .warn
      [("event.category", .text "payment"), ("event.action", .text "payment.webhook_rejected"),
        ("event.result", .text "failure"), ("error.message", .text e.message)]
      "Webhook 署名を拒否"

/-- Checks a notification and records the result. -/
def verify (v : WebhookVerifier) (header : String) (body : List UInt8) (now : Instant) :
    Except SignatureError Int64 × LogEntry :=
  let result := v.check header body now
  (result, logEntry result)

/-- The text for diagnostics, without the key. -/
def describe (v : WebhookVerifier) : String :=
  "WebhookVerifier \x7b tolerance: TimeDelta \x7b secs: " ++ toString (v.tolerance / second) ++
    ", nanos: " ++ toString (v.tolerance % second) ++ " \x7d, .. \x7d"

end WebhookVerifier

end RentalGuard
