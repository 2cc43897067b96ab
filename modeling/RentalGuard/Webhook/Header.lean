import RentalGuard.Codec.Base64
import RentalGuard.Codec.Hex
import RentalGuard.Text.Blank
import RentalGuard.Text.Numeral

/-! The header of a signed notification: a time in seconds, a colon and the signature in
hexadecimal digits, all of it in base 64. -/

namespace RentalGuard

/-- What a header says. -/
structure SignatureHeader where
  timestamp : Int64
  signature : List UInt8
deriving DecidableEq, Repr

namespace SignatureHeader

/-- The decimal digits of a time, after a minus sign if it is negative. -/
def timestampChars (timestamp : Int64) : List Char := (toString timestamp.toInt).toList

/-- The bytes of a text that has ASCII characters only. -/
def asciiBytes (cs : List Char) : List UInt8 := cs.map fun c => UInt8.ofNat c.toNat

/-- One character for each byte. Bytes from 128 on become characters that no header has. -/
def byteChars (bytes : List UInt8) : List Char := bytes.map fun b => Char.ofNat b.toNat

/-- The text before base 64. -/
def plainChars (header : SignatureHeader) : List Char :=
  timestampChars header.timestamp ++ ':' :: Hex.encode header.signature

def write (header : SignatureHeader) : String :=
  String.ofList (Base64.encode (asciiBytes header.plainChars))

/-- Reads the text before base 64. The first colon divides it. -/
def ofPlain? (cs : List Char) : Option SignatureHeader :=
  match cs.dropWhile (· != ':') with
  | _ :: signature => do
    let timestamp ← Text.int64? (cs.takeWhile (· != ':'))
    let signature ← Hex.decode? signature
    return ⟨timestamp, signature⟩
  | [] => none

/-- Reads a header. Blanks around it are left out. -/
def read? (text : String) : Option SignatureHeader := do
  ofPlain? (byteChars (← Base64.decode? (Text.trim text.toList)))

end SignatureHeader

end RentalGuard
