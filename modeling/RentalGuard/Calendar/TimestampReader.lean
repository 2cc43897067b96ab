import RentalGuard.Calendar.Timestamp
import RentalGuard.Text.Blank

/-! Reading an instant from text. The reader takes what `RentalGuard.Timestamp.write` writes and
more: any offset from UTC, blanks around the parts, fewer digits and longer fractions. -/

namespace RentalGuard.Timestamp

open Text

/-- The value of the leading digits, of which at most `most` are taken, and the rest. -/
def digits? (most : Nat) (cs : List Char) : Option (Nat × List Char) := do
  let ds := (cs.take most).takeWhile Char.isDigit
  let n ← natural? ds
  return (n, cs.drop ds.length)

/-- A number below 2^63 of at most `most` digits, after blanks. -/
def number? (most : Nat) (cs : List Char) : Option (Nat × List Char) := do
  let (n, rest) ← digits? most (trimStart cs)
  if n < 0x8000000000000000 then some (n, rest) else none

/-- A year: four digits at most, or a sign and any number of digits. -/
def year? (cs : List Char) : Option (Int × List Char) :=
  match trimStart cs with
  | '-' :: rest => do
    let (n, rest) ← signed? rest
    return (-(n : Int), rest)
  | '+' :: rest => do
    let (n, rest) ← signed? rest
    return ((n : Int), rest)
  | cs => do
    let (n, rest) ← number? 4 cs
    return ((n : Int), rest)
where
  signed? (cs : List Char) : Option (Nat × List Char) := do
    let (n, rest) ← digits? cs.length cs
    if n < 0x8000000000000000 then some (n, rest) else none

/-- The text after the character `c`, which may have blanks before it. -/
def after? (c : Char) (cs : List Char) : Option (List Char) :=
  match trimStart cs with
  | d :: rest => if d == c then some rest else none
  | [] => none

/-- The fraction after a point, in nanoseconds. Digits after the ninth are skipped. -/
def fraction? : List Char → Option (Nat × List Char)
  | '.' :: cs => do
    let ds := (cs.take 9).takeWhile Char.isDigit
    let n ← natural? ds
    return (n * Nat.pow 10 (9 - ds.length), (cs.drop ds.length).dropWhile Char.isDigit)
  | cs => some (0, cs)

/-- The two digits at the start, of which the first is at most `most`. -/
def twoDigits? (most : Char) : List Char → Option (Nat × List Char)
  | a :: b :: rest =>
    if a.isDigit && a ≤ most && b.isDigit then
      some (Nat.ofDigitChars 10 [a, b] 0, rest)
    else none
  | _ => none

/-- The seconds by which an offset such as `+09:00` is ahead of UTC. -/
def hoursAndMinutes? (cs : List Char) : Option (Nat × List Char) := do
  let (hours, rest) ← twoDigits? '9' cs
  let (minutes, rest) ← twoDigits? '5' (rest.dropWhile fun c => c == ':' || isBlank c)
  if hours ≤ 23 then some (hours * 3600 + minutes * 60, rest) else none

/-- The offset from UTC in seconds: the letters UTC, the letter Z, or a sign, hours and
minutes. -/
def offset? (cs : List Char) : Option (Int × List Char) :=
  if (cs.take 3).map Char.toUpper == ['U', 'T', 'C'] then some (0, cs.drop 3)
  else match cs with
    | 'Z' :: rest | 'z' :: rest => some (0, rest)
    | '+' :: rest => do
      let (n, rest) ← hoursAndMinutes? rest
      return ((n : Int), rest)
    | '-' :: rest | '\u2212' :: rest => do
      let (n, rest) ← hoursAndMinutes? rest
      return (-(n : Int), rest)
    | _ => none

def date? (cs : List Char) : Option (Date × List Char) := do
  let (year, cs) ← year? cs
  let (month, cs) ← number? 2 (← after? '-' cs)
  let (day, cs) ← number? 2 (← after? '-' cs)
  let date : Date := ⟨year, month, day⟩
  if date.isValid && -262143 ≤ year && year ≤ 262142 then some (date, cs) else none

/-- The seconds since midnight and the nanoseconds. -/
def time? (cs : List Char) : Option (Nat × Nat × List Char) := do
  let (hour, cs) ← number? 2 cs
  let (minute, cs) ← number? 2 (← after? ':' cs)
  let (second, cs) ← number? 2 (← after? ':' cs)
  let (nanos, cs) ← fraction? cs
  if hour ≤ 23 && minute ≤ 59 && second ≤ 60 then
    let leap := second == 60
    some (hour * 3600 + minute * 60 + (if leap then 59 else second),
      nanos + (if leap then 1000000000 else 0), cs)
  else none

/-- Reads an instant with any offset from UTC. -/
def readChars? (cs : List Char) : Option Instant := do
  let (date, cs) ← date? cs
  let cs ← match cs with
    | 't' :: rest | 'T' :: rest | ' ' :: rest => some rest
    | _ => none
  let (seconds, nanos, cs) ← time? cs
  let (offset, cs) ← offset? (trimStart cs)
  if !(trimStart cs).isEmpty then none
  Instant.ofParts? (date.toDays * 86400 + seconds - offset) nanos

def read? (s : String) : Option Instant := readChars? s.toList

end RentalGuard.Timestamp
