import RentalGuard.Text.Hex

/-! Identifiers of audit events: universally unique identifiers, which are written as 32
hexadecimal digits in five groups. -/

namespace RentalGuard

structure EventId where
  digits : List (Fin 16)
  length_eq : digits.length = 32
deriving DecidableEq

namespace EventId

/-- The identifier whose value is `n`, of which the lowest 128 bits count. -/
def ofNat (n : Nat) : EventId :=
  ⟨(List.range 32).map fun i => Text.nibble (n >>> (4 * (31 - i))), by simp⟩

def ofDigits? (digits : List (Fin 16)) : Option EventId :=
  if h : digits.length = 32 then some ⟨digits, h⟩ else none

/-- Puts a hyphen after each group but the last. -/
def hyphenated (cs : List Char) : List Char :=
  cs.take 8 ++ '-' :: (cs.drop 8).take 4 ++ '-' :: (cs.drop 12).take 4 ++
    '-' :: (cs.drop 16).take 4 ++ '-' :: cs.drop 20

/-- Takes the hyphens away if they are in their places. -/
def unhyphenated? (cs : List Char) : Option (List Char) :=
  let digits := cs.filter (· != '-')
  if digits.length == 32 && hyphenated digits == cs then some digits else none

/-- What may stand before the digits, in letters of either case. -/
def namespacePrefix : List Char := "urn:uuid:".toList

/-- Takes away the marks around the digits: hyphens, or hyphens and braces or a leading name
space. -/
def plainDigits? (cs : List Char) : Option (List Char) :=
  if cs.length == 32 then some cs
  else if cs.length == 36 then unhyphenated? cs
  else if (cs.take namespacePrefix.length).map Char.toLower == namespacePrefix then
    unhyphenated? (cs.drop namespacePrefix.length)
  else match cs with
    | '\x7b' :: rest =>
      if rest.getLast? == some '\x7d' then unhyphenated? rest.dropLast else none
    | _ => none

def read? (s : String) : Option EventId := do
  let cs ← plainDigits? s.toList
  ofDigits? (← cs.mapM Text.hexValue?)

def write (id : EventId) : String := String.ofList (hyphenated (id.digits.map Text.hexChar))

end EventId

end RentalGuard
