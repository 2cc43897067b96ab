import RentalGuard.Json.Shortest
import RentalGuard.Text.Hex

/-! The compact text of a JSON value: no spaces, fields in the order of the tree, and only those
characters escaped that must be. -/

namespace RentalGuard.Json

/-- The written form of one character inside a string. -/
def escaped (c : Char) : List Char :=
  if c == '"' then ['\\', '"']
  else if c == '\\' then ['\\', '\\']
  else if c.toNat == 8 then ['\\', 'b']
  else if c.toNat == 9 then ['\\', 't']
  else if c.toNat == 10 then ['\\', 'n']
  else if c.toNat == 12 then ['\\', 'f']
  else if c.toNat == 13 then ['\\', 'r']
  else if c.toNat < 0x20 then
    '\\' :: 'u' :: [0, 0, c.toNat / 16, c.toNat].map fun n => Text.hexChar (Text.nibble n)
  else [c]

def stringChars (s : String) : List Char := '"' :: s.toList.flatMap escaped ++ ['"']

mutual

/-- The characters of the compact text. -/
def chars : Json → List Char
  | null => ['n', 'u', 'l', 'l']
  | bool true => ['t', 'r', 'u', 'e']
  | bool false => ['f', 'a', 'l', 's', 'e']
  | integer n => (toString n).toList
  | double d => d.chars
  | string s => stringChars s
  | unreadable => ['n', 'u', 'l', 'l']
  | array [] => ['[', ']']
  | array (v :: rest) => '[' :: v.chars ++ restChars rest
  | object [] => ['\x7b', '\x7d']
  | object ((k, v) :: rest) => '\x7b' :: stringChars k ++ ':' :: v.chars ++ restFieldChars rest

/-- The items after the first one, and the end of the array. -/
def restChars : List Json → List Char
  | [] => [']']
  | v :: rest => ',' :: v.chars ++ restChars rest

/-- The fields after the first one, and the end of the object. -/
def restFieldChars : List (String × Json) → List Char
  | [] => ['\x7d']
  | (k, v) :: rest => ',' :: stringChars k ++ ':' :: v.chars ++ restFieldChars rest

end

/-- The compact text. -/
def compact (v : Json) : String := String.ofList v.chars

end RentalGuard.Json
