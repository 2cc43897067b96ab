import RentalGuard.Json.Reader
import RentalGuard.Json.Writer

/-! JSON texts inside JSON values. Where a value is kept, an object whose first field has a certain
name stands for the value of a text: the field holds the text, and there is no other field. -/

namespace RentalGuard.Json

/-- The name of the field that holds a text. -/
def embeddedKey : String := "$serde_json::private::RawValue"

/-- Whether an object with these fields stands for the value of a text. -/
def embedsText : List (String × Json) → Bool
  | (key, _) :: _ => key == embeddedKey
  | [] => false

/-- The text for whose value the object stands. -/
def embeddedText? : List (String × Json) → Option String
  | [(_, string text)] => some text
  | _ => none

mutual

/-- The tree with the values that `valueOf` finds for embedded texts. -/
def replaceEmbedded? (valueOf : String → Option Json) : Json → Option Json
  | array items => (replaceInItems? valueOf items).map array
  | object fields =>
    if embedsText fields then (embeddedText? fields).bind valueOf
    else (replaceInFields? valueOf fields).map object
  | v => some v

def replaceInItems? (valueOf : String → Option Json) : List Json → Option (List Json)
  | [] => some []
  | v :: rest => do
    let v ← replaceEmbedded? valueOf v
    return v :: (← replaceInItems? valueOf rest)

def replaceInFields? (valueOf : String → Option Json) :
    List (String × Json) → Option (List (String × Json))
  | [] => some []
  | (key, v) :: rest => do
    let v ← replaceEmbedded? valueOf v
    return (key, v) :: (← replaceInFields? valueOf rest)

end

/-- Reads a text and all that it embeds, to at most `levels` texts inside each other. Every text is
nested on its own account. -/
def readEmbedded? : Nat → String → Option Json
  | 0, _ => none
  | levels + 1, text => do
    let v ← read? text.toList
    if maxDepth < v.depth then none
    replaceEmbedded? (readEmbedded? levels) v

/-- The tree without embedded texts. A text is shorter than the one that embeds it, so there are
fewer levels than the written tree has characters. -/
def withoutEmbedded? (v : Json) : Option Json :=
  replaceEmbedded? (readEmbedded? v.chars.length) v

end RentalGuard.Json
