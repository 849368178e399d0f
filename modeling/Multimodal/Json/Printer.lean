import Multimodal.Decimal.Layout
import Multimodal.Json.Value

/-! # Writing JSON text

* `Json.compact`: a value without any blanks.
* `Json.pretty`: a value with one item or member a line, indented by two blanks a level.

Inside strings only quotes, backslashes and control characters are escaped, the latter by letter where
there is one.  An empty container takes no line of its own.
-/

namespace Multimodal

namespace JsonText

/-- The escape of a character inside a string. -/
def escape (c : Char) : List Char :=
  match c with
  | '"' => ['\\', '"']
  | '\\' => ['\\', '\\']
  | '\n' => ['\\', 'n']
  | '\r' => ['\\', 'r']
  | '\t' => ['\\', 't']
  | '\x08' => ['\\', 'b']
  | '\x0c' => ['\\', 'f']
  | c =>
    if c < ' ' then
      ['\\', 'u', '0', '0', Nat.digitChar (c.toNat / 16), Nat.digitChar (c.toNat % 16)]
    else [c]

/-- A string between quotes. -/
def quoted (s : String) : List Char := '"' :: s.toList.flatMap escape ++ ['"']

/-- A number. -/
def numberText : Json.Number → List Char
  | .natural n => (Nat.repr n.toNat).toList
  | .negative n => '-' :: (Nat.repr n.toInt.natAbs).toList
  | .float x => (Decimal.Layout.document.render x).toList

mutual

/-- A value without blanks. -/
def compact : Json → List Char
  | .null => "null".toList
  | .bool b => (if b then "true" else "false").toList
  | .number n => numberText n
  | .string s => quoted s
  | .array items => '[' :: compactItems true items
  | .object members => '\x7b' :: compactMembers true members

/-- The items of an array up to its closing bracket. -/
def compactItems : Bool → List Json → List Char
  | _, [] => [']']
  | isFirst, v :: rest => (if isFirst then [] else [',']) ++ compact v ++ compactItems false rest

/-- The members of an object up to its closing brace. -/
def compactMembers : Bool → List (String × Json) → List Char
  | _, [] => ['\x7d']
  | isFirst, (key, v) :: rest =>
    (if isFirst then [] else [',']) ++ quoted key ++ ':' :: compact v ++ compactMembers false rest

end

/-- A new line at a level. -/
def newLine (level : Nat) : List Char := '\n' :: List.replicate (2 * level) ' '

mutual

/-- A value that starts on a line of a level. -/
def pretty (level : Nat) : Json → List Char
  | .null => "null".toList
  | .bool b => (if b then "true" else "false").toList
  | .number n => numberText n
  | .string s => quoted s
  | .array items => '[' :: prettyItems level true items
  | .object members => '\x7b' :: prettyMembers level true members

/-- The items of an array up to its closing bracket. -/
def prettyItems (level : Nat) : Bool → List Json → List Char
  | true, [] => [']']
  | false, [] => newLine level ++ [']']
  | isFirst, v :: rest =>
    (if isFirst then [] else [',']) ++ newLine (level + 1) ++ pretty (level + 1) v ++
      prettyItems level false rest

/-- The members of an object up to its closing brace. -/
def prettyMembers (level : Nat) : Bool → List (String × Json) → List Char
  | true, [] => ['\x7d']
  | false, [] => newLine level ++ ['\x7d']
  | isFirst, (key, v) :: rest =>
    (if isFirst then [] else [',']) ++ newLine (level + 1) ++ quoted key ++ ':' :: ' ' ::
      pretty (level + 1) v ++ prettyMembers level false rest

end

end JsonText

/-- A value without any blanks. -/
def Json.compact (v : Json) : String := String.ofList (JsonText.compact v)

/-- A value over several lines. -/
def Json.pretty (v : Json) : String := String.ofList (JsonText.pretty 0 v)

end Multimodal
