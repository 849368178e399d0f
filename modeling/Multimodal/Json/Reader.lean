import Multimodal.Hexadecimal
import Multimodal.Json.Reading

/-! # Reading JSON text

The reader goes through the characters once.  Every part of it answers what it has read and, unless
it met a fault, the characters that are left.

* `readNumeral`, `readText`: the two tokens with an inner structure.
* `readValue`, `readItems`, `readMembers`: values and the insides of containers.
* `Json.read`: the tree of a whole text and whether anything but blanks follows it.
-/

namespace Multimodal

namespace JsonText

/-- The characters that are left, unless reading met a fault. -/
abbrev Rest := Option (List Char)

/-- The four characters that may stand between tokens. -/
def isBlank (c : Char) : Bool := c = ' ' || c = '\n' || c = '\t' || c = '\r'

/-- The text behind its leading blanks. -/
def skipBlanks (cs : List Char) : List Char := cs.dropWhile isBlank

/-- Reads the rest of a literal name. -/
def readName (result : Reading) : List Char → List Char → Reading × Rest
  | [], cs => (result, some cs)
  | _ :: _, [] => (.broken .cutOff, none)
  | expected :: name, c :: cs =>
    if c = expected then readName result name cs else (.broken .malformed, none)

/-! ## Numerals -/

/-- Digits of which there must be one. -/
def readDigits (cs : List Char) : Except Fault (List Char × List Char) :=
  match cs with
  | [] => .error .cutNumeral
  | c :: _ => if c.isDigit then .ok (cs.span Char.isDigit) else .error .malformed

/-- The whole part of a numeral, which starts with a zero only if it is one. -/
def readWhole (cs : List Char) : Except Fault (List Char × List Char) := do
  let (digits, rest) ← readDigits cs
  match digits with
  | '0' :: _ :: _ => .error .malformed
  | _ => .ok (digits, rest)

/-- The fraction of a numeral, if there is one. -/
def readFraction : List Char → Except Fault (List Char × List Char)
  | '.' :: cs => readDigits cs
  | cs => .ok ([], cs)

/-- The sign of an exponent: whether it is negative. -/
def readSign : List Char → Bool × List Char
  | '-' :: cs => (true, cs)
  | '+' :: cs => (false, cs)
  | cs => (false, cs)

/-- The exponent of a numeral, if there is one. -/
def readExponent : List Char → Except Fault (Option (Bool × List Char) × List Char)
  | c :: cs =>
    if c = 'e' ∨ c = 'E' then do
      let (negative, cs) := readSign cs
      let (digits, rest) ← readDigits cs
      .ok (some (negative, digits), rest)
    else .ok (none, c :: cs)
  | [] => .ok (none, [])

/-- The parts of a numeral behind its sign. -/
def readParts (negative : Bool) (cs : List Char) : Except Fault (Numeral × List Char) := do
  let (whole, cs) ← readWhole cs
  let (fraction, cs) ← readFraction cs
  let (exponent, cs) ← readExponent cs
  .ok (⟨negative, whole, fraction, exponent⟩, cs)

/-- A numeral behind its sign, as a tree. -/
def readNumeral (negative : Bool) (cs : List Char) : Reading × Rest :=
  match readParts negative cs with
  | .ok (n, rest) => (.number n, some rest)
  | .error f => (.broken f, none)

/-! ## Strings -/

/-- A string while it is read: the characters so far in reverse order, the first half of a character
written as two escapes, and whether all halves so far fitted together. -/
structure TextState where
  reversed : List Char := []
  half : Option Nat := none
  sound : Bool := true

namespace TextState

/-- One more character. -/
def push (t : TextState) (c : Char) : TextState :=
  ⟨c :: t.reversed, none, t.sound && t.half.isNone⟩

/-- One more escape by code.  The codes from `D800` to `DBFF` are first halves and those from `DC00`
to `DFFF` second halves. -/
def pushCode (t : TextState) (code : Nat) : TextState :=
  if 0xDC00 ≤ code ∧ code ≤ 0xDFFF then
    match t.half with
    | some first =>
      ⟨Char.ofNat (0x10000 + (first - 0xD800) * 0x400 + (code - 0xDC00)) :: t.reversed, none,
        t.sound⟩
    | none => { t with sound := false }
  else if 0xD800 ≤ code ∧ code ≤ 0xDBFF then
    { t with half := some code, sound := t.sound && t.half.isNone }
  else t.push (Char.ofNat code)

/-- The string at its closing quote, if all halves fitted together. -/
def close (t : TextState) : Option String :=
  if t.sound && t.half.isNone then some (String.ofList t.reversed.reverse) else none

/-- The fault of a string that ends too early. -/
def cut (t : TextState) : Fault := if t.sound then .cutOff else ⟨.malformed, .cutOff⟩

end TextState

/-- The character of an escape by letter. -/
def escapeChar? : Char → Option Char
  | '"' => some '"'
  | '\\' => some '\\'
  | '/' => some '/'
  | 'b' => some '\x08'
  | 'f' => some '\x0c'
  | 'n' => some '\n'
  | 'r' => some '\r'
  | 't' => some '\t'
  | _ => none

/-- A string behind its opening quote, with the characters behind the closing one.  Where fewer than
four characters are left for a code it depends on the bytes they take whether the text ends too early
or the code is malformed. -/
def readText (t : TextState) : List Char → Except Fault (Option String × List Char)
  | [] => .error t.cut
  | '"' :: cs => .ok (t.close, cs)
  | '\\' :: 'u' :: a :: b :: c :: d :: cs =>
    match hexNumber? [a, b, c, d] with
    | some code => readText (t.pushCode code) cs
    | none => .error .malformed
  | '\\' :: 'u' :: cs =>
    .error (if (String.ofList cs).utf8ByteSize < 4 then t.cut else .malformed)
  | '\\' :: c :: cs =>
    match escapeChar? c with
    | some e => readText (t.push e) cs
    | none => .error .malformed
  | ['\\'] => .error t.cut
  | c :: cs => if c < ' ' then .error .malformed else readText (t.push c) cs

/-! ## Values -/

mutual

/-- A value behind blanks.  The fuel bounds how deep and how far reading goes.  No character costs more
than three units, so three times the length of the text is enough. -/
def readValue : Nat → List Char → Reading × Rest
  | 0, _ => (.broken .cutOff, none)
  | fuel + 1, cs =>
    match skipBlanks cs with
    | [] => (.broken .cutOff, none)
    | 'n' :: cs => readName .null ['u', 'l', 'l'] cs
    | 't' :: cs => readName (.bool true) ['r', 'u', 'e'] cs
    | 'f' :: cs => readName (.bool false) ['a', 'l', 's', 'e'] cs
    | '"' :: cs =>
      match readText {} cs with
      | .ok (s, rest) => (.string s, some rest)
      | .error f => (.broken f, none)
    | '-' :: cs => readNumeral true cs
    | '[' :: cs =>
      let (items, ending, rest) := readItems fuel true cs
      (.array items ending, rest)
    | '\x7b' :: cs =>
      let (members, ending, rest) := readMembers fuel true cs
      (.object members ending, rest)
    | c :: cs =>
      if c.isDigit then readNumeral false (c :: cs) else (.broken .malformed, none)

/-- The items of an array that are left, behind the opening bracket or behind an item. -/
def readItems : Nat → Bool → List Char → List Reading × Option Fault × Rest
  | 0, _, _ => ([], some .cutOff, none)
  | fuel + 1, isFirst, cs =>
    match skipBlanks cs with
    | [] => ([], some .cutOff, none)
    | ']' :: cs => ([], none, some cs)
    | c :: cs =>
      if isFirst then readItem fuel (c :: cs)
      else if c = ',' then readItem fuel cs
      else ([], some .malformed, none)

/-- An item and those behind it. -/
def readItem : Nat → List Char → List Reading × Option Fault × Rest
  | 0, _ => ([], some .cutOff, none)
  | fuel + 1, cs =>
    match readValue fuel cs with
    | (item, none) => ([item], none, none)
    | (item, some rest) =>
      let (items, ending, rest) := readItems fuel false rest
      (item :: items, ending, rest)

/-- The members of an object that are left, behind the opening brace or behind a member. -/
def readMembers : Nat → Bool → List Char →
    List (Option String × Reading) × Option Fault × Rest
  | 0, _, _ => ([], some .cutOff, none)
  | fuel + 1, isFirst, cs =>
    match skipBlanks cs with
    | [] => ([], some .cutOff, none)
    | '\x7d' :: cs => ([], none, some cs)
    | c :: cs =>
      if isFirst then readMember fuel (c :: cs)
      else if c = ',' then readMember fuel cs
      else ([], some .malformed, none)

/-- A member and those behind it. -/
def readMember : Nat → List Char → List (Option String × Reading) × Option Fault × Rest
  | 0, _ => ([], some .cutOff, none)
  | fuel + 1, cs =>
    match skipBlanks cs with
    | [] => ([], some .cutOff, none)
    | '"' :: cs =>
      match readText {} cs with
      | .error f => ([], some f, none)
      | .ok (key, rest) =>
        match skipBlanks rest with
        | [] => ([(key, .broken .cutOff)], none, none)
        | ':' :: rest =>
          match readValue fuel rest with
          | (member, none) => ([(key, member)], none, none)
          | (member, some rest) =>
            let (members, ending, rest) := readMembers fuel false rest
            ((key, member) :: members, ending, rest)
        | _ => ([(key, .broken .malformed)], none, none)
    | _ => ([], some .malformed, none)

end

end JsonText

/-- A whole text: the tree of its first value, and the fault of anything but blanks behind it. -/
structure Json.Text where
  tree : Reading
  trailing : Option Flaw

/-- Reads a whole text. -/
def Json.read (s : String) : Json.Text :=
  let cs := s.toList
  match JsonText.readValue (3 * cs.length + 3) cs with
  | (tree, none) => ⟨tree, none⟩
  | (tree, some rest) =>
    ⟨tree, if (JsonText.skipBlanks rest).isEmpty then none else some .malformed⟩

/-- How many containers may lie in one another. -/
def Json.depthLimit : Nat := 127

/-- The value of a whole text. -/
def Json.parse (s : String) : Except Flaw Json := do
  let text := Json.read s
  let v ← text.tree.value Json.depthLimit
  Reading.settle text.trailing v

end Multimodal
