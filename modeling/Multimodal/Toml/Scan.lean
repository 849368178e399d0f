import Multimodal.Hexadecimal

/-! # Reading settings text

The characters of a settings file are taken off the front of what is left of the text.  A reader that
fails takes nothing, so another one can be tried in its place.

* `Scan`: readers; `one`, `run`, `many` and `separated` build them.
* `blanks`, `newline`, `endOfLine`, `space`: what stands between the parts of a file.
* `oneLineText`, `text`: strings, with or without the ones that run over several lines.
-/

namespace Multimodal

/-- A reader of characters. -/
abbrev Scan (α : Type) := StateT (List Char) Option α

namespace Scan

variable {α : Type}

/-! ## Building readers -/

/-- The next character, if it passes a test. -/
def one (p : Char → Bool) : Scan Char := fun cs =>
  match cs with
  | c :: rest => if p c then some (c, rest) else none
  | [] => none

/-- This character. -/
def char (c : Char) : Scan Unit := do let _ ← one (· = c)

/-- These characters. -/
def word : List Char → Scan Unit
  | [] => pure ()
  | c :: cs => do char c; word cs

/-- All characters up to one that does not pass a test. -/
def run (p : Char → Bool) : Scan (List Char) := fun cs => some (cs.span p)

/-- The same, of which there must be one. -/
def run1 (p : Char → Bool) : Scan (List Char) := do
  let first ← one p
  return first :: (← run p)

/-- So many times the same. -/
def times : Nat → Scan α → Scan (List α)
  | 0, _ => pure []
  | n + 1, item => do
    let first ← item
    return first :: (← times n item)

/-- As many items as there are, and what is left behind them; an item that takes nothing is the
last. -/
def takeMany (item : Scan α) (cs : List Char) : List α × List Char :=
  match item cs with
  | none => ([], cs)
  | some (a, rest) =>
    if _ : rest.length < cs.length then
      let (as, rest) := takeMany item rest
      (a :: as, rest)
    else ([a], rest)
termination_by cs.length

/-- As many items as there are. -/
def many (item : Scan α) : Scan (List α) := fun cs => some (takeMany item cs)

/-- Items with a separator between them. -/
def separated (separator : Scan Unit) (item : Scan α) : Scan (List α) :=
  (do
    let first ← item
    let rest ← many (do separator; item)
    return first :: rest) <|> pure []

/-- The end of the text. -/
def done : Scan Unit := fun cs => if cs.isEmpty then some ((), []) else none

/-- The characters that a reader takes. -/
def taken (item : Scan α) : Scan (List Char) := fun cs =>
  (item cs).map fun (_, rest) => (cs.take (cs.length - rest.length), rest)

/-! ## Between the parts -/

/-- A blank or a tabulator. -/
def isBlank (c : Char) : Bool := c = ' ' || c = '\t'

/-- Any character but control characters; a tabulator is none of those. -/
def isPlain (c : Char) : Bool := c = '\t' || (' ' ≤ c && c ≠ '\x7f')

/-- Blanks, if there are any. -/
def blanks : Scan Unit := do let _ ← run isBlank

/-- At least one blank. -/
def blanks1 : Scan Unit := do let _ ← run1 isBlank

/-- A line break in either form. -/
def newline : Scan Unit := char '\n' <|> word ['\r', '\n']

/-- A remark, which runs to the end of its line. -/
def comment : Scan Unit := do
  char '#'
  let _ ← run isPlain

/-- What may follow on a line that is complete. -/
def endOfLine : Scan Unit := do
  blanks
  let _ ← optional comment
  newline <|> done

/-- What may stand between lines. -/
def emptyLines : Scan Unit := do
  let _ ← many (blanks1 <|> newline <|> (do comment; newline <|> done))

/-- What may stand between the items of an array. -/
def space : Scan Unit := do
  let _ ← many (blanks1 <|> newline <|> (do comment; newline))

/-! ## Strings -/

/-- A character by its code in so many hexadecimal digits. -/
def charByCode (width : Nat) : Scan Char := do
  let digits ← times width (one fun c => (hexDigit? c).isSome)
  match hexNumber? digits with
  | none => failure
  | some code => if (Char.ofNat code).toNat = code then return Char.ofNat code else failure

/-- A character written with a backslash. -/
def escape : Scan Char := do
  char '\\'
  match ← one fun _ => true with
  | '"' => return '"'
  | '\\' => return '\\'
  | 'b' => return '\x08'
  | 'f' => return '\x0c'
  | 'n' => return '\n'
  | 'r' => return '\r'
  | 't' => return '\t'
  | 'u' => charByCode 4
  | 'U' => charByCode 8
  | _ => failure

/-- A line break that a backslash takes out of a string, with all blanks and line breaks behind it. -/
def continuation : Scan Unit := do
  char '\\'
  blanks
  newline
  let _ ← many (blanks1 <|> newline)

/-- Characters of a string in double quotes that mean themselves. -/
def plainRun : Scan (List Char) := run1 fun c => isPlain c && c ≠ '"' && c ≠ '\\'

/-- Characters of a string in single quotes. -/
def literalRun : Scan (List Char) := run1 fun c => isPlain c && c ≠ '\x27'

/-- A string on one line between quotes of either kind. -/
def oneLineText : Scan String :=
  (do
    char '"'
    let parts ← many (plainRun <|> (do return [← escape]))
    char '"'
    return String.ofList parts.flatten) <|>
  (do
    char '\x27'
    let parts ← many literalRun
    char '\x27'
    return String.ofList parts.flatten)

/-- One or two quotes inside a string that three of them end. -/
def fewQuotes (quote : Char) : Scan (List Char) := fun cs =>
  let quotes := cs.takeWhile (· = quote)
  if 0 < quotes.length ∧ quotes.length < 3 then some (quotes, cs.drop quotes.length) else none

/-- The quotes that end such a string; up to two more in front of them belong to it. -/
def closingQuotes (quote : Char) : Scan (List Char) := fun cs =>
  let found := min 5 (cs.takeWhile (· = quote)).length
  if found < 3 then none else some (List.replicate (found - 3) quote, cs.drop found)

/-- A string that may run over several lines; a line break right behind its opening quotes does not
count. -/
def longText (quote : Char) (part : Scan (List Char)) : Scan String := do
  word [quote, quote, quote]
  let _ ← optional newline
  let parts ← many (part <|> fewQuotes quote <|> (do newline; return ['\n']))
  let last ← closingQuotes quote
  return String.ofList (parts.flatten ++ last)

/-- A string in any form. -/
def text : Scan String :=
  longText '"' (plainRun <|> (do continuation; return []) <|> (do return [← escape])) <|>
    longText '\x27' literalRun <|> oneLineText

end Scan

end Multimodal
