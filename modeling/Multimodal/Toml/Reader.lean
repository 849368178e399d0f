import Multimodal.Toml.Number

/-! # Settings files

A file starts with values by name; after that every header opens a table for the values that follow
it.

* `Scan.value`: a value.
* `Scan.file`: the parts of a file.
* `Toml.read?`: the table that a file describes.
-/

namespace Multimodal

namespace Scan

/-! ## Values -/

/-- Names may have fewer parts than this, and containers may be nested fewer levels than this. -/
def nestingLimit : Nat := 80

/-- One part of a dotted name. -/
def keyPart : Scan String :=
  oneLineText <|> (do
    return String.ofList (← run1 fun c => c.isAlphanum || c = '-' || c = '_'))

/-- A dotted name. -/
def key : Scan TomlKey := do
  let part : Scan String := do
    blanks
    let name ← keyPart
    blanks
    return name
  let first ← part
  let rest ← many (do char '.'; part)
  let parts := first :: rest
  if nestingLimit ≤ parts.length then failure
  return ⟨parts.dropLast, parts.getLastD first⟩

/-- A name with its value. -/
def pair (value : Scan Toml) : Scan (TomlKey × Toml) := do
  let k ← key
  char '='
  blanks
  return (k, ← value)

/-- A value that holds no others. -/
def scalar : Scan Toml :=
  (do return .text (← text)) <|>
    (do word "true".toList; return .boolean true) <|>
    (do word "false".toList; return .boolean false) <|>
    (do return .moment (← moment)) <|>
    (do return .float (← float)) <|>
    (do return .integer (← integer))

/-- An array of items, which may run over several lines and end with a comma. -/
def array (item : Scan Toml) : Scan Toml := do
  char '['
  let items ← separated (char ',') (do
    space
    let v ← item
    space
    return v)
  if !items.isEmpty then
    let _ ← optional (char ',')
  space
  char ']'
  return .array items

/-- A table between braces. -/
def inlineTable (item : Scan Toml) : Scan Toml := do
  char '\x7b'
  let pairs ← separated (char ',') (do
    let p ← pair item
    blanks
    return p)
  blanks
  char '\x7d'
  match TomlTable.defineAll [] pairs with
  | none => failure
  | some t => return .table (finishMembers t)

/-- A value in which so many containers lie in one another at most. -/
def value : Nat → Scan Toml
  | 0 => scalar
  | depth + 1 => scalar <|> array (value depth) <|> inlineTable (value depth)

/-! ## Files -/

/-- The values up to the next header. -/
def pairs : Scan (List (TomlKey × Toml)) :=
  many (do
    emptyLines
    let p ← pair (value (nestingLimit - 1))
    endOfLine
    return p)

/-- A header: whether it adds to an array of tables, and the name of the table. -/
def header : Scan (Bool × TomlKey) :=
  (do
    word ['[', '[']
    let k ← key
    word [']', ']']
    return (true, k)) <|>
  (do
    char '['
    let k ← key
    char ']'
    return (false, k))

/-- A header with the values that follow it, as what they do to the table of the file. -/
def block : Scan (TomlTable → Option TomlTable) := do
  emptyLines
  let (isItem, k) ← header
  endOfLine
  let values ← pairs
  return fun t => if isItem then t.openItem k values else t.openTable k values

/-- A whole file, perhaps behind a byte order mark. -/
def file : Scan TomlTable := do
  let _ ← optional (char '\ufeff')
  let top ← pairs
  let blocks ← many block
  emptyLines
  done
  match TomlTable.defineAll [] top with
  | none => failure
  | some t =>
    match blocks.foldlM (fun t add => add t) t with
    | none => failure
    | some t => return t

end Scan

/-- The members of the table that a file describes; none if it is malformed or defines a name twice. -/
def Toml.read? (s : String) : Option (List (String × Toml)) :=
  (Scan.file s.toList).map fun (t, _) => finishMembers t

end Multimodal
