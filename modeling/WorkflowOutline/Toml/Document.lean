import WorkflowOutline.Toml.Table

/-!
# TOML documents

`Document.read` reads a text as the table that it describes, or finds that it is no TOML. A document
is a list of lines, then sections; values nest to a limited depth.

What is wrong with a text that is no TOML is not found out here. The words for it (`Refusal`) come
from outside, and nothing is assumed of them.
-/

namespace WorkflowOutline.Toml

namespace Reader

open Table (Line Header Section)

/-! ## Values -/

/-- Items in brackets; line ends and comments may stand between them, and a comma at the end. -/
def arrayItems (item : Reader Node) : Reader (List Node) := do
  char '['
  trivia
  let items ← optionally (separated (do trivia; char ','; trivia) item)
  trivia
  let _ ← if items.isSome then optionally (char ',') else pure none
  trivia
  char ']'
  return items.getD []

/-- A dotted key, an equals sign and a value. -/
def line (value : Reader Node) : Reader Line := do
  let (path, key) ← dottedKey
  char '='
  blanks
  let n ← value
  blanks
  return ⟨path, key, n⟩

/-- Lines in braces, set apart by commas, on one line of the text. -/
def inlineTable (value : Reader Node) : Reader Entries := do
  char '{'
  blanks
  let lines ← optionally (separated (char ',') (line value))
  char '}'
  match Table.insertLines [] (lines.getD []) with
  | some entries => pure entries
  | none => failure

/-- Reads something together with the bytes that it takes up. -/
def spanned {α : Type} (r : Reader α) : Reader (Span × α) := do
  let start ← position
  let a ← r
  return (⟨start, ← position⟩, a)

/-- A value whose arrays and tables nest at most so deep. -/
def value : Nat → Reader Node
  | 0 => scalarNode
  | depth + 1 =>
      scalarNode
        <|> ((fun (span, items) => .array span .brackets items)
          <$> spanned (arrayItems (value depth)))
        <|> ((fun (span, entries) => .table span .inline entries)
          <$> spanned (inlineTable (value depth)))
where
  scalarNode : Reader Node := (fun (span, s) => .scalar span s) <$> spanned scalar

/-! ## Sections -/

/-- A line of nothing but blanks and a comment. -/
def emptyLine : Reader Unit := do
  blanks
  newline <|> (do comment; newline <|> atEnd)

/-- The lines of a table; empty ones are skipped. -/
def lines : Reader (List Line) :=
  many do
    let _ ← many emptyLine
    let l ← line (value depthLimit)
    lineEnd
    pure l

/-- A key in brackets, or in double brackets for a table that is added to an array. -/
def header : Reader Header := do
  blanks
  let start ← position
  let addsToArray := (← optionally (chars ['[', '['])).isSome
  let _ ← if addsToArray then pure () else char '['
  let (path, key) ← dottedKey
  let _ ← if addsToArray then chars [']', ']'] else char ']'
  let stop ← position
  lineEnd
  return ⟨path, key, addsToArray, ⟨start, stop⟩⟩

/-- A header and the lines below it. -/
def tableSection : Reader Section := do
  let _ ← many emptyLine
  let h ← header
  return ⟨h, ← lines⟩

/-- A whole document: the lines before the first header, and the sections. -/
def document : Reader (List Line × List Section) := do
  let first ← lines
  let sections ← many tableSection
  let _ ← many emptyLine
  blanks
  return (first, sections)

end Reader

/-- The byte order mark, which may stand in front of a document. -/
def byteOrderMark : Char := '\ufeff'

/-- Reads a document; its top-level table covers the whole text. -/
def Document.read (text : String) : Option Entries := do
  let (lines, sections) ←
    match text.toList with
    | c :: rest =>
        if c = byteOrderMark then Reader.document.readAll rest c.utf8Size
        else Reader.document.readAll (c :: rest) 0
    | [] => Reader.document.readAll [] 0
  let root ← Table.insertLines [] lines
  sections.foldlM Table.addSection root

/-- What is said of a text that is no TOML. -/
abbrev Refusal := String → String

/-- Says of every text the same, and not where it goes wrong. -/
def bareRefusal : Refusal := fun _ => "TOML parse error\n"

end WorkflowOutline.Toml
