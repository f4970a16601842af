import WorkflowOutline.Decimal.Shortest
import WorkflowOutline.Outline.Basic
import WorkflowOutline.Text.Printable

/-!
# Values that do not fit

A `Mismatch` says why a TOML value is not what an outline or a fixture has in its place, and
`SchemaError` adds where. `SchemaError.report` shows the error with the line of the text.
-/

namespace WorkflowOutline

/-! ## What was found -/

/-- A value, as far as an error text shows it. -/
inductive Found where
  | string (s : String)
  | integer (i : Int)
  | float (f : Binary64)
  | boolean (b : Bool)
  | sequence
  | map
deriving DecidableEq, Repr

namespace Found

/-- What an error text says of a value; dates and times count as tables. -/
def ofNode : Toml.Node → Found
  | .scalar _ (.string s) => string s
  | .scalar _ (.integer i) => integer i
  | .scalar _ (.float f) => float f
  | .scalar _ (.boolean b) => boolean b
  | .scalar _ (.dateTime _) => map
  | .array _ _ _ => sequence
  | .table _ _ _ => map

/-- The words for a value. -/
def text : Found → String
  | string s => "string " ++ Text.quote s
  | integer i => "integer `" ++ toString i ++ "`"
  | float f => "floating point `" ++ f.positional ++ "`"
  | boolean b => "boolean `" ++ (if b then "true" else "false") ++ "`"
  | sequence => "sequence"
  | map => "map"

end Found

/-- What stands in a place that a value is read from. -/
inductive Expected where
  | string
  | boolean
  | sequence
  | kind
  | declaration
  | expectation
  | dateTime
deriving DecidableEq, Repr

/-- The words for what a place holds. -/
def Expected.text : Expected → String
  | string => "a string"
  | boolean => "a boolean"
  | sequence => "a sequence"
  | kind => "variant identifier"
  | declaration => "internally tagged enum OutlineDeclaration"
  | expectation => "struct Expectation"
  | dateTime => "string containing a datetime"

/-! ## Kinds and their fields -/

/-- What a field of a declaration holds. -/
inductive FieldType where
  | text
  | literal
  | flag
  | texts
  | imports
deriving DecidableEq, Repr

namespace OutlineKind

/-- The fields with what they hold, in the order in which a declaration in brackets lists them. -/
def fieldTypes : OutlineKind → List (String × FieldType)
  | feature => [("name", .text), ("value", .literal)]
  | inclusion => [("from", .text), ("names", .imports)]
  | param => [("name", .text), ("default", .literal)]
  | workflow => [("name", .text), ("entry", .flag)]
  | output => [("names", .texts)]
  | process => [("name", .text)]
  | function => [("name", .text), ("params", .texts)]
  | enum => [("name", .text), ("values", .texts)]
  | hostClass => [("name", .text)]

/-- The names of the fields, in order. -/
def fields (k : OutlineKind) : List String := k.fieldTypes.map Prod.fst

/-- The capitalised name of a kind in error texts. -/
def title : OutlineKind → String
  | feature => "Feature"
  | inclusion => "Include"
  | param => "Param"
  | workflow => "Workflow"
  | output => "Output"
  | process => "Process"
  | function => "Function"
  | enum => "Enum"
  | hostClass => "Class"

end OutlineKind

/-! ## Errors -/

/-- Why a value does not fit its place. -/
inductive Mismatch where
  | missingField (name : String)
  | unknownKind (word : String)
  | wrongType (found : Found) (expected : Expected)
  | noShebangForm
  | noImportForm
  | tooFewFields (kind : OutlineKind)
  | tooManyFields (given : Nat) (kind : OutlineKind)
  | noDateTime
  | tooManyEntries (given : Nat)
deriving DecidableEq, Repr

namespace Mismatch

/-- A number of elements. -/
def elements (n : Nat) : String :=
  toString n ++ (if n = 1 then " element" else " elements")

/-- The text of the error. -/
def message : Mismatch → String
  | missingField name => "missing field `" ++ name ++ "`"
  | unknownKind word =>
      "unknown variant `" ++ word ++ "`, expected one of "
        ++ String.intercalate ", " (OutlineKind.all.map fun k => "`" ++ k.keyword ++ "`")
  | wrongType found expected => "invalid type: " ++ found.text ++ ", expected " ++ expected.text
  | noShebangForm => "data did not match any variant of untagged enum Shebang"
  | noImportForm => "data did not match any variant of untagged enum IncludeName"
  | tooFewFields kind =>
      "invalid length 0, expected struct variant OutlineDeclaration::" ++ kind.title ++ " with "
        ++ elements kind.fields.length
  | tooManyFields given kind =>
      "invalid length " ++ toString given ++ ", expected " ++ elements kind.fields.length
        ++ " in sequence"
  | noDateTime => "failed to parse datetime"
  | tooManyEntries given =>
      "invalid length " ++ toString given ++ ", expected " ++ elements 1 ++ " in map"

end Mismatch

/-- A value that does not fit, and where it stands. -/
structure SchemaError where
  mismatch : Mismatch
  span : Span
deriving DecidableEq, Repr

namespace SchemaError

/-- The characters whose encoding starts before a byte offset. -/
def before (offset : Nat) : List Char → List Char
  | [] => []
  | c :: rest => if offset = 0 then [] else c :: before (offset - c.utf8Size) rest

/-- The error below the line of the text in which its span starts. Columns count characters from
one; there is a mark for each byte of the span up to the end of the line, and at least one. -/
def report (e : SchemaError) (source : String) : String :=
  let text := source.toList
  let head := before (min e.span.start (source.utf8ByteSize - 1)) text
  let line := head.count '\n'
  let column := (head.reverse.takeWhile (· != '\n')).length
  let number := toString (line + 1)
  let content := ((source.splitOn "\n")[line]?).getD ""
  let gutter := String.ofList (List.replicate (number.length + 1) ' ') ++ "|"
  let marks := max 1 (min e.span.length (content.utf8ByteSize - column))
  "TOML parse error at line " ++ number ++ ", column " ++ toString (column + 1) ++ "\n"
    ++ gutter ++ "\n"
    ++ number ++ " | " ++ content ++ "\n"
    ++ gutter ++ String.ofList (List.replicate (column + 1) ' ' ++ List.replicate marks '^') ++ "\n"
    ++ e.mismatch.message ++ "\n"

end SchemaError

end WorkflowOutline
