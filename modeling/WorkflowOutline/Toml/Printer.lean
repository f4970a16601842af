import WorkflowOutline.Decimal.Shortest
import WorkflowOutline.Toml.Value

/-!
# Printing TOML values

`Value.render` writes a value on one line as far as its strings allow: tables and arrays in
brackets, the keys of tables in order. Strings take the first of the four forms that shows them
without escapes.
-/

namespace WorkflowOutline.Toml

/-! ## Strings -/

/-- The forms a string can be written in. -/
inductive StringForm where
  | basic
  | literal
  | multilineBasic
  | multilineLiteral
deriving DecidableEq, Repr

/-- A control character that no literal string can show; tabs are shown as they are. -/
def isControl (c : Char) : Bool := (c.toNat < 0x20 && c != '\t') || c.toNat == 0x7F

/-- The length of the longest run of a character. -/
def longestRun (x : Char) (text : List Char) : Nat :=
  (text.foldl
    (fun (current, best) c => if c = x then (current + 1, max best (current + 1)) else (0, best))
    ((0, 0) : Nat × Nat)).2

/-- The form of a string: without escapes if that is possible, on one line if it has no line feed,
and between double quotes rather than single ones. -/
def stringForm (text : List Char) : StringForm :=
  let hasControl := text.any fun c => isControl c && c != '\n'
  let hasNewline := text.contains '\n'
  let hasBackslash := text.contains '\\'
  let double := longestRun '"' text
  let single := longestRun '\'' text
  if !hasControl && !hasBackslash && double == 0 && !hasNewline then .basic
  else if !hasControl && single == 0 && !hasNewline then .literal
  else if !hasControl && !hasBackslash && double ≤ 2 then .multilineBasic
  else if !hasControl && single ≤ 2 then .multilineLiteral
  else if hasNewline then .multilineBasic
  else .basic

/-- The form of a key that needs quotes: as of a string that has to stay on one line. -/
def keyForm (name : List Char) : StringForm :=
  let hasControl := name.any isControl
  if !hasControl && !name.contains '\\' && !name.contains '"' then .basic
  else if !hasControl && !name.contains '\'' then .literal
  else .basic

/-- A digit of base sixteen, in upper case. -/
def upperHexDigit (n : Nat) : Char := (Nat.digitChar n).toUpper

/-- A character by the four digits of its code point. -/
def unicodeEscape (c : Char) : List Char :=
  let n := c.toNat
  ['\\', 'u', upperHexDigit (n / 4096 % 16), upperHexDigit (n / 256 % 16),
    upperHexDigit (n / 16 % 16), upperHexDigit (n % 16)]

/-- A character other than a quote between double quotes. -/
def escapeBasic (multiline : Bool) (c : Char) : List Char :=
  if c = '\x08' then ['\\', 'b']
  else if c = '\t' then ['\\', 't']
  else if c = '\x0c' then ['\\', 'f']
  else if c = '\r' then ['\\', 'r']
  else if c = '\\' then ['\\', '\\']
  else if c = '\n' then (if multiline then ['\n'] else ['\\', 'n'])
  else if isControl c then unicodeEscape c
  else [c]

/-- The text between double quotes. So many quotes in a row may stand unescaped; the next one is
escaped, and then counting starts again. -/
def basicText (multiline : Bool) (allowed : Nat) : Nat → List Char → List Char
  | _, [] => []
  | run, c :: rest =>
      if c = '"' then
        if run < allowed then '"' :: basicText multiline allowed (run + 1) rest
        else '\\' :: '"' :: basicText multiline allowed 0 rest
      else escapeBasic multiline c ++ basicText multiline allowed 0 rest

/-- A string in one of the forms; the forms with three quotes open with a line feed when the string
has one. -/
def quoteAs (form : StringForm) (text : List Char) : List Char :=
  let opening := if text.contains '\n' then ['\n'] else []
  match form with
  | .basic => '"' :: basicText false 0 0 text ++ ['"']
  | .literal => '\'' :: text ++ ['\'']
  | .multilineBasic =>
      ['"', '"', '"'] ++ opening ++ basicText true 2 0 text ++ ['"', '"', '"']
  | .multilineLiteral => ['\'', '\'', '\''] ++ opening ++ text ++ ['\'', '\'', '\'']

/-- A string as a value. -/
def renderString (s : String) : String :=
  String.ofList (quoteAs (stringForm s.toList) s.toList)

/-- A key, in quotes only where it needs them. -/
def renderKey (name : String) : String :=
  let isBare (c : Char) : Bool := c.isAlphanum || c == '_' || c == '-'
  if !name.isEmpty && name.toList.all isBare then name
  else String.ofList (quoteAs (keyForm name.toList) name.toList)

/-! ## Values -/

/-- A number of the format as a value. -/
def renderFloat : Binary64 → String
  | .nan => "nan"
  | f => f.positional

/-- A scalar as a value. -/
def Scalar.render : Scalar → String
  | string s => renderString s
  | integer i => toString i
  | float f => renderFloat f
  | boolean b => if b then "true" else "false"
  | dateTime d => d.text

/-- Items in brackets. -/
def renderItems (items : List String) : String := "[" ++ String.intercalate ", " items ++ "]"

/-- Entries in braces, in the order of their keys. -/
def renderEntries (entries : List (String × String)) : String :=
  let sorted := entries.mergeSort fun a b => !decide (b.1 < a.1)
  match sorted with
  | [] => "{}"
  | _ :: _ =>
      Text.braced (String.intercalate ", " (sorted.map fun e => renderKey e.1 ++ " = " ++ e.2))

namespace Value

mutual

/-- A value as it stands inside an array or a table. -/
def render : Value → String
  | scalar s => s.render
  | array items => renderItems (renderAll items)
  | table entries => renderEntries (renderEach entries)

/-- The texts of a list of values. -/
def renderAll : List Value → List String
  | [] => []
  | v :: rest => v.render :: renderAll rest

/-- The keys of a table with the texts of their values. -/
def renderEach : List (String × Value) → List (String × String)
  | [] => []
  | (key, v) :: rest => (key, v.render) :: renderEach rest

end

/-- A value as a script would write it. A string stands between single quotes just as it is; a date
or time that is the whole value is shown as a table of its text. -/
def literal : Value → String
  | scalar (.string s) => "'" ++ s ++ "'"
  | scalar (.dateTime d) => (table [(DateTime.key, scalar (.string d.text))]).render
  | v => v.render

end Value

end WorkflowOutline.Toml
