import WorkflowOutline.Text.Basic

/-!
# Dumps of structured values

A `Dump` is a value as a tree of named records, lists and single words. `Dump.render` writes it out
with one member to a line, set in by four columns for each level, and a comma behind every member.
-/

namespace WorkflowOutline

/-- A value as it is dumped. -/
inductive Dump where
  /-- A value that takes one line. -/
  | atom (text : String)
  /-- A value in parentheses behind a name. -/
  | wrapped (name : String) (inner : Dump)
  /-- Members in brackets. -/
  | list (items : List Dump)
  /-- Named members in braces behind a name. -/
  | record (name : String) (fields : List (String × Dump))

namespace Dump

/-- A value that may be missing. -/
def ofOption {α : Type} (dump : α → Dump) : Option α → Dump
  | none => atom "None"
  | some a => wrapped "Some" (dump a)

/-! ## Lines -/

/-- How far a member is set in. -/
def indentation : String := "    "

/-- The lines of a member whose first line is still to come: the label is put in front of the first
line and a comma behind the last one. -/
def memberLines (label : String) : List String → List String
  | [] => []
  | [line] => [indentation ++ label ++ line ++ ","]
  | line :: rest => (indentation ++ label ++ line) :: memberLines "" rest

/-- The lines of members between an opening and a closing one. -/
def enclosed (opening closing : String) (members : List String) : List String :=
  opening :: members ++ [closing]

mutual

/-- The lines of a dump; a list without members takes one line. -/
def lines : Dump → List String
  | atom text => [text]
  | wrapped name inner => enclosed (name ++ "(") ")" (memberLines "" inner.lines)
  | list [] => ["[]"]
  | list (d :: rest) => enclosed "[" "]" (memberLines "" d.lines ++ itemLines rest)
  | record name fields =>
      enclosed (name ++ " " ++ Text.openBrace) Text.closeBrace (fieldLines fields)

/-- The lines of the members of a list. -/
def itemLines : List Dump → List String
  | [] => []
  | d :: rest => memberLines "" d.lines ++ itemLines rest

/-- The lines of the members of a record. -/
def fieldLines : List (String × Dump) → List String
  | [] => []
  | (name, d) :: rest => memberLines (name ++ ": ") d.lines ++ fieldLines rest

end

/-- The dump as one text, without a line end behind the last line. -/
def render (d : Dump) : String := String.intercalate "\n" d.lines

end Dump

end WorkflowOutline
