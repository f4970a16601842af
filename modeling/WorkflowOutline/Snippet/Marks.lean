import WorkflowOutline.Diagnostic.Basic
import WorkflowOutline.Snippet.Source

/-!
# Marks on lines

A label that stays within a line is an `Underline` of that line. A label over several lines is a
`Bracket`, which has a part on each of them; of a long one only the lines near its ends are shown.
-/

namespace WorkflowOutline.Snippet

/-- A label within a line, in bytes of the line. -/
structure Underline where
  style : LabelStyle
  start : Nat
  stop : Nat
  message : String

/-- What a label over several lines has on one of them. -/
inductive BracketPart where
  | top (start : Nat)
  | side
  | bottom (stop : Nat) (message : String)

/-- A part of a bracket and the column that the bracket is drawn in. -/
structure Bracket where
  column : Nat
  style : LabelStyle
  part : BracketPart

/-- A line of the source with its marks. -/
structure MarkedLine where
  index : Nat
  line : SourceLine
  underlines : List Underline
  brackets : List Bracket
  isShown : Bool

/-- A label with the lines of its ends. -/
structure PlacedLabel where
  label : Label
  first : Nat
  last : Nat

/-- Finds the lines of a label. -/
def place (lines : List SourceLine) (l : Label) : PlacedLabel :=
  ⟨l, lineIndex lines l.range.start, lineIndex lines l.range.stop⟩

/-- Whether a label stays within a line. -/
def PlacedLabel.isSingle (l : PlacedLabel) : Bool := l.first == l.last

/-- Underlines are kept in the order of their ranges, and a later one of the same range goes in
front. -/
def insertUnderline (u : Underline) : List Underline → List Underline
  | [] => [u]
  | v :: rest =>
      if v.start < u.start ∨ (v.start = u.start ∧ v.stop < u.stop) then v :: insertUnderline u rest
      else u :: v :: rest

/-- The underline of a label within a line; it has at least one byte. -/
def underlineOf (line : SourceLine) (l : Label) : Underline :=
  let start := l.range.start - line.start
  ⟨l.style, start, max (l.range.stop - line.start) (start + 1), l.message⟩

/-- The lines that are shown after the first line of a bracket. -/
def linesAfterStart : Nat := 3

/-- The lines that are shown before the last line of a bracket. -/
def linesBeforeEnd : Nat := 1

/-- The part of a bracket on a line, and whether the line is shown for it. -/
def bracketOn (index : Nat) (line : SourceLine) (l : PlacedLabel) (column : Nat) :
    Option (Bracket × Bool) :=
  let bracket (part : BracketPart) : Bracket := ⟨column, l.label.style, part⟩
  if index = l.first then
    some (bracket (.top (l.label.range.start - line.start)), true)
  else if index = l.last then
    some (bracket (.bottom (l.label.range.stop - line.start) l.label.message), true)
  else if l.first < index ∧ index < l.last then
    some (bracket .side,
      decide (index - l.first ≤ linesAfterStart) || decide (l.last - index ≤ linesBeforeEnd))
  else none

/-- The marks on a line. -/
def markLine (labels : List PlacedLabel) (index : Nat) (line : SourceLine) : MarkedLine :=
  let singles := labels.filter fun l => l.isSingle && l.first == index
  let parts := (labels.filter fun l => !l.isSingle).zipIdx.filterMap fun (l, column) =>
    bracketOn index line l column
  { index, line
    underlines := singles.foldl (fun us l => insertUnderline (underlineOf line l.label) us) []
    brackets := parts.map Prod.fst
    isShown := !singles.isEmpty || parts.any Prod.snd }

end WorkflowOutline.Snippet
