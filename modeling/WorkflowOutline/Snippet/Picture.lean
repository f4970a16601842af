import WorkflowOutline.Snippet.Rows

/-!
# Source snippets

`Diagnostic.render` shows a diagnostic with the lines of the source that its labels mark. A label
within one line is underlined. A label over several lines is drawn as a bracket at the left, in a
column of its own; of a long one only the lines near its ends are shown.
-/

namespace WorkflowOutline

namespace Snippet

/-- A line with all that is drawn below it. -/
def lineRows (layout : Layout) (m : MarkedLine) : List Ink :=
  sourceRow layout m ++ underlineRows layout m ++ bracketRows layout m

/-- A row that stands for lines that are left out. -/
def breakRow (layout : Layout) (next : MarkedLine) : List Ink :=
  gutter layout "·" ++ throughColumns layout next.brackets ++ [.text "\n"]

/-- The shown lines in order. A single line between two of them is shown too, without its
underlines; more are left out. -/
def body (layout : Layout) (all : List MarkedLine) : List MarkedLine → List Ink
  | [] => []
  | m :: rest =>
      lineRows layout m
        ++ (match rest with
          | [] => []
          | next :: _ =>
              if next.index = m.index + 1 then []
              else if next.index = m.index + 2 then
                match all[m.index + 1]? with
                | none => []
                | some between => lineRows layout { between with underlines := [] }
              else breakRow layout next)
        ++ body layout all rest

/-- The label that gives the place of the whole: the earliest among the primary ones, else among
all. -/
def mainLabel? (labels : List Label) : Option Label :=
  labels.foldl
    (fun best l =>
      match best with
      | none => some l
      | some b =>
          if (b.style = .secondary ∧ l.style = .primary)
            ∨ (b.style = l.style ∧ l.range.start < b.range.start) then some l
          else some b)
    none

/-- The part of the picture that shows the source. -/
def picture (layout : Layout) (name : String) (lines : List SourceLine)
    (labels : List PlacedLabel) (hasNotes : Bool) : List Ink :=
  match mainLabel? (labels.map (·.label)) with
  | none => []
  | some main =>
      let index := lineIndex lines main.range.start
      let column := (lines[index]?.map (·.column main.range.start)).getD 1
      let place := name ++ ":" ++ toString (index + 1) ++ ":" ++ toString column
      let emptyRow := gutter layout "│" ++ throughColumns layout [] ++ [.text "\n"]
      let all := lines.zipIdx.map fun (l, i) => markLine labels i l
      gutter layout "┌─" ++ [.text (" " ++ place ++ "\n")] ++ emptyRow
        ++ body layout all (all.filter (·.isShown))
        ++ (if hasNotes then emptyRow else [])

/-- The first row: that there is an error, and which. -/
def header (message : String) : List Ink :=
  [.begin .title, .text "error", .begin .message, .text (": " ++ message), .done, .text "\n"]

/-- The row of a note. -/
def noteRow (layout : Layout) (note : String) : List Ink :=
  gutter layout "=" ++ [.text (" " ++ note ++ "\n")]

/-- The measures for some labels. -/
def layoutOf (labels : List PlacedLabel) : Layout :=
  let numbers := labels.flatMap fun l => [l.first + 1, l.last + 1]
  { digits := (numbers.map fun n => (toString n).length).foldl max 0
    brackets := (labels.filter fun l => !l.isSingle).length }

end Snippet

open Snippet in
/-- The picture of a diagnostic about a named source; an empty row ends it. -/
def Diagnostic.inks (d : Diagnostic) (name source : String) : List Ink :=
  let lines := sourceLines source
  let labels := d.labels.map (place lines)
  let layout := layoutOf labels
  header d.message ++ picture layout name lines labels (!d.notes.isEmpty)
    ++ d.notes.flatMap (noteRow layout) ++ [.text "\n"]

/-- The text of a diagnostic about a named source, with or without colours. -/
def Diagnostic.render (d : Diagnostic) (name source : String) (colored : Bool) : String :=
  String.join ((d.inks name source).map (Snippet.Ink.toText colored))

end WorkflowOutline
