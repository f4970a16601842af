import WorkflowOutline.Snippet.Ink
import WorkflowOutline.Snippet.Marks

/-!
# Rows of a picture

Every row has a gutter, a column for each bracket, and then text of the source or marks below it.
A line of the source takes one row, its underlines take at least one more, and so do both ends of a
bracket, unless it begins in front of the text.
-/

namespace WorkflowOutline.Snippet

/-! ## Gutters -/

/-- The measures that all rows of a snippet share: the digits of line numbers and the number of
brackets. -/
structure Layout where
  digits : Nat
  brackets : Nat

/-- A row without a line number, up to the frame. -/
def gutter (layout : Layout) (frame : String) : List Ink :=
  .text (repeated layout.digits ' ' ++ " ") :: painted .frame frame

/-- A row with a line number, up to the frame. -/
def numberGutter (layout : Layout) (number : Nat) : List Ink :=
  let digits := toString number
  painted .frame (repeated (layout.digits - digits.length) ' ' ++ digits)
    ++ .text " " :: painted .frame "│"

/-- One column of brackets: what is drawn for the bracket of the column, if the line has a part of
it. -/
def columnInks (layout : Layout) (brackets : List Bracket)
    (draw : Nat → Option Bracket → List Ink) : List Ink :=
  (List.range layout.brackets).flatMap fun column =>
    draw column (brackets.find? fun b => b.column == column)

/-- An empty column. -/
def blankColumn : List Ink := [.text "  "]

/-- A column with a corner or a side of a bracket. -/
def drawnColumn (style : LabelStyle) (s : String) : List Ink :=
  .text " " :: painted (.label style) s

/-- The columns of a row between lines: brackets that go on are drawn. -/
def throughColumns (layout : Layout) (brackets : List Bracket) : List Ink :=
  columnInks layout brackets fun _ b? =>
    match b? with
    | none => blankColumn
    | some b =>
        match b.part with
        | .top _ => blankColumn
        | .side | .bottom _ _ => drawnColumn b.style "│"

/-! ## Rows -/

/-- Whether a bracket starts in front of the text of its line, so that its corner fits at the
left. -/
def startsAtFront (line : SourceLine) (start : Nat) : Bool := start ≤ line.indentation

/-- The columns of a row of source text. -/
def sourceColumns (layout : Layout) (line : SourceLine) (brackets : List Bracket) : List Ink :=
  columnInks layout brackets fun _ b? =>
    match b? with
    | none => blankColumn
    | some b =>
        match b.part with
        | .top start => if startsAtFront line start then drawnColumn b.style "╭" else blankColumn
        | .side | .bottom _ _ => drawnColumn b.style "│"

/-- Whether two byte ranges have a byte in common. -/
def overlaps (start stop start' stop' : Nat) : Bool := max start start' < min stop stop'

/-- Whether a character belongs to what a primary label marks. -/
def isPrimary (m : MarkedLine) (c : Cell) : Bool :=
  let stop := c.byte + c.char.utf8Size
  (m.underlines.any fun u => u.style == .primary && overlaps u.start u.stop c.byte stop)
    || m.brackets.any fun b =>
      b.style == .primary &&
        match b.part with
        | .top start => decide (start ≤ c.byte)
        | .side => true
        | .bottom end_ _ => decide (stop ≤ end_)

/-- Changes of style between characters that are styled one by one; the last style is ended. -/
def styled (current : Option LabelStyle) : List (Option LabelStyle × String) → List Ink
  | [] => if current.isSome then [.done] else []
  | (style, s) :: rest =>
      (if current = style then []
        else match style with
          | none => [.done]
          | some style => [.begin (.label style)])
        ++ .text s :: styled style rest

/-- The text of a line, with what is primary in its colour. -/
def sourceText (m : MarkedLine) : List Ink :=
  styled none <| m.line.cells.map fun c =>
    (if isPrimary m c then some .primary else none,
      if c.char = '\t' then repeated c.width ' ' else c.char.toString)

/-- A row of source text. -/
def sourceRow (layout : Layout) (m : MarkedLine) : List Ink :=
  numberGutter layout (m.index + 1) ++ sourceColumns layout m.line m.brackets
    ++ .text " " :: sourceText m ++ [.text "\n"]

/-! ### Underlines -/

/-- The style that shows where labels of the given styles meet. -/
def strongest (styles : List LabelStyle) : Option LabelStyle :=
  if styles.contains .primary then some .primary
  else if styles.contains .secondary then some .secondary
  else none

/-- The index of the underline whose message stands behind the marks: the last one that reaches
furthest to the right, if it has a message and overlaps no other. -/
def trailingIndex (us : List Underline) : Option Nat :=
  let candidate := us.zipIdx.foldl
    (fun (best, furthest) (u, i) =>
      if furthest ≤ u.stop then
        (if u.message.isEmpty then none else some (u, i), u.stop)
      else (best, furthest))
    ((none, 0) : Option (Underline × Nat) × Nat)
  match candidate.1 with
  | none => none
  | some (u, i) =>
      if us.zipIdx.any fun (v, j) => j != i && overlaps u.start u.stop v.start v.stop then none
      else some i

/-- The mark below a character. -/
def caret : LabelStyle → Char
  | .primary => '^'
  | .secondary => '-'

/-- The marks below the text of a line; one more column stands behind the text. -/
def carets (m : MarkedLine) : List Ink :=
  let behind : Cell := ⟨'\x00', byteLength m.line.visible, 1⟩
  let furthest := (m.underlines.map (·.stop)).foldl max 0
  styled none <| (m.line.cells ++ [behind]).map fun c =>
    let style := strongest <| (m.underlines.filter fun u =>
      overlaps u.start u.stop c.byte (c.byte + c.char.utf8Size)).map (·.style)
    (style,
      match style with
      | some style => repeated c.width (caret style)
      | none => if c.byte < furthest then repeated c.width ' ' else "")

/-- Lines that point from messages to marks, below some characters of a line. -/
def pointers (hanging : List Underline) (furthestStart : Nat) (cells : List Cell) : List Ink :=
  cells.flatMap fun c =>
    let style := strongest <| (hanging.filter fun u =>
      c.byte ≤ u.start && u.start < c.byte + c.char.utf8Size).map (·.style)
    let spaces (n : Nat) : List Ink :=
      if c.byte ≤ furthestStart then [.text (repeated n ' ')] else []
    match style with
    | none => spaces c.width
    | some style => painted (.label style) "│" ++ spaces (c.width - 1)

/-- The rows below a line with underlines: the marks, with one message behind them, and the other
messages on rows of their own. -/
def underlineRows (layout : Layout) (m : MarkedLine) : List Ink :=
  if m.underlines.isEmpty then []
  else
    let front := gutter layout "│" ++ throughColumns layout m.brackets ++ [.text " "]
    let trailing := trailingIndex m.underlines
    let trailingText := match trailing.bind (m.underlines[·]?) with
      | none => []
      | some u => .text " " :: painted (.label u.style) u.message
    let hanging := (m.underlines.zipIdx.filter fun (u, i) =>
      !u.message.isEmpty && some i != trailing).map Prod.fst
    let furthestStart := (m.underlines.map (·.start)).foldl max 0
    let pointerRow :=
      if hanging.isEmpty then []
      else front ++ pointers hanging furthestStart m.line.cells ++ [.text "\n"]
    let messageRows := hanging.reverse.flatMap fun u =>
      front
        ++ pointers hanging furthestStart (m.line.cells.takeWhile fun c => c.byte < u.start)
        ++ painted (.label u.style) u.message ++ [.text "\n"]
    front ++ carets m ++ trailingText ++ [.text "\n"] ++ pointerRow ++ messageRows

/-! ### Ends of brackets -/

/-- The columns of the row that draws an end of the bracket in column `own`. Right of it the row is
crossed by the line that leads to the end. -/
def endColumns (layout : Layout) (own : Bracket) (corner : String) (brackets : List Bracket) :
    List Ink :=
  columnInks layout brackets fun column b? =>
    let crossed := own.column < column
    let empty :=
      if crossed then painted (.label own.style) "──" else blankColumn
    let through (style : LabelStyle) : List Ink :=
      (if crossed then painted (.label own.style) "─" else [.text " "])
        ++ painted (.label style) "│"
    match b? with
    | none => empty
    | some b =>
        if column = own.column then drawnColumn own.style corner
        else
          match b.part with
          | .side => through b.style
          | .top _ => if column < own.column then through b.style else empty
          | .bottom _ _ => if own.column < column then through b.style else empty

/-- The mark at an end of a bracket. -/
def endMark : LabelStyle → String
  | .primary => "^"
  | .secondary => "'"

/-- The line below the characters that start before a byte, with the mark at its end. -/
def endLine (style : LabelStyle) (cells : List Cell) (byte : Nat) (message : String) : List Ink :=
  let width := (cells.takeWhile fun c => c.byte < byte).foldl (fun n c => n + c.width) 0
  .begin (.label style) ::
    .text (repeated width '─') :: .text (endMark style)
    :: (if message.isEmpty then [] else [.text (" " ++ message)]) ++ [.done, .text "\n"]

/-- The rows below a line in which brackets begin, unless in front of the text, or end. -/
def bracketRows (layout : Layout) (m : MarkedLine) : List Ink :=
  m.brackets.flatMap fun b =>
    let row (corner : String) (byte : Nat) (message : String) : List Ink :=
      gutter layout "│" ++ endColumns layout b corner m.brackets
        ++ endLine b.style m.line.cells byte message
    match b.part with
    | .side => []
    | .top start => if startsAtFront m.line start then [] else row "╭" (start + 1) ""
    | .bottom stop message => row "╰" stop message

end WorkflowOutline.Snippet
