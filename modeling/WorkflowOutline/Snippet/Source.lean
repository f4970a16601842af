import WorkflowOutline.Text.Width

/-!
# Lines of a source

A source is a list of `SourceLine`s, each with the byte at which it starts. The `Cell`s of a line
tell for each character where it starts and how many columns it takes.
-/

namespace WorkflowOutline.Snippet

/-- A character of a line: where it starts, in bytes, and how many columns it takes. -/
structure Cell where
  char : Char
  byte : Nat
  width : Nat

/-- Tabs reach to the next multiple of this column. -/
def tabWidth : Nat := 4

/-- The characters of a line from a byte and a column on. -/
def cellsFrom : Nat → Nat → List Char → List Cell
  | _, _, [] => []
  | byte, column, c :: rest =>
      let width := if c = '\t' then tabWidth - column % tabWidth else Text.charWidth c
      ⟨c, byte, width⟩ :: cellsFrom (byte + c.utf8Size) (column + width) rest

/-- The number of bytes of some characters. -/
def byteLength (cs : List Char) : Nat := cs.foldl (fun n c => n + c.utf8Size) 0

/-- A line of the source with the byte at which it starts. -/
structure SourceLine where
  start : Nat
  chars : List Char

/-- The lines from a byte on; each but the last keeps its line feed. -/
def splitSource (start : Nat) (current : List Char) : List Char → List SourceLine
  | [] => [⟨start, current⟩]
  | c :: rest =>
      if c = '\n' then
        ⟨start, current ++ [c]⟩ :: splitSource (start + byteLength (current ++ [c])) [] rest
      else splitSource start (current ++ [c]) rest

/-- The lines of a source; there is at least one. -/
def sourceLines (source : String) : List SourceLine := splitSource 0 [] source.toList

namespace SourceLine

/-- The line without line ends and zeros at its end. -/
def visible (l : SourceLine) : List Char :=
  (l.chars.reverse.dropWhile fun c => c == '\n' || c == '\r' || c == '\x00').reverse

/-- The characters of the line as they are shown. -/
def cells (l : SourceLine) : List Cell := cellsFrom 0 0 l.visible

/-- The number of bytes of blanks in front of the line. -/
def indentation (l : SourceLine) : Nat := byteLength (l.visible.takeWhile Char.isWhitespace)

/-- The number of characters in front of a byte of the source, counted from one. -/
def column (l : SourceLine) (byte : Nat) : Nat :=
  ((cellsFrom 0 0 l.chars).filter fun c => c.byte + l.start < byte).length + 1

end SourceLine

/-- The index of the line that a byte is in. -/
def lineIndex (lines : List SourceLine) (byte : Nat) : Nat :=
  (lines.filter fun l => l.start ≤ byte).length - 1

end WorkflowOutline.Snippet
