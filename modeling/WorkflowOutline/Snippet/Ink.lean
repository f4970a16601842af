import WorkflowOutline.Diagnostic.Basic

/-!
# Styled text

A picture is a list of `Ink`s: pieces of text and changes of style. `Ink.toText` turns them into
text with control sequences for the styles, or without.
-/

namespace WorkflowOutline.Snippet

/-- What a piece of the picture is. -/
inductive Style where
  | title
  | message
  | label (style : LabelStyle)
  | frame
deriving DecidableEq, Repr

/-- Text, or a change of style. -/
inductive Ink where
  | text (s : String)
  | begin (style : Style)
  | done
deriving DecidableEq, Repr

/-- The control sequence that ends all styles. -/
def resetCode : String := "\x1b[0m"

/-- The control sequences that begin a style. -/
def Style.code : Style → String
  | title => resetCode ++ "\x1b[1m\x1b[38;5;9m"
  | message => resetCode ++ "\x1b[1m"
  | label .primary => resetCode ++ "\x1b[31m"
  | label .secondary => resetCode ++ "\x1b[36m"
  | frame => resetCode ++ "\x1b[36m"

/-- The text of a picture; without colours styles leave no trace. -/
def Ink.toText (colored : Bool) : Ink → String
  | text s => s
  | begin style => if colored then style.code else ""
  | done => if colored then resetCode else ""

/-- Text in a style. -/
def painted (style : Style) (s : String) : List Ink := [.begin style, .text s, .done]

/-- So many times the same character. -/
def repeated (n : Nat) (c : Char) : String := String.ofList (List.replicate n c)

end WorkflowOutline.Snippet
