import WorkflowOutline.Text.Basic

/-!
# Diagnostics

A `Diagnostic` is an error report that points into source files: a message, labels on byte ranges
and closing notes.
-/

namespace WorkflowOutline

/-- A primary label marks the place of an error, a secondary one a related place. -/
inductive LabelStyle where
  | primary
  | secondary
deriving DecidableEq, Repr

/-- A marked byte range of a source file. -/
structure Label where
  style : LabelStyle
  fileId : Nat
  range : Span
  message : String
deriving DecidableEq, Repr

/-- An error with the places it concerns and further remarks. -/
structure Diagnostic where
  message : String
  labels : List Label
  notes : List String
deriving DecidableEq, Repr

namespace Label

/-- A label on the place of the error, without text. -/
def primary (fileId : Nat) (range : Span) : Label := ⟨.primary, fileId, range, ""⟩

/-- A label with a text on a related place. -/
def secondary (fileId : Nat) (range : Span) (message : String) : Label :=
  ⟨.secondary, fileId, range, message⟩

end Label

end WorkflowOutline
