import WorkflowOutline.Decimal.Binary64
import WorkflowOutline.Text.Basic
import WorkflowOutline.Toml.DateTime

/-!
# TOML values

A `Node` is a value as it stands in a document, with the span it occupies and, for tables, the form
in which it was written. A `Value` knows neither spans nor forms.
-/

namespace WorkflowOutline.Toml

/-- A value without parts. -/
inductive Scalar where
  | string (s : String)
  | integer (i : Int)
  | float (f : Binary64)
  | boolean (b : Bool)
  | dateTime (d : DateTime)
deriving DecidableEq, Repr

/-- A value; tables keep the order of their keys. -/
inductive Value where
  | scalar (s : Scalar)
  | array (items : List Value)
  | table (entries : List (String × Value))

/-- How a table came about, which decides whether it may still grow. -/
inductive TableForm where
  /-- Written in braces: complete. -/
  | inline
  /-- Opened by a header of its own. -/
  | header
  /-- Passed through by a longer header. -/
  | implicit
  /-- Passed through by a dotted key. -/
  | dotted
deriving DecidableEq, Repr

/-- Whether an array was written in brackets, or by headers of its tables. -/
inductive ArrayForm where
  | brackets
  | headers
deriving DecidableEq, Repr

/-- A value in a document. The span of a table that was only passed through is that of the key
that passed. -/
inductive Node where
  | scalar (span : Span) (s : Scalar)
  | array (span : Span) (form : ArrayForm) (items : List Node)
  | table (span : Span) (form : TableForm) (entries : List (String × Node))

namespace Node

/-- The bytes that the value occupies. -/
def span : Node → Span
  | scalar span _ => span
  | array span _ _ => span
  | table span _ _ => span

end Node

end WorkflowOutline.Toml
