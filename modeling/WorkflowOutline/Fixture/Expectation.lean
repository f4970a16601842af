import WorkflowOutline.Outline.Decode

/-!
# Expectations of a fixture

A fixture is an outline with a description and an `Expectation` in the same document. Values of
other types are errors at the very place where they stand.
-/

namespace WorkflowOutline

open Toml (Node)

/-- What a fixture says about its outline; what is absent is not said. -/
structure Expectation where
  /-- The headers of the declarations, in canonical order. -/
  order : Option (List String)
  /-- The interpreter line after all replacements. -/
  shebang : Option String
  /-- For each validation error, in order, a part of its message. -/
  errors : Option (List String)
deriving DecidableEq, Repr

namespace Expectation

/-- Says nothing, and so expects a script without errors. -/
def none : Expectation := ⟨.none, .none, .none⟩

/-- A string, or an error where it should stand. -/
def decodeText (n : Node) : Except SchemaError String := (decodeString n).mapError (⟨·, n.span⟩)

/-- A list of strings. -/
def decodeTexts : Node → Except SchemaError (List String)
  | .array _ _ items => items.mapM decodeText
  | n => .error ⟨.wrongType (.ofNode n) .sequence, n.span⟩

/-- Takes in one named field; unknown names mean nothing. -/
def decodeField (e : Expectation) (field : String × Node) : Except SchemaError Expectation :=
  match field with
  | ("order", n) => do return { e with order := some (← decodeTexts n) }
  | ("shebang", n) => do return { e with shebang := some (← decodeText n) }
  | ("errors", n) => do return { e with errors := some (← decodeTexts n) }
  | _ => .ok e

/-- The names of the fields, in the order in which an expectation in brackets lists them. -/
def fields : List String := ["order", "shebang", "errors"]

/-- An expectation as a table or as a list of its fields, of which further members mean nothing.
A date or time says nothing either. -/
def decode : Node → Except SchemaError Expectation
  | .table _ _ entries => entries.foldlM decodeField none
  | .array _ _ items => (fields.zip items).foldlM decodeField none
  | .scalar _ (.dateTime _) => .ok none
  | n => .error ⟨.wrongType (.ofNode n) .expectation, n.span⟩

end Expectation

/-- The part of a fixture that is no outline. -/
structure FixtureConfig where
  description : Option String
  expectation : Expectation
deriving DecidableEq, Repr

namespace FixtureConfig

/-- Takes in one entry of the document. -/
def decodeEntry (c : FixtureConfig) (entry : String × Node) : Except SchemaError FixtureConfig :=
  match entry with
  | ("description", n) => do return { c with description := some (← Expectation.decodeText n) }
  | ("expect", n) => do return { c with expectation := ← Expectation.decode n }
  | _ => .ok c

/-- The description and the expectation of a document. -/
def ofDocument (entries : Toml.Entries) : Except SchemaError FixtureConfig :=
  entries.foldlM decodeEntry ⟨none, Expectation.none⟩

end FixtureConfig

end WorkflowOutline
