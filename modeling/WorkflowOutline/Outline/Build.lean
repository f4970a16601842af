import WorkflowOutline.Outline.Basic
import WorkflowOutline.Script.Basic
import WorkflowOutline.Toml.Printer

/-!
# From outlines to scripts

`Outline.build` replays an outline into a new script, as a reader of the source would fill it: the
interpreter lines first, then the declarations in order.
-/

namespace WorkflowOutline

namespace OutlineItem

/-- Whether a workflow is to be the entry: as it says, and otherwise if it has no name. -/
def isDesignated : OutlineItem → Bool
  | workflow name entry => entry.getD name.isNone
  | _ => false

/-- The item that is added for the entry of an outline at the given span. -/
def toItem (span : Span) : OutlineItem → Item
  | feature name value => .featureFlag ⟨name, value.literal, span⟩
  | inclusion source names => .inclusion ⟨source, names, span⟩
  | param name default => .param ⟨name, default.map Toml.Value.literal, span⟩
  | workflow name _ => .workflow ⟨name, span⟩
  | output names => .outputs ⟨names.map fun name => ⟨name, span⟩, span⟩
  | process name => .process ⟨name, span⟩
  | function name params => .function ⟨name, params, span⟩
  | enum name values => .hostClass (.enumeration name values span)
  | hostClass name => .hostClass (.plain name span)

/-- Adds the item, and makes a designated workflow the entry. -/
def replay (s : Script) (span : Span) (d : OutlineItem) : Script :=
  let added := s.add (d.toItem span)
  if d.isDesignated then added.setEntry s.nextId else added

end OutlineItem

namespace Outline

/-- The interpreter lines, in order. -/
def shebangLines (o : Outline) : List String := (o.shebang.map ShebangLines.toList).getD []

/-- Replays the outline into a new script. -/
def build (o : Outline) (identity : UInt64) (fileId : Nat) : Script :=
  o.declarations.foldl (fun s (span, d) => d.replay s span)
    (o.shebangLines.foldl Script.setShebang (.empty identity fileId))

end Outline

end WorkflowOutline
