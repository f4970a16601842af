import WorkflowOutline.Diagnostic.Basic
import WorkflowOutline.Script.Basic

/-!
# Validating and sealing scripts

`Script.validate` finds what building does not prevent: setters that were used more than once, and
an entry that is foreign, dangling or named. A script without errors can be sealed
(`Script.finalize`); a `SealedScript` carries the evidence, and gives the script back for further
building (`SealedScript.unseal`).
-/

namespace WorkflowOutline

/-! ## Errors -/

/-- A broken rule about a whole script. -/
inductive ValidationError where
  | entryNotInWorkflows (index len : Nat)
  | foreignEntry (index : Nat)
  | entryIsNamed (name : String) (span : Span)
  | duplicateEntry (first second : Option Span)
  | duplicateOutputs (first second : Span)
  | duplicateShebang (first second : String)
deriving DecidableEq, Repr

namespace ValidationError

/-- The text of the error. -/
def message : ValidationError → String
  | entryNotInWorkflows index len =>
      "entry workflow #" ++ toString index ++ " is not one of the script's " ++ toString len
        ++ " workflow(s)"
  | foreignEntry index => "entry workflow #" ++ toString index ++ " was issued by another script"
  | entryIsNamed name _ => "entry workflow must be unnamed, found workflow `" ++ name ++ "`"
  | duplicateEntry _ _ => "entry workflow defined more than once"
  | duplicateOutputs _ _ => "output block defined more than once"
  | duplicateShebang first second =>
      "shebang defined more than once: `" ++ first ++ "` replaced by `" ++ second ++ "`"

/-- The place of the error, where one is known; of a repeated definition, the later one. -/
def span? : ValidationError → Option Span
  | entryNotInWorkflows _ _ => none
  | foreignEntry _ => none
  | entryIsNamed _ span => some span
  | duplicateEntry _ second => second
  | duplicateOutputs _ second => some second
  | duplicateShebang _ _ => none

/-- The place of the definition that a repeated one replaced, where it is known. -/
def replacedSpan? : ValidationError → Option Span
  | duplicateEntry first _ => first
  | duplicateOutputs first _ => some first
  | _ => none

/-- What a report adds below the source lines. -/
def notes : ValidationError → List String
  | entryIsNamed _ _ => ["the entry workflow is the one declared as `workflow { ... }`"]
  | duplicateEntry _ _ => ["a script may declare at most one"]
  | duplicateOutputs _ _ => ["a script may declare at most one"]
  | _ => []

/-- The report of an error in a source file: its place first, then what it replaced. -/
def toDiagnostic (e : ValidationError) (fileId : Nat) : Diagnostic where
  message := e.message
  labels :=
    (e.span?.map (Label.primary fileId)).toList
      ++ (e.replacedSpan?.map fun first => Label.secondary fileId first "first defined here").toList
  notes := e.notes

end ValidationError

/-! ## Validation -/

namespace Script

/-- The error for one overwrite; the places of entries are looked up when validating. -/
def overwriteError (s : Script) : Overwrite → ValidationError
  | .shebang replaced replacement => .duplicateShebang replaced replacement
  | .entry replaced replacement =>
      .duplicateEntry ((s.workflow? replaced).map (·.span)) ((s.workflow? replacement).map (·.span))
  | .outputs replaced replacement => .duplicateOutputs replaced replacement

/-- What is wrong with an id as the entry: it has to be this script's, in range and unnamed. -/
def entryErrors (s : Script) (id : WorkflowId) : List ValidationError :=
  match s.workflow? id with
  | none =>
      if s.owns id then [.entryNotInWorkflows id.index s.workflows.length]
      else [.foreignEntry id.index]
  | some w =>
      match w.name with
      | none => []
      | some name => [.entryIsNamed name w.span]

/-- All errors: one for each overwrite, oldest first, then those of the entry. -/
def validate (s : Script) : List ValidationError :=
  s.overwrites.map s.overwriteError ++ (s.entryId.map s.entryErrors).getD []

end Script

/-! ## Sealing -/

/-- A script that was found to be without errors. -/
structure SealedScript where
  script : Script
  valid : script.validate = []

/-- Gives the script back for further building. -/
def SealedScript.unseal (s : SealedScript) : Script := s.script

namespace Script

/-- Seals a script without errors, and otherwise reports the errors in the order found. -/
def finalize (s : Script) : Except (List ValidationError) SealedScript :=
  if valid : s.validate = [] then .ok ⟨s, valid⟩ else .error s.validate

theorem finalize_eq_ok_iff {s : Script} {t : SealedScript} :
    s.finalize = .ok t ↔ t.script = s := by
  unfold finalize
  split
  · next h =>
    simp only [Except.ok.injEq]
    constructor
    · rintro rfl
      rfl
    · intro ht
      cases t
      subst ht
      rfl
  · next h =>
    simp only [reduceCtorEq, false_iff]
    intro ht
    exact h (ht ▸ t.valid)

theorem finalize_eq_error_iff {s : Script} {es : List ValidationError} :
    s.finalize = .error es ↔ s.validate = es ∧ es ≠ [] := by
  unfold finalize
  split
  · next h =>
    simp only [reduceCtorEq, false_iff, not_and]
    exact fun hes hne => hne (hes ▸ h)
  · next h =>
    simp only [Except.error.injEq]
    exact ⟨fun hes => ⟨hes, hes ▸ h⟩, And.left⟩

end Script

end WorkflowOutline
