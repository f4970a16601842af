import WorkflowOutline.Declaration.Item
import WorkflowOutline.Declaration.Kind

/-!
# Declarations of a script

A `Declaration` is one element of the canonical listing of a script: an item together with the place
it has there. The entry workflow has a place of its own, so `entry` and `workflow` both hold a
`Workflow`.
-/

namespace WorkflowOutline

/-- One element of the canonical listing. -/
inductive Declaration where
  | featureFlag (f : FeatureFlag)
  | inclusion (i : Include)
  | param (p : Param)
  | entry (w : Workflow)
  | outputs (b : OutputBlock)
  | workflow (w : Workflow)
  | process (p : ProcessDef)
  | function (f : FunctionDef)
  | enum (c : ClassDef)
deriving DecidableEq, Repr

namespace Declaration

/-- The kind of the declared item; the entry is a workflow. -/
def kind : Declaration → Kind
  | featureFlag _ => .featureFlag
  | inclusion _ => .inclusion
  | param _ => .param
  | entry _ => .workflow
  | outputs _ => .output
  | workflow _ => .workflow
  | process _ => .process
  | function _ => .function
  | enum _ => .enum

/-- Where the item was declared. -/
def span : Declaration → Span
  | featureFlag f => f.span
  | inclusion i => i.span
  | param p => p.span
  | entry w => w.span
  | outputs b => b.span
  | workflow w => w.span
  | process p => p.span
  | function f => f.span
  | enum c => c.span

/-- The declared name; includes, output blocks and unnamed workflows have none. -/
def name? : Declaration → Option String
  | featureFlag f => some f.name
  | inclusion _ => none
  | param p => some p.name
  | entry w => w.name
  | outputs _ => none
  | workflow w => w.name
  | process p => some p.name
  | function f => some f.name
  | enum c => some c.name

/-- Holds for the entry workflow only. -/
def isEntry : Declaration → Bool
  | entry _ => true
  | _ => false

/-- The one-line header of the declared item. -/
def header : Declaration → String
  | featureFlag f => f.header
  | inclusion i => i.header
  | param p => p.header
  | entry w => w.header
  | outputs b => b.header
  | workflow w => w.header
  | process p => p.header
  | function f => f.header
  | enum c => c.header

/-- The place of a declaration's category in the canonical order. -/
def precedence : Declaration → Nat
  | featureFlag _ => 0
  | inclusion _ => 1
  | param _ => 2
  | entry _ => 3
  | outputs _ => 4
  | workflow _ => 5
  | process _ => 6
  | function _ => 7
  | enum _ => 8

end Declaration

end WorkflowOutline
