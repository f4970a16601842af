import WorkflowOutline.Dump.Basic
import WorkflowOutline.Script.Basic
import WorkflowOutline.Text.Printable

/-!
# Dumps of scripts

`Script.dump` shows all that a script holds, the identity and the overwrites included, in the order
in which its parts are stored.
-/

namespace WorkflowOutline

namespace Dump

/-- A text, in quotes. -/
def text (s : String) : Dump := atom (Text.quote s)

/-- A number. -/
def number (n : Nat) : Dump := atom (toString n)

/-- A text that may be missing. -/
def textOption : Option String → Dump := ofOption text

/-- A list whose members are dumped alike. -/
def listOf {α : Type} (dump : α → Dump) (items : List α) : Dump := list (items.map dump)

end Dump

open Dump

/-- A span, as the range that it is. -/
def Span.dump (s : Span) : Dump := atom (toString s.start ++ ".." ++ toString s.stop)

/-! ## Items -/

/-- All that a feature flag holds. -/
def FeatureFlag.dump (f : FeatureFlag) : Dump :=
  record "FeatureFlagNode" [("name", text f.name), ("value", text f.value), ("span", f.span.dump)]

/-- All that an imported name holds. -/
def ImportedName.dump (e : ImportedName) : Dump :=
  record "IncludeEntry" [("name", text e.name), ("alias", textOption e.newName)]

/-- All that an include holds. -/
def Include.dump (i : Include) : Dump :=
  record "IncludeNode"
    [("source", text i.source), ("entries", listOf ImportedName.dump i.entries),
      ("span", i.span.dump)]

/-- All that a parameter holds. -/
def Param.dump (p : Param) : Dump :=
  record "ParamNode"
    [("name", text p.name), ("default", textOption p.default), ("span", p.span.dump)]

/-- All that a workflow holds. -/
def Workflow.dump (w : Workflow) : Dump :=
  record "WorkflowNode" [("name", textOption w.name), ("span", w.span.dump)]

/-- All that a process holds. -/
def ProcessDef.dump (p : ProcessDef) : Dump :=
  record "ProcessNode" [("name", text p.name), ("span", p.span.dump)]

/-- All that a function holds. -/
def FunctionDef.dump (f : FunctionDef) : Dump :=
  record "FunctionNode"
    [("name", text f.name), ("parameters", listOf text f.parameters), ("span", f.span.dump)]

/-- All that an output holds. -/
def Output.dump (o : Output) : Dump :=
  record "OutputNode" [("name", text o.name), ("span", o.span.dump)]

/-- All that an output block holds. -/
def OutputBlock.dump (b : OutputBlock) : Dump :=
  record "OutputBlockNode"
    [("declarations", listOf Output.dump b.outputs), ("span", b.span.dump)]

/-- The name of a kind of types. -/
def ClassKind.dump : ClassKind → Dump
  | enum => atom "Enum"
  | plain => atom "Class"

/-- All that a type holds. -/
def ClassDef.dump (c : ClassDef) : Dump :=
  record "ClassNode"
    [("name", text c.name), ("kind", c.kind.dump), ("constants", listOf text c.constants),
      ("span", c.span.dump)]

/-! ## Scripts -/

/-- All that a host module holds. -/
def HostModule.dump (m : HostModule) : Dump :=
  record "ModuleNode" [("file_id", number m.fileId), ("classes", listOf ClassDef.dump m.classes)]

/-- The identity and the ordinal of a workflow id. -/
def WorkflowId.dump (id : WorkflowId) : Dump :=
  record "WorkflowId" [("script", number id.script.toNat), ("index", number id.index)]

/-- What was replaced, and by what. -/
def Overwrite.dump : Overwrite → Dump
  | shebang replaced replacement =>
      record "Shebang" [("replaced", text replaced), ("by", text replacement)]
  | entry replaced replacement =>
      record "Entry" [("replaced", replaced.dump), ("by", replacement.dump)]
  | outputs replaced replacement =>
      record "Outputs" [("replaced", replaced.dump), ("by", replacement.dump)]

/-- All that a script holds. -/
def Script.dump (s : Script) : Dump :=
  record "ScriptNode"
    [("script", number s.identity.toNat), ("module", s.host.dump),
      ("shebang", textOption s.shebang),
      ("feature_flags", listOf FeatureFlag.dump s.featureFlags),
      ("includes", listOf Include.dump s.includes), ("params", listOf Param.dump s.params),
      ("entry", ofOption WorkflowId.dump s.entryId),
      ("outputs", ofOption OutputBlock.dump s.outputs),
      ("workflows", listOf Workflow.dump s.workflows),
      ("processes", listOf ProcessDef.dump s.processes),
      ("functions", listOf FunctionDef.dump s.functions),
      ("overwrites", listOf Overwrite.dump s.overwrites)]

end WorkflowOutline
