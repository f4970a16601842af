import WorkflowOutline.Text.Basic

/-!
# The items a script is made of

One structure for each sort of item (`FeatureFlag`, `Include`, `Param`, `Workflow`, `ProcessDef`,
`FunctionDef`, `OutputBlock`, `ClassDef`), each with the one-line `header` that a listing shows for
it, and the sum `Item` of them all.
-/

namespace WorkflowOutline

/-! ## Settings and imports -/

/-- The assignment of a value, as written in the source, to a dotted flag name. -/
structure FeatureFlag where
  name : String
  value : String
  span : Span
deriving DecidableEq, Repr

/-- A flag reads `feature NAME = VALUE`. -/
def FeatureFlag.header (f : FeatureFlag) : String := "feature " ++ f.name ++ " = " ++ f.value

/-- A list in braces whose members are set apart by semicolons; the empty list keeps one blank. -/
def bracedList : List String → String
  | [] => "{ }"
  | names@(_ :: _) => Text.braced (String.intercalate "; " names)

/-- One name imported by an include, possibly under another name. -/
structure ImportedName where
  name : String
  newName : Option String
deriving DecidableEq, Repr

namespace ImportedName

/-- The name under which the including script sees the import. -/
def localName (e : ImportedName) : String := e.newName.getD e.name

/-- A renamed import reads `NAME as ALIAS`. -/
def header (e : ImportedName) : String :=
  match e.newName with
  | none => e.name
  | some newName => e.name ++ " as " ++ newName

end ImportedName

/-- The import of some names from a module, whose path is kept as written. -/
structure Include where
  source : String
  entries : List ImportedName
  span : Span
deriving DecidableEq, Repr

/-- An include lists its imports in braces and quotes its source without escaping. -/
def Include.header (i : Include) : String :=
  "include " ++ bracedList (i.entries.map ImportedName.header) ++ " from '" ++ i.source ++ "'"

/-- A script parameter with its default value, as written, if it has one. -/
structure Param where
  name : String
  default : Option String
  span : Span
deriving DecidableEq, Repr

/-- A parameter shows its default after an equals sign. -/
def Param.header (p : Param) : String :=
  match p.default with
  | none => "param " ++ p.name
  | some value => "param " ++ p.name ++ " = " ++ value

/-! ## Definitions -/

/-- A workflow; the entry workflow is meant to be the one without a name. -/
structure Workflow where
  name : Option String
  span : Span
deriving DecidableEq, Repr

namespace Workflow

/-- The empty name is a name. -/
def isUnnamed (w : Workflow) : Bool := w.name.isNone

/-- A workflow reads `workflow`, followed by its name if it has one. -/
def header (w : Workflow) : String :=
  match w.name with
  | none => "workflow"
  | some name => "workflow " ++ name

end Workflow

/-- A process definition. -/
structure ProcessDef where
  name : String
  span : Span
deriving DecidableEq, Repr

/-- A process reads `process NAME`. -/
def ProcessDef.header (p : ProcessDef) : String := "process " ++ p.name

/-- A function definition with its parameter names. -/
structure FunctionDef where
  name : String
  parameters : List String
  span : Span
deriving DecidableEq, Repr

/-- A function lists its parameters between parentheses, set apart by commas. -/
def FunctionDef.header (f : FunctionDef) : String :=
  "function " ++ f.name ++ "(" ++ String.intercalate ", " f.parameters ++ ")"

/-! ## Outputs -/

/-- One name published by an output block. -/
structure Output where
  name : String
  span : Span
deriving DecidableEq, Repr

/-- An output shows its name alone. -/
def Output.header (o : Output) : String := o.name

/-- The output block of a script: an ordered list of outputs. -/
structure OutputBlock where
  outputs : List Output
  span : Span
deriving DecidableEq, Repr

/-- An output block lists its outputs in braces. -/
def OutputBlock.header (b : OutputBlock) : String :=
  "output " ++ bracedList (b.outputs.map Output.header)

/-! ## Types -/

/-- Whether a type is an enumeration or any other class of the host. -/
inductive ClassKind where
  | enum
  | plain
deriving DecidableEq, Repr

/-- A type of the host module; only enumerations count as declarations of the script. -/
structure ClassDef where
  name : String
  kind : ClassKind
  constants : List String
  span : Span
deriving DecidableEq, Repr

namespace ClassDef

/-- An enumeration with the given constants. -/
def enumeration (name : String) (constants : List String) (span : Span) : ClassDef :=
  ⟨name, .enum, constants, span⟩

/-- A class of the host, which has no constants. -/
def plain (name : String) (span : Span) : ClassDef := ⟨name, .plain, [], span⟩

/-- Holds for enumerations. -/
def isEnum (c : ClassDef) : Bool := c.kind == .enum

/-- An enumeration lists its constants in braces, set apart by commas. -/
def header (c : ClassDef) : String :=
  match c.kind with
  | .enum => "enum " ++ c.name ++ " " ++ Text.braced (String.intercalate ", " c.constants)
  | .plain => "class " ++ c.name

@[simp] theorem isEnum_enumeration (name : String) (constants : List String) (span : Span) :
    (enumeration name constants span).isEnum = true := rfl

@[simp] theorem isEnum_plain (name : String) (span : Span) : (plain name span).isEnum = false := rfl

end ClassDef

/-! ## Any item -/

/-- Anything that can be added to a script. -/
inductive Item where
  | featureFlag (f : FeatureFlag)
  | inclusion (i : Include)
  | param (p : Param)
  | workflow (w : Workflow)
  | process (p : ProcessDef)
  | function (f : FunctionDef)
  | outputs (b : OutputBlock)
  | hostClass (c : ClassDef)
deriving DecidableEq, Repr

end WorkflowOutline
