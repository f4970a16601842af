import WorkflowOutline.Declaration.Item
import WorkflowOutline.Text.Basic
import WorkflowOutline.Toml.Value

/-!
# Outlines

An `Outline` lists the declarations of a script in the order of its source, each with the span of
its entry in the outline text. Nothing in an outline is checked across entries: it may hold several
output blocks or entries.
-/

namespace WorkflowOutline

/-- One interpreter line, or several of which each replaces the one before. -/
inductive ShebangLines where
  | one (line : String)
  | many (lines : List String)
deriving DecidableEq, Repr

/-- The lines in order. -/
def ShebangLines.toList : ShebangLines → List String
  | one line => [line]
  | many lines => lines

/-- The sorts of entries of an outline, with the sort of types that no listing shows. -/
inductive OutlineKind where
  | feature
  | inclusion
  | param
  | workflow
  | output
  | process
  | function
  | enum
  | hostClass
deriving DecidableEq, Repr

namespace OutlineKind

/-- Every kind, in the order in which error texts list them. -/
def all : List OutlineKind :=
  [feature, inclusion, param, workflow, output, process, function, enum, hostClass]

/-- The word that an outline uses for the kind. -/
def keyword : OutlineKind → String
  | feature => "feature"
  | inclusion => "include"
  | param => "param"
  | workflow => "workflow"
  | output => "output"
  | process => "process"
  | function => "function"
  | enum => "enum"
  | hostClass => "class"

/-- The kind that a word stands for. -/
def ofKeyword? (word : String) : Option OutlineKind := all.find? fun k => k.keyword == word

theorem keyword_inj {a b : OutlineKind} : a.keyword = b.keyword ↔ a = b := by
  cases a <;> cases b <;> simp [keyword]

theorem ofKeyword?_keyword (k : OutlineKind) : ofKeyword? k.keyword = some k := by
  cases k <;> simp [ofKeyword?, all, keyword]

theorem ofKeyword?_eq_some_iff {word : String} {k : OutlineKind} :
    ofKeyword? word = some k ↔ word = k.keyword := by
  constructor
  · intro h
    have := List.find?_some h
    simpa using (beq_iff_eq.1 this).symm
  · rintro rfl
    exact ofKeyword?_keyword k

end OutlineKind

/-- One entry of an outline. -/
inductive OutlineItem where
  | feature (name : String) (value : Toml.Value)
  | inclusion (source : String) (names : List ImportedName)
  | param (name : String) (default : Option Toml.Value)
  | workflow (name : Option String) (entry : Option Bool)
  | output (names : List String)
  | process (name : String)
  | function (name : String) (params : List String)
  | enum (name : String) (values : List String)
  | hostClass (name : String)

/-- The kind of an entry. -/
def OutlineItem.kind : OutlineItem → OutlineKind
  | feature _ _ => .feature
  | inclusion _ _ => .inclusion
  | param _ _ => .param
  | workflow _ _ => .workflow
  | output _ => .output
  | process _ => .process
  | function _ _ => .function
  | enum _ _ => .enum
  | hostClass _ => .hostClass

/-- A listing of declarations, with their spans, and the interpreter lines. -/
structure Outline where
  shebang : Option ShebangLines
  declarations : List (Span × OutlineItem)

end WorkflowOutline
