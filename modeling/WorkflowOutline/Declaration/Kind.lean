/-!
# Kinds of declarations

`Kind` names the eight sorts of top-level declarations a script can list, and `Kind.keyword` is the
word that introduces each of them. Keywords tell kinds apart (`Kind.keyword_inj`).
-/

namespace WorkflowOutline

/-- The sorts of declarations that a script lists. -/
inductive Kind where
  | featureFlag
  | inclusion
  | param
  | workflow
  | output
  | process
  | function
  | enum
deriving DecidableEq, Repr

namespace Kind

/-- Every kind, in the order in which the kinds are documented. -/
def all : List Kind :=
  [featureFlag, inclusion, param, workflow, output, process, function, enum]

/-- The keyword a script uses to introduce a declaration of this kind. -/
def keyword : Kind → String
  | featureFlag => "feature"
  | inclusion => "include"
  | param => "param"
  | workflow => "workflow"
  | output => "output"
  | process => "process"
  | function => "function"
  | enum => "enum"

theorem keyword_inj {a b : Kind} : a.keyword = b.keyword ↔ a = b := by
  cases a <;> cases b <;> simp [keyword]

end Kind

end WorkflowOutline
