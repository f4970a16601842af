import WorkflowOutline.Outline.Mismatch
import WorkflowOutline.Toml.Lexical

/-!
# Literals

`decodeLiteral` takes any value as a literal. Only a table whose first key is `DateTime.key` is
no table: it stands for a date or time, and has to hold the text of one and nothing else. The main
statements say that the members of a list and of a table are decoded in order.
-/

namespace WorkflowOutline

open Toml (Node Value DateTime)

/-- The date or time that a string shows. -/
def decodeDateTime : Node → Except Mismatch DateTime
  | .scalar _ (.string s) =>
      match DateTime.ofString? s with
      | some d => .ok d
      | none => .error .noDateTime
  | n => .error (.wrongType (.ofNode n) .dateTime)

/-- The date or time that a table stands for, if its first key says that it does. -/
def tableDateTime : List (String × Node) → Option (Except Mismatch DateTime)
  | [] => none
  | (key, n) :: rest =>
      if key = DateTime.key then
        some do
          let d ← decodeDateTime n
          if rest.isEmpty then return d else throw (.tooManyEntries (rest.length + 1))
      else none

mutual

/-- A literal: whatever value. -/
def decodeLiteral : Node → Except Mismatch Value
  | .scalar _ s => .ok (.scalar s)
  | .array _ _ items => .array <$> decodeLiterals items
  | .table _ _ entries =>
      match tableDateTime entries with
      | some d => (fun d => .scalar (.dateTime d)) <$> d
      | none => .table <$> decodeLiteralEntries entries

/-- The literals of a list. -/
def decodeLiterals : List Node → Except Mismatch (List Value)
  | [] => .ok []
  | n :: rest => do
      let v ← decodeLiteral n
      let vs ← decodeLiterals rest
      return v :: vs

/-- The literals of a table with their keys. -/
def decodeLiteralEntries : List (String × Node) → Except Mismatch (List (String × Value))
  | [] => .ok []
  | (key, n) :: rest => do
      let v ← decodeLiteral n
      let vs ← decodeLiteralEntries rest
      return (key, v) :: vs

end

theorem decodeLiterals_eq_mapM (items : List Node) :
    decodeLiterals items = items.mapM decodeLiteral := by
  induction items with
  | nil => simp [decodeLiterals, pure, Except.pure]
  | cons n rest ih => simp [decodeLiterals, ih]

theorem decodeLiteralEntries_eq_mapM (entries : List (String × Node)) :
    decodeLiteralEntries entries =
      entries.mapM fun e => do return (e.1, ← decodeLiteral e.2) := by
  induction entries with
  | nil => simp [decodeLiteralEntries, pure, Except.pure]
  | cons e rest ih =>
    obtain ⟨key, n⟩ := e
    simp [decodeLiteralEntries, ih]

end WorkflowOutline
