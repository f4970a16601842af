import WorkflowOutline.Proofs.Session.Uncopied

/-!
# Where diagnostics point

The diagnostic of an error has a primary label on the place of the error, where that is known, and
for a repeated definition a secondary one on the definition that was replaced, where that is known
(`labels_duplicateError`). So its labels are in the given file, at most two, and of the two sorts at
most one each (`isMarked_toDiagnostic`).

That there is a primary label if there is any (`Diagnostic.LeadsWith`) is another matter. The two
entries of a repeated one are looked up independently, when the script is validated, and the second
may refer to no workflow where the first does. `leadsWith_of_run` says that this is the only
exception, and `not_forall_leadsWith` shows that runs can produce it.
-/

namespace WorkflowOutline

/-! ## Labels -/

/-- The text on a definition that was replaced. -/
def replacedText : String := "first defined here"

/-- If there are labels, the first one is the only primary one. It marks the place, and the text on
a replaced definition comes only behind it. -/
structure Diagnostic.LeadsWith (d : Diagnostic) (place : Option Span) : Prop where
  head : ∀ l ∈ d.labels.head?,
    l.style = .primary ∧ place = some l.range ∧ l.message ≠ replacedText
  tail : ∀ l ∈ d.labels.tail, l.style = .secondary

/-- The labels are in the file, and there are at most two. A primary label stands first and marks
the place; all others, and no primary ones, have the text on a replaced definition. -/
structure Diagnostic.IsMarked (d : Diagnostic) (fileId : Nat) (place : Option Span) : Prop where
  fileId : ∀ l ∈ d.labels, l.fileId = fileId
  length : d.labels.length ≤ 2
  primary : ∀ l ∈ d.labels, l.style = .primary → d.labels.head? = some l ∧ place = some l.range
  message : ∀ l ∈ d.labels, l.message = replacedText ↔ l.style = .secondary
  tail : ∀ l ∈ d.labels.tail, l.style = .secondary

namespace Diagnostic

variable {d : Diagnostic} {fileId : Nat} {place first : Option Span}

/-- The labels of a place and of a definition that was replaced, of which either may be unknown. -/
def placeLabels (fileId : Nat) (place first : Option Span) : List Label :=
  (place.map (Label.primary fileId)).toList ++
    (first.map fun first => Label.secondary fileId first replacedText).toList

theorem isMarked_of_labels (h : d.labels = placeLabels fileId place first) :
    d.IsMarked fileId place := by
  rcases place with _ | place <;> rcases first with _ | first <;> constructor <;> rw [h] <;>
    simp [placeLabels, Label.primary, Label.secondary, replacedText]

/-- The place leads if it is known, and otherwise only if nothing that was replaced is. -/
theorem leadsWith_iff_of_labels (h : d.labels = placeLabels fileId place first) :
    d.LeadsWith place ↔ (place = none → first = none) := by
  have hmarked := isMarked_of_labels h
  constructor
  · rintro hleads rfl
    rcases first with _ | first
    · rfl
    · cases (hleads.head (Label.secondary fileId first replacedText) (by rw [h]; rfl)).1
  · intro hplace
    refine ⟨fun l hl => ?_, hmarked.tail⟩
    rw [h] at hl
    rcases place with _ | place
    · rw [hplace rfl] at hl
      cases hl
    · obtain rfl : Label.primary fileId place = l := Option.some.inj hl
      exact ⟨rfl, rfl, by simp [Label.primary, replacedText]⟩

end Diagnostic

namespace ValidationError

variable (e : ValidationError) (fileId : Nat)

theorem labels_toDiagnostic :
    (e.toDiagnostic fileId).labels =
      Diagnostic.placeLabels fileId e.span? e.replacedSpan? := rfl

theorem isMarked_toDiagnostic : (e.toDiagnostic fileId).IsMarked fileId e.span? :=
  Diagnostic.isMarked_of_labels (e.labels_toDiagnostic fileId)

/-- A diagnostic starts with the place of its error, except where only the place of a replaced entry
is known. -/
theorem leadsWith_toDiagnostic_iff :
    (e.toDiagnostic fileId).LeadsWith e.span? ↔ ∀ place, e ≠ .duplicateEntry (some place) none := by
  rw [Diagnostic.leadsWith_iff_of_labels (e.labels_toDiagnostic fileId)]
  rcases e with _ | _ | _ | ⟨_ | first, _ | _⟩ | _ | _ <;> simp [span?, replacedSpan?]

end ValidationError

/-! ## The places of repeated definitions -/

namespace History

/-- The place of a definition that was replaced; interpreter lines have none. -/
def replacedPlace? (h : History) : Overwrite → Option Span
  | .shebang _ _ => none
  | .entry replaced _ => (h.workflow? replaced).map (·.span)
  | .outputs replaced _ => some replaced

/-- The place of a definition that replaced another one. -/
def replacementPlace? (h : History) : Overwrite → Option Span
  | .shebang _ _ => none
  | .entry _ replacement => (h.workflow? replacement).map (·.span)
  | .outputs _ replacement => some replacement

/-- Of a repeated definition the replacement has the primary label, and what it replaced the
secondary one. -/
theorem labels_duplicateError (h : History) (o : Overwrite) (fileId : Nat) :
    ((h.duplicateError o).toDiagnostic fileId).labels =
      Diagnostic.placeLabels fileId (h.replacementPlace? o) (h.replacedPlace? o) := by
  cases o <;> rfl

/-- A repeated entry is reported for two designations of which one followed the other. -/
theorem exists_entry_of_mem_validate {h : History} {a b : Option Span}
    (he : .duplicateEntry a b ∈ h.script.validate) :
    ∃ old new, .entry old new ∈ replacements h.calls ∧ a = (h.workflow? old).map (·.span) ∧
      b = (h.workflow? new).map (·.span) := by
  rcases Script.mem_validate he with ⟨o, ho, herror⟩ | ⟨id, -, hentry⟩
  · rw [h.overwriteError_script] at herror
    rw [h.overwrites_script] at ho
    cases o with
    | entry old new =>
      obtain ⟨rfl, rfl⟩ := ValidationError.duplicateEntry.inj herror
      exact ⟨old, new, ho, rfl, rfl⟩
    | _ => cases herror
  · rcases Script.mem_entryErrors hentry with ⟨-, -, h⟩ | ⟨-, h⟩ | ⟨_, _, -, h⟩ <;> cases h

theorem duplicateError_mem_validate {h : History} {o : Overwrite} (ho : o ∈ replacements h.calls) :
    h.duplicateError o ∈ h.script.validate := by
  rw [h.validate_script]
  exact List.mem_append_left _ (List.mem_map_of_mem ho)

end History

/-! ## The diagnostics of the scripts of a run -/

namespace Session

variable {first : UInt64} {actions : List (String × Action)} {name : String} {slot : Slot}

/-- For every script of every run, the labels of a repeated definition are those of the replacement
and of what it replaced. A diagnostic starts with the place of its error, except that of an entry
that refers to a workflow and was replaced by one that refers to none. -/
theorem leadsWith_of_run (hslot : ((start first).run actions).1.slot? name = some slot)
    (fileId : Nat) :
    ∃ h, historiesOf first actions name = some h ∧
      (∀ e ∈ slot.script.validate, (e.toDiagnostic fileId).IsMarked fileId e.span?) ∧
      (∀ o ∈ replacements h.calls, h.duplicateError o ∈ slot.script.validate ∧
        ((h.duplicateError o).toDiagnostic fileId).labels =
          ((h.replacementPlace? o).map (Label.primary fileId)).toList ++
            ((h.replacedPlace? o).map fun first =>
              Label.secondary fileId first replacedText).toList) ∧
      ∀ e ∈ slot.script.validate,
        ((e.toDiagnostic fileId).LeadsWith e.span? ↔
          ¬ ∃ old new w, .entry old new ∈ replacements h.calls ∧ h.workflow? old = some w ∧
            h.workflow? new = none ∧ e = .duplicateEntry (some w.span) none) := by
  obtain ⟨h, hh, hscript⟩ := exists_history_of_run hslot
  rw [← hscript]
  refine ⟨h, hh, fun e _ => e.isMarked_toDiagnostic fileId,
    fun o ho => ⟨History.duplicateError_mem_validate ho, h.labels_duplicateError o fileId⟩,
    fun e he => ?_⟩
  rw [e.leadsWith_toDiagnostic_iff]
  constructor
  · rintro hne ⟨old, new, w, -, -, -, rfl⟩
    exact hne _ rfl
  · rintro hno place rfl
    obtain ⟨old, new, hmem, hold, hnew⟩ := History.exists_entry_of_mem_validate he
    obtain ⟨w, hw, rfl⟩ := Option.map_eq_some_iff.1 hold.symm
    exact hno ⟨old, new, w, hmem, hw, Option.map_eq_none_iff.1 hnew.symm, rfl⟩

/-- A script whose entry and output block are replaced, the entry by one of another script. -/
def replacingActions : List (String × Action) :=
  [("o", .create (.empty 0)),
    ("o", .add (.workflow ⟨none, ⟨5, 9⟩⟩) (some "theirs")),
    ("a", .create (.empty 0)),
    ("a", .add (.workflow ⟨none, ⟨0, 4⟩⟩) (some "own")),
    ("a", .setEntry "own"),
    ("a", .add (.outputs ⟨[], ⟨10, 14⟩⟩) none),
    ("a", .setEntry "theirs"),
    ("a", .add (.outputs ⟨[], ⟨15, 19⟩⟩) none)]

/-- The second script at the end of `replacingActions`. -/
def replacingScript : Script :=
  { Script.empty 1 0 with
    entryId := some ⟨0, 0⟩
    outputs := some ⟨[], ⟨15, 19⟩⟩
    workflows := [⟨none, ⟨0, 4⟩⟩]
    overwrites := [.entry ⟨1, 0⟩ ⟨0, 0⟩, .outputs ⟨10, 14⟩ ⟨15, 19⟩] }

theorem leadsWith_of_run_replacing :
    ((start 0).run replacingActions).1.slot? "a" = some (.building replacingScript) ∧
      .duplicateOutputs ⟨10, 14⟩ ⟨15, 19⟩ ∈ replacingScript.validate ∧
      ((ValidationError.duplicateOutputs ⟨10, 14⟩ ⟨15, 19⟩).toDiagnostic 3).LeadsWith
        (some ⟨15, 19⟩) ∧
      .duplicateEntry (some ⟨0, 4⟩) none ∈ replacingScript.validate ∧
      ((ValidationError.duplicateEntry (some ⟨0, 4⟩) none).toDiagnostic 3).IsMarked 3 none := by
  have hslot : ((start 0).run replacingActions).1.slot? "a" = some (.building replacingScript) :=
    rfl
  have houtputs : .duplicateOutputs ⟨10, 14⟩ ⟨15, 19⟩ ∈ replacingScript.validate := by decide
  have hentry : .duplicateEntry (some ⟨0, 4⟩) none ∈ replacingScript.validate := by decide
  obtain ⟨h, -, hmarked, -, hleads⟩ := leadsWith_of_run hslot 3
  refine ⟨hslot, houtputs, (hleads _ houtputs).2 ?_, hentry, hmarked _ hentry⟩
  rintro ⟨_, _, _, -, -, -, h⟩
  cases h

/-- The one label of an entry that was replaced by a foreign one is not primary. -/
theorem not_forall_leadsWith :
    ¬ ∀ (first : UInt64) (actions : List (String × Action)) (name : String) (slot : Slot)
        (fileId : Nat) (e : ValidationError),
      ((start first).run actions).1.slot? name = some slot → e ∈ slot.script.validate →
        (e.toDiagnostic fileId).LeadsWith e.span? := by
  intro h
  have hslot : ((start 0).run replacingActions).1.slot? "a" = some (.building replacingScript) :=
    rfl
  have hleads := h 0 replacingActions "a" _ 3 (.duplicateEntry (some ⟨0, 4⟩) none) hslot (by decide)
  cases (hleads.head _ rfl).1

end Session

end WorkflowOutline
