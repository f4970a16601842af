import WorkflowOutline.Proofs.Script.Extension
import WorkflowOutline.Proofs.Session.Issuing

/-!
# Ids of other scripts

Which ids a script owns depends on its creation alone (`Issued.owns_iff`). A script of another
creation is isolated: it neither owns nor resolves the id, and as an entry the id stays foreign
whatever is built (`isolated_of_issued`, `Script.IsForeignEntry`).

A copy is of the same creation as its original, so each of the two takes the ids that the other one
issued after the copying for its own. `keepsToOwn_iff` says when a script keeps to the ids that were
issued in its lineage: if it is of another creation, or if the id is one of them. Otherwise the id
is taken for the own one with the same ordinal, and `not_forall_keepsToOwn` shows a script that is
sealed with a workflow as its entry that the id was not issued for.
-/

namespace WorkflowOutline

/-! ## Foreign entries -/

namespace Script

variable {s : Script} {id : WorkflowId}

theorem workflow?_eq_none_of_owns (h : s.owns id = false) : s.workflow? id = none := by
  rw [Option.eq_none_iff_forall_ne_some]
  intro w hw
  have howns : s.owns id = true := owns_iff.2 (workflow?_eq_some_iff.1 hw).1
  rw [h] at howns
  cases howns

/-- The id is designated as the entry, but it is of another script: the listing shows no entry and
all workflows, and the script cannot be sealed. -/
structure IsForeignEntry (s : Script) (id : WorkflowId) : Prop where
  entry : s.entry? = none
  declarations : s.declarations =
    s.featureFlags.map .featureFlag ++ s.includes.map .inclusion ++ s.params.map .param
      ++ (s.outputs.map .outputs).toList ++ s.workflows.map .workflow
      ++ s.processes.map .process ++ s.functions.map .function ++ s.enums.map .enum
  validate : s.validate.getLast? = some (.foreignEntry id.index)
  finalize : s.finalize = .error s.validate

theorem isForeignEntry (hentry : s.entryId = some id) (howns : s.owns id = false) :
    s.IsForeignEntry id := by
  have hworkflow := workflow?_eq_none_of_owns howns
  have hnone : s.entry? = none := by
    rw [Script.entry?, hentry, Option.bind_some, hworkflow]
  have herrors : s.validate = s.overwrites.map s.overwriteError ++ [.foreignEntry id.index] := by
    rw [validate, hentry]
    simp [entryErrors, hworkflow, howns]
  refine ⟨hnone, ?_, ?_, finalize_eq_error_iff.2 ⟨rfl, ?_⟩⟩
  · rw [Script.declarations, hnone, entry?_eq_none_iff.1 hnone, workflowsExcept_none,
      Option.map_none, Option.toList_none, List.append_nil]
  · rw [herrors, List.getLast?_concat]
  · rw [herrors]
    exact List.append_ne_nil_of_right_ne_nil _ (List.cons_ne_nil _ _)

theorem entryId_applyAll (s : Script) {calls : List Call} (h : ∀ c ∈ calls, c.entry? = none) :
    (s.applyAll calls).entryId = s.entryId := by
  induction calls generalizing s with
  | nil => rfl
  | cons c calls ih =>
    have hc : (s.apply c).entryId = s.entryId := by
      have hnone := h c List.mem_cons_self
      rcases c with (_ | _ | _ | _ | _ | _ | _ | _) | _ | _ <;> first | rfl | cases hnone
    rw [applyAll_cons, ih _ fun c' hc' => h c' (List.mem_cons_of_mem _ hc'), hc]

/-- A foreign entry stays foreign while no other one is designated. -/
theorem isForeignEntry_applyAll (hentry : s.entryId = some id) (howns : s.owns id = false)
    {calls : List Call} (h : ∀ c ∈ calls, c.entry? = none) :
    (s.applyAll calls).IsForeignEntry id := by
  refine isForeignEntry ((s.entryId_applyAll h).trans hentry) ?_
  rwa [owns, (s.keeps_applyAll calls).identity]

/-- Replacing a foreign entry by one of the script's own is reported for good, without the place of
the entry that was replaced. -/
theorem getElem?_validate_setEntry {old new : WorkflowId} {w : Workflow}
    (hentry : s.entryId = some old) (howns : s.owns old = false) (hnew : s.workflow? new = some w)
    (calls : List Call) :
    ((s.setEntry new).applyAll calls).validate[s.overwrites.length]? =
      some (.duplicateEntry none (some w.span)) := by
  have hkeeps := (s.setEntry new).keeps_applyAll calls
  generalize (s.setEntry new).applyAll calls = t at hkeeps
  have hlog : (s.setEntry new).overwrites = s.overwrites ++ [.entry old new] := by
    rw [setEntry, hentry]
    rfl
  obtain ⟨rest, hrest⟩ := hkeeps.overwrites
  have hold : t.workflow? old = none := by
    refine workflow?_eq_none_of_owns ?_
    rw [owns, hkeeps.identity]
    exact howns
  have hnew : t.workflow? new = some w := hkeeps.workflow?_eq_some hnew
  rw [validate, ← hrest, hlog, List.append_assoc, List.map_append, List.append_assoc,
    List.getElem?_append_right (Nat.le_of_eq (List.length_map _)), List.length_map, Nat.sub_self]
  simp [overwriteError, hold, hnew]

end Script

namespace Session

variable {first : UInt64} {actions : List (String × Action)} {t c c₀ : Nat} {name m : String}
  {w : Workflow} {id : WorkflowId} {slot : Slot}

/-! ## Ids and creations -/

/-- A script owns an id if and only if it comes from the creation that the issuing script comes
from. -/
theorem Issued.owns_iff (hfew : creations actions < UInt64.size)
    (h : Issued first actions t name w id) (hc₀ : CreatedAt first (actions.take t) name c₀)
    (hc : CreatedAt first actions m c)
    (hslot : ((start first).run actions).1.slot? m = some slot) :
    slot.script.owns id = true ↔ c = c₀ := by
  obtain ⟨tr, htr, hscript⟩ := exists_trail_of_slot hslot
  obtain ⟨tr₀, htr₀, rfl, -⟩ := h.exists_trail
  obtain rfl := (createdAt_iff htr).1 hc
  obtain rfl := (createdAt_iff htr₀).1 hc₀
  have hissuer : tr₀.IsSound first actions := by
    have hsound := (Trail.isSound_trailsOf htr₀).append (actions.drop t)
    rwa [List.take_append_drop] at hsound
  rw [hscript, Trail.owns_history, eq_comm,
    (Trail.isSound_trailsOf htr).identity_eq_iff hissuer hfew]

/-- A script that issued an id resolves it, and so do the scripts that come from it. -/
theorem Issued.workflow?_of_descends (h : Issued first actions t name w id)
    (hd : Descends first (actions.take (t + 1)) name actions m)
    (hslot : ((start first).run actions).1.slot? m = some slot) :
    slot.script.workflow? id = some w := by
  obtain ⟨tr, htr, hscript⟩ := exists_trail_of_slot hslot
  rw [hscript]
  exact (Trail.isSound_trailsOf htr).workflow?_of_mem ((h.mem_workflowSteps_iff htr).2 hd) h

/-- A script does not know the ids of a script of another creation. As an entry such an id stays
foreign until an id that was issued in the lineage is designated, which then resolves; that the
foreign one was replaced is reported without its place. -/
theorem isolated_of_issued (hfew : creations actions < UInt64.size)
    (h : Issued first actions t name w id) (hc₀ : CreatedAt first (actions.take t) name c₀)
    (hc : CreatedAt first actions m c) (hother : c ≠ c₀)
    (hslot : ((start first).run actions).1.slot? m = some slot) :
    slot.script.owns id = false ∧
      slot.script.workflow? id = none ∧
      ∃ tr, trailsOf first actions m = some tr ∧
        (tr.history.entryId? = some id →
          slot.script.IsForeignEntry id ∧
          (∀ calls : List Call, (∀ call ∈ calls, call.entry? = none) →
            (slot.script.applyAll calls).IsForeignEntry id) ∧
          ∀ t' name' w' id', Issued first actions t' name' w' id' →
            Descends first (actions.take (t' + 1)) name' actions m →
            Script.entry? (slot.script.setEntry id') = some w' ∧
            ∀ calls : List Call,
              ((slot.script.setEntry id').applyAll calls).validate[slot.script.overwrites.length]? =
                some (.duplicateEntry none (some w'.span))) := by
  have howns : slot.script.owns id = false := by
    rw [Bool.eq_false_iff, ne_eq, h.owns_iff hfew hc₀ hc hslot]
    exact hother
  obtain ⟨tr, htr, hscript⟩ := exists_trail_of_slot hslot
  refine ⟨howns, Script.workflow?_eq_none_of_owns howns, tr, htr, fun hentry => ?_⟩
  have hid : slot.script.entryId = some id := by
    rw [hscript, History.entryId_script]
    exact hentry
  refine ⟨Script.isForeignEntry hid howns, fun calls => Script.isForeignEntry_applyAll hid howns,
    fun t' name' w' id' hissued hd => ?_⟩
  have hworkflow := hissued.workflow?_of_descends hd hslot
  exact ⟨hworkflow, Script.getElem?_validate_setEntry hid howns hworkflow⟩

/-- Two scripts of different creations, a copy of the second one that takes an id of the first one
for its entry, and an id of its own that is in range there too. -/
def isolatedActions : List (String × Action) :=
  [("o", .create (.empty 0)),
    ("a", .create (.empty 1)),
    ("o", .add (.workflow ⟨none, ⟨0, 4⟩⟩) (some "foreign")),
    ("a", .add (.workflow ⟨none, ⟨5, 9⟩⟩) (some "own")),
    ("a", .copy "b"),
    ("b", .setEntry "foreign"),
    ("b", .add (.workflow ⟨some "N", ⟨10, 14⟩⟩) none)]

def isolatedTrail : Trail where
  created := 1
  identity := 1
  host := .empty 1
  steps :=
    [(3, .add (.workflow ⟨none, ⟨5, 9⟩⟩)), (5, .setEntry ⟨0, 0⟩),
      (6, .add (.workflow ⟨some "N", ⟨10, 14⟩⟩))]

theorem isolated_of_issued_copied :
    creations isolatedActions < UInt64.size ∧
      Issued 0 isolatedActions 2 "o" ⟨none, ⟨0, 4⟩⟩ ⟨0, 0⟩ ∧
      CreatedAt 0 (isolatedActions.take 2) "o" 0 ∧
      CreatedAt 0 isolatedActions "b" 1 ∧
      trailsOf 0 isolatedActions "b" = some isolatedTrail ∧
      isolatedTrail.history.entryId? = some ⟨0, 0⟩ ∧
      Issued 0 isolatedActions 3 "a" ⟨none, ⟨5, 9⟩⟩ ⟨1, 0⟩ ∧
      Descends 0 (isolatedActions.take 4) "a" isolatedActions "b" ∧
      ∃ slot, ((start 0).run isolatedActions).1.slot? "b" = some slot ∧
        slot.script.owns ⟨0, 0⟩ = false ∧
        slot.script.workflow? ⟨0, 0⟩ = none ∧
        slot.script.IsForeignEntry ⟨0, 0⟩ ∧
        (slot.script.applyAll [.add (.workflow ⟨none, ⟨15, 19⟩⟩)]).IsForeignEntry ⟨0, 0⟩ ∧
        Script.entry? (slot.script.setEntry ⟨1, 0⟩) = some ⟨none, ⟨5, 9⟩⟩ ∧
        (slot.script.setEntry ⟨1, 0⟩).validate[slot.script.overwrites.length]? =
          some (.duplicateEntry none (some ⟨5, 9⟩)) := by
  have hfew : creations isolatedActions < UInt64.size := by decide
  have hissued : Issued 0 isolatedActions 2 "o" ⟨none, ⟨0, 4⟩⟩ ⟨0, 0⟩ := ⟨_, _, rfl, rfl⟩
  have hown : Issued 0 isolatedActions 3 "a" ⟨none, ⟨5, 9⟩⟩ ⟨1, 0⟩ := ⟨_, _, rfl, rfl⟩
  have hissuer : trailsOf 0 (isolatedActions.take 2) "o" = some ⟨0, 0, .empty 0, []⟩ := rfl
  have htrail : trailsOf 0 isolatedActions "b" = some isolatedTrail := rfl
  have hentry : isolatedTrail.history.entryId? = some ⟨0, 0⟩ := rfl
  have hc₀ : CreatedAt 0 (isolatedActions.take 2) "o" 0 := (createdAt_iff hissuer).2 rfl
  have hc : CreatedAt 0 isolatedActions "b" 1 := (createdAt_iff htrail).2 rfl
  have hd : Descends 0 (isolatedActions.take 4) "a" isolatedActions "b" :=
    (hown.mem_workflowSteps_iff htrail).1 (by decide)
  obtain ⟨slot, hslot, -⟩ := exists_slot_of_trailsOf htrail
  obtain ⟨howns, hworkflow, tr, htr, hforeign⟩ :=
    isolated_of_issued hfew hissued hc₀ hc (by decide) hslot
  obtain rfl := Option.some.inj (htrail.symm.trans htr)
  obtain ⟨hnow, hlater, hback⟩ := hforeign hentry
  obtain ⟨hresolved, hreported⟩ := hback 3 "a" _ _ hown hd
  exact ⟨hfew, hissued, hc₀, hc, htrail, hentry, hown, hd, slot, hslot, howns, hworkflow, hnow,
    hlater _ (by decide), hresolved, hreported []⟩

/-! ## Ids of copies -/

/-- With an id that was issued for the workflow, in its own lineage or not, a script keeps to its
own: it owns and resolves the id only if it is its own, and reports it as a foreign entry if not. -/
structure KeepsToOwn (s : Script) (own : Prop) (w : Workflow) (id : WorkflowId) : Prop where
  owns : s.owns id = true → own
  workflow : ∀ w', s.workflow? id = some w' → own ∧ w' = w
  entry : ¬ own →
    Script.entry? (s.setEntry id) = none ∧
      (s.setEntry id).validate.getLast? = some (.foreignEntry id.index)

/-- An id is taken for the own one with its ordinal by every script of the same creation. So a
script keeps to its own unless it is of that creation and the id was not issued in its lineage. -/
theorem keepsToOwn_iff (hfew : creations actions < UInt64.size)
    (h : Issued first actions t name w id) (hc₀ : CreatedAt first (actions.take t) name c₀)
    (hc : CreatedAt first actions m c)
    (hslot : ((start first).run actions).1.slot? m = some slot) :
    (slot.script.owns id = true ↔ c = c₀) ∧
      (c = c₀ → slot.script.workflow? id = slot.script.workflows[id.index]?) ∧
      (KeepsToOwn slot.script (Descends first (actions.take (t + 1)) name actions m) w id ↔
        (c = c₀ → Descends first (actions.take (t + 1)) name actions m)) := by
  have howns := h.owns_iff hfew hc₀ hc hslot
  refine ⟨howns, fun hsame => ?_, fun hkeeps hsame => hkeeps.owns (howns.2 hsame), fun hown => ?_⟩
  · refine Option.ext fun w' => ?_
    rw [Script.workflow?_eq_some_iff, ← Script.owns_iff]
    exact and_iff_right (howns.2 hsame)
  · refine ⟨fun hid => hown (howns.1 hid), fun w' hw' => ?_, fun hd => ?_⟩
    · have hid : slot.script.owns id = true :=
        Script.owns_iff.2 (Script.workflow?_eq_some_iff.1 hw').1
      have hd := hown (howns.1 hid)
      rw [h.workflow?_of_descends hd hslot] at hw'
      exact ⟨hd, (Option.some.inj hw').symm⟩
    · have hid : slot.script.owns id = false := by
        rw [Bool.eq_false_iff]
        exact fun hid => hd (hown (howns.1 hid))
      have hforeign : (slot.script.setEntry id).IsForeignEntry id := Script.isForeignEntry rfl hid
      exact ⟨hforeign.entry, hforeign.validate⟩

/-- A script and its copy add a workflow each, and the script designates the id that the copy
got. -/
def divergingActions : List (String × Action) :=
  [("a", .create (.empty 0)),
    ("a", .copy "b"),
    ("b", .add (.workflow ⟨none, ⟨0, 4⟩⟩) (some "theirs")),
    ("a", .add (.workflow ⟨none, ⟨5, 9⟩⟩) none),
    ("a", .setEntry "theirs"),
    ("a", .finalize)]

def divergingTrail : Trail where
  created := 0
  identity := 0
  host := .empty 0
  steps := [(3, .add (.workflow ⟨none, ⟨5, 9⟩⟩)), (4, .setEntry ⟨0, 0⟩)]

/-- The script at the end of `divergingActions`. -/
def divergingSealed : SealedScript :=
  ⟨{ Script.empty 0 0 with entryId := some ⟨0, 0⟩, workflows := [⟨none, ⟨5, 9⟩⟩] }, rfl⟩

theorem not_descends_diverging :
    ¬ Descends 0 (divergingActions.take 3) "b" divergingActions "a" := by
  have hissued : Issued 0 divergingActions 2 "b" ⟨none, ⟨0, 4⟩⟩ ⟨0, 0⟩ := ⟨_, _, rfl, rfl⟩
  have htrail : trailsOf 0 divergingActions "a" = some divergingTrail := rfl
  rw [← hissued.mem_workflowSteps_iff htrail]
  decide

theorem keepsToOwn_iff_diverging :
    creations divergingActions < UInt64.size ∧
      Issued 0 divergingActions 2 "b" ⟨none, ⟨0, 4⟩⟩ ⟨0, 0⟩ ∧
      CreatedAt 0 (divergingActions.take 2) "b" 0 ∧
      CreatedAt 0 divergingActions "a" 0 ∧
      ((start 0).run divergingActions).1.slot? "a" = some (.sealed divergingSealed) ∧
      divergingSealed.script.owns ⟨0, 0⟩ = true ∧
      divergingSealed.script.workflow? ⟨0, 0⟩ = some ⟨none, ⟨5, 9⟩⟩ ∧
      ¬ KeepsToOwn divergingSealed.script
        (Descends 0 (divergingActions.take 3) "b" divergingActions "a") ⟨none, ⟨0, 4⟩⟩ ⟨0, 0⟩ := by
  have hfew : creations divergingActions < UInt64.size := by decide
  have hissued : Issued 0 divergingActions 2 "b" ⟨none, ⟨0, 4⟩⟩ ⟨0, 0⟩ := ⟨_, _, rfl, rfl⟩
  have hissuer : trailsOf 0 (divergingActions.take 2) "b" = some ⟨0, 0, .empty 0, []⟩ := rfl
  have htrail : trailsOf 0 divergingActions "a" = some divergingTrail := rfl
  have hc₀ : CreatedAt 0 (divergingActions.take 2) "b" 0 := (createdAt_iff hissuer).2 rfl
  have hc : CreatedAt 0 divergingActions "a" 0 := (createdAt_iff htrail).2 rfl
  have hslot : ((start 0).run divergingActions).1.slot? "a" = some (.sealed divergingSealed) := rfl
  obtain ⟨howns, hworkflow, hkeeps⟩ := keepsToOwn_iff hfew hissued hc₀ hc hslot
  exact ⟨hfew, hissued, hc₀, hc, hslot, howns.2 rfl, hworkflow rfl,
    fun h => not_descends_diverging (hkeeps.1 h rfl)⟩

/-- Not every script keeps to its own: one is sealed with its own workflow as the entry, where it
was given the id of another workflow, which its copy issued. -/
theorem not_forall_keepsToOwn :
    (¬ ∀ first actions t name w id m slot, creations actions < UInt64.size →
      Issued first actions t name w id → ((start first).run actions).1.slot? m = some slot →
      KeepsToOwn slot.script (Descends first (actions.take (t + 1)) name actions m) w id) ∧
    Issued 0 divergingActions 2 "b" ⟨none, ⟨0, 4⟩⟩ ⟨0, 0⟩ ∧
    ((start 0).run divergingActions).1.slot? "a" = some (.sealed divergingSealed) ∧
    divergingSealed.script.entryId = some ⟨0, 0⟩ ∧
    divergingSealed.script.entry? = some ⟨none, ⟨5, 9⟩⟩ := by
  have hissued : Issued 0 divergingActions 2 "b" ⟨none, ⟨0, 4⟩⟩ ⟨0, 0⟩ := ⟨_, _, rfl, rfl⟩
  have hslot : ((start 0).run divergingActions).1.slot? "a" = some (.sealed divergingSealed) := rfl
  refine ⟨fun h => ?_, hissued, hslot, rfl, rfl⟩
  have hkeeps := h _ _ _ _ _ _ _ _ (by decide) hissued hslot
  exact not_descends_diverging (hkeeps.owns rfl)

end Session

end WorkflowOutline
