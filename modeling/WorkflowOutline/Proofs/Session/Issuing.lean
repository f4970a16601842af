import WorkflowOutline.Proofs.Session.Lineage

/-!
# Workflow ids in the lineage of their script

A workflow id stays good in the lineage of the call that issued it: in the script itself and in all
copies that were made since, whatever is done with them. `IsSound.id_of_mem` finds the place of an
id on the trails of these scripts, and `IsSound.workflow?_of_mem` what it refers to there. The main
statement is `resolves_of_issued`.
-/

namespace WorkflowOutline

/-! ## Ids on a trail -/

/-- In a list that is ordered by a key, the place of a member is the number of smaller keys. -/
theorem length_filter_fst_lt {α : Type} {l : List (Nat × α)} {i t : Nat} {a : α}
    (hl : l.Pairwise fun x y => x.1 < y.1) (hi : l[i]? = some (t, a)) :
    (l.filter fun x => x.1 < t).length = i := by
  induction l generalizing i with
  | nil => cases hi
  | cons x l ih =>
    obtain ⟨hx, hl⟩ := List.pairwise_cons.1 hl
    cases i with
    | zero =>
      obtain rfl : x = (t, a) := Option.some.inj hi
      rw [List.length_eq_zero_iff, List.filter_eq_nil_iff]
      intro y hy
      rcases List.mem_cons.1 hy with rfl | hy
      · simp
      · have := hx y hy
        simp only [decide_eq_true_eq]
        omega
    | succ i =>
      have hlt : x.1 < t := hx (t, a) (List.mem_of_getElem? hi)
      rw [List.filter_cons_of_pos (by simpa using hlt), List.length_cons, ih hl hi]

namespace Trail

open Session

variable {first : UInt64} {actions : List (String × Action)} {t : Nat} {name : String}
  {w : Workflow} {id : WorkflowId} {tr : Trail}

theorem IsSound.pairwise_workflowSteps (h : tr.IsSound first actions) :
    tr.workflowSteps.Pairwise fun x y => x.1 < y.1 := by
  rw [workflowSteps, List.pairwise_filterMap]
  refine (List.pairwise_map.1 h.ordered).imp fun hlt x hx y hy => ?_
  obtain ⟨_, -, rfl⟩ := Option.map_eq_some_iff.1 hx
  obtain ⟨_, -, rfl⟩ := Option.map_eq_some_iff.1 hy
  exact hlt

/-- The id that was issued at a time on the trail has the ordinal of its workflow. -/
theorem IsSound.id_of_mem (h : tr.IsSound first actions) (hmem : (t, w) ∈ tr.workflowSteps)
    (hid : Issued first actions t name w id) :
    id = ⟨tr.identity, (tr.workflowSteps.filter (·.1 < t)).length⟩ ∧
      tr.workflowSteps[id.index]? = some (t, w) := by
  obtain ⟨i, hi⟩ := List.getElem?_of_mem hmem
  obtain ⟨name', hissued⟩ := h.issued i t w hi
  obtain ⟨-, -, hsame⟩ := hid.unique hissued
  rw [← hsame, length_filter_fst_lt h.pairwise_workflowSteps hi]
  exact ⟨rfl, hi⟩

/-- An id refers to the workflow with its ordinal on the trail, if the identity is right. -/
theorem workflow?_history (tr : Trail) (id : WorkflowId) :
    tr.history.script.workflow? id =
      if id.script = tr.identity then tr.workflowSteps[id.index]?.map Prod.snd else none := by
  rw [History.workflow?_script, History.workflow?, workflows_history, List.getElem?_map]
  rfl

theorem owns_history (tr : Trail) (id : WorkflowId) :
    tr.history.script.owns id = true ↔ id.script = tr.identity := by
  rw [Script.owns_iff, History.identity_script]
  rfl

/-- An id that was issued on the trail refers to the workflow that was added then. -/
theorem IsSound.workflow?_of_mem (h : tr.IsSound first actions)
    (hmem : (t, w) ∈ tr.workflowSteps) (hid : Issued first actions t name w id) :
    tr.history.script.workflow? id = some w := by
  obtain ⟨rfl, hget⟩ := h.id_of_mem hmem hid
  rw [workflow?_history, if_pos rfl, hget]
  rfl

theorem IsSound.owns_of_mem (h : tr.IsSound first actions) (hmem : (t, w) ∈ tr.workflowSteps)
    (hid : Issued first actions t name w id) : tr.history.script.owns id = true := by
  obtain ⟨rfl, -⟩ := h.id_of_mem hmem hid
  exact (owns_history tr _).2 rfl

end Trail

/-! ## Ids in runs -/

namespace Session

variable {first : UInt64} {actions : List (String × Action)} {t : Nat} {name m : String}
  {w : Workflow} {id : WorkflowId} {slot : Slot}

/-- In every script that comes from the one that issued an id, the id is owned and refers to the
workflow that was added. No other id that was issued in the lineage equals it, it counts the
workflows that were added before, and as long as it is the one designated last, its workflow is the
entry. -/
theorem resolves_of_issued (h : Issued first actions t name w id)
    (hd : Descends first (actions.take (t + 1)) name actions m)
    (hslot : ((start first).run actions).1.slot? m = some slot) :
    slot.script.owns id = true ∧
      slot.script.workflow? id = some w ∧
      (∀ t' name' w' id', Issued first actions t' name' w' id' →
        Descends first (actions.take (t' + 1)) name' actions m → t' ≠ t → id' ≠ id) ∧
      ∃ tr, trailsOf first actions m = some tr ∧
        id.index = (tr.workflowSteps.filter (·.1 < t)).length ∧
        (tr.history.entryId? = some id → slot.script.entry? = some w) := by
  obtain ⟨tr, htr, hscript⟩ := exists_trail_of_slot hslot
  have hsound := Trail.isSound_trailsOf htr
  have hmem := (h.mem_workflowSteps_iff htr).2 hd
  have hworkflow := hsound.workflow?_of_mem hmem h
  rw [hscript]
  refine ⟨hsound.owns_of_mem hmem h, hworkflow, fun t' name' w' id' h' hd' hne => ?_,
    tr, htr, congrArg WorkflowId.index (hsound.id_of_mem hmem h).1, fun hentry => ?_⟩
  · -- Equal ids have one place on the trail, and there is one time at each place.
    rintro rfl
    have hplace := (hsound.id_of_mem hmem h).2
    rw [(hsound.id_of_mem ((h'.mem_workflowSteps_iff htr).2 hd') h').2] at hplace
    exact hne (Prod.mk.inj (Option.some.inj hplace)).1
  · have hid : tr.history.script.entryId = some id := tr.history.entryId_script.trans hentry
    exact Option.bind_eq_some_iff.2 ⟨id, hid, hworkflow⟩

/-- A copy is sealed with an id from before the copying as its entry, and a copy of that copy is
unsealed and adds a workflow, as the first script does. -/
def lineageActions : List (String × Action) :=
  [("a", .create (.empty 0)),
    ("a", .add (.workflow ⟨some "N", ⟨0, 4⟩⟩) (some "side")),
    ("a", .add (.workflow ⟨none, ⟨5, 9⟩⟩) (some "main")),
    ("a", .copy "b"),
    ("b", .setEntry "main"),
    ("b", .finalize),
    ("b", .copy "c"),
    ("c", .unseal),
    ("c", .add (.workflow ⟨some "L", ⟨10, 14⟩⟩) (some "late")),
    ("a", .add (.workflow ⟨some "O", ⟨15, 19⟩⟩) (some "other"))]

def lineageTrail : Trail where
  created := 0
  identity := 0
  host := .empty 0
  steps :=
    [(1, .add (.workflow ⟨some "N", ⟨0, 4⟩⟩)), (2, .add (.workflow ⟨none, ⟨5, 9⟩⟩)),
      (4, .setEntry ⟨0, 1⟩), (8, .add (.workflow ⟨some "L", ⟨10, 14⟩⟩))]

theorem resolves_of_issued_lineage :
    Issued 0 lineageActions 2 "a" ⟨none, ⟨5, 9⟩⟩ ⟨0, 1⟩ ∧
      Descends 0 (lineageActions.take 3) "a" lineageActions "c" ∧
      Issued 0 lineageActions 8 "c" ⟨some "L", ⟨10, 14⟩⟩ ⟨0, 2⟩ ∧
      Descends 0 (lineageActions.take 9) "c" lineageActions "c" ∧
      trailsOf 0 lineageActions "c" = some lineageTrail ∧
      lineageTrail.history.entryId? = some ⟨0, 1⟩ ∧
      ∃ slot, ((start 0).run lineageActions).1.slot? "c" = some slot ∧
        slot.script.owns ⟨0, 1⟩ = true ∧
        slot.script.workflow? ⟨0, 1⟩ = some ⟨none, ⟨5, 9⟩⟩ ∧
        (⟨0, 2⟩ : WorkflowId) ≠ ⟨0, 1⟩ ∧
        slot.script.entry? = some ⟨none, ⟨5, 9⟩⟩ := by
  have hissued : Issued 0 lineageActions 2 "a" ⟨none, ⟨5, 9⟩⟩ ⟨0, 1⟩ := ⟨_, _, rfl, rfl⟩
  have hlate : Issued 0 lineageActions 8 "c" ⟨some "L", ⟨10, 14⟩⟩ ⟨0, 2⟩ := ⟨_, _, rfl, rfl⟩
  have htrail : trailsOf 0 lineageActions "c" = some lineageTrail := rfl
  have hentry : lineageTrail.history.entryId? = some ⟨0, 1⟩ := rfl
  have hd : Descends 0 (lineageActions.take 3) "a" lineageActions "c" :=
    (hissued.mem_workflowSteps_iff htrail).1 (by decide)
  have hd' : Descends 0 (lineageActions.take 9) "c" lineageActions "c" :=
    (hlate.mem_workflowSteps_iff htrail).1 (by decide)
  obtain ⟨slot, hslot, -⟩ := exists_slot_of_trailsOf htrail
  obtain ⟨howns, hworkflow, hother, tr, htr, -, hresolved⟩ := resolves_of_issued hissued hd hslot
  obtain rfl := Option.some.inj (htrail.symm.trans htr)
  exact ⟨hissued, hd, hlate, hd', htrail, hentry, slot, hslot, howns, hworkflow,
    hother _ _ _ _ hlate hd' (by decide), hresolved hentry⟩

end Session

end WorkflowOutline
