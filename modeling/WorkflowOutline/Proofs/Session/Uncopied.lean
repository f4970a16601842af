import WorkflowOutline.Proofs.Session.Isolation
import WorkflowOutline.Proofs.Session.Sealing

/-!
# Runs without copies

Copies are the only way to an id that a script owns and does not resolve, or resolves to a workflow
that the id was not issued for. In a run that copies no script (`CopyFree`) a script owns exactly
the ids that it issued itself (`Issued.owns_iff_descends`), so all ids that it keeps, as its entry
or in its log, either are foreign for good or resolve already (`isSettled_of_run`).

What a settled script keeps is looked up late, when it is validated, but additions do not change
what is found: validation says the same before and after them (`Script.IsSettled.validate_eq`).
-/

namespace WorkflowOutline

/-! ## Settled scripts -/

def Overwrite.ids : Overwrite → List WorkflowId
  | entry replaced replacement => [replaced, replacement]
  | _ => []

namespace Script

variable {s t : Script} {id : WorkflowId}

/-- The ids that validation looks up: the entry, and the entries that were replaced. -/
def storedIds (s : Script) : List WorkflowId :=
  s.entryId.toList ++ s.overwrites.flatMap Overwrite.ids

/-- Of the stored ids, those with the identity of the script refer to a workflow already. -/
def IsSettled (s : Script) : Prop :=
  ∀ id ∈ s.storedIds, s.owns id = true → ∃ w, s.workflow? id = some w

theorem mem_storedIds_of_entryId (h : s.entryId = some id) : id ∈ s.storedIds := by
  unfold storedIds
  rw [h]
  exact List.mem_append_left _ (List.mem_singleton.2 rfl)

theorem mem_storedIds_of_mem_overwrites {o : Overwrite} (ho : o ∈ s.overwrites)
    (hid : id ∈ o.ids) : id ∈ s.storedIds :=
  List.mem_append_right _ (List.mem_flatMap.2 ⟨o, ho, hid⟩)

theorem mem_storedIds_apply {c : Call} (h : id ∈ (s.apply c).storedIds) :
    id ∈ s.storedIds ∨ c = .setEntry id := by
  cases c with
  | add item =>
    left
    cases item with
    | outputs b =>
      simp only [apply, add, setOutputs, storedIds, List.flatMap_append, List.mem_append] at h ⊢
      rcases h with h | h | h
      · exact .inl h
      · exact .inr h
      · rcases hold : s.outputs with _ | old <;> simp [hold, Overwrite.ids] at h
    | _ => exact h
  | setShebang line =>
    left
    simp only [apply, setShebang, storedIds, List.flatMap_append, List.mem_append] at h ⊢
    rcases h with h | h | h
    · exact .inl h
    · exact .inr h
    · rcases hold : s.shebang with _ | old <;> simp [hold, Overwrite.ids] at h
  | setEntry new =>
    simp only [apply, setEntry, storedIds, List.flatMap_append, List.mem_append,
      Option.toList_some, List.mem_singleton] at h ⊢
    rcases h with rfl | h | h
    · exact .inr rfl
    · exact .inl (.inr h)
    · rcases hold : s.entryId with _ | old
      · simp [hold] at h
      · have hids : id = old ∨ id = new := by simpa [hold, Overwrite.ids] using h
        rcases hids with rfl | rfl
        · exact .inl (.inl (by simp))
        · exact .inr rfl

theorem Extends.owns_eq (h : s.Extends t) (id : WorkflowId) : t.owns id = s.owns id := by
  rw [owns, owns, h.identity]

theorem mem_validate {e : ValidationError} (h : e ∈ s.validate) :
    (∃ o ∈ s.overwrites, s.overwriteError o = e) ∨
      ∃ id, s.entryId = some id ∧ e ∈ s.entryErrors id := by
  rcases List.mem_append.1 h with h | h
  · exact .inl (List.mem_map.1 h)
  · rcases hid : s.entryId with _ | id
    · simp [hid] at h
    · exact .inr ⟨id, rfl, by simpa [hid] using h⟩

theorem mem_entryErrors {e : ValidationError} (h : e ∈ s.entryErrors id) :
    (s.workflow? id = none ∧ s.owns id = true ∧
        e = .entryNotInWorkflows id.index s.workflows.length) ∨
      (s.owns id = false ∧ e = .foreignEntry id.index) ∨
      ∃ name span, s.workflow? id = some ⟨some name, span⟩ ∧ e = .entryIsNamed name span := by
  unfold entryErrors at h
  rcases hw : s.workflow? id with _ | ⟨_ | name, span⟩ <;> simp only [hw] at h
  · rcases howns : s.owns id with _ | _ <;> simp only [howns] at h
    · exact .inr (.inl ⟨rfl, List.mem_singleton.1 h⟩)
    · exact .inl ⟨rfl, rfl, List.mem_singleton.1 h⟩
  · cases h
  · exact .inr (.inr ⟨name, span, rfl, List.mem_singleton.1 h⟩)

namespace IsSettled

theorem owns_eq_false (hs : s.IsSettled) (hid : id ∈ s.storedIds) (h : s.workflow? id = none) :
    s.owns id = false := by
  rw [Bool.eq_false_iff]
  intro howns
  obtain ⟨w, hw⟩ := hs id hid howns
  rw [h] at hw
  cases hw

/-- A stored id refers to the same workflow in an extended script, or to none in both. -/
theorem workflow?_eq (hs : s.IsSettled) (h : s.Extends t) (hid : id ∈ s.storedIds) :
    t.workflow? id = s.workflow? id := by
  rcases howns : s.owns id with _ | _
  · have howns' : t.owns id = false := (h.owns_eq id).trans howns
    rw [workflow?_eq_none_of_owns howns, workflow?_eq_none_of_owns howns']
  · obtain ⟨w, hw⟩ := hs id hid howns
    rw [hw, h.workflow?_eq_some hw]

theorem entryErrors_eq (hs : s.IsSettled) (h : s.Extends t) (hid : id ∈ s.storedIds) :
    t.entryErrors id = s.entryErrors id := by
  unfold entryErrors
  rw [hs.workflow?_eq h hid, h.owns_eq]
  rcases hnone : s.workflow? id with _ | w
  · -- The number of workflows would show only if the id were owned.
    simp [hs.owns_eq_false hid hnone]
  · rfl

/-- Validation says of a settled script what it says of every extension. -/
theorem validate_eq (hs : s.IsSettled) (h : s.Extends t) : t.validate = s.validate := by
  have hlog : t.overwrites.map t.overwriteError = s.overwrites.map s.overwriteError := by
    rw [h.overwrites]
    refine List.map_congr_left fun o ho => ?_
    cases o with
    | entry replaced replacement =>
      have hold : replaced ∈ s.storedIds :=
        mem_storedIds_of_mem_overwrites ho List.mem_cons_self
      have hnew : replacement ∈ s.storedIds :=
        mem_storedIds_of_mem_overwrites ho (List.mem_cons_of_mem _ List.mem_cons_self)
      simp only [overwriteError, hs.workflow?_eq h hold, hs.workflow?_eq h hnew]
    | _ => rfl
  unfold validate
  rw [hlog, h.entryId]
  rcases hid : s.entryId with _ | id
  · rfl
  · have hentry := hs.entryErrors_eq h (mem_storedIds_of_entryId hid)
    rw [Option.map_some, Option.map_some, hentry]

theorem entryNotInWorkflows_notMem (hs : s.IsSettled) (index len : Nat) :
    .entryNotInWorkflows index len ∉ s.validate := by
  intro hmem
  rcases mem_validate hmem with ⟨o, -, ho⟩ | ⟨id, hid, hentry⟩
  · cases o <;> cases ho
  · rcases mem_entryErrors hentry with ⟨hnone, howns, -⟩ | ⟨-, he⟩ | ⟨_, _, -, he⟩
    · rw [hs.owns_eq_false (mem_storedIds_of_entryId hid) hnone] at howns
      cases howns
    · cases he
    · cases he

end IsSettled

/-- The error for a replaced entry stands at its place in the log. -/
theorem exists_entry_of_getElem?_validate {k : Nat} {a b : Option Span}
    (h : s.validate[k]? = some (.duplicateEntry a b)) :
    ∃ old new, s.overwrites[k]? = some (.entry old new) ∧
      a = (s.workflow? old).map (·.span) ∧ b = (s.workflow? new).map (·.span) := by
  unfold validate at h
  rw [List.getElem?_append, List.length_map] at h
  split at h
  · rw [List.getElem?_map] at h
    obtain ⟨o, ho, herror⟩ := Option.map_eq_some_iff.1 h
    cases o with
    | entry old new =>
      obtain ⟨rfl, rfl⟩ := ValidationError.duplicateEntry.inj herror
      exact ⟨old, new, ho, rfl, rfl⟩
    | _ => cases herror
  · have hmem := List.mem_of_getElem? h
    rcases hid : s.entryId with _ | id
    · simp [hid] at hmem
    · rw [hid, Option.map_some, Option.getD_some] at hmem
      rcases mem_entryErrors hmem with ⟨-, -, he⟩ | ⟨-, he⟩ | ⟨_, _, -, he⟩ <;> cases he

end Script

theorem History.setEntry_mem_calls_of_mem_storedIds {h : History} {id : WorkflowId}
    (hid : id ∈ h.script.storedIds) : .setEntry id ∈ h.calls := by
  obtain ⟨identity, host, calls⟩ := h
  induction calls using List.reverseRecOn with
  | nil => simp [script, Script.storedIds, Script.ofModule] at hid
  | append_singleton calls c ih =>
    have hscript : (History.mk identity host (calls ++ [c])).script =
        (History.mk identity host calls).script.apply c :=
      script_concat ⟨identity, host, calls⟩ c
    rw [hscript] at hid
    rcases Script.mem_storedIds_apply hid with hid | rfl
    · exact List.mem_append_left _ (ih hid)
    · exact List.mem_append_right _ (List.mem_singleton.2 rfl)

def Action.isCopy : Action → Bool
  | copy _ => true
  | _ => false

namespace Session

variable {σ : Session} {first : UInt64} {origin actions : List (String × Action)} {t : Nat}
  {name m n : String} {action : Action} {w : Workflow} {id : WorkflowId} {slot : Slot}

/-! ## Where ids come from -/

theorem exists_workflow_of_issued? {s : Script} {call : Call} (h : s.issued? call = some id) :
    ∃ w, call = .add (.workflow w) := by
  unfold Script.issued? at h
  split at h
  · exact ⟨_, rfl⟩
  · cases h

/-- A building step leaves all ids alone, or keeps the one that it issues. -/
theorem id?_build {call : Call} {idName : Option String}
    (h : (σ.build name call idName).1.id? n = some id) :
    σ.id? n = some id ∨
      ∃ w s, call = .add (.workflow w) ∧ (σ.build name call idName).2 = .issued id s := by
  unfold build at h ⊢
  rcases hslot : σ.slot? name with _ | s | s <;> simp only [hslot] at h ⊢
  · exact .inl h
  · rcases hissued : s.issued? call with _ | id' <;> simp only [hissued] at h ⊢
    · exact .inl h
    · obtain ⟨w, hcall⟩ := exists_workflow_of_issued? hissued
      cases idName with
      | none => exact .inl h
      | some k =>
        simp only [id?_setId] at h
        split at h
        · obtain rfl := Option.some.inj h
          exact .inr ⟨w, _, hcall, rfl⟩
        · exact .inl h
  · exact .inl h

/-- An action leaves all ids alone, or keeps the one that it issues. -/
theorem id?_perform (h : (σ.perform name action).1.id? n = some id) :
    σ.id? n = some id ∨
      ∃ w idName s, action = .add (.workflow w) idName ∧
        (σ.perform name action).2 = .issued id s := by
  match action with
  | .create host => exact .inl h
  | .add item idName =>
    rcases id?_build h with h | ⟨w, s, hcall, hanswer⟩
    · exact .inl h
    · obtain rfl := Call.add.inj hcall
      exact .inr ⟨w, idName, s, rfl, hanswer⟩
  | .setEntry idName =>
    simp only [perform] at h
    rcases hid : σ.id? idName with _ | new <;> simp only [hid] at h
    · exact .inl h
    · rcases id?_build h with h | ⟨w, s, hcall, -⟩
      · exact .inl h
      · cases hcall
  | .setShebang line =>
    rcases id?_build h with h | ⟨w, s, hcall, -⟩
    · exact .inl h
    · cases hcall
  | .copy target =>
    simp only [perform] at h
    rcases hslot : σ.slot? name with _ | slot <;> simp only [hslot] at h <;> exact .inl h
  | .finalize =>
    simp only [perform] at h
    rcases hslot : σ.slot? name with _ | s | s <;> simp only [hslot] at h
    · exact .inl h
    · rcases hfinal : s.finalize with es | t <;> simp only [hfinal] at h <;> exact .inl h
    · exact .inl h
  | .unseal =>
    simp only [perform] at h
    rcases hslot : σ.slot? name with _ | s | s <;> simp only [hslot] at h <;> exact .inl h
  | .owns _ | .workflow _ | .declarations | .dump | .validate | .diagnostics _ =>
    have hsame := query_fst σ name
    simp only [perform, hsame] at h
    exact .inl h

theorem exists_issued_of_id? (h : ((start first).run actions).1.id? n = some id) :
    ∃ t name w, Issued first actions t name w id := by
  induction actions using List.reverseRecOn with
  | nil => cases h
  | append_singleton actions step ih =>
    obtain ⟨name, action⟩ := step
    rw [run_concat] at h
    rcases id?_perform h with h | ⟨w, idName, s, rfl, hanswer⟩
    · obtain ⟨t, name', w, hissued⟩ := ih h
      exact ⟨t, name', w, hissued.append _⟩
    · refine ⟨actions.length, name, w, idName, s, List.getElem?_concat_length, ?_⟩
      rw [run_concat, hanswer, ← length_run (start first) actions]
      exact List.getElem?_concat_length

theorem exists_issued_of_setEntry_mem {tr : Trail} (htr : trailsOf first actions m = some tr)
    (h : .setEntry id ∈ tr.history.calls) : ∃ t name w, Issued first actions t name w id := by
  induction actions using List.reverseRecOn generalizing m tr with
  | nil => cases htr
  | append_singleton actions step ih =>
    obtain ⟨n, action⟩ := step
    have hearlier : (∃ t name w, Issued first actions t name w id) →
        ∃ t name w, Issued first (actions ++ [(n, action)]) t name w id :=
      fun ⟨t, name, w, hissued⟩ => ⟨t, name, w, hissued.append _⟩
    rw [trailsOf_concat] at htr
    rcases retrace_cases htr with ⟨hm, -⟩ |
      ⟨-, ⟨host, -, -, rfl⟩ | ⟨-, hn⟩ | ⟨tr₀, c, -, hn, hcall, rfl⟩⟩
    · exact hearlier (ih hm h)
    · cases h
    · exact hearlier (ih hn h)
    · have hcalls : .setEntry id ∈ tr₀.history.calls ∨ Call.setEntry id = c := by
        simpa [Trail.history, Trail.extend] using h
      rcases hcalls with h | rfl
      · exact hearlier (ih hn h)
      · cases action with
        | setEntry idName =>
          obtain ⟨id', hid, hsame⟩ := Option.map_eq_some_iff.1 hcall
          obtain rfl := Call.setEntry.inj hsame
          exact hearlier (exists_issued_of_id? hid)
        | _ => cases hcall

/-! ## Lineages without copies -/

def CopyFree (actions : List (String × Action)) : Prop := ∀ step ∈ actions, step.2.isCopy = false

theorem CopyFree.left {rest : List (String × Action)} (h : CopyFree (actions ++ rest)) :
    CopyFree actions :=
  fun step hstep => h step (List.mem_append_left _ hstep)

/-- Without copies a script stays in the slot where it was created. -/
theorem Descends.eq_of_copyFree (h : Descends first origin name actions m)
    (hfree : CopyFree actions) : m = name := by
  induction h with
  | here => rfl
  | stays _ _ ih => exact ih hfree.left
  | copied _ _ _ => cases hfree _ (List.mem_append_right _ List.mem_cons_self)

/-- Without copies a script was in its slot at every moment since the origin. -/
theorem Descends.of_length_le (h : Descends first origin name actions m)
    (hfree : CopyFree actions) {k : Nat} (hk : origin.length ≤ k) :
    Descends first (actions.take k) m actions m := by
  induction h with
  | here =>
    rw [List.take_of_length_le hk]
    exact .here
  | stays _ hkeep ih =>
    rename_i actions m n action _
    by_cases hlast : k ≤ actions.length
    · rw [List.take_append_of_le_length hlast]
      exact (ih hfree.left).stays hkeep
    · rw [List.take_of_length_le (by simp; omega)]
      exact .here
  | copied _ _ _ => cases hfree _ (List.mem_append_right _ List.mem_cons_self)

/-- Without copies a script owns an id if and only if the id was issued in its own history. -/
theorem Issued.owns_iff_descends (h : Issued first actions t name w id) (hfree : CopyFree actions)
    (hfew : creations actions < UInt64.size)
    (hslot : ((start first).run actions).1.slot? m = some slot) :
    slot.script.owns id = true ↔ Descends first (actions.take (t + 1)) name actions m := by
  obtain ⟨tr, htr, hscript⟩ := exists_trail_of_slot hslot
  have hsound := Trail.isSound_trailsOf htr
  constructor
  · intro howns
    obtain ⟨tr₀, htr₀, rfl, -⟩ := h.exists_trail
    have hc : CreatedAt first actions m tr.created := (createdAt_iff htr).2 rfl
    have hc₀ : CreatedAt first (actions.take t) name tr₀.created := (createdAt_iff htr₀).2 rfl
    have hsame : tr.created = tr₀.created := (h.owns_iff hfew hc₀ hc hslot).1 howns
    obtain ⟨n, host, hcreate, hd⟩ := hc
    obtain ⟨n₀, host₀, hcreate₀, hd₀⟩ := hc₀
    have hlt : tr₀.created < (actions.take t).length := (List.getElem?_eq_some_iff.1 hcreate₀).1
    -- One action created both scripts, so they are in one slot.
    have hn : n₀ = n := by
      rw [List.getElem?_take_of_lt (by simp at hlt; omega), ← hsame, hcreate] at hcreate₀
      exact (Prod.mk.inj (Option.some.inj hcreate₀)).1.symm
    have hfree₀ : CopyFree (actions.take t) := fun step hstep =>
      hfree step (List.mem_of_mem_take hstep)
    have hm : m = name := by
      rw [hd.eq_of_copyFree hfree, hd₀.eq_of_copyFree hfree₀, hn]
    subst hm
    refine hd.of_length_le hfree ?_
    simp only [List.length_take] at hlt ⊢
    omega
  · intro hd
    rw [hscript]
    exact hsound.owns_of_mem ((h.mem_workflowSteps_iff htr).2 hd) h

theorem isSettled_of_run (hfree : CopyFree actions) (hfew : creations actions < UInt64.size)
    (hslot : ((start first).run actions).1.slot? m = some slot) : slot.script.IsSettled := by
  intro id hid howns
  obtain ⟨tr, htr, hscript⟩ := exists_trail_of_slot hslot
  rw [hscript] at hid
  obtain ⟨t, name, w, hissued⟩ := exists_issued_of_setEntry_mem htr
    (History.setEntry_mem_calls_of_mem_storedIds hid)
  have hd := (hissued.owns_iff_descends hfree hfew hslot).1 howns
  exact ⟨w, hissued.workflow?_of_descends hd hslot⟩

/-! ## The verdict on the scripts of a run -/

/-- The script in the slot issued the id itself. -/
def IssuedHere (first : UInt64) (actions : List (String × Action)) (m : String)
    (id : WorkflowId) : Prop :=
  ∃ t w, Issued first actions t m w id ∧ Descends first (actions.take (t + 1)) m actions m

/-- A script issued the id that is not the one in the slot. -/
def IssuedElsewhere (first : UInt64) (actions : List (String × Action)) (m : String)
    (id : WorkflowId) : Prop :=
  ∃ t name w, Issued first actions t name w id ∧
    ¬ Descends first (actions.take (t + 1)) name actions m

theorem Issued.owns_iff_issuedHere (h : Issued first actions t name w id)
    (hfree : CopyFree actions) (hfew : creations actions < UInt64.size)
    (hslot : ((start first).run actions).1.slot? m = some slot) :
    slot.script.owns id = true ↔ IssuedHere first actions m id := by
  constructor
  · intro howns
    have hd := (h.owns_iff_descends hfree hfew hslot).1 howns
    obtain rfl := hd.eq_of_copyFree hfree
    exact ⟨t, w, h, hd⟩
  · rintro ⟨t', w', h', hd'⟩
    exact (h'.owns_iff_descends hfree hfew hslot).2 hd'

/-- A stored id has no place to report if and only if another script issued it. -/
theorem span_eq_none_iff_issuedElsewhere (hfree : CopyFree actions)
    (hfew : creations actions < UInt64.size)
    (hslot : ((start first).run actions).1.slot? m = some slot)
    (hid : id ∈ slot.script.storedIds) :
    (slot.script.workflow? id).map (·.span) = none ↔ IssuedElsewhere first actions m id := by
  rw [Option.map_eq_none_iff]
  constructor
  · intro hnone
    obtain ⟨tr, htr, hscript⟩ := exists_trail_of_slot hslot
    obtain ⟨t, name, w, hissued⟩ := exists_issued_of_setEntry_mem htr
      (History.setEntry_mem_calls_of_mem_storedIds (hscript ▸ hid))
    refine ⟨t, name, w, hissued, fun hd => ?_⟩
    rw [hissued.workflow?_of_descends hd hslot] at hnone
    cases hnone
  · rintro ⟨t, name, w, hissued, hother⟩
    refine Script.workflow?_eq_none_of_owns ?_
    rw [Bool.eq_false_iff, ne_eq, hissued.owns_iff_descends hfree hfew hslot]
    exact hother

/-- In a run without copies, and with fewer creations than there are identities, a script owns
exactly the ids that it issued itself, its entry never dangles, the place of a replaced or replacing
entry is unknown only if another script issued the id, and additions do not change what validation
says. -/
theorem settled_of_copyFree (hfree : CopyFree actions) (hfew : creations actions < UInt64.size)
    (hslot : ((start first).run actions).1.slot? m = some slot) :
    (∀ t name w id, Issued first actions t name w id →
      (slot.script.owns id = true ↔ IssuedHere first actions m id)) ∧
    (∀ index len, .entryNotInWorkflows index len ∉ slot.script.validate) ∧
    (∃ h, historiesOf first actions m = some h ∧
      ∀ (k : Nat) (a b : Option Span), slot.script.validate[k]? = some (.duplicateEntry a b) →
        ∃ old new, (replacements h.calls)[k]? = some (.entry old new) ∧
          (a = none ↔ IssuedElsewhere first actions m old) ∧
          (b = none ↔ IssuedElsewhere first actions m new)) ∧
    (∀ items : List Item, (∀ i ∈ items, i.isAddition = true) →
      (slot.script.applyAll (items.map .add)).validate = slot.script.validate) ∧
    ∀ s, slot = .building s → ∀ items : List (Item × Option String),
      (∀ p ∈ items, p.1.isAddition = true) →
      ∃ s', ((start first).run (actions ++ additions m items)).1.slot? m = some (.building s') ∧
        s'.validate = slot.script.validate := by
  have hsettled := isSettled_of_run hfree hfew hslot
  have hkept : ∀ items : List Item, (∀ i ∈ items, i.isAddition = true) →
      (slot.script.applyAll (items.map .add)).validate = slot.script.validate :=
    fun items hitems => hsettled.validate_eq (slot.script.extends_addAll hitems)
  refine ⟨fun t name w id h => h.owns_iff_issuedHere hfree hfew hslot,
    hsettled.entryNotInWorkflows_notMem, ?_, hkept, ?_⟩
  · obtain ⟨h, hh, hscript⟩ := exists_history_of_run hslot
    refine ⟨h, hh, fun k a b hk => ?_⟩
    obtain ⟨old, new, hlog, rfl, rfl⟩ := Script.exists_entry_of_getElem?_validate hk
    have hmem := List.mem_of_getElem? hlog
    have hold : old ∈ slot.script.storedIds :=
      Script.mem_storedIds_of_mem_overwrites hmem List.mem_cons_self
    have hnew : new ∈ slot.script.storedIds :=
      Script.mem_storedIds_of_mem_overwrites hmem (List.mem_cons_of_mem _ List.mem_cons_self)
    refine ⟨old, new, ?_, span_eq_none_iff_issuedElsewhere hfree hfew hslot hold,
      span_eq_none_iff_issuedElsewhere hfree hfew hslot hnew⟩
    rw [← h.overwrites_script, hscript]
    exact hlog
  · rintro s rfl items hitems
    refine ⟨_, ?_, hkept (items.map Prod.fst) fun i hi => ?_⟩
    · rw [run_append]
      exact slot?_run_additions hslot items
    · obtain ⟨p, hp, rfl⟩ := List.mem_map.1 hi
      exact hitems p hp

/-- Two scripts, of which the second is given ids of both, and an id of the first at the end. -/
def exchangeActions : List (String × Action) :=
  [("o", .create (.empty 0)),
    ("o", .add (.workflow ⟨none, ⟨0, 4⟩⟩) (some "theirs")),
    ("a", .create (.empty 1)),
    ("a", .add (.workflow ⟨none, ⟨5, 9⟩⟩) (some "own")),
    ("a", .setEntry "theirs"),
    ("a", .setEntry "own"),
    ("a", .setEntry "theirs")]

def exchangeScript : Script :=
  { Script.empty 1 1 with
    entryId := some ⟨0, 0⟩
    workflows := [⟨none, ⟨5, 9⟩⟩]
    overwrites := [.entry ⟨0, 0⟩ ⟨1, 0⟩, .entry ⟨1, 0⟩ ⟨0, 0⟩] }

theorem settled_of_copyFree_exchange :
    CopyFree exchangeActions ∧
      creations exchangeActions < UInt64.size ∧
      ((start 0).run exchangeActions).1.slot? "a" = some (.building exchangeScript) ∧
      Issued 0 exchangeActions 1 "o" ⟨none, ⟨0, 4⟩⟩ ⟨0, 0⟩ ∧
      Issued 0 exchangeActions 3 "a" ⟨none, ⟨5, 9⟩⟩ ⟨1, 0⟩ ∧
      ¬ IssuedHere 0 exchangeActions "a" ⟨0, 0⟩ ∧
      IssuedHere 0 exchangeActions "a" ⟨1, 0⟩ ∧
      exchangeScript.validate =
        [.duplicateEntry none (some ⟨5, 9⟩), .duplicateEntry (some ⟨5, 9⟩) none,
          .foreignEntry 0] ∧
      (∃ h, historiesOf 0 exchangeActions "a" = some h ∧
        ∃ old new, (replacements h.calls)[1]? = some (.entry old new) ∧
          ¬ IssuedElsewhere 0 exchangeActions "a" old ∧
          IssuedElsewhere 0 exchangeActions "a" new) ∧
      (exchangeScript.addWorkflow ⟨none, ⟨10, 14⟩⟩).validate = exchangeScript.validate ∧
      ∃ s', ((start 0).run (exchangeActions ++
          additions "a" [(.workflow ⟨none, ⟨10, 14⟩⟩, some "more")])).1.slot? "a" =
            some (.building s') ∧
        s'.validate = exchangeScript.validate := by
  have hfree : CopyFree exchangeActions := by simp [CopyFree, exchangeActions, Action.isCopy]
  have hfew : creations exchangeActions < UInt64.size := by decide
  have hslot : ((start 0).run exchangeActions).1.slot? "a" = some (.building exchangeScript) := rfl
  have htheirs : Issued 0 exchangeActions 1 "o" ⟨none, ⟨0, 4⟩⟩ ⟨0, 0⟩ := ⟨_, _, rfl, rfl⟩
  have hown : Issued 0 exchangeActions 3 "a" ⟨none, ⟨5, 9⟩⟩ ⟨1, 0⟩ := ⟨_, _, rfl, rfl⟩
  have herror : exchangeScript.validate[1]? = some (.duplicateEntry (some ⟨5, 9⟩) none) := rfl
  obtain ⟨howns, -, ⟨h, hh, hduplicates⟩, hkept, hlater⟩ := settled_of_copyFree hfree hfew hslot
  obtain ⟨old, new, hlog, hold, hnew⟩ := hduplicates 1 _ _ herror
  refine ⟨hfree, hfew, hslot, htheirs, hown, fun hhere => ?_, (howns _ _ _ _ hown).1 rfl, rfl,
    ⟨h, hh, old, new, hlog, fun helsewhere => ?_, hnew.1 rfl⟩,
    hkept [.workflow ⟨none, ⟨10, 14⟩⟩] (by decide), hlater _ rfl _ (by decide)⟩
  · cases (howns _ _ _ _ htheirs).2 hhere
  · cases hold.2 helsewhere

end Session

end WorkflowOutline
