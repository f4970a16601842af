import WorkflowOutline.Proofs.Script.Extension
import WorkflowOutline.Proofs.Session.Histories

/-!
# Sealed scripts

In every run, a sealed script has used each setter at most once, has no errors, and lists its entry,
if one is designated, as the only one, right behind the parameters. A sealed script can be unsealed,
extended by any additions and sealed again, with the same entry and all of its listing kept.
-/

namespace WorkflowOutline

/-! ## Sealed scripts as values -/

namespace SealedScript

/-- The entry id of a sealed script refers to an unnamed workflow. -/
theorem exists_entry_of_entryId (t : SealedScript) {id : WorkflowId}
    (hid : t.script.entryId = some id) :
    ∃ w, t.script.entry? = some w ∧ w.isUnnamed = true := by
  obtain ⟨w, hw, hunnamed⟩ := (Script.validate_eq_nil_iff.1 t.valid).2 id hid
  exact ⟨w, Option.bind_eq_some_iff.2 ⟨id, hid, hw⟩, hunnamed⟩

theorem isSome_entryId_iff (t : SealedScript) :
    t.script.entryId.isSome ↔ t.script.entry?.isSome := by
  constructor
  · intro h
    obtain ⟨id, hid⟩ := Option.isSome_iff_exists.1 h
    obtain ⟨w, hw, -⟩ := t.exists_entry_of_entryId hid
    rw [hw]
    rfl
  · intro h
    obtain ⟨w, hw⟩ := Option.isSome_iff_exists.1 h
    obtain ⟨id, hid, -⟩ := Option.bind_eq_some_iff.1 hw
    rw [hid]
    rfl

theorem isUnnamed_entry (t : SealedScript) {w : Workflow} (hw : t.script.entry? = some w) :
    w.isUnnamed = true := by
  obtain ⟨id, hid, -⟩ := Option.bind_eq_some_iff.1 hw
  obtain ⟨w', hw', hunnamed⟩ := t.exists_entry_of_entryId hid
  rw [hw] at hw'
  rwa [Option.some.inj hw']

theorem finalize_addAll (t : SealedScript) {items : List Item}
    (h : ∀ i ∈ items, i.isAddition = true) :
    ∃ t' : SealedScript, (t.unseal.applyAll (items.map .add)).finalize = .ok t' ∧
      t'.script = t.unseal.applyAll (items.map .add) ∧ t.script.Extends t'.script :=
  have hextends := t.unseal.extends_addAll h
  ⟨⟨_, hextends.validate_eq_nil t.valid⟩, Script.finalize_eq_ok_iff.2 rfl, rfl, hextends⟩

end SealedScript

/-! ## Sealed scripts in runs -/

namespace Session

variable {σ : Session}

/-- The additions to the script in one slot, each with the name under which its id is kept. -/
def additions (name : String) (items : List (Item × Option String)) : List (String × Action) :=
  items.map fun p => (name, .add p.1 p.2)

theorem slot?_run_additions {name : String} {s : Script}
    (hslot : σ.slot? name = some (.building s)) (items : List (Item × Option String)) :
    (σ.run (additions name items)).1.slot? name =
      some (.building (s.applyAll ((items.map Prod.fst).map .add))) := by
  induction items generalizing σ s with
  | nil => exact hslot
  | cons p items ih =>
    have hstep : (σ.perform name (.add p.1 p.2)).1.slot? name =
        some (.building (s.apply (.add p.1))) := by
      refine ((build_of_building hslot (.add p.1) p.2).1 name).trans ?_
      rw [slot?_setSlot, if_pos rfl]
    exact ih hstep

theorem slot?_perform_unseal {name : String} {t : SealedScript}
    (hslot : σ.slot? name = some (.sealed t)) :
    (σ.perform name .unseal).1.slot? name = some (.building t.unseal) := by
  simp only [perform, hslot]
  rw [slot?_setSlot, if_pos rfl]

theorem slot?_perform_finalize {name : String} {s : Script} {t : SealedScript}
    (hslot : σ.slot? name = some (.building s)) (ht : s.finalize = .ok t) :
    (σ.perform name .finalize).1.slot? name = some (.sealed t) := by
  simp only [perform, hslot, ht]
  rw [slot?_setSlot, if_pos rfl]

/-- A sealed slot stays a sealed slot when it is unsealed, extended and finalized. -/
theorem slot?_run_reseal {name : String} {t t' : SealedScript}
    (hslot : σ.slot? name = some (.sealed t)) (items : List (Item × Option String))
    (ht' : (t.unseal.applyAll ((items.map Prod.fst).map .add)).finalize = .ok t') :
    (σ.run ((name, .unseal) :: additions name items ++ [(name, .finalize)])).1.slot? name =
      some (.sealed t') := by
  rw [run_append]
  exact slot?_perform_finalize (slot?_run_additions (slot?_perform_unseal hslot) items) ht'

theorem length_arguments_le_of_validate_eq_nil {h : History} (hvalid : h.script.validate = []) :
    (h.arguments Call.shebang?).length ≤ 1 ∧ (h.arguments Call.entry?).length ≤ 1 ∧
      (h.arguments Call.outputs?).length ≤ 1 := by
  have hlog := (Script.validate_eq_nil_iff.1 hvalid).1
  rw [h.script_eq_fields] at hlog
  have hlength : (replacements h.calls).length = 0 := congrArg List.length hlog
  rw [length_replacements] at hlength
  unfold History.arguments
  omega

/-- In every run, a sealed script has no errors and a well-placed entry, and it can be unsealed,
extended by additions and sealed again, with its entry and its listing kept. -/
theorem sealed_of_run {first : UInt64} {actions : List (String × Action)} {name : String}
    {t : SealedScript} (hslot : ((start first).run actions).1.slot? name = some (.sealed t)) :
    (∃ h, historiesOf first actions name = some h ∧ (h.arguments Call.shebang?).length ≤ 1 ∧
      (h.arguments Call.entry?).length ≤ 1 ∧ (h.arguments Call.outputs?).length ≤ 1) ∧
    t.script.validate = [] ∧
    (t.script.entryId.isSome ↔ t.script.entry?.isSome) ∧
    (∀ w, t.script.entry? = some w → w.isUnnamed = true) ∧
    (t.script.entryId.isSome →
      (t.script.declarations.filter Declaration.isEntry).length = 1 ∧
      ∃ w, t.script.declarations[t.script.featureFlags.length + t.script.includes.length +
        t.script.params.length]? = some (.entry w)) ∧
    ∀ items : List (Item × Option String), (∀ p ∈ items, p.1.isAddition = true) →
      ∃ t' : SealedScript,
        (t.unseal.applyAll ((items.map Prod.fst).map .add)).finalize = .ok t' ∧
        ((start first).run (actions ++ ((name, .unseal) :: additions name items ++
          [(name, .finalize)]))).1.slot? name = some (.sealed t') ∧
        t'.script.entryId = t.script.entryId ∧
        t'.script.entry? = t.script.entry? ∧
        t.script.declarations.Sublist t'.script.declarations := by
  refine ⟨?_, t.valid, t.isSome_entryId_iff, fun w => t.isUnnamed_entry, fun hid => ?_,
    fun items hitems => ?_⟩
  · obtain ⟨h, hh, hscript⟩ := exists_history_of_run hslot
    exact ⟨h, hh, length_arguments_le_of_validate_eq_nil (hscript ▸ t.valid)⟩
  · obtain ⟨w, hw⟩ := Option.isSome_iff_exists.1 (t.isSome_entryId_iff.1 hid)
    refine ⟨?_, w, Script.getElem?_declarations_eq_entry_iff.2 ⟨rfl, hw⟩⟩
    rw [Script.filter_isEntry_declarations, hw]
    rfl
  · have hadditions : ∀ i ∈ items.map Prod.fst, i.isAddition = true := by
      intro i hi
      obtain ⟨p, hp, rfl⟩ := List.mem_map.1 hi
      exact hitems p hp
    obtain ⟨t', ht', -, hextends⟩ := t.finalize_addAll hadditions
    refine ⟨t', ht', ?_, hextends.entryId, hextends.entry?_eq t.valid,
      hextends.declarations_sublist t.valid⟩
    rw [run_append]
    exact slot?_run_reseal hslot items ht'

def layeredSealed : SealedScript := ⟨layeredScript, rfl⟩

def sampleAdditions : List (Item × Option String) :=
  [(.featureFlag ⟨"f", "true", ⟨30, 31⟩⟩, none), (.inclusion ⟨"s", [], ⟨32, 33⟩⟩, none),
    (.param ⟨"p", none, ⟨34, 35⟩⟩, none), (.workflow ⟨none, ⟨36, 37⟩⟩, some "main"),
    (.process ⟨"Q", ⟨38, 39⟩⟩, none), (.function ⟨"g", ["x"], ⟨40, 41⟩⟩, none),
    (.hostClass (.plain "D" ⟨42, 43⟩), none)]

theorem sealed_of_run_layered :
    ((start 0).run layeredActions).1.slot? "m" = some (.sealed layeredSealed) ∧
      layeredScript.entryId.isSome = true ∧
      (∀ p ∈ sampleAdditions, p.1.isAddition = true) ∧
      ∃ t' : SealedScript,
        ((start 0).run (layeredActions ++ (("m", .unseal) :: additions "m" sampleAdditions ++
          [("m", .finalize)]))).1.slot? "m" = some (.sealed t') ∧
        t'.script.entry? = some ⟨none, ⟨17, 18⟩⟩ ∧
        layeredScript.declarations.Sublist t'.script.declarations := by
  have hslot : ((start 0).run layeredActions).1.slot? "m" = some (.sealed layeredSealed) := rfl
  have hadditions : ∀ p ∈ sampleAdditions, p.1.isAddition = true := by decide
  obtain ⟨-, -, -, -, -, hreseal⟩ := sealed_of_run hslot
  obtain ⟨t', -, hslot', -, hentry, hlisting⟩ := hreseal sampleAdditions hadditions
  exact ⟨hslot, rfl, hadditions, t', hslot', hentry.trans rfl, hlisting⟩

end Session

end WorkflowOutline
