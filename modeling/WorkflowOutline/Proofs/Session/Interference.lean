import Mathlib.Data.Set.Insert
import Mathlib.Logic.Equiv.Basic
import WorkflowOutline.Proofs.Script.Identities
import WorkflowOutline.Proofs.Session.Translation
import WorkflowOutline.Proofs.Session.Uncopied

/-!
# Sessions that share the identity counter

All scripts take their identity from one counter. A `Weaving` is a run of two parties, of which the
first keeps to a part of the session (`Part.Uses`) and the second does not write there
(`Part.Spares`). The first party cannot tell such a run from one in which it is alone, whatever the
counter starts from: it gets the same answers, up to the identities that scripts and ids carry, and
ends with scripts that look the same (`Weaving.looksLike_run`).

The two runs hand out different identities, so they are compared up to a permutation of identities
(`Translation.ofRenaming`), which is extended whenever the first party creates a script
(`Weaving.exists_renaming`).
-/

namespace WorkflowOutline

open Session

/-! ## What a script shows -/

/-- Nothing that a script shows tells the two apart, but for the identity. -/
structure Script.LooksLike (s t : Script) : Prop where
  host : t.host = s.host
  shebang : t.shebang = s.shebang
  featureFlags : t.featureFlags = s.featureFlags
  includes : t.includes = s.includes
  params : t.params = s.params
  entryIndex : t.entryId.map WorkflowId.index = s.entryId.map WorkflowId.index
  entry : t.entry? = s.entry?
  outputs : t.outputs = s.outputs
  workflows : t.workflows = s.workflows
  processes : t.processes = s.processes
  functions : t.functions = s.functions
  enums : t.enums = s.enums
  declarations : t.declarations = s.declarations
  validate : t.validate = s.validate
  accepted : (∃ x, t.finalize = .ok x) ↔ ∃ x, s.finalize = .ok x
  rejected : ∀ es, t.finalize = .error es ↔ s.finalize = .error es

/-- All but identities has to be equal; of an id only the ordinal shows. -/
def Comparison.upToIdentities : Comparison where
  script := Script.LooksLike
  id x y := y.index = x.index
  workflow := Eq
  declaration := Eq
  error := Eq
  diagnostic := Eq

/-- The part holds scripts that look the same, and ids with the same ordinals, which are equal to
each other, or to the entry of a script, where they were. -/
structure Part.LooksLike (p : Part) (σ τ : Session) : Prop where
  slots : ∀ name ∈ p.slots, Option.Rel (Slot.Rel Script.LooksLike) (σ.slot? name) (τ.slot? name)
  indexes : ∀ n ∈ p.ids, (τ.id? n).map WorkflowId.index = (σ.id? n).map WorkflowId.index
  ids : ∀ n ∈ p.ids, ∀ m ∈ p.ids, τ.id? n = τ.id? m ↔ σ.id? n = σ.id? m
  entryIds : ∀ name ∈ p.slots, ∀ n ∈ p.ids,
    (τ.slot? name).bind (·.script.entryId) = τ.id? n ↔
      (σ.slot? name).bind (·.script.entryId) = σ.id? n

/-! ## Other identities -/

theorem Script.looksLike_rename (ρ : Renaming) (s : Script) : s.LooksLike (s.rename ρ) where
  host := rfl
  shebang := rfl
  featureFlags := rfl
  includes := rfl
  params := rfl
  entryIndex := by
    show (s.entryId.map (WorkflowId.rename ρ)).map WorkflowId.index = s.entryId.map WorkflowId.index
    rw [Option.map_map]
    rfl
  entry := s.entry?_rename ρ
  outputs := rfl
  workflows := rfl
  processes := rfl
  functions := rfl
  enums := rfl
  declarations := s.declarations_rename ρ
  validate := s.validate_rename ρ
  accepted := by rw [exists_finalize_iff, exists_finalize_iff, validate_rename]
  rejected es := by rw [finalize_eq_error_iff, finalize_eq_error_iff, validate_rename]

/-- A renaming keeps all identities that the script carries apart, so it may be replaced by one that
agrees with it there. -/
theorem Script.rename_congr {ρ ρ' : Renaming} {s : Script} (hself : ρ' s.identity = ρ s.identity)
    (hstored : ∀ id ∈ s.storedIds, ρ' id.script = ρ id.script) : s.rename ρ' = s.rename ρ := by
  have hid : ∀ id ∈ s.storedIds, id.rename ρ' = id.rename ρ := fun id h => by
    unfold WorkflowId.rename
    rw [hstored id h]
  have hentry : s.entryId.map (WorkflowId.rename ρ') = s.entryId.map (WorkflowId.rename ρ) :=
    Option.map_congr fun id h => hid id (mem_storedIds_of_entryId h)
  have hlog : s.overwrites.map (Overwrite.rename ρ') = s.overwrites.map (Overwrite.rename ρ) := by
    refine List.map_congr_left fun o ho => ?_
    cases o with
    | entry replaced replacement =>
      have hold : replaced ∈ s.storedIds := mem_storedIds_of_mem_overwrites ho List.mem_cons_self
      have hnew : replacement ∈ s.storedIds :=
        mem_storedIds_of_mem_overwrites ho (List.mem_cons_of_mem _ List.mem_cons_self)
      simp only [Overwrite.rename, hid _ hold, hid _ hnew]
    | _ => rfl
  simp only [rename, hself, hentry, hlog]

/-- The renaming that sends `x` to `y` and trades places where needed. -/
def Renaming.assign (ρ : Renaming) (x y : UInt64) : Renaming := ρ.trans (Equiv.swap (ρ x) y)

theorem Renaming.assign_self (ρ : Renaming) (x y : UInt64) : ρ.assign x y x = y :=
  Equiv.swap_apply_left (ρ x) y

theorem Renaming.assign_of_ne {ρ : Renaming} {x y z : UInt64} (hx : z ≠ x) (hy : ρ z ≠ y) :
    ρ.assign x y z = ρ z :=
  Equiv.swap_apply_of_ne_of_ne (fun heq => hx (ρ.injective heq)) hy

/-- The translation of identities; nothing else is replaced. -/
def Translation.ofRenaming (ρ : Renaming) : Translation where
  script := Script.rename ρ
  id := WorkflowId.rename ρ
  host m := m
  item i := i
  workflow w := w
  declaration d := d
  error e := e
  diagnostic d := d
  script_add s i := s.add_rename ρ i
  script_setEntry s x := s.setEntry_rename ρ x
  script_setShebang s line := s.setShebang_rename ρ line
  issued?_add s i := by
    cases i with
    | workflow w => exact congrArg some (s.nextId_rename ρ)
    | _ => rfl
  owns_id s x := s.owns_rename ρ x
  workflow?_id s x := (s.workflow?_rename ρ x).trans Option.map_id'.symm
  declarations_script s := (s.declarations_rename ρ).trans (List.map_id' _).symm
  validate_script s := (s.validate_rename ρ).trans (List.map_id' _).symm
  toDiagnostic_error _ _ := rfl

namespace Translation

variable {ρ ρ' : Renaming} {p : Part} {σ τ : Session}

theorem action_ofRenaming (a : Action) : (ofRenaming ρ).action a = a := by
  cases a <;> rfl

theorem respects_ofRenaming : (ofRenaming ρ).Respects .upToIdentities where
  script := Script.looksLike_rename ρ
  id _ := rfl
  workflow _ := rfl
  declaration _ := rfl
  error _ := rfl
  diagnostic _ := rfl

theorem Mirrors.looksLike (h : (ofRenaming ρ).Mirrors p σ τ) : p.LooksLike σ τ where
  slots _ hname := h.slot_rel respects_ofRenaming hname
  indexes n hn := by
    rw [h.ids n hn, Option.map_map]
    rfl
  ids n hn m hm := by
    rw [h.ids n hn, h.ids m hm]
    exact (Option.map_injective fun _ _ => WorkflowId.rename_inj.1).eq_iff
  entryIds name hname n hn := by
    have hentry : ((σ.slot? name).map (ofRenaming ρ).slot).bind (·.script.entryId) =
        ((σ.slot? name).bind (·.script.entryId)).map (WorkflowId.rename ρ) := by
      rcases σ.slot? name with _ | x
      · rfl
      · exact congrArg Script.entryId (script_slot _ x)
    rw [h.slots name hname, h.ids n hn, hentry]
    exact (Option.map_injective fun _ _ => WorkflowId.rename_inj.1).eq_iff

theorem slot_eq_of_script {T T' : Translation} {x : Slot}
    (h : T.script x.script = T'.script x.script) : T.slot x = T'.slot x := by
  cases x with
  | building s => exact congrArg Slot.building h
  | sealed s =>
    have hsealed : T.sealed s = T'.sealed s := by
      unfold Translation.sealed
      congr 1
    exact congrArg Slot.sealed hsealed

end Translation

/-! ## Identities in circulation -/

namespace Session

variable {first : UInt64} {actions : List (String × Action)} {n m : String} {slot : Slot}
  {id : WorkflowId}

/-- The first so many identities of a counter. -/
def handedOut (first : UInt64) (count : Nat) : Set UInt64 := {x | ∃ k < count, x = first + .ofNat k}

theorem handedOut_mono {count count' : Nat} (h : count ≤ count') :
    handedOut first count ⊆ handedOut first count' :=
  fun _ ⟨k, hk, hx⟩ => ⟨k, Nat.lt_of_lt_of_le hk h, hx⟩

theorem next_mem_handedOut (first : UInt64) (count : Nat) :
    first + .ofNat count ∈ handedOut first (count + 1) :=
  ⟨count, Nat.lt_succ_self count, rfl⟩

/-- As long as the counter does not wrap, the next identity is a new one. -/
theorem next_notMem_handedOut {count : Nat} (h : count < UInt64.size) :
    first + .ofNat count ∉ handedOut first count := by
  rintro ⟨k, hk, heq⟩
  rw [UInt64.add_right_inj] at heq
  have hnat := congrArg UInt64.toNat heq
  rw [UInt64.toNat_ofNat_of_lt' (by omega), UInt64.toNat_ofNat_of_lt' (by omega)] at hnat
  omega

theorem mem_handedOut_succ {x : UInt64} {count : Nat} (h : x ∈ handedOut first (count + 1)) :
    x ∈ handedOut first count ∨ x = first + .ofNat count := by
  obtain ⟨k, hk, rfl⟩ := h
  by_cases hlast : k = count
  · exact .inr (by rw [hlast])
  · exact .inl ⟨k, by omega, rfl⟩

end Session

theorem Trail.IsSound.identity_mem_handedOut {first : UInt64} {actions : List (String × Action)}
    {tr : Trail} (h : tr.IsSound first actions) :
    tr.identity ∈ handedOut first (creations actions) := by
  obtain ⟨name, hcreated⟩ := h.created
  have hlt := creations_take_lt hcreated (List.getElem?_eq_some_iff.1 hcreated).1
  rw [List.take_length] at hlt
  exact ⟨_, hlt, h.identity⟩

namespace Session

variable {first : UInt64} {actions : List (String × Action)} {n m : String} {slot : Slot}
  {id : WorkflowId} {ρ ρ' : Renaming} {p : Part} {τ : Session}

theorem Issued.script_mem_handedOut {t : Nat} {w : Workflow}
    (h : Issued first actions t m w id) : id.script ∈ handedOut first (creations actions) := by
  obtain ⟨tr, htr, rfl, -⟩ := h.exists_trail
  have hsound := (Trail.isSound_trailsOf htr).append (actions.drop t)
  rw [List.take_append_drop] at hsound
  exact hsound.identity_mem_handedOut

theorem identity_mem_handedOut (hslot : ((start first).run actions).1.slot? m = some slot) :
    slot.script.identity ∈ handedOut first (creations actions) := by
  obtain ⟨tr, htr, hscript⟩ := exists_trail_of_slot hslot
  rw [hscript, History.identity_script]
  exact (Trail.isSound_trailsOf htr).identity_mem_handedOut

theorem stored_mem_handedOut (hslot : ((start first).run actions).1.slot? m = some slot)
    (hid : id ∈ slot.script.storedIds) : id.script ∈ handedOut first (creations actions) := by
  obtain ⟨tr, htr, hscript⟩ := exists_trail_of_slot hslot
  rw [hscript] at hid
  obtain ⟨t, name, w, hissued⟩ := exists_issued_of_setEntry_mem htr
    (History.setEntry_mem_calls_of_mem_storedIds hid)
  exact hissued.script_mem_handedOut

/-- A run carries no identity that was not handed out, so a renaming may be replaced by one that
agrees with it on those. -/
theorem mirrors_congr
    (h : (Translation.ofRenaming ρ).Mirrors p ((start first).run actions).1 τ)
    (hsame : ∀ x ∈ handedOut first (creations actions), ρ' x = ρ x) :
    (Translation.ofRenaming ρ').Mirrors p ((start first).run actions).1 τ where
  slots name hname := by
    rw [h.slots name hname]
    refine Option.map_congr fun x hx => ?_
    exact Translation.slot_eq_of_script (Script.rename_congr
      (hsame _ (identity_mem_handedOut hx)).symm
      fun id hid => (hsame _ (stored_mem_handedOut hx hid)).symm)
  ids n hn := by
    rw [h.ids n hn]
    refine Option.map_congr fun id hid => ?_
    obtain ⟨t, name, w, hissued⟩ := exists_issued_of_id? hid
    show id.rename ρ = id.rename ρ'
    unfold WorkflowId.rename
    rw [hsame _ hissued.script_mem_handedOut]

theorem nextIdentity_run_start (first : UInt64) (actions : List (String × Action)) :
    ((start first).run actions).1.nextIdentity = first + .ofNat (creations actions) :=
  nextIdentity_run (start first) actions

theorem creations_concat (actions : List (String × Action)) (name : String) (action : Action) :
    creations (actions ++ [(name, action)]) =
      creations actions + if action.isCreate then 1 else 0 := by
  simp [creations, List.countP_append, List.countP_cons]

end Session

/-! ## Two parties -/

/-- Actions of two parties in one run; those of the first are marked `true`. -/
abbrev Weaving := List (Bool × String × Action)

namespace Weaving

/-- The actions of both parties. -/
def both (w : Weaving) : List (String × Action) := w.map Prod.snd

/-- The actions of the first party. -/
def own (w : Weaving) : List (String × Action) := (w.filter Prod.fst).map Prod.snd

/-- Of the answers to all actions, those to the first party. -/
def ownAnswers (w : Weaving) (answers : List Answer) : List Answer :=
  ((w.zip answers).filter fun x => x.1.1).map Prod.snd

/-- The first party keeps to the part, and the second does not write there. -/
structure Respects (w : Weaving) (p : Part) : Prop where
  own : ∀ name action, (true, name, action) ∈ w → p.Uses name action
  others : ∀ name action, (false, name, action) ∈ w → p.Spares name action

variable {w : Weaving} {p : Part} {first first' : UInt64}

theorem ownAnswers_concat {answers : List Answer} (h : answers.length = w.length)
    (isOwn : Bool) (step : String × Action) (answer : Answer) :
    ownAnswers (w ++ [(isOwn, step)]) (answers ++ [answer]) =
      w.ownAnswers answers ++ if isOwn then [answer] else [] := by
  unfold ownAnswers
  rw [List.zip_append h.symm, List.filter_append, List.map_append]
  cases isOwn <;> rfl

/-- With the identities of the first party renamed, the run of both mirrors the run in which the
first party is alone. -/
structure Corresponds (w : Weaving) (p : Part) (first first' : UInt64) (ρ : Renaming) : Prop where
  mirrors : (Translation.ofRenaming ρ).Mirrors p ((start first).run w.own).1
    ((start first').run w.both).1
  /-- Identities that were handed out correspond to such identities. -/
  handedOut : ∀ x ∈ handedOut first (creations w.own), ρ x ∈ handedOut first' (creations w.both)
  answers : List.Forall₂ (Answer.Rel .upToIdentities) ((start first).run w.own).2
    (w.ownAnswers ((start first').run w.both).2)

namespace Corresponds

variable {ρ : Renaming} {name : String} {action : Action}

theorem concat_other (h : w.Corresponds p first first' ρ) (hspares : p.Spares name action) :
    Corresponds (w ++ [(false, name, action)]) p first first' ρ := by
  have hown : own (w ++ [(false, name, action)]) = w.own := by simp [own]
  have hboth : both (w ++ [(false, name, action)]) = w.both ++ [(name, action)] := by simp [both]
  constructor
  · rw [hown, hboth, run_concat]
    exact ⟨fun n hn => (hspares.slot?_perform hn).trans (h.mirrors.slots n hn),
      fun n hn => (hspares.id?_perform hn).trans (h.mirrors.ids n hn)⟩
  · intro x hx
    rw [hown] at hx
    refine handedOut_mono ?_ (h.handedOut x hx)
    rw [hboth, creations_concat]
    exact Nat.le_add_right _ _
  · rw [hown, hboth, run_concat, ownAnswers_concat (by rw [length_run]; simp [both])]
    simpa using h.answers

/-- A script that the first party creates gets the next identity in both runs, so the renaming has
to send the one to the other. Neither was handed out before. -/
theorem exists_renaming_create (h : w.Corresponds p first first' ρ)
    (hfew : creations w.own < UInt64.size) (hfew' : creations w.both < UInt64.size) :
    ∃ ρ' : Renaming, (∀ x ∈ Session.handedOut first (creations w.own), ρ' x = ρ x) ∧
      ρ' ((start first).run w.own).1.nextIdentity = ((start first').run w.both).1.nextIdentity := by
  refine ⟨ρ.assign _ _, fun x hx => Renaming.assign_of_ne ?_ ?_, Renaming.assign_self ..⟩
  · rintro rfl
    rw [nextIdentity_run_start] at hx
    exact next_notMem_handedOut hfew hx
  · intro heq
    have hx' := h.handedOut x hx
    rw [heq, nextIdentity_run_start] at hx'
    exact next_notMem_handedOut hfew' hx'

theorem concat_own (h : w.Corresponds p first first' ρ) (huses : p.Uses name action)
    (hfew : creations w.own < UInt64.size) (hfew' : creations w.both < UInt64.size) :
    ∃ ρ', Corresponds (w ++ [(true, name, action)]) p first first' ρ' := by
  obtain ⟨ρ', hsame, hnext⟩ := h.exists_renaming_create hfew hfew'
  have hown : own (w ++ [(true, name, action)]) = w.own ++ [(name, action)] := by simp [own]
  have hboth : both (w ++ [(true, name, action)]) = w.both ++ [(name, action)] := by simp [both]
  have hnew : ∀ host, action = .create host →
      (Script.ofModule ((start first).run w.own).1.nextIdentity host).rename ρ' =
        .ofModule ((start first').run w.both).1.nextIdentity host := by
    rintro host -
    rw [← hnext]
    rfl
  obtain ⟨hmirrors, hanswer⟩ := (mirrors_congr h.mirrors hsame).perform huses hnew
  rw [Translation.action_ofRenaming] at hmirrors hanswer
  refine ⟨ρ', ?_, ?_, ?_⟩
  · rw [hown, hboth, run_concat, run_concat]
    exact hmirrors
  · intro x hx
    rw [hown, creations_concat] at hx
    rw [hboth, creations_concat]
    cases hcreate : action.isCreate with
    | false =>
      rw [hcreate] at hx
      show ρ' x ∈ Session.handedOut first' (creations w.both)
      rw [hsame x hx]
      exact h.handedOut x hx
    | true =>
      rw [hcreate] at hx
      show ρ' x ∈ Session.handedOut first' (creations w.both + 1)
      rcases mem_handedOut_succ hx with hx | rfl
      · rw [hsame x hx]
        exact handedOut_mono (Nat.le_succ _) (h.handedOut x hx)
      · rw [nextIdentity_run_start, nextIdentity_run_start] at hnext
        rw [hnext]
        exact next_mem_handedOut first' _
  · rw [hown, hboth, run_concat, run_concat, ownAnswers_concat (by rw [length_run]; simp [both]),
      hanswer]
    exact List.rel_append h.answers (.cons (Translation.respects_ofRenaming.answer _) .nil)

end Corresponds

theorem creations_own_le (w : Weaving) : creations w.own ≤ creations w.both :=
  (List.filter_sublist.map Prod.snd).countP_le

theorem Respects.left {w' : Weaving} (h : Respects (w ++ w') p) : w.Respects p where
  own name action hmem := h.own name action (List.mem_append_left _ hmem)
  others name action hmem := h.others name action (List.mem_append_left _ hmem)

theorem exists_renaming (hw : w.Respects p) (hfew : creations w.both < UInt64.size) :
    ∃ ρ, w.Corresponds p first first' ρ := by
  induction w using List.reverseRecOn with
  | nil => exact ⟨Equiv.refl _, ⟨fun _ _ => rfl, fun _ _ => rfl⟩, nofun, .nil⟩
  | append_singleton w step ih =>
    obtain ⟨isOwn, name, action⟩ := step
    have hle : creations (both w) ≤
        creations (both (w ++ [(isOwn, name, action)])) :=
      ((List.sublist_append_left w _).map Prod.snd).countP_le
    obtain ⟨ρ, hρ⟩ := ih hw.left (Nat.lt_of_le_of_lt hle hfew)
    cases isOwn with
    | false => exact ⟨ρ, hρ.concat_other (hw.others name action (by simp))⟩
    | true =>
      have hfew' := Nat.lt_of_le_of_lt hle hfew
      exact hρ.concat_own (hw.own name action (by simp))
        (Nat.lt_of_le_of_lt (creations_own_le w) hfew') hfew'

/-- With fewer creations than there are identities, the first party of a run cannot tell whether it
is alone, nor where the counter started: it gets the same answers and holds scripts and ids that
look the same. -/
theorem looksLike_run (hw : w.Respects p) (hfew : creations w.both < UInt64.size) :
    List.Forall₂ (Answer.Rel .upToIdentities) ((start first).run w.own).2
      (w.ownAnswers ((start first').run w.both).2) ∧
    p.LooksLike ((start first).run w.own).1 ((start first').run w.both).1 := by
  obtain ⟨ρ, hρ⟩ := exists_renaming hw hfew
  exact ⟨hρ.answers, hρ.mirrors.looksLike⟩

/-- Two scripts of the first party, one of which gets an entry of the other, among scripts of the
second party, which also copies a script of the first. -/
def interwoven : Weaving :=
  [(false, "z", .create (.empty 7)),
    (true, "a", .create (.empty 0)),
    (true, "a", .add (.workflow ⟨none, ⟨0, 4⟩⟩) (some "main")),
    (false, "a", .copy "y"),
    (false, "y", .add (.workflow ⟨some "N", ⟨9, 9⟩⟩) (some "stray")),
    (false, "z", .create (.empty 7)),
    (true, "b", .create (.empty 1)),
    (true, "b", .add (.workflow ⟨none, ⟨5, 9⟩⟩) none),
    (true, "b", .setEntry "main"),
    (false, "z", .setEntry "stray"),
    (true, "a", .setEntry "main"),
    (true, "b", .owns "main"),
    (true, "b", .validate),
    (true, "a", .finalize)]

def firstParty : Part := ⟨{"a", "b"}, {"main"}⟩

theorem respects_interwoven : interwoven.Respects firstParty where
  own := by simp [interwoven, firstParty, Part.Uses, or_imp, forall_and]
  others := by simp [interwoven, firstParty, Part.Spares, or_imp, forall_and]

theorem looksLike_run_interwoven :
    interwoven.Respects firstParty ∧ creations interwoven.both < UInt64.size ∧
      (((start 0).run interwoven.own).1.slot? "a").map (·.script.identity) = some 0 ∧
      (((start 0xfffffffffffffffe).run interwoven.both).1.slot? "a").map (·.script.identity) =
        some 0xffffffffffffffff ∧
      List.Forall₂ (Answer.Rel .upToIdentities) ((start 0).run interwoven.own).2
        (interwoven.ownAnswers ((start 0xfffffffffffffffe).run interwoven.both).2) ∧
      firstParty.LooksLike ((start 0).run interwoven.own).1
        ((start 0xfffffffffffffffe).run interwoven.both).1 := by
  have hfew : creations interwoven.both < UInt64.size := by decide
  exact ⟨respects_interwoven, hfew, rfl, rfl, looksLike_run respects_interwoven hfew⟩

end Weaving

end WorkflowOutline
