import Mathlib.Logic.Function.Basic
import WorkflowOutline.Proofs.Script.History

/-!
# The histories of the scripts of a session

While a session runs, `Session.record` keeps the history of the script in each slot, from the
actions and their answers alone: creating a script starts a history, a building step that is carried
out adds to the history of its slot, a copy takes the history along, sealing and unsealing keep it,
and a rejected script is gone. `Records.run` says that every slot of the session holds the
script with the recorded history, open or sealed, so that what validation, sealing and the canonical
listing say about any script of any run can be read off its history.
-/

namespace WorkflowOutline

namespace Session

variable {σ : Session}

/-! ## Slots -/

theorem lookup_cons_eq_ite {α : Type} (k m : String) (a : α) (l : List (String × α)) :
    ((k, a) :: l).lookup m = if m = k then some a else l.lookup m := by
  rw [List.lookup_cons]
  by_cases hm : m = k
  · rw [if_pos hm, beq_iff_eq.2 hm]
  · rw [if_neg hm, beq_eq_false_iff_ne.2 hm]

theorem lookup_filter_ne {α : Type} (l : List (String × α)) (name m : String) :
    (l.filter (·.1 != name)).lookup m = if m = name then none else l.lookup m := by
  induction l with
  | nil => simp
  | cons p l ih =>
    obtain ⟨k, a⟩ := p
    rw [List.filter_cons, lookup_cons_eq_ite]
    by_cases hk : k = name
    · rw [if_neg (by simp [hk]), ih, hk]
      by_cases hm : m = name
      · rw [if_pos hm, if_pos hm]
      · rw [if_neg hm, if_neg hm, if_neg hm]
    · rw [if_pos (by simp [hk]), lookup_cons_eq_ite, ih]
      by_cases hm : m = k
      · rw [if_pos hm, if_neg (hm ▸ hk), if_pos hm]
      · rw [if_neg hm, if_neg hm]

theorem slot?_setSlot (σ : Session) (name m : String) (slot : Slot) :
    (σ.setSlot name slot).slot? m = if m = name then some slot else σ.slot? m := by
  unfold setSlot slot?
  rw [lookup_cons_eq_ite, lookup_filter_ne]
  by_cases hm : m = name
  · rw [if_pos hm, if_pos hm]
  · rw [if_neg hm, if_neg hm, if_neg hm]

theorem slot?_clearSlot (σ : Session) (name m : String) :
    (σ.clearSlot name).slot? m = if m = name then none else σ.slot? m :=
  lookup_filter_ne σ.slots name m

theorem slot?_setId (σ : Session) (n m : String) (id : WorkflowId) :
    (σ.setId n id).slot? m = σ.slot? m := rfl

theorem id?_setId (σ : Session) (n k : String) (id : WorkflowId) :
    (σ.setId n id).id? k = if k = n then some id else σ.id? k := by
  unfold setId id?
  rw [lookup_cons_eq_ite, lookup_filter_ne]
  by_cases hk : k = n
  · rw [if_pos hk, if_pos hk]
  · rw [if_neg hk, if_neg hk, if_neg hk]

end Session

/-! ## Recording histories -/

/-- The history of the script in each slot. -/
abbrev Histories := String → Option History

def Histories.extend (H : Histories) (name : String) (c : Call) : Histories :=
  Function.update H name ((H name).map (·.concat c))

namespace Session

/-- The histories after an action: what is refused leaves no trace, and what is rejected is gone. -/
def record (σ : Session) (H : Histories) (name : String) (action : Action) : Histories :=
  match (σ.perform name action).2 with
  | .refused _ => H
  | .rejected _ => Function.update H name none
  | _ =>
      match action with
      | .create host => Function.update H name (some ⟨σ.nextIdentity, host, []⟩)
      | .copy target => Function.update H target (H name)
      | .add item _ => H.extend name (.add item)
      | .setEntry idName =>
          match σ.id? idName with
          | none => H
          | some id => H.extend name (.setEntry id)
      | .setShebang line => H.extend name (.setShebang line)
      | _ => H

def histories (σ : Session) (H : Histories) : List (String × Action) → Histories
  | [] => H
  | (name, action) :: rest =>
      (σ.perform name action).1.histories (σ.record H name action) rest

/-- Every slot holds the script with the recorded history. -/
def Records (σ : Session) (H : Histories) : Prop :=
  ∀ name, (σ.slot? name).map Slot.script = (H name).map History.script

variable {σ : Session} {H : Histories}

theorem Records.setSlot (h : σ.Records H) {name : String} {slot : Slot} {history : Option History}
    (hslot : some slot.script = history.map History.script) :
    (σ.setSlot name slot).Records (Function.update H name history) := by
  intro m
  rw [slot?_setSlot, Function.update_apply]
  split
  · exact hslot
  · exact h m

theorem Records.clearSlot (h : σ.Records H) (name : String) :
    (σ.clearSlot name).Records (Function.update H name none) := by
  intro m
  rw [slot?_clearSlot, Function.update_apply]
  split
  · rfl
  · exact h m

/-- Replacing a slot by one with the same script changes no history. -/
theorem Records.setSlot_same (h : σ.Records H) {name : String} {slot slot' : Slot}
    (hslot : σ.slot? name = some slot) (hsame : slot'.script = slot.script) :
    (σ.setSlot name slot').Records H := by
  have hname : some slot'.script = (H name).map History.script := by
    rw [← h name, hslot, hsame]
    rfl
  have hset : (σ.setSlot name slot').Records (Function.update H name (H name)) := h.setSlot hname
  rwa [Function.update_eq_self] at hset

/-- What a building step does to an open script. -/
theorem build_of_building {name : String} {s : Script}
    (hslot : σ.slot? name = some (.building s)) (call : Call) (idName : Option String) :
    (∀ m, (σ.build name call idName).1.slot? m =
        (σ.setSlot name (.building (s.apply call))).slot? m) ∧
      ((σ.build name call idName).2 = .state (s.apply call) ∨
        ∃ id, (σ.build name call idName).2 = .issued id (s.apply call)) := by
  unfold build
  rw [hslot]
  rcases hid : s.issued? call with _ | id
  · simp [hid]
  · cases idName <;> simp [hid, slot?_setId]

theorem build_of_not_building {name : String} (hslot : ∀ s, σ.slot? name ≠ some (.building s))
    (call : Call) (idName : Option String) :
    ∃ r, σ.build name call idName = (σ, .refused r) := by
  unfold build
  rcases h : σ.slot? name with _ | _ | s
  · exact ⟨_, rfl⟩
  · exact absurd h (hslot _)
  · exact ⟨_, rfl⟩

theorem Records.build (h : σ.Records H) {name : String} {s : Script}
    (hslot : σ.slot? name = some (.building s)) (call : Call) (idName : Option String) :
    (σ.build name call idName).1.Records (H.extend name call) := by
  obtain ⟨history, hhistory, hscript⟩ : ∃ history, H name = some history ∧ history.script = s := by
    have hname := h name
    rw [hslot] at hname
    exact Option.map_eq_some_iff.1 hname.symm
  have hset : (σ.setSlot name (.building (s.apply call))).Records (H.extend name call) := by
    refine h.setSlot ?_
    rw [hhistory, Option.map_some, Option.map_some, History.script_concat, hscript]
    rfl
  intro m
  rw [(build_of_building hslot call idName).1]
  exact hset m

/-- A building step, carried out or refused, is recorded as such. -/
theorem Records.build_answer (h : σ.Records H) (name : String) (call : Call)
    (idName : Option String) :
    (σ.build name call idName).1.Records
      (match (σ.build name call idName).2 with
        | .refused _ => H
        | .rejected _ => Function.update H name none
        | _ => H.extend name call) := by
  by_cases hopen : ∃ s, σ.slot? name = some (.building s)
  · obtain ⟨s, hslot⟩ := hopen
    have hbuild := h.build hslot call idName
    rcases (build_of_building hslot call idName).2 with hanswer | ⟨id, hanswer⟩
    · rw [hanswer]
      exact hbuild
    · rw [hanswer]
      exact hbuild
  · obtain ⟨r, hr⟩ := build_of_not_building (fun s hs => hopen ⟨s, hs⟩) call idName
    rw [hr]
    exact h

/-- A question changes nothing. -/
theorem Records.query_answer (h : σ.Records H) (name : String) {answer : Script → Answer}
    (hanswer : ∀ s es, answer s ≠ .rejected es) :
    (σ.query name answer).1.Records
      (match (σ.query name answer).2 with
        | .refused _ => H
        | .rejected _ => Function.update H name none
        | _ => H) := by
  unfold query
  rcases σ.slot? name with _ | slot
  · exact h
  · dsimp only
    split
    · exact h
    · next es hes => exact absurd hes (hanswer _ es)
    · exact h

/-- The recorded histories stay those of the scripts in the slots. -/
theorem Records.perform (h : σ.Records H) (name : String) (action : Action) :
    (σ.perform name action).1.Records (σ.record H name action) := by
  match action with
  | .create host => exact h.setSlot rfl
  | .copy target =>
    simp only [record, Session.perform]
    rcases hslot : σ.slot? name with _ | slot
    · exact h
    · refine h.setSlot ?_
      rw [← h name, hslot]
      rfl
  | .add item idName => exact h.build_answer name (.add item) idName
  | .setEntry idName =>
    simp only [record, Session.perform]
    rcases hid : σ.id? idName with _ | id
    · exact h
    · exact h.build_answer name (.setEntry id) none
  | .setShebang line => exact h.build_answer name (.setShebang line) none
  | .finalize =>
    simp only [record, Session.perform]
    rcases hslot : σ.slot? name with _ | s | s
    · exact h
    · dsimp only
      rcases hfinal : s.finalize with es | t
      · exact h.clearSlot name
      · have hsame : (Slot.sealed t).script = (Slot.building s).script :=
          Script.finalize_eq_ok_iff.1 hfinal
        exact h.setSlot_same hslot hsame
    · exact h
  | .unseal =>
    simp only [record, Session.perform]
    rcases hslot : σ.slot? name with _ | s | s
    · exact h
    · exact h
    · exact h.setSlot_same hslot rfl
  | .owns idName =>
    refine h.query_answer name fun s es => ?_
    rcases σ.id? idName with _ | id <;> simp
  | .workflow idName =>
    refine h.query_answer name fun s es => ?_
    rcases σ.id? idName with _ | id <;> simp
  | .declarations => exact h.query_answer name fun _ _ => Answer.noConfusion
  | .dump => exact h.query_answer name fun _ _ => Answer.noConfusion
  | .validate => exact h.query_answer name fun _ _ => Answer.noConfusion
  | .diagnostics fileId => exact h.query_answer name fun _ _ => Answer.noConfusion

theorem Records.run (h : σ.Records H) (actions : List (String × Action)) :
    (σ.run actions).1.Records (σ.histories H actions) := by
  induction actions generalizing σ H with
  | nil => exact h
  | cons step rest ih =>
    rw [run_cons, histories]
    exact ih (h.perform step.1 step.2)

/-! ## Runs from the start -/

theorem run_append (σ : Session) (actions rest : List (String × Action)) :
    σ.run (actions ++ rest) =
      (((σ.run actions).1.run rest).1, (σ.run actions).2 ++ ((σ.run actions).1.run rest).2) := by
  induction actions generalizing σ with
  | nil => rfl
  | cons step actions ih =>
    rw [List.cons_append, run_cons, run_cons, ih]
    rfl

/-- The histories after a run from the start, where there is no script yet. -/
def historiesOf (first : UInt64) (actions : List (String × Action)) : Histories :=
  (start first).histories (fun _ => none) actions

theorem records_historiesOf (first : UInt64) (actions : List (String × Action)) :
    ((start first).run actions).1.Records (historiesOf first actions) :=
  Records.run (fun _ => rfl) actions

/-- Every script of a run is the one with its recorded history. -/
theorem exists_history_of_run {first : UInt64} {actions : List (String × Action)} {name : String}
    {slot : Slot} (hslot : ((start first).run actions).1.slot? name = some slot) :
    ∃ h, historiesOf first actions name = some h ∧ h.script = slot.script := by
  have hname := records_historiesOf first actions name
  rw [hslot] at hname
  exact Option.map_eq_some_iff.1 hname.symm

/-- For every script of every run, validation reports what its history replaced and what is wrong
with the entry designated last, and sealing accepts the script exactly if there is nothing. -/
theorem validate_of_run {first : UInt64} {actions : List (String × Action)} {name : String}
    {slot : Slot} (hslot : ((start first).run actions).1.slot? name = some slot) :
    ∃ h, historiesOf first actions name = some h ∧
      slot.script.validate = h.duplicates ++ h.entryErrors ∧
      (h.duplicates ++ h.entryErrors = [] →
        ∃ t, slot.script.finalize = .ok t ∧ t.script = slot.script) ∧
      (h.duplicates ++ h.entryErrors ≠ [] →
        slot.script.finalize = .error (h.duplicates ++ h.entryErrors)) := by
  obtain ⟨h, hh, hscript⟩ := exists_history_of_run hslot
  have hvalidate : slot.script.validate = h.duplicates ++ h.entryErrors := by
    rw [← hscript, History.validate_script]
  refine ⟨h, hh, hvalidate, fun hnil => ?_, fun hne => ?_⟩
  · exact ⟨⟨slot.script, hvalidate.trans hnil⟩, Script.finalize_eq_ok_iff.2 rfl, rfl⟩
  · exact Script.finalize_eq_error_iff.2 ⟨hvalidate, hne⟩

/-- Two scripts that share an identity, and one that does not: the first gets a foreign entry, and
then one that its copy issued, among repeated output blocks and interpreter lines. -/
def entangledActions : List (String × Action) :=
  [("a", .create (.empty 0)),
    ("a", .add (.workflow ⟨none, ⟨0, 4⟩⟩) (some "first")),
    ("a", .copy "b"),
    ("b", .add (.workflow ⟨some "N", ⟨5, 9⟩⟩) (some "second")),
    ("o", .create (.empty 1)),
    ("o", .add (.workflow ⟨none, ⟨2, 3⟩⟩) (some "other")),
    ("a", .setEntry "other"),
    ("a", .add (.outputs ⟨[], ⟨10, 11⟩⟩) none),
    ("a", .setShebang "#!x"),
    ("a", .setEntry "first"),
    ("a", .setEntry "second"),
    ("a", .add (.outputs ⟨[], ⟨12, 13⟩⟩) none),
    ("a", .setShebang "#!y")]

def entangledScript : Script where
  identity := 0
  host := .empty 0
  shebang := some "#!y"
  featureFlags := []
  includes := []
  params := []
  entryId := some ⟨0, 1⟩
  outputs := some ⟨[], ⟨12, 13⟩⟩
  workflows := [⟨none, ⟨0, 4⟩⟩]
  processes := []
  functions := []
  overwrites :=
    [.entry ⟨1, 0⟩ ⟨0, 0⟩, .entry ⟨0, 0⟩ ⟨0, 1⟩, .outputs ⟨10, 11⟩ ⟨12, 13⟩, .shebang "#!x" "#!y"]

theorem validate_of_run_entangled :
    ((start 0).run entangledActions).1.slot? "a" = some (.building entangledScript) ∧
      ∃ h, historiesOf 0 entangledActions "a" = some h ∧
        entangledScript.validate = h.duplicates ++ h.entryErrors ∧
        h.duplicates ++ h.entryErrors =
          [.duplicateEntry none (some ⟨0, 4⟩), .duplicateEntry (some ⟨0, 4⟩) none,
            .duplicateOutputs ⟨10, 11⟩ ⟨12, 13⟩, .duplicateShebang "#!x" "#!y",
            .entryNotInWorkflows 1 1] ∧
        entangledScript.finalize = .error (h.duplicates ++ h.entryErrors) := by
  have hslot : ((start 0).run entangledActions).1.slot? "a" = some (.building entangledScript) :=
    rfl
  obtain ⟨h, hh, hvalidate, -, hrejected⟩ := validate_of_run hslot
  have hne : entangledScript.validate ≠ [] := by decide
  exact ⟨hslot, h, hh, hvalidate, hvalidate.symm, hrejected fun hnil => hne (hvalidate.trans hnil)⟩

/-- For every script of every run, the canonical listing is the one that its history gives, and the
interpreter lines and the types that are no enumerations leave no trace in it. -/
theorem declarations_of_run {first : UInt64} {actions : List (String × Action)} {name : String}
    {slot : Slot} (hslot : ((start first).run actions).1.slot? name = some slot) :
    ∃ h, historiesOf first actions name = some h ∧
      slot.script.declarations = h.listing ∧
      h.listing = h.listed.listing ∧
      ∀ c, .enum c ∈ slot.script.declarations → c.isEnum = true := by
  obtain ⟨h, hh, hscript⟩ := exists_history_of_run hslot
  refine ⟨h, hh, ?_, h.listing_listed.symm, fun c => Script.isEnum_of_mem_declarations⟩
  rw [← hscript, History.declarations_script]

/-- A script that is sealed, and a copy of it that is unsealed and goes on growing. -/
def layeredActions : List (String × Action) :=
  [("m", .create ⟨0, [.enumeration "E" ["A"] ⟨0, 9⟩, .plain "C" ⟨10, 12⟩]⟩),
    ("m", .add (.process ⟨"P", ⟨13, 14⟩⟩) none),
    ("m", .add (.workflow ⟨some "W", ⟨15, 16⟩⟩) (some "side")),
    ("m", .add (.workflow ⟨none, ⟨17, 18⟩⟩) (some "main")),
    ("m", .setEntry "main"),
    ("m", .setShebang "#!x"),
    ("m", .finalize),
    ("m", .copy "k"),
    ("k", .unseal),
    ("k", .add (.hostClass (.enumeration "F" [] ⟨20, 21⟩)) none),
    ("k", .add (.workflow ⟨none, ⟨22, 23⟩⟩) none),
    ("k", .add (.param ⟨"p", none, ⟨24, 25⟩⟩) none)]

/-- The sealed script at the end of `layeredActions`. -/
def layeredScript : Script where
  identity := 0
  host := ⟨0, [.enumeration "E" ["A"] ⟨0, 9⟩, .plain "C" ⟨10, 12⟩]⟩
  shebang := some "#!x"
  featureFlags := []
  includes := []
  params := []
  entryId := some ⟨0, 1⟩
  outputs := none
  workflows := [⟨some "W", ⟨15, 16⟩⟩, ⟨none, ⟨17, 18⟩⟩]
  processes := [⟨"P", ⟨13, 14⟩⟩]
  functions := []
  overwrites := []

def layeredCopy : Script :=
  { layeredScript with
    host := layeredScript.host.addClass (.enumeration "F" [] ⟨20, 21⟩)
    params := [⟨"p", none, ⟨24, 25⟩⟩]
    workflows := layeredScript.workflows ++ [⟨none, ⟨22, 23⟩⟩] }

theorem declarations_of_run_layered :
    ((start 0).run layeredActions).1.slot? "k" = some (.building layeredCopy) ∧
      ∃ h, historiesOf 0 layeredActions "k" = some h ∧
        layeredCopy.declarations = h.listing ∧
        h.listing =
          [.param ⟨"p", none, ⟨24, 25⟩⟩, .entry ⟨none, ⟨17, 18⟩⟩, .workflow ⟨some "W", ⟨15, 16⟩⟩,
            .workflow ⟨none, ⟨22, 23⟩⟩, .process ⟨"P", ⟨13, 14⟩⟩,
            .enum (.enumeration "E" ["A"] ⟨0, 9⟩), .enum (.enumeration "F" [] ⟨20, 21⟩)] := by
  have hslot : ((start 0).run layeredActions).1.slot? "k" = some (.building layeredCopy) := rfl
  obtain ⟨h, hh, hlisting, -⟩ := declarations_of_run hslot
  exact ⟨hslot, h, hh, hlisting, hlisting.symm⟩

end Session

end WorkflowOutline
