import Mathlib.Data.List.Forall2
import Mathlib.Data.Set.Basic
import WorkflowOutline.Proofs.Script.Extension
import WorkflowOutline.Proofs.Session.Trails

/-!
# Two sessions in step

A `Comparison` says which scripts and which results pass for the same, and is carried over to slots
and answers (`Slot.Rel`, `Answer.Rel`).

A `Translation` replaces scripts, items and ids by others in such a way that everything that can be
done with a script commutes with it. The part of a session that goes by certain names is mirrored by
another session (`Translation.Mirrors`) if the same names stand there for the translated scripts and
ids. An action that uses these names only leads from mirrored sessions to mirrored sessions, and its
answer in one is the translation of that in the other (`Translation.Mirrors.perform`). An action
that writes to other names only changes nothing about the part (`Part.Spares.slot?_perform`,
`Part.Spares.id?_perform`).
-/

namespace WorkflowOutline

/-! ## Comparing sessions -/

/-- What passes for the same in two sessions. -/
structure Comparison where
  script : Script → Script → Prop
  id : WorkflowId → WorkflowId → Prop
  workflow : Workflow → Workflow → Prop
  declaration : Declaration → Declaration → Prop
  error : ValidationError → ValidationError → Prop
  diagnostic : Diagnostic → Diagnostic → Prop

/-- Slots that are both open or both sealed, with related scripts. -/
inductive Slot.Rel (R : Script → Script → Prop) : Slot → Slot → Prop
  | building {s t : Script} (h : R s t) : Rel R (.building s) (.building t)
  | sealed {s t : SealedScript} (h : R s.script t.script) : Rel R (.sealed s) (.sealed t)

/-- Answers of one sort that pass for the same; a truth value and a refusal have to be equal. -/
inductive Answer.Rel (C : Comparison) : Answer → Answer → Prop
  | state {s t : Script} (h : C.script s t) : Rel C (.state s) (.state t)
  | issued {id id' : WorkflowId} {s t : Script} (hid : C.id id id') (h : C.script s t) :
      Rel C (.issued id s) (.issued id' t)
  | owned (isOwned : Bool) : Rel C (.owned isOwned) (.owned isOwned)
  | workflow {w w' : Option Workflow} (h : Option.Rel C.workflow w w') :
      Rel C (.workflow w) (.workflow w')
  | declarations {ds ds' : List Declaration} (h : List.Forall₂ C.declaration ds ds') :
      Rel C (.declarations ds) (.declarations ds')
  | dump {s t : Script} (h : C.script s t) : Rel C (.dump s) (.dump t)
  | errors {es es' : List ValidationError} (h : List.Forall₂ C.error es es') :
      Rel C (.errors es) (.errors es')
  | diagnostics {ds ds' : List Diagnostic} (h : List.Forall₂ C.diagnostic ds ds') :
      Rel C (.diagnostics ds) (.diagnostics ds')
  | accepted {s t : Script} (h : C.script s t) : Rel C (.accepted s) (.accepted t)
  | rejected {es es' : List ValidationError} (h : List.Forall₂ C.error es es') :
      Rel C (.rejected es) (.rejected es')
  | refused (r : Refusal) : Rel C (.refused r) (.refused r)

/-! ## Parts of a session -/

/-- Names for a part of a session: of its slots and of its ids. -/
structure Part where
  slots : Set String
  ids : Set String

namespace Part

/-- The action on the named slot reads and writes nothing but the part. -/
def Uses (p : Part) (name : String) (action : Action) : Prop :=
  name ∈ p.slots ∧
    match action with
    | .copy target => target ∈ p.slots
    | .add _ idName => ∀ n, idName = some n → n ∈ p.ids
    | .setEntry n | .owns n | .workflow n => n ∈ p.ids
    | _ => True

/-- The action on the named slot does not write to the part, whatever it reads. -/
def Spares (p : Part) (name : String) : Action → Prop
  | .copy target => target ∉ p.slots
  | .add _ idName => name ∉ p.slots ∧ ∀ n, idName = some n → n ∉ p.ids
  | .create _ | .setEntry _ | .setShebang _ | .finalize | .unseal => name ∉ p.slots
  | .owns _ | .workflow _ | .declarations | .dump | .validate | .diagnostics _ => True

/-- All of a session. -/
def whole : Part := ⟨Set.univ, Set.univ⟩

theorem whole_uses (name : String) (action : Action) : whole.Uses name action := by
  cases action <;> simp [whole, Uses]

end Part

/-! ## What an action leaves alone -/

namespace Session

theorem slot?_build_of_ne (σ : Session) {name n : String} (hn : n ≠ name) (c : Call)
    (idName : Option String) : (σ.build name c idName).1.slot? n = σ.slot? n := by
  unfold build
  rcases σ.slot? name with _ | s | s
  · rfl
  · have hset : (σ.setSlot name (.building (s.apply c))).slot? n = σ.slot? n := by
      rw [slot?_setSlot, if_neg hn]
    dsimp only
    rcases s.issued? c with _ | id
    · exact hset
    · cases idName <;> exact hset
  · rfl

theorem id?_build_of_ne (σ : Session) {idName : Option String} {n : String}
    (hn : ∀ k, idName = some k → n ≠ k) (name : String) (c : Call) :
    (σ.build name c idName).1.id? n = σ.id? n := by
  unfold build
  rcases σ.slot? name with _ | s | s
  · rfl
  · dsimp only
    rcases s.issued? c with _ | id
    · rfl
    · cases idName with
      | none => rfl
      | some k => exact (id?_setId _ k n id).trans (if_neg (hn k rfl))
  · rfl

end Session

namespace Part.Spares

open Session

variable {p : Part} {σ : Session} {name n : String} {action : Action}

theorem slot?_perform (h : p.Spares name action) (hn : n ∈ p.slots) :
    (σ.perform name action).1.slot? n = σ.slot? n := by
  have hne : ∀ {k : String}, k ∉ p.slots → n ≠ k := fun hk heq => hk (heq ▸ hn)
  match action with
  | .create host => exact (slot?_setSlot σ name n _).trans (if_neg (hne h))
  | .copy target =>
    simp only [perform]
    rcases σ.slot? name with _ | x
    · rfl
    · exact (slot?_setSlot σ target n x).trans (if_neg (hne h))
  | .add item idName => exact slot?_build_of_ne σ (hne h.1) _ _
  | .setShebang line => exact slot?_build_of_ne σ (hne h) _ _
  | .setEntry k =>
    simp only [perform]
    rcases σ.id? k with _ | id
    · rfl
    · exact slot?_build_of_ne σ (hne h) _ _
  | .finalize =>
    simp only [perform]
    rcases σ.slot? name with _ | s | s
    · rfl
    · dsimp only
      rcases s.finalize with es | t
      · exact (slot?_clearSlot σ name n).trans (if_neg (hne h))
      · exact (slot?_setSlot σ name n _).trans (if_neg (hne h))
    · rfl
  | .unseal =>
    simp only [perform]
    rcases σ.slot? name with _ | s | s
    · rfl
    · rfl
    · exact (slot?_setSlot σ name n _).trans (if_neg (hne h))
  | .owns _ | .workflow _ | .declarations | .dump | .validate | .diagnostics _ =>
    exact congrArg (Session.slot? · n) (query_fst ..)

theorem id?_perform (h : p.Spares name action) (hn : n ∈ p.ids) :
    (σ.perform name action).1.id? n = σ.id? n := by
  match action with
  | .create host => rfl
  | .copy target =>
    simp only [perform]
    rcases σ.slot? name with _ | x <;> rfl
  | .add item idName => exact id?_build_of_ne σ (fun k hk heq => h.2 k hk (heq ▸ hn)) _ _
  | .setShebang line => exact id?_build_of_ne σ (fun _ hk => by cases hk) _ _
  | .setEntry k =>
    simp only [perform]
    rcases σ.id? k with _ | id
    · rfl
    · exact id?_build_of_ne σ (fun _ hk => by cases hk) _ _
  | .finalize =>
    simp only [perform]
    rcases σ.slot? name with _ | s | s
    · rfl
    · dsimp only
      rcases s.finalize with es | t <;> rfl
    · rfl
  | .unseal =>
    simp only [perform]
    rcases σ.slot? name with _ | s | s <;> rfl
  | .owns _ | .workflow _ | .declarations | .dump | .validate | .diagnostics _ =>
    exact congrArg (Session.id? · n) (query_fst ..)

end Part.Spares

/-! ## Translations -/

/-- Maps on scripts and on all that actions and answers mention, with the laws by which they commute
with everything that can be done with a script. -/
structure Translation where
  script : Script → Script
  id : WorkflowId → WorkflowId
  host : HostModule → HostModule
  item : Item → Item
  workflow : Workflow → Workflow
  declaration : Declaration → Declaration
  error : ValidationError → ValidationError
  diagnostic : Diagnostic → Diagnostic
  script_add : ∀ s i, script (s.add i) = (script s).add (item i)
  script_setEntry : ∀ s x, script (s.setEntry x) = (script s).setEntry (id x)
  script_setShebang : ∀ s line, script (s.setShebang line) = (script s).setShebang line
  issued?_add : ∀ s i, (script s).issued? (.add (item i)) = (s.issued? (.add i)).map id
  owns_id : ∀ s x, (script s).owns (id x) = s.owns x
  workflow?_id : ∀ s x, (script s).workflow? (id x) = (s.workflow? x).map workflow
  declarations_script : ∀ s, (script s).declarations = s.declarations.map declaration
  validate_script : ∀ s, (script s).validate = s.validate.map error
  toDiagnostic_error : ∀ e fileId,
    (error e).toDiagnostic fileId = diagnostic (e.toDiagnostic fileId)

namespace Translation

variable (T : Translation)

def call : Call → Call
  | .add item => .add (T.item item)
  | .setEntry id => .setEntry (T.id id)
  | .setShebang line => .setShebang line

theorem script_apply (s : Script) (c : Call) :
    T.script (s.apply c) = (T.script s).apply (T.call c) := by
  cases c with
  | add item => exact T.script_add s item
  | setEntry id => exact T.script_setEntry s id
  | setShebang line => exact T.script_setShebang s line

theorem issued?_call (s : Script) (c : Call) :
    (T.script s).issued? (T.call c) = (s.issued? c).map T.id := by
  cases c with
  | add item => exact T.issued?_add s item
  | setEntry | setShebang => rfl

/-- What is sealed stays valid. -/
def sealed (s : SealedScript) : SealedScript where
  script := T.script s.script
  valid := by rw [T.validate_script, s.valid, List.map_nil]

def slot : Slot → Slot
  | .building s => .building (T.script s)
  | .sealed s => .sealed (T.sealed s)

theorem script_slot (x : Slot) : (T.slot x).script = T.script x.script := by
  cases x <;> rfl

/-- Names stay; what is given along with an action is translated. -/
def action : Action → Action
  | .create host => .create (T.host host)
  | .add item idName => .add (T.item item) idName
  | .copy target => .copy target
  | .setEntry n => .setEntry n
  | .setShebang line => .setShebang line
  | .owns n => .owns n
  | .workflow n => .workflow n
  | .declarations => .declarations
  | .dump => .dump
  | .validate => .validate
  | .diagnostics fileId => .diagnostics fileId
  | .finalize => .finalize
  | .unseal => .unseal

def answer : Answer → Answer
  | .state s => .state (T.script s)
  | .issued id s => .issued (T.id id) (T.script s)
  | .owned isOwned => .owned isOwned
  | .workflow w => .workflow (w.map T.workflow)
  | .declarations ds => .declarations (ds.map T.declaration)
  | .dump s => .dump (T.script s)
  | .errors es => .errors (es.map T.error)
  | .diagnostics ds => .diagnostics (ds.map T.diagnostic)
  | .accepted s => .accepted (T.script s)
  | .rejected es => .rejected (es.map T.error)
  | .refused r => .refused r

theorem finalize_of_ok {s : Script} {t : SealedScript} (h : s.finalize = .ok t) :
    (T.script s).finalize = .ok (T.sealed t) := by
  rw [Script.finalize_eq_ok_iff] at h ⊢
  exact congrArg T.script h

theorem finalize_of_error {s : Script} {es : List ValidationError} (h : s.finalize = .error es) :
    (T.script s).finalize = .error (es.map T.error) := by
  rw [Script.finalize_eq_error_iff] at h ⊢
  obtain ⟨rfl, hne⟩ := h
  exact ⟨T.validate_script s, fun hnil => hne (List.map_eq_nil_iff.1 hnil)⟩

/-- What is translated passes for what it was. -/
structure Respects (T : Translation) (C : Comparison) : Prop where
  script : ∀ s, C.script s (T.script s)
  id : ∀ x, C.id x (T.id x)
  workflow : ∀ w, C.workflow w (T.workflow w)
  declaration : ∀ d, C.declaration d (T.declaration d)
  error : ∀ e, C.error e (T.error e)
  diagnostic : ∀ d, C.diagnostic d (T.diagnostic d)

theorem forall₂_map {α : Type} {R : α → α → Prop} {f : α → α} (h : ∀ a, R a (f a)) (l : List α) :
    List.Forall₂ R l (l.map f) :=
  List.forall₂_map_right_iff.2 (List.forall₂_same.2 fun a _ => h a)

variable {T}

theorem Respects.slot {C : Comparison} (h : T.Respects C) (x : Slot) :
    Slot.Rel C.script x (T.slot x) := by
  cases x with
  | building s => exact .building (h.script s)
  | sealed s => exact .sealed (h.script s.script)

theorem Respects.answer {C : Comparison} (h : T.Respects C) (a : Answer) :
    Answer.Rel C a (T.answer a) := by
  cases a with
  | state s => exact .state (h.script s)
  | issued id s => exact .issued (h.id id) (h.script s)
  | owned isOwned => exact .owned isOwned
  | workflow w =>
    refine .workflow ?_
    rcases w with _ | w
    · exact .none
    · exact .some (h.workflow w)
  | declarations ds => exact .declarations (forall₂_map h.declaration ds)
  | dump s => exact .dump (h.script s)
  | errors es => exact .errors (forall₂_map h.error es)
  | diagnostics ds => exact .diagnostics (forall₂_map h.diagnostic ds)
  | accepted s => exact .accepted (h.script s)
  | rejected es => exact .rejected (forall₂_map h.error es)
  | refused r => exact .refused r

/-! ## Mirrored sessions -/

/-- In the second session the names of the part stand for the translations of what they stand for in
the first. -/
structure Mirrors (T : Translation) (p : Part) (σ τ : Session) : Prop where
  slots : ∀ n ∈ p.slots, τ.slot? n = (σ.slot? n).map T.slot
  ids : ∀ n ∈ p.ids, τ.id? n = (σ.id? n).map T.id

variable {p : Part} {σ τ : Session} {name : String} {action : Action}

namespace Mirrors

theorem setSlot (h : T.Mirrors p σ τ) (name : String) (x : Slot) :
    T.Mirrors p (σ.setSlot name x) (τ.setSlot name (T.slot x)) where
  slots n hn := by
    rw [Session.slot?_setSlot, Session.slot?_setSlot, h.slots n hn]
    split <;> rfl
  ids := h.ids

theorem clearSlot (h : T.Mirrors p σ τ) (name : String) :
    T.Mirrors p (σ.clearSlot name) (τ.clearSlot name) where
  slots n hn := by
    rw [Session.slot?_clearSlot, Session.slot?_clearSlot, h.slots n hn]
    split <;> rfl
  ids := h.ids

theorem setId (h : T.Mirrors p σ τ) (n : String) (id : WorkflowId) :
    T.Mirrors p (σ.setId n id) (τ.setId n (T.id id)) where
  slots := h.slots
  ids k hk := by
    rw [Session.id?_setId, Session.id?_setId, h.ids k hk]
    split <;> rfl

/-- A question about a script of the part gets the translated answer. -/
theorem query (h : T.Mirrors p σ τ) (hname : name ∈ p.slots) {ask ask' : Script → Answer}
    (hask : ∀ s, ask' (T.script s) = T.answer (ask s)) :
    T.Mirrors p (σ.query name ask).1 (τ.query name ask').1 ∧
      (τ.query name ask').2 = T.answer (σ.query name ask).2 := by
  unfold Session.query
  rw [h.slots name hname]
  rcases σ.slot? name with _ | slot
  · exact ⟨h, rfl⟩
  · refine ⟨h, ?_⟩
    show ask' (T.slot slot).script = T.answer (ask slot.script)
    rw [script_slot, hask]

theorem build (h : T.Mirrors p σ τ) (hname : name ∈ p.slots) (c : Call) (idName : Option String) :
    T.Mirrors p (σ.build name c idName).1 (τ.build name (T.call c) idName).1 ∧
      (τ.build name (T.call c) idName).2 = T.answer (σ.build name c idName).2 := by
  unfold Session.build
  rw [h.slots name hname]
  rcases σ.slot? name with _ | s | s
  · exact ⟨h, rfl⟩
  · have hset := h.setSlot name (.building (s.apply c))
    simp only [slot, script_apply] at hset
    simp only [Option.map_some, slot, issued?_call]
    rcases s.issued? c with _ | id
    · refine ⟨hset, ?_⟩
      simp only [Option.map_none, answer, script_apply]
    · simp only [Option.map_some, answer, script_apply, and_true]
      cases idName with
      | none => exact hset
      | some n => exact hset.setId n id
  · exact ⟨h, rfl⟩

/-- An action on the part leads from mirrored sessions to mirrored sessions, and its answers mirror
each other. A new script has to get the identity that its translation asks for. -/
theorem perform (h : T.Mirrors p σ τ) (huses : p.Uses name action)
    (hnew : ∀ host, action = .create host →
      T.script (.ofModule σ.nextIdentity host) = .ofModule τ.nextIdentity (T.host host)) :
    T.Mirrors p (σ.perform name action).1 (τ.perform name (T.action action)).1 ∧
      (τ.perform name (T.action action)).2 = T.answer (σ.perform name action).2 := by
  obtain ⟨hname, huses⟩ := huses
  match action with
  | .create host =>
    have hset := h.setSlot name (.building (.ofModule σ.nextIdentity host))
    simp only [slot, hnew host rfl] at hset
    refine ⟨⟨hset.slots, hset.ids⟩, ?_⟩
    simp only [Session.perform, Translation.action, answer, hnew host rfl]
  | .copy target =>
    simp only [Session.perform, Translation.action, h.slots name hname]
    rcases σ.slot? name with _ | x
    · exact ⟨h, rfl⟩
    · refine ⟨h.setSlot target x, ?_⟩
      simp only [Option.map_some, answer, script_slot]
  | .add item idName => exact h.build hname (.add item) idName
  | .setShebang line => exact h.build hname (.setShebang line) none
  | .setEntry n =>
    simp only [Session.perform, Translation.action, h.ids n huses]
    rcases σ.id? n with _ | id
    · exact ⟨h, rfl⟩
    · exact h.build hname (.setEntry id) none
  | .owns n =>
    refine h.query hname fun s => ?_
    rw [h.ids n huses]
    rcases σ.id? n with _ | id
    · rfl
    · exact congrArg Answer.owned (T.owns_id s id)
  | .workflow n =>
    refine h.query hname fun s => ?_
    rw [h.ids n huses]
    rcases σ.id? n with _ | id
    · rfl
    · exact congrArg Answer.workflow (T.workflow?_id s id)
  | .declarations =>
    exact h.query hname fun s => congrArg Answer.declarations (T.declarations_script s)
  | .dump => exact h.query hname fun s => rfl
  | .validate => exact h.query hname fun s => congrArg Answer.errors (T.validate_script s)
  | .diagnostics fileId =>
    refine h.query hname fun s => congrArg Answer.diagnostics ?_
    rw [T.validate_script, List.map_map, List.map_map]
    exact List.map_congr_left fun e _ => T.toDiagnostic_error e fileId
  | .finalize =>
    simp only [Session.perform, Translation.action, h.slots name hname]
    rcases σ.slot? name with _ | s | s
    · exact ⟨h, rfl⟩
    · simp only [Option.map_some, slot]
      rcases hfinal : s.finalize with es | t
      · rw [T.finalize_of_error hfinal]
        exact ⟨h.clearSlot name, rfl⟩
      · rw [T.finalize_of_ok hfinal]
        exact ⟨h.setSlot name (.sealed t), rfl⟩
    · exact ⟨h, rfl⟩
  | .unseal =>
    simp only [Session.perform, Translation.action, h.slots name hname]
    rcases σ.slot? name with _ | s | s
    · exact ⟨h, rfl⟩
    · exact ⟨h, rfl⟩
    · exact ⟨h.setSlot name (.building s.unseal), rfl⟩

theorem slot_rel {C : Comparison} (h : T.Mirrors p σ τ) (hC : T.Respects C)
    (hname : name ∈ p.slots) :
    Option.Rel (Slot.Rel C.script) (σ.slot? name) (τ.slot? name) := by
  rw [h.slots name hname]
  rcases σ.slot? name with _ | x
  · exact .none
  · exact .some (hC.slot x)

end Mirrors

end Translation

end WorkflowOutline
