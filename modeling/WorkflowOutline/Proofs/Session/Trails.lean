import Mathlib.Data.List.Induction
import WorkflowOutline.Proofs.Session.Histories

/-!
# Trails

A `Trail` is the history of a script together with times: which action of the run created it, and
which action took each building step. Copies share the times of the steps taken before copying, and
only those, so a trail tells apart what a history cannot: the steps that a script and its copies
have in common, and equal steps that they took on their own.

`isSound_trailsOf` says what the trail of a script tells about the run: its identity is that of the
creating action, and each workflow on it was added by the action at that time, which issued the id
with the ordinal of the workflow. `IsSound.identity_eq_iff` says that, among fewer creations than
there are identities, scripts share their identity if and only if one action created them.
-/

namespace WorkflowOutline

/-- How a script came about, each building step with the number of actions before it. -/
structure Trail where
  created : Nat
  identity : UInt64
  host : HostModule
  steps : List (Nat × Call)
deriving DecidableEq

namespace Trail

def extend (tr : Trail) (time : Nat) (c : Call) : Trail :=
  { tr with steps := tr.steps ++ [(time, c)] }

/-- The history, which knows no times. -/
def history (tr : Trail) : History := ⟨tr.identity, tr.host, tr.steps.map Prod.snd⟩

/-- The workflows that were added, each with the time of its step. -/
def workflowSteps (tr : Trail) : List (Nat × Workflow) :=
  tr.steps.filterMap fun x => x.2.workflow?.map (x.1, ·)

end Trail

/-- The trail of the script in each slot. -/
abbrev Trails := String → Option Trail

def Action.isCreate : Action → Bool
  | .create _ => true
  | _ => false

/-- The slot that gets another script, if the action on the named slot is carried out. -/
def Action.target? (name : String) : Action → Option String
  | .create _ => some name
  | .copy target => some target
  | _ => none

namespace Session

/-- The action is not carried out. -/
def Refuses (σ : Session) (name : String) (action : Action) : Prop :=
  ∃ r, (σ.perform name action).2 = .refused r

/-- How many scripts a run creates, copies not counted. -/
def creations (actions : List (String × Action)) : Nat := actions.countP fun x => x.2.isCreate

/-- The building step that an action asks for. -/
def call? (σ : Session) : Action → Option Call
  | .add item _ => some (.add item)
  | .setEntry idName => (σ.id? idName).map .setEntry
  | .setShebang line => some (.setShebang line)
  | _ => none

/-- The trails after an action that is carried out: a copy takes the trail along. -/
def advance (σ : Session) (T : Trails) (time : Nat) (name : String) (action : Action) : Trails :=
  match σ.call? action with
  | some c => Function.update T name ((T name).map (·.extend time c))
  | none =>
      match action with
      | .create host => Function.update T name (some ⟨time, σ.nextIdentity, host, []⟩)
      | .copy target => Function.update T target (T name)
      | _ => T

/-- The trails after an action, kept as the histories are. -/
def retrace (σ : Session) (T : Trails) (time : Nat) (name : String) (action : Action) : Trails :=
  match (σ.perform name action).2 with
  | .refused _ => T
  | .rejected _ => Function.update T name none
  | _ => σ.advance T time name action

def trails (σ : Session) (T : Trails) (time : Nat) : List (String × Action) → Trails
  | [] => T
  | (name, action) :: rest =>
      (σ.perform name action).1.trails (σ.retrace T time name action) (time + 1) rest

/-- The trails after a run from the start, where there is no script yet. -/
def trailsOf (first : UInt64) (actions : List (String × Action)) : Trails :=
  (start first).trails (fun _ => none) 0 actions

/-- The action at the given time adds the workflow to the script in the slot, which issues the
id. -/
def Issued (first : UInt64) (actions : List (String × Action)) (t : Nat) (name : String)
    (w : Workflow) (id : WorkflowId) : Prop :=
  ∃ idName s, actions[t]? = some (name, .add (.workflow w) idName) ∧
    ((start first).run actions).2[t]? = some (.issued id s)

end Session

/-- What a trail tells about the run in which the script came about. -/
structure Trail.IsSound (tr : Trail) (first : UInt64) (actions : List (String × Action)) :
    Prop where
  created : ∃ name, actions[tr.created]? = some (name, Action.create tr.host)
  identity : tr.identity = first + .ofNat (Session.creations (actions.take tr.created))
  lt_length : ∀ x ∈ tr.steps, x.1 < actions.length
  ordered : (tr.steps.map Prod.fst).Pairwise (· < ·)
  /-- The action that added the workflow issued its ordinal. -/
  issued : ∀ i t w, tr.workflowSteps[i]? = some (t, w) →
    ∃ name, Session.Issued first actions t name w ⟨tr.identity, i⟩

namespace Session

variable {σ : Session} {T : Trails} {time : Nat} {name m : String} {action : Action}

/-! ## One action -/

/-- What the history of a slot is after an action, its trail tells too. -/
theorem history_retrace (σ : Session) (T : Trails) (time : Nat) (name : String)
    (action : Action) (m : String) :
    (σ.retrace T time name action m).map Trail.history =
      σ.record (fun n => (T n).map Trail.history) name action m := by
  have hupdate : ∀ (n : String) (x : Option Trail),
      (Function.update T n x m).map Trail.history =
        Function.update (fun k => (T k).map Trail.history) n (x.map Trail.history) m :=
    fun n x => Function.apply_update (fun _ y => y.map Trail.history) T n x m
  have hextend : ∀ c, (Function.update T name ((T name).map (·.extend time c)) m).map
      Trail.history = Histories.extend (fun n => (T n).map Trail.history) name c m := by
    intro c
    rw [hupdate, Histories.extend, Option.map_map, Option.map_map]
    congr 2
    funext tr
    simp [Trail.history, Trail.extend, History.concat]
  unfold retrace record
  rcases (σ.perform name action).2
  case refused => rfl
  case rejected => exact hupdate name none
  all_goals
    cases action with
    | create host => exact hupdate name _
    | copy target => exact hupdate target _
    | add item idName => exact hextend _
    | setEntry idName =>
      simp only [advance, call?]
      rcases σ.id? idName with _ | id
      · rfl
      · exact hextend _
    | setShebang line => exact hextend _
    | _ => rfl

theorem eq_some_or_of_update {n : String} {x : Option Trail} {tr : Trail}
    (h : Function.update T n x m = some tr) : m = n ∧ x = some tr ∨ m ≠ n ∧ T m = some tr := by
  rw [Function.update_apply] at h
  split at h
  · exact .inl ⟨‹_›, h⟩
  · exact .inr ⟨‹_›, h⟩

/-- What is rejected is a script that was to be sealed. -/
theorem target?_eq_none_of_rejected {es : List ValidationError}
    (h : (σ.perform name action).2 = .rejected es) : action.target? name = none := by
  cases action with
  | create host => cases h
  | copy target =>
    unfold perform at h
    rcases hslot : σ.slot? name with _ | slot <;> simp [hslot] at h
  | _ => rfl

theorem target?_eq_none_of_call? {c : Call} (h : σ.call? action = some c) :
    action.target? name = none := by
  cases action with
  | create | copy => cases h
  | _ => rfl

theorem advance_cases {tr : Trail} (h : σ.advance T time name action m = some tr) :
    (T m = some tr ∧ action.target? name ≠ some m) ∨
      (∃ host, action = .create host ∧ m = name ∧ tr = ⟨time, σ.nextIdentity, host, []⟩) ∨
      (action = .copy m ∧ T name = some tr) ∨
      ∃ tr₀ c, m = name ∧ T name = some tr₀ ∧ σ.call? action = some c ∧ tr = tr₀.extend time c := by
  rcases hc : σ.call? action with _ | c <;> simp only [advance, hc] at h
  · cases action with
    | create host =>
      rcases eq_some_or_of_update h with ⟨hm, h⟩ | ⟨hm, h⟩
      · exact .inr (.inl ⟨host, rfl, hm, (Option.some.inj h).symm⟩)
      · exact .inl ⟨h, fun htarget => hm (Option.some.inj htarget).symm⟩
    | copy target =>
      rcases eq_some_or_of_update h with ⟨hm, h⟩ | ⟨hm, h⟩
      · exact .inr (.inr (.inl ⟨by rw [hm], h⟩))
      · exact .inl ⟨h, fun htarget => hm (Option.some.inj htarget).symm⟩
    | _ => exact .inl ⟨h, nofun⟩
  · rcases eq_some_or_of_update h with ⟨hm, h⟩ | ⟨-, h⟩
    · obtain ⟨tr₀, htr₀, rfl⟩ := Option.map_eq_some_iff.1 h
      exact .inr (.inr (.inr ⟨tr₀, c, hm, htr₀, rfl, rfl⟩))
    · refine .inl ⟨h, ?_⟩
      rw [target?_eq_none_of_call? hc]
      exact nofun

/-- A slot keeps its trail unless another script is put there, which is a new one or a copy, or the
action is a building step on the slot, by which the trail goes on. -/
theorem retrace_cases {tr : Trail} (h : σ.retrace T time name action m = some tr) :
    (T m = some tr ∧ (action.target? name = some m → σ.Refuses name action)) ∨
      ¬ σ.Refuses name action ∧
        ((∃ host, action = .create host ∧ m = name ∧ tr = ⟨time, σ.nextIdentity, host, []⟩) ∨
          (action = .copy m ∧ T name = some tr) ∨
          ∃ tr₀ c, m = name ∧ T name = some tr₀ ∧ σ.call? action = some c ∧
            tr = tr₀.extend time c) := by
  unfold retrace at h
  rcases hanswer : (σ.perform name action).2 <;> simp only [hanswer] at h
  case refused r => exact .inl ⟨h, fun _ => ⟨r, hanswer⟩⟩
  case rejected es =>
    rcases eq_some_or_of_update h with ⟨-, h⟩ | ⟨-, h⟩
    · cases h
    · refine .inl ⟨h, fun htarget => ?_⟩
      rw [target?_eq_none_of_rejected hanswer] at htarget
      cases htarget
  all_goals
    have hdone : ¬ σ.Refuses name action := fun ⟨r, hr⟩ => by
      rw [hanswer] at hr
      cases hr
    rcases advance_cases h with ⟨hm, htarget⟩ | hnew
    · exact .inl ⟨hm, fun h => absurd h htarget⟩
    · exact .inr ⟨hdone, hnew⟩

theorem call?_eq_some_workflow {w : Workflow} (h : σ.call? action = some (.add (.workflow w))) :
    ∃ idName, action = .add (.workflow w) idName := by
  cases action with
  | add item idName =>
    obtain rfl : item = .workflow w := by simpa [call?] using h
    exact ⟨idName, rfl⟩
  | setEntry idName =>
    rcases hid : σ.id? idName with _ | id <;> simp [call?, hid] at h
  | _ => simp [call?] at h

/-- Adding a workflow, unless it is refused, issues the next id of an open script. -/
theorem perform_add_workflow {w : Workflow} {idName : Option String}
    (h : ¬ σ.Refuses name (.add (.workflow w) idName)) :
    ∃ s, σ.slot? name = some (.building s) ∧
      (σ.perform name (.add (.workflow w) idName)).2 = .issued s.nextId (s.addWorkflow w) := by
  unfold Refuses perform build at *
  rcases hslot : σ.slot? name with _ | s | t
  · simp [hslot] at h
  · exact ⟨s, rfl, rfl⟩
  · simp [hslot] at h

theorem nextIdentity_build (σ : Session) (name : String) (call : Call) (idName : Option String) :
    (σ.build name call idName).1.nextIdentity = σ.nextIdentity := by
  unfold build
  rcases σ.slot? name with _ | s | t
  · rfl
  · dsimp only
    rcases s.issued? call with _ | id
    · rfl
    · cases idName <;> rfl
  · rfl

theorem query_fst (σ : Session) (name : String) (answer : Script → Answer) :
    (σ.query name answer).1 = σ := by
  unfold query
  cases σ.slot? name <;> rfl

/-- Only creating a script takes an identity. -/
theorem nextIdentity_perform (h : action.isCreate = false) :
    (σ.perform name action).1.nextIdentity = σ.nextIdentity := by
  match action with
  | .add item idName => exact nextIdentity_build ..
  | .setShebang line => exact nextIdentity_build ..
  | .setEntry idName =>
    simp only [perform]
    rcases σ.id? idName with _ | id
    · rfl
    · exact nextIdentity_build ..
  | .copy target =>
    simp only [perform]
    cases σ.slot? name <;> rfl
  | .finalize =>
    simp only [perform]
    rcases σ.slot? name with _ | s | t
    · rfl
    · dsimp only
      cases s.finalize <;> rfl
    · rfl
  | .unseal =>
    simp only [perform]
    rcases σ.slot? name with _ | s | t <;> rfl
  | .owns _ | .workflow _ | .declarations | .dump | .validate | .diagnostics _ =>
    exact congrArg nextIdentity (query_fst ..)

/-! ## Runs -/

theorem length_run (σ : Session) (actions : List (String × Action)) :
    (σ.run actions).2.length = actions.length := by
  induction actions generalizing σ with
  | nil => rfl
  | cons step actions ih =>
    rw [run_cons, List.length_cons, List.length_cons, ih]

/-- The answer to an action is that of the session after the actions before it. -/
theorem getElem?_run (σ : Session) {actions : List (String × Action)} {t : Nat}
    (h : actions[t]? = some (name, action)) :
    (σ.run actions).2[t]? = some ((σ.run (actions.take t)).1.perform name action).2 := by
  induction actions generalizing σ t with
  | nil => cases h
  | cons step actions ih =>
    rw [run_cons]
    cases t with
    | zero =>
      rw [Option.some.inj h]
      rfl
    | succ t => exact ih _ h

theorem run_concat (σ : Session) (actions : List (String × Action)) (name : String)
    (action : Action) :
    σ.run (actions ++ [(name, action)]) =
      (((σ.run actions).1.perform name action).1,
        (σ.run actions).2 ++ [((σ.run actions).1.perform name action).2]) := by
  rw [run_append]
  rfl

theorem nextIdentity_run (σ : Session) (actions : List (String × Action)) :
    (σ.run actions).1.nextIdentity = σ.nextIdentity + .ofNat (creations actions) := by
  induction actions using List.reverseRecOn with
  | nil => exact (UInt64.add_zero _).symm
  | append_singleton actions step ih =>
    obtain ⟨name, action⟩ := step
    have hcount : creations (actions ++ [(name, action)]) =
        creations actions + if action.isCreate then 1 else 0 := by
      simp [creations, List.countP_append, List.countP_cons]
    rw [run_concat, hcount]
    cases haction : action.isCreate with
    | false => exact (nextIdentity_perform haction).trans ih
    | true =>
      obtain ⟨host, rfl⟩ : ∃ host, action = .create host := by
        cases action <;> first | exact ⟨_, rfl⟩ | cases haction
      calc (σ.run actions).1.nextIdentity + 1
          = σ.nextIdentity + .ofNat (creations actions) + 1 := by rw [ih]
        _ = σ.nextIdentity + .ofNat (creations actions + 1) := by
          rw [UInt64.ofNat_add, UInt64.add_assoc]
          rfl

theorem trails_concat (σ : Session) (T : Trails) (time : Nat) (actions : List (String × Action))
    (name : String) (action : Action) :
    σ.trails T time (actions ++ [(name, action)]) =
      (σ.run actions).1.retrace (σ.trails T time actions) (time + actions.length) name action := by
  induction actions generalizing σ T time with
  | nil => rfl
  | cons step actions ih =>
    obtain ⟨n, a⟩ := step
    rw [List.cons_append, trails, ih, run_cons, List.length_cons, Nat.add_right_comm]
    rfl

theorem histories_concat (σ : Session) (H : Histories) (actions : List (String × Action))
    (name : String) (action : Action) :
    σ.histories H (actions ++ [(name, action)]) =
      (σ.run actions).1.record (σ.histories H actions) name action := by
  induction actions generalizing σ H with
  | nil => rfl
  | cons step actions ih =>
    obtain ⟨n, a⟩ := step
    rw [List.cons_append, histories, ih, run_cons]
    rfl

/-! ## Runs from the start -/

section Start

variable {first : UInt64} {actions : List (String × Action)} {tr : Trail}

theorem trailsOf_concat (first : UInt64) (actions : List (String × Action)) (name : String)
    (action : Action) :
    trailsOf first (actions ++ [(name, action)]) =
      ((start first).run actions).1.retrace (trailsOf first actions) actions.length name
        action := by
  have h := trails_concat (start first) (fun _ => none) 0 actions name action
  rwa [Nat.zero_add] at h

theorem history_trailsOf (first : UInt64) (actions : List (String × Action)) (m : String) :
    (trailsOf first actions m).map Trail.history = historiesOf first actions m := by
  induction actions using List.reverseRecOn generalizing m with
  | nil => rfl
  | append_singleton actions step ih =>
    obtain ⟨name, action⟩ := step
    rw [trailsOf_concat, historiesOf, histories_concat, history_retrace, funext ih]
    rfl

theorem exists_trail_of_slot {slot : Slot}
    (hslot : ((start first).run actions).1.slot? m = some slot) :
    ∃ tr, trailsOf first actions m = some tr ∧ slot.script = tr.history.script := by
  obtain ⟨h, hh, hscript⟩ := exists_history_of_run hslot
  rw [← history_trailsOf] at hh
  obtain ⟨tr, htr, rfl⟩ := Option.map_eq_some_iff.1 hh
  exact ⟨tr, htr, hscript.symm⟩

/-- A slot with a trail holds the script with the history on the trail. -/
theorem exists_slot_of_trailsOf (htr : trailsOf first actions m = some tr) :
    ∃ slot, ((start first).run actions).1.slot? m = some slot ∧
      slot.script = tr.history.script := by
  have hhistory : historiesOf first actions m = some tr.history := by
    rw [← history_trailsOf, htr]
    rfl
  have hslot := records_historiesOf first actions m
  rw [hhistory] at hslot
  exact Option.map_eq_some_iff.1 hslot

end Start

end Session

/-! ## What trails tell about the run -/

theorem Call.workflow?_eq_some_iff {c : Call} {w : Workflow} :
    c.workflow? = some w ↔ c = .add (.workflow w) := by
  rcases c with (_ | _ | _ | _ | _ | _ | _ | _) | _ | _ <;> simp [Call.workflow?]

theorem getElem?_append_of_eq_some {α : Type} {l : List α} {i : Nat} {a : α} (h : l[i]? = some a)
    (rest : List α) : (l ++ rest)[i]? = some a := by
  rwa [List.getElem?_append_left (List.getElem?_eq_some_iff.1 h).1]

theorem Session.Issued.append {first : UInt64} {actions : List (String × Action)} {t : Nat}
    {name : String} {w : Workflow} {id : WorkflowId} (h : Issued first actions t name w id)
    (rest : List (String × Action)) : Issued first (actions ++ rest) t name w id := by
  obtain ⟨idName, s, haction, hanswer⟩ := h
  refine ⟨idName, s, getElem?_append_of_eq_some haction rest, ?_⟩
  rw [run_append]
  exact getElem?_append_of_eq_some hanswer _

namespace Trail

open Session

variable {first : UInt64} {actions : List (String × Action)} {tr tr' : Trail}

theorem workflowSteps_extend (tr : Trail) (time : Nat) (c : Call) :
    (tr.extend time c).workflowSteps =
      tr.workflowSteps ++ (c.workflow?.map (time, ·)).toList := by
  unfold workflowSteps extend
  rw [List.filterMap_append]
  cases h : c.workflow? <;> simp [h]

theorem workflows_history (tr : Trail) : tr.history.workflows = tr.workflowSteps.map Prod.snd := by
  simp only [History.workflows, History.arguments, history, workflowSteps, List.filterMap_map,
    List.map_filterMap, Option.map_map]
  exact List.filterMap_congr fun x _ => by cases h : x.2.workflow? <;> simp [h]

theorem mem_workflowSteps_iff {t : Nat} {w : Workflow} :
    (t, w) ∈ tr.workflowSteps ↔ (t, Call.add (.workflow w)) ∈ tr.steps := by
  simp only [workflowSteps, List.mem_filterMap, Prod.exists, Option.map_eq_some_iff,
    Call.workflow?_eq_some_iff, Prod.mk.injEq]
  constructor
  · rintro ⟨_, _, hx, _, rfl, rfl, rfl⟩
    exact hx
  · exact fun hx => ⟨_, _, hx, _, rfl, rfl, rfl⟩

/-- The id that the next added workflow gets. -/
theorem nextId_history (tr : Trail) :
    tr.history.script.nextId = ⟨tr.identity, tr.workflowSteps.length⟩ := by
  rw [Script.nextId, History.identity_script, History.workflows_script, workflows_history,
    List.length_map]
  rfl

theorem IsSound.append (h : tr.IsSound first actions) (rest : List (String × Action)) :
    tr.IsSound first (actions ++ rest) where
  created := by
    obtain ⟨name, hname⟩ := h.created
    exact ⟨name, getElem?_append_of_eq_some hname rest⟩
  identity := by
    obtain ⟨name, hname⟩ := h.created
    have hlt := (List.getElem?_eq_some_iff.1 hname).1
    rw [List.take_append_of_le_length (Nat.le_of_lt hlt), h.identity]
  lt_length := fun x hx => by
    rw [List.length_append]
    exact Nat.lt_add_right _ (h.lt_length x hx)
  ordered := h.ordered
  issued := fun i t w hi => by
    obtain ⟨name, hname⟩ := h.issued i t w hi
    exact ⟨name, hname.append rest⟩

theorem isSound_of_create (first : UInt64) (actions : List (String × Action)) (name : String)
    (host : HostModule) :
    IsSound ⟨actions.length, ((start first).run actions).1.nextIdentity, host, []⟩ first
      (actions ++ [(name, .create host)]) where
  created := ⟨name, List.getElem?_concat_length⟩
  identity := by
    rw [List.take_left, nextIdentity_run]
    rfl
  lt_length := nofun
  ordered := .nil
  issued := nofun

theorem IsSound.extend (h : tr.IsSound first actions) {name : String} {action : Action} {c : Call}
    (htr : trailsOf first actions name = some tr)
    (hc : ((start first).run actions).1.call? action = some c)
    (haction : ¬ ((start first).run actions).1.Refuses name action) :
    (tr.extend actions.length c).IsSound first (actions ++ [(name, action)]) where
  created := (h.append _).created
  identity := (h.append _).identity
  lt_length := fun x hx => by
    rw [List.length_append, List.length_singleton, Nat.lt_succ_iff]
    rcases List.mem_append.1 hx with hx | hx
    · exact Nat.le_of_lt (h.lt_length x hx)
    · obtain rfl := List.mem_singleton.1 hx
      exact Nat.le_refl _
  ordered := by
    rw [Trail.extend, List.map_append, List.pairwise_append]
    refine ⟨h.ordered, List.pairwise_singleton _ _, fun t ht t' ht' => ?_⟩
    obtain ⟨x, hx, rfl⟩ := List.mem_map.1 ht
    rw [List.mem_singleton.1 ht']
    exact h.lt_length x hx
  issued := fun i t w hi => by
    rw [workflowSteps_extend, List.getElem?_append] at hi
    split at hi
    · exact (h.append _).issued i t w hi
    · next hi' =>
      obtain ⟨hlt, hget⟩ := List.getElem?_eq_some_iff.1 hi
      obtain ⟨w', hw', hpair⟩ := Option.map_eq_some_iff.1
        (Option.mem_toList.1 (List.mem_of_getElem? hi))
      obtain ⟨rfl, rfl⟩ := Prod.mk.inj hpair
      rw [Call.workflow?_eq_some_iff.1 hw'] at hc
      obtain ⟨idName, rfl⟩ := call?_eq_some_workflow hc
      obtain ⟨s, hslot, hanswer⟩ := perform_add_workflow haction
      -- The step is the last one, so its ordinal is the number of the workflows before it.
      have hi : i = tr.workflowSteps.length := by
        rw [hw', Option.map_some, Option.toList_some, List.length_singleton] at hlt
        omega
      have hs : s = tr.history.script := by
        obtain ⟨slot, hslot', hscript⟩ := exists_slot_of_trailsOf htr
        rw [hslot] at hslot'
        rw [← hscript, ← Option.some.inj hslot']
        rfl
      refine ⟨name, idName, s.addWorkflow w', List.getElem?_concat_length, ?_⟩
      rw [run_concat, hanswer, hs, nextId_history, ← hi, ← length_run (start first) actions]
      exact List.getElem?_concat_length

theorem isSound_trailsOf {m : String} (htr : trailsOf first actions m = some tr) :
    tr.IsSound first actions := by
  induction actions using List.reverseRecOn generalizing m tr with
  | nil => cases htr
  | append_singleton actions step ih =>
    obtain ⟨name, action⟩ := step
    rw [trailsOf_concat] at htr
    rcases retrace_cases htr with ⟨hm, -⟩ |
      ⟨hdone, ⟨host, rfl, -, rfl⟩ | ⟨-, hname⟩ | ⟨tr₀, c, -, hname, hc, rfl⟩⟩
    · exact (ih hm).append _
    · exact isSound_of_create first actions name host
    · exact (ih hname).append _
    · exact (ih hname).extend hname hc hdone

/-! ## Identities -/

theorem creations_take_lt {i j : Nat} {name : String} {host : HostModule}
    (hi : actions[i]? = some (name, .create host)) (hij : i < j) :
    creations (actions.take i) < creations (actions.take j) := by
  obtain ⟨hlt, hget⟩ := List.getElem?_eq_some_iff.1 hi
  have hnext : creations (actions.take (i + 1)) = creations (actions.take i) + 1 := by
    rw [List.take_succ_eq_append_getElem hlt, hget]
    simp [creations, List.countP_append, Action.isCreate]
  have hmono : creations (actions.take (i + 1)) ≤ creations (actions.take j) :=
    (List.take_sublist_take_left hij).countP_le
  omega

/-- Creating actions at different times hand out different identities. -/
theorem IsSound.identity_ne (h : tr.IsSound first actions) (h' : tr'.IsSound first actions)
    (hfew : creations actions < UInt64.size) (hlt : tr.created < tr'.created) :
    tr.identity ≠ tr'.identity := by
  intro heq
  obtain ⟨name, hname⟩ := h.created
  have hcount := creations_take_lt hname hlt
  have hle : creations (actions.take tr'.created) ≤ creations actions :=
    (List.take_sublist _ _).countP_le
  rw [h.identity, h'.identity, UInt64.add_right_inj] at heq
  have hnat := congrArg UInt64.toNat heq
  rw [UInt64.toNat_ofNat_of_lt' (by omega), UInt64.toNat_ofNat_of_lt' (by omega)] at hnat
  omega

/-- Scripts share their identity if and only if one action created them. -/
theorem IsSound.identity_eq_iff (h : tr.IsSound first actions) (h' : tr'.IsSound first actions)
    (hfew : creations actions < UInt64.size) :
    tr.identity = tr'.identity ↔ tr.created = tr'.created := by
  constructor
  · intro heq
    rcases Nat.lt_trichotomy tr.created tr'.created with hlt | hcreated | hlt
    · exact absurd heq (h.identity_ne h' hfew hlt)
    · exact hcreated
    · exact absurd heq.symm (h'.identity_ne h hfew hlt)
  · intro hcreated
    rw [h.identity, h'.identity, hcreated]

end Trail

end WorkflowOutline
