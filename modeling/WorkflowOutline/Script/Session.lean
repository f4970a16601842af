import WorkflowOutline.Script.Canonical
import WorkflowOutline.Script.Validation

/-!
# Sessions over several scripts

A `Session` holds scripts in named slots, open or sealed, and workflow ids under names of their own.
`Session.perform` carries out one `Action` and gives its `Answer`; `Session.run` carries out a list
of actions.

Every newly created script gets the next value of one identity counter, which all slots share. The
counter has 64 bits and wraps. Copies keep the identity of the script they were made from.
-/

namespace WorkflowOutline

/-! ## Building steps as data -/

/-- One building step of a script. -/
inductive Call where
  | add (item : Item)
  | setEntry (id : WorkflowId)
  | setShebang (line : String)
deriving DecidableEq, Repr

namespace Script

/-- Carries out one building step. -/
def apply (s : Script) : Call → Script
  | .add item => s.add item
  | .setEntry id => s.setEntry id
  | .setShebang line => s.setShebang line

/-- Carries out building steps in order. -/
def applyAll (s : Script) (calls : List Call) : Script := calls.foldl apply s

@[simp] theorem applyAll_nil (s : Script) : s.applyAll [] = s := rfl

@[simp] theorem applyAll_cons (s : Script) (c : Call) (cs : List Call) :
    s.applyAll (c :: cs) = (s.apply c).applyAll cs := rfl

theorem applyAll_append (s : Script) (cs ds : List Call) :
    s.applyAll (cs ++ ds) = (s.applyAll cs).applyAll ds := by
  simp [applyAll, List.foldl_append]

/-- The id issued by a building step, if it adds a workflow. -/
def issued? (s : Script) : Call → Option WorkflowId
  | .add (.workflow _) => some s.nextId
  | _ => none

end Script

/-! ## Slots and names -/

/-- The content of a slot. -/
inductive Slot where
  | building (s : Script)
  | sealed (s : SealedScript)

/-- The script in a slot, sealed or not. -/
def Slot.script : Slot → Script
  | building s => s
  | sealed s => s.script

/-- Named scripts, named ids and the identity that the next created script gets. -/
structure Session where
  nextIdentity : UInt64
  slots : List (String × Slot)
  ids : List (String × WorkflowId)

namespace Session

/-- Nothing is named yet; identities are handed out from the given one on. -/
def start (nextIdentity : UInt64) : Session := ⟨nextIdentity, [], []⟩

/-- The content of a slot. -/
def slot? (σ : Session) (name : String) : Option Slot := σ.slots.lookup name

/-- The id kept under a name. -/
def id? (σ : Session) (name : String) : Option WorkflowId := σ.ids.lookup name

/-- Fills a slot, whatever it held. -/
def setSlot (σ : Session) (name : String) (slot : Slot) : Session :=
  { σ with slots := (name, slot) :: σ.slots.filter (·.1 != name) }

/-- Empties a slot. -/
def clearSlot (σ : Session) (name : String) : Session :=
  { σ with slots := σ.slots.filter (·.1 != name) }

/-- Keeps an id under a name, whatever the name meant before. -/
def setId (σ : Session) (name : String) (id : WorkflowId) : Session :=
  { σ with ids := (name, id) :: σ.ids.filter (·.1 != name) }

/-- Puts a newly created script around a host module into a slot. -/
def create (σ : Session) (name : String) (host : HostModule) : Session :=
  { σ.setSlot name (.building (.ofModule σ.nextIdentity host)) with
    nextIdentity := σ.nextIdentity + 1 }

end Session

/-! ## Actions and answers -/

/-- What can be done with the script in a slot. -/
inductive Action where
  | create (host : HostModule)
  | copy (target : String)
  | add (item : Item) (idName : Option String)
  | setEntry (idName : String)
  | setShebang (line : String)
  | owns (idName : String)
  | workflow (idName : String)
  | declarations
  | dump
  | validate
  | diagnostics (fileId : Nat)
  | finalize
  | unseal

/-- Why an action was not carried out. -/
inductive Refusal where
  | noScript
  | noId
  | alreadySealed
  | notSealed
deriving DecidableEq, Repr

/-- The answer to an action. -/
inductive Answer where
  | state (s : Script)
  | issued (id : WorkflowId) (s : Script)
  | owned (isOwned : Bool)
  | workflow (w : Option Workflow)
  | declarations (ds : List Declaration)
  | dump (s : Script)
  | errors (es : List ValidationError)
  | diagnostics (ds : List Diagnostic)
  | accepted (s : Script)
  | rejected (es : List ValidationError)
  | refused (r : Refusal)
deriving DecidableEq

namespace Session

/-- Asks a question about the script in a slot. -/
def query (σ : Session) (name : String) (answer : Script → Answer) : Session × Answer :=
  match σ.slot? name with
  | none => (σ, .refused .noScript)
  | some slot => (σ, answer slot.script)

/-- Takes a building step on the open script in a slot; a sealed one stays as it is. -/
def build (σ : Session) (name : String) (call : Call) (idName : Option String) :
    Session × Answer :=
  match σ.slot? name with
  | none => (σ, .refused .noScript)
  | some (.sealed _) => (σ, .refused .alreadySealed)
  | some (.building s) =>
      let σ' := σ.setSlot name (.building (s.apply call))
      match s.issued? call with
      | none => (σ', .state (s.apply call))
      | some id =>
          (match idName with
            | none => σ'
            | some n => σ'.setId n id,
          .issued id (s.apply call))

/-- Carries out one action on a slot. -/
def perform (σ : Session) (name : String) : Action → Session × Answer
  | .create host => (σ.create name host, .state (.ofModule σ.nextIdentity host))
  | .copy target =>
      match σ.slot? name with
      | none => (σ, .refused .noScript)
      | some slot => (σ.setSlot target slot, .state slot.script)
  | .add item idName => σ.build name (.add item) idName
  | .setEntry idName =>
      match σ.id? idName with
      | none => (σ, .refused .noId)
      | some id => σ.build name (.setEntry id) none
  | .setShebang line => σ.build name (.setShebang line) none
  | .owns idName =>
      σ.query name fun s =>
        match σ.id? idName with
        | none => .refused .noId
        | some id => .owned (s.owns id)
  | .workflow idName =>
      σ.query name fun s =>
        match σ.id? idName with
        | none => .refused .noId
        | some id => .workflow (s.workflow? id)
  | .declarations => σ.query name fun s => .declarations s.declarations
  | .dump => σ.query name .dump
  | .validate => σ.query name fun s => .errors s.validate
  | .diagnostics fileId =>
      σ.query name fun s => .diagnostics (s.validate.map (·.toDiagnostic fileId))
  | .finalize =>
      match σ.slot? name with
      | none => (σ, .refused .noScript)
      | some (.sealed _) => (σ, .refused .alreadySealed)
      | some (.building s) =>
          match s.finalize with
          | .ok sealed => (σ.setSlot name (.sealed sealed), .accepted sealed.script)
          | .error es => (σ.clearSlot name, .rejected es)
  | .unseal =>
      match σ.slot? name with
      | none => (σ, .refused .noScript)
      | some (.building _) => (σ, .refused .notSealed)
      | some (.sealed s) => (σ.setSlot name (.building s.unseal), .state s.unseal)

/-- Carries out actions in order and collects their answers. -/
def run (σ : Session) : List (String × Action) → Session × List Answer
  | [] => (σ, [])
  | (name, action) :: rest =>
      let (σ₁, answer) := σ.perform name action
      let (σ₂, answers) := σ₁.run rest
      (σ₂, answer :: answers)

@[simp] theorem run_nil (σ : Session) : σ.run [] = (σ, []) := rfl

theorem run_cons (σ : Session) (name : String) (action : Action)
    (rest : List (String × Action)) :
    σ.run ((name, action) :: rest) =
      (((σ.perform name action).1.run rest).1,
        (σ.perform name action).2 :: ((σ.perform name action).1.run rest).2) := rfl

end Session

end WorkflowOutline
