import Mathlib.Data.List.Perm.Basic
import WorkflowOutline.Script.Canonical

/-!
# What the canonical listing shows

`Script.declarations` shows every stored unit of a script exactly once, and nothing else, in every
state of the script. A `Position` says where a unit is stored, and
`Script.tagged` is the listing together with the position that each element shows: `mem_tagged_iff`
says which declaration shows which position, and `isOrdered_tagged` that the elements stand in the
order of their categories and, within one category, in the order of storage. `Script.IsTagging`
collects these laws, so that nothing has to be read off the construction of `Script.tagged`.

The workflows other than the entry are the list of workflows with one member erased
(`workflowsExcept_some`), and `declarations_eq_append` isolates the entry in the listing.
-/

namespace WorkflowOutline

/-- The unit that a declaration shows; the entry is a workflow. -/
def Declaration.item : Declaration → Item
  | featureFlag f => .featureFlag f
  | inclusion i => .inclusion i
  | param p => .param p
  | entry w => .workflow w
  | outputs b => .outputs b
  | workflow w => .workflow w
  | process p => .process p
  | function f => .function f
  | enum c => .hostClass c

/-- Where a unit is stored: its category and its ordinal in the list of that category. -/
inductive Position where
  | featureFlag (i : Nat)
  | inclusion (i : Nat)
  | param (i : Nat)
  | outputs
  | workflow (i : Nat)
  | process (i : Nat)
  | function (i : Nat)
  | enum (i : Nat)
deriving DecidableEq, Repr

namespace Position

/-- The ordinal within the category; there is only one output block. -/
def ordinal : Position → Nat
  | featureFlag i => i
  | inclusion i => i
  | param i => i
  | outputs => 0
  | workflow i => i
  | process i => i
  | function i => i
  | enum i => i

end Position

/-- Of two tagged declarations, the category decides which comes first, and then the ordinal. -/
def Precedes (a b : Position × Declaration) : Prop :=
  a.2.precedence < b.2.precedence ∨
    a.2.precedence = b.2.precedence ∧ a.1.ordinal < b.1.ordinal

namespace Script

/-- The unit that is stored at a position, if the script has that many. -/
def item? (s : Script) : Position → Option Item
  | .featureFlag i => s.featureFlags[i]?.map .featureFlag
  | .inclusion i => s.includes[i]?.map .inclusion
  | .param i => s.params[i]?.map .param
  | .outputs => s.outputs.map .outputs
  | .workflow i => s.workflows[i]?.map .workflow
  | .process i => s.processes[i]?.map .process
  | .function i => s.functions[i]?.map .function
  | .enum i => s.enums[i]?.map .hostClass

/-- A tagging of the listing gives each of its elements the position that it shows. -/
structure IsTagging (s : Script) (tagged : List (Position × Declaration)) : Prop where
  /-- Without the tags it is the listing. -/
  listing : tagged.map Prod.snd = s.declarations
  /-- Every element shows the unit that is stored at its position. -/
  stored : ∀ x ∈ tagged, s.item? x.1 = some x.2.item
  /-- Every stored unit is shown. -/
  complete : ∀ p, (s.item? p).isSome → p ∈ tagged.map Prod.fst
  /-- No position is shown twice. -/
  nodup : (tagged.map Prod.fst).Nodup
  /-- An element is the entry if and only if the entry id is one of this script's and names it. -/
  isEntry_iff : ∀ x ∈ tagged,
    x.2.isEntry ↔ ∃ id, s.entryId = some id ∧ s.owns id ∧ x.1 = .workflow id.index
  /-- Categories keep their precedence, and units of one category the order of storage. -/
  ordered : tagged.Pairwise Precedes

variable {s : Script}

/-! ## The entry among the workflows -/

theorem entry?_eq_some_iff {w : Workflow} :
    s.entry? = some w ↔ ∃ i, s.entryIndex? = some i ∧ s.workflows[i]? = some w := by
  unfold entry? entryIndex? workflow?
  cases s.entryId with
  | none => simp
  | some id => simp only [Option.bind_some, Option.bind_eq_some_iff]

theorem entryIndex?_lt {i : Nat} (h : s.entryIndex? = some i) : i < s.workflows.length :=
  (entryIndex?_eq_some_iff.1 h).2

theorem entry?_of_entryIndex? {i : Nat} (h : s.entryIndex? = some i) :
    s.entry? = s.workflows[i]? := by
  ext w
  simp only [entry?_eq_some_iff, h, Option.some.injEq, exists_eq_left']

theorem entry?_eq_none_iff : s.entry? = none ↔ s.entryIndex? = none := by
  rcases h : s.entryIndex? with _ | i
  · refine iff_of_true (Option.eq_none_iff_forall_ne_some.2 fun w hw => ?_) rfl
    obtain ⟨i, hi, -⟩ := entry?_eq_some_iff.1 hw
    rw [h] at hi
    cases hi
  · refine iff_of_false (fun hnone => ?_) (by simp)
    rw [entry?_of_entryIndex? h, List.getElem?_eq_none_iff] at hnone
    exact absurd (entryIndex?_lt h) (Nat.not_lt.2 hnone)

theorem entry?_congr {t : Script} (hindex : t.entryIndex? = s.entryIndex?)
    (hworkflows : s.workflows <+: t.workflows) : t.entry? = s.entry? := by
  rcases hi : s.entryIndex? with _ | i
  · rw [entry?_eq_none_iff.2 hi, entry?_eq_none_iff, hindex, hi]
  · obtain ⟨rest, hrest⟩ := hworkflows
    rw [entry?_of_entryIndex? hi, entry?_of_entryIndex? (hindex.trans hi), ← hrest,
      List.getElem?_append_left (entryIndex?_lt hi)]

/-- Leaving out the member with one ordinal, where the ordinals are counted from `k`. -/
theorem map_fst_filter_zipIdx {α : Type} (l : List α) (i k : Nat) :
    ((l.zipIdx k).filter fun p => some p.2 != some (k + i)).map Prod.fst = l.eraseIdx i := by
  induction l generalizing i k with
  | nil => rfl
  | cons a l ih =>
    rw [List.zipIdx_cons, List.filter_cons]
    cases i with
    | zero =>
      have hk : ((l.zipIdx (k + 1)).filter fun p => some p.2 != some (k + 0)) =
          l.zipIdx (k + 1) := by
        rw [List.filter_eq_self]
        intro p hp
        have := List.le_snd_of_mem_zipIdx hp
        simp only [bne_iff_ne, ne_eq, Option.some.injEq]
        omega
      rw [hk]
      simp
    | succ i =>
      have hk : (some k != some (k + (i + 1))) = true := by
        simp only [bne_iff_ne, ne_eq, Option.some.injEq]
        omega
      rw [if_pos hk, List.map_cons, List.eraseIdx_cons_succ, ← ih i (k + 1)]
      simp only [Nat.add_assoc, Nat.add_comm 1 i]

theorem workflowsExcept_none (s : Script) : s.workflowsExcept none = s.workflows := by
  unfold workflowsExcept
  rw [List.filter_eq_self.2 (by simp), List.zipIdx_map_fst]

theorem workflowsExcept_some (s : Script) (i : Nat) :
    s.workflowsExcept (some i) = s.workflows.eraseIdx i := by
  have h := map_fst_filter_zipIdx s.workflows i 0
  rwa [Nat.zero_add] at h

theorem workflowsExcept_entryIndex? (s : Script) :
    s.workflowsExcept s.entryIndex? =
      match s.entryId with
      | none => s.workflows
      | some id =>
          if id.script = s.identity then s.workflows.eraseIdx id.index else s.workflows := by
  rcases hid : s.entryId with _ | id
  · have h : s.entryIndex? = none := by simp [entryIndex?, hid]
    rw [h, workflowsExcept_none]
  · have h : s.entryIndex? = s.ownedIndex? id := by simp [entryIndex?, hid]
    rw [h]
    simp only [ownedIndex?, owns_iff]
    by_cases howns : id.script = s.identity
    · by_cases hlt : id.index < s.workflows.length
      · rw [if_pos ⟨howns, hlt⟩, workflowsExcept_some, if_pos howns]
      · rw [if_neg fun h => hlt h.2, workflowsExcept_none, if_pos howns,
          List.eraseIdx_of_length_le (by omega)]
    · rw [if_neg fun h => howns h.1, workflowsExcept_none, if_neg howns]

theorem mem_workflowsExcept_iff {entry : Option Nat} {w : Workflow} :
    w ∈ s.workflowsExcept entry ↔ ∃ i, s.workflows[i]? = some w ∧ entry ≠ some i := by
  simp only [workflowsExcept, List.mem_map, List.mem_filter, List.mem_zipIdx_iff_getElem?,
    bne_iff_ne, Prod.exists]
  constructor
  · rintro ⟨_, i, ⟨hi, hne⟩, rfl⟩
    exact ⟨i, hi, hne.symm⟩
  · rintro ⟨i, hi, hne⟩
    exact ⟨w, i, ⟨hi, hne.symm⟩, rfl⟩

/-- The workflows are the entry, if there is one, and the others. -/
theorem perm_workflows (s : Script) :
    s.workflows.Perm (s.entry?.toList ++ s.workflowsExcept s.entryIndex?) := by
  rcases h : s.entryIndex? with _ | i
  · rw [entry?_eq_none_iff.2 h, workflowsExcept_none]
    exact .refl _
  · have hi := entryIndex?_lt h
    rw [entry?_of_entryIndex? h, List.getElem?_eq_getElem hi, workflowsExcept_some]
    exact (List.getElem_cons_eraseIdx_perm hi).symm

theorem length_entry?_add_length_workflowsExcept (s : Script) :
    s.entry?.toList.length + (s.workflowsExcept s.entryIndex?).length = s.workflows.length := by
  rw [← List.length_append]
  exact s.perm_workflows.length_eq.symm

/-! ## The position of the entry in the listing -/

/-- What the listing shows ahead of the entry. -/
def declarationsBeforeEntry (s : Script) : List Declaration :=
  s.featureFlags.map .featureFlag ++ s.includes.map .inclusion ++ s.params.map .param

/-- What the listing shows behind the entry. -/
def declarationsAfterEntry (s : Script) : List Declaration :=
  (s.outputs.map .outputs).toList
    ++ (s.workflowsExcept s.entryIndex?).map .workflow
    ++ s.processes.map .process
    ++ s.functions.map .function
    ++ s.enums.map .enum

theorem declarations_eq_append (s : Script) :
    s.declarations =
      s.declarationsBeforeEntry ++ ((s.entry?.map .entry).toList ++ s.declarationsAfterEntry) := by
  simp only [declarations, declarationsBeforeEntry, declarationsAfterEntry, List.append_assoc]

theorem length_declarationsBeforeEntry (s : Script) :
    s.declarationsBeforeEntry.length =
      s.featureFlags.length + s.includes.length + s.params.length := by
  simp only [declarationsBeforeEntry, List.length_append, List.length_map]

theorem isEntry_of_mem_declarationsBeforeEntry {d : Declaration}
    (h : d ∈ s.declarationsBeforeEntry) : d.isEntry = false := by
  simp only [declarationsBeforeEntry, List.mem_append, List.mem_map] at h
  rcases h with (⟨_, -, rfl⟩ | ⟨_, -, rfl⟩) | ⟨_, -, rfl⟩ <;> rfl

theorem isEntry_of_mem_declarationsAfterEntry {d : Declaration}
    (h : d ∈ s.declarationsAfterEntry) : d.isEntry = false := by
  simp only [declarationsAfterEntry, List.mem_append, List.mem_map, Option.mem_toList,
    Option.map_eq_some_iff] at h
  rcases h with (((⟨_, -, rfl⟩ | ⟨_, -, rfl⟩) | ⟨_, -, rfl⟩) | ⟨_, -, rfl⟩) | ⟨_, -, rfl⟩ <;> rfl

/-- The listing shows the entry if there is one, and no other element is an entry. -/
theorem filter_isEntry_declarations (s : Script) :
    s.declarations.filter Declaration.isEntry = (s.entry?.map .entry).toList := by
  have hbefore : s.declarationsBeforeEntry.filter Declaration.isEntry = [] :=
    List.filter_eq_nil_iff.2 fun _ hd => by simp [isEntry_of_mem_declarationsBeforeEntry hd]
  have hafter : s.declarationsAfterEntry.filter Declaration.isEntry = [] :=
    List.filter_eq_nil_iff.2 fun _ hd => by simp [isEntry_of_mem_declarationsAfterEntry hd]
  rw [declarations_eq_append, List.filter_append, List.filter_append, hbefore, hafter,
    List.nil_append, List.append_nil]
  cases s.entry? with
  | none => rfl
  | some w => rfl

/-- An entry stands right behind the parameters, and nowhere else. -/
theorem getElem?_declarations_eq_entry_iff {i : Nat} {w : Workflow} :
    s.declarations[i]? = some (.entry w) ↔
      i = s.featureFlags.length + s.includes.length + s.params.length ∧ s.entry? = some w := by
  have hbefore : ∀ j : Nat, s.declarationsBeforeEntry[j]? ≠ some (Declaration.entry w) := by
    intro j hj
    have := isEntry_of_mem_declarationsBeforeEntry (List.mem_of_getElem? hj)
    cases this
  have hafter : ∀ j : Nat, s.declarationsAfterEntry[j]? ≠ some (Declaration.entry w) := by
    intro j hj
    have := isEntry_of_mem_declarationsAfterEntry (List.mem_of_getElem? hj)
    cases this
  rw [declarations_eq_append, ← length_declarationsBeforeEntry]
  constructor
  · intro h
    rw [List.getElem?_append] at h
    split at h
    · exact absurd h (hbefore i)
    · next hi =>
      rcases he : s.entry? with _ | w'
      · rw [he] at h
        exact absurd h (hafter _)
      · rw [he] at h
        rcases hj : i - s.declarationsBeforeEntry.length with _ | j
        · rw [hj] at h
          have hw : w' = w := by simpa using h
          exact ⟨by omega, by rw [hw]⟩
        · rw [hj] at h
          exact absurd (by simpa using h) (hafter j)
  · rintro ⟨rfl, he⟩
    rw [he, List.getElem?_append_right (Nat.le_refl _), Nat.sub_self]
    rfl

theorem isEnum_of_mem_declarations {c : ClassDef} (h : .enum c ∈ s.declarations) :
    c.isEnum = true := by
  have hc : c ∈ s.enums := by simpa [declarations] using h
  exact (List.mem_filter.1 hc).2

/-! ## The listing with its tags -/

def tag {α : Type} (position : Nat → Position) (shown : α → Declaration) (items : List α) :
    List (Position × Declaration) :=
  items.zipIdx.map fun p => (position p.2, shown p.1)

def taggedEntry? (s : Script) : Option (Position × Declaration) :=
  s.entryIndex?.bind fun i => s.workflows[i]?.map fun w => (.workflow i, .entry w)

def taggedOthers (s : Script) : List (Position × Declaration) :=
  (s.workflows.zipIdx.filter fun p => some p.2 != s.entryIndex?).map fun p =>
    (.workflow p.2, .workflow p.1)

/-- The listing, each element with the position that it shows. -/
def tagged (s : Script) : List (Position × Declaration) :=
  tag .featureFlag .featureFlag s.featureFlags
    ++ tag .inclusion .inclusion s.includes
    ++ tag .param .param s.params
    ++ s.taggedEntry?.toList
    ++ (s.outputs.map fun b => (Position.outputs, Declaration.outputs b)).toList
    ++ s.taggedOthers
    ++ tag .process .process s.processes
    ++ tag .function .function s.functions
    ++ tag .enum .enum s.enums

section Tag

variable {α : Type} {position : Nat → Position} {shown : α → Declaration} {items : List α}

theorem map_snd_tag : (tag position shown items).map Prod.snd = items.map shown := by
  have h : (Prod.snd ∘ fun p : α × Nat => (position p.2, shown p.1)) = shown ∘ Prod.fst := rfl
  rw [tag, List.map_map, h, ← List.map_map, List.zipIdx_map_fst]

theorem mem_tag_iff {p : Position} {d : Declaration} :
    (p, d) ∈ tag position shown items ↔ ∃ i, p = position i ∧ items[i]?.map shown = some d := by
  simp only [tag, List.mem_map, Prod.exists, List.mk_mem_zipIdx_iff_getElem?, Prod.mk.injEq,
    Option.map_eq_some_iff]
  constructor
  · rintro ⟨a, i, ha, rfl, rfl⟩
    exact ⟨i, rfl, a, ha, rfl⟩
  · rintro ⟨i, rfl, a, ha, rfl⟩
    exact ⟨a, i, ha, rfl, rfl⟩

end Tag

theorem map_snd_taggedEntry? (s : Script) :
    s.taggedEntry?.map Prod.snd = s.entry?.map .entry := by
  unfold taggedEntry?
  rcases h : s.entryIndex? with _ | i
  · rw [entry?_eq_none_iff.2 h]
    rfl
  · rw [entry?_of_entryIndex? h, Option.bind_some, Option.map_map]
    rfl

theorem map_snd_tagged (s : Script) : s.tagged.map Prod.snd = s.declarations := by
  have hentry : s.taggedEntry?.toList.map Prod.snd = (s.entry?.map .entry).toList := by
    rw [← map_snd_taggedEntry?]
    cases s.taggedEntry? <;> rfl
  have houtputs : (s.outputs.map fun b => (Position.outputs, Declaration.outputs b)).toList.map
      Prod.snd = (s.outputs.map .outputs).toList := by
    cases s.outputs <;> rfl
  have hothers : s.taggedOthers.map Prod.snd =
      (s.workflowsExcept s.entryIndex?).map .workflow := by
    simp only [taggedOthers, workflowsExcept, List.map_map]
    rfl
  simp only [tagged, declarations, List.map_append, map_snd_tag, hentry, houtputs, hothers]

/-- The declaration that shows a position: a workflow shows as the entry or as an ordinary one. -/
def declarationAt? (s : Script) : Position → Option Declaration
  | .featureFlag i => s.featureFlags[i]?.map .featureFlag
  | .inclusion i => s.includes[i]?.map .inclusion
  | .param i => s.params[i]?.map .param
  | .outputs => s.outputs.map .outputs
  | .workflow i => s.workflows[i]?.map (if s.entryIndex? = some i then .entry else .workflow)
  | .process i => s.processes[i]?.map .process
  | .function i => s.functions[i]?.map .function
  | .enum i => s.enums[i]?.map .enum

theorem taggedEntry?_eq_some_iff {p : Position} {d : Declaration} :
    s.taggedEntry? = some (p, d) ↔
      ∃ i, p = .workflow i ∧ s.entryIndex? = some i ∧ s.workflows[i]?.map .entry = some d := by
  unfold taggedEntry?
  simp only [Option.bind_eq_some_iff, Option.map_eq_some_iff, Prod.mk.injEq]
  constructor
  · rintro ⟨i, hi, w, hw, rfl, rfl⟩
    exact ⟨i, rfl, hi, w, hw, rfl⟩
  · rintro ⟨i, rfl, hi, w, hw, rfl⟩
    exact ⟨i, hi, w, hw, rfl, rfl⟩

theorem mem_taggedOthers_iff {p : Position} {d : Declaration} :
    (p, d) ∈ s.taggedOthers ↔
      ∃ i, p = .workflow i ∧ s.entryIndex? ≠ some i ∧ s.workflows[i]?.map .workflow = some d := by
  simp only [taggedOthers, List.mem_map, List.mem_filter, Prod.exists, Prod.mk.injEq,
    List.mk_mem_zipIdx_iff_getElem?, bne_iff_ne, ne_eq, Option.map_eq_some_iff]
  constructor
  · rintro ⟨w, i, ⟨hw, hi⟩, rfl, rfl⟩
    exact ⟨i, rfl, fun h => hi h.symm, w, hw, rfl⟩
  · rintro ⟨i, rfl, hi, w, hw, rfl⟩
    exact ⟨w, i, ⟨hw, fun h => hi h.symm⟩, rfl, rfl⟩

/-- The tags are right: an element of the listing shows what its position shows. -/
theorem mem_tagged_iff {p : Position} {d : Declaration} :
    (p, d) ∈ s.tagged ↔ s.declarationAt? p = some d := by
  simp only [tagged, List.mem_append, mem_tag_iff, Option.mem_toList, taggedEntry?_eq_some_iff,
    mem_taggedOthers_iff]
  cases p with
  | workflow i =>
    by_cases hi : s.entryIndex? = some i
    · simp [declarationAt?, hi]
    · simp [declarationAt?, hi]
  | _ => simp [declarationAt?]

/-! ## The order of the listing -/

/-- The tagged declarations of one category, whose precedence is `k`, in the order of storage. -/
structure IsBlock (k : Nat) (l : List (Position × Declaration)) : Prop where
  precedence_eq : ∀ x ∈ l, x.2.precedence = k
  increasing : l.Pairwise fun a b => a.1.ordinal < b.1.ordinal

/-- Tagged declarations in order, of categories whose precedence is below `k`. -/
structure IsOrdered (k : Nat) (l : List (Position × Declaration)) : Prop where
  precedence_lt : ∀ x ∈ l, x.2.precedence < k
  ordered : l.Pairwise Precedes

theorem isOrdered_nil : IsOrdered 0 [] := ⟨by simp, .nil⟩

theorem IsOrdered.append {k : Nat} {l l' : List (Position × Declaration)} (h : IsOrdered k l)
    (h' : IsBlock k l') : IsOrdered (k + 1) (l ++ l') := by
  constructor
  · intro x hx
    rcases List.mem_append.1 hx with hx | hx
    · exact Nat.lt_succ_of_lt (h.precedence_lt x hx)
    · rw [h'.precedence_eq x hx]
      exact Nat.lt_succ_self k
  · rw [List.pairwise_append]
    refine ⟨h.ordered, h'.increasing.imp_of_mem fun ha hb hab => ?_, fun a ha b hb => ?_⟩
    · exact Or.inr ⟨by rw [h'.precedence_eq _ ha, h'.precedence_eq _ hb], hab⟩
    · refine Or.inl ?_
      rw [h'.precedence_eq b hb]
      exact h.precedence_lt a ha

theorem pairwise_zipIdx {α : Type} (l : List α) : l.zipIdx.Pairwise fun a b => a.2 < b.2 := by
  have h : (l.zipIdx.map Prod.snd).Pairwise (· < ·) := by
    rw [List.zipIdx_map_snd]
    exact List.pairwise_lt_range'
  exact List.pairwise_map.1 h

theorem isBlock_tag {α : Type} (position : Nat → Position) (shown : α → Declaration) {k : Nat}
    (items : List α) (hposition : ∀ i, (position i).ordinal = i)
    (hshown : ∀ a, (shown a).precedence = k) : IsBlock k (tag position shown items) := by
  constructor
  · intro x hx
    obtain ⟨p, -, rfl⟩ := List.mem_map.1 hx
    exact hshown p.1
  · refine List.pairwise_map.2 ((pairwise_zipIdx items).imp fun h => ?_)
    rw [hposition, hposition]
    exact h

theorem isBlock_toList {k : Nat} {o : Option (Position × Declaration)}
    (h : ∀ x, o = some x → x.2.precedence = k) : IsBlock k o.toList := by
  cases o with
  | none => exact ⟨by simp, .nil⟩
  | some x => exact ⟨by simpa using h x rfl, List.pairwise_singleton _ _⟩

theorem isBlock_taggedOthers (s : Script) : IsBlock 5 s.taggedOthers := by
  constructor
  · intro x hx
    obtain ⟨p, -, rfl⟩ := List.mem_map.1 hx
    rfl
  · exact List.pairwise_map.2 ((pairwise_zipIdx s.workflows).filter _)

theorem isOrdered_tagged (s : Script) : IsOrdered 9 s.tagged := by
  have hentry : IsBlock 3 s.taggedEntry?.toList := by
    refine isBlock_toList fun x hx => ?_
    obtain ⟨i, -, -, hd⟩ := taggedEntry?_eq_some_iff.1 hx
    obtain ⟨w, -, hw⟩ := Option.map_eq_some_iff.1 hd
    rw [← hw]
    rfl
  have houtputs :
      IsBlock 4 (s.outputs.map fun b => (Position.outputs, Declaration.outputs b)).toList := by
    refine isBlock_toList fun x hx => ?_
    obtain ⟨b, -, rfl⟩ := Option.map_eq_some_iff.1 hx
    rfl
  have hflags : IsBlock 0 (tag .featureFlag .featureFlag s.featureFlags) :=
    isBlock_tag _ _ _ (fun _ => rfl) (fun _ => rfl)
  have hincludes : IsBlock 1 (tag .inclusion .inclusion s.includes) :=
    isBlock_tag _ _ _ (fun _ => rfl) (fun _ => rfl)
  have hparams : IsBlock 2 (tag .param .param s.params) :=
    isBlock_tag _ _ _ (fun _ => rfl) (fun _ => rfl)
  have hprocesses : IsBlock 6 (tag .process .process s.processes) :=
    isBlock_tag _ _ _ (fun _ => rfl) (fun _ => rfl)
  have hfunctions : IsBlock 7 (tag .function .function s.functions) :=
    isBlock_tag _ _ _ (fun _ => rfl) (fun _ => rfl)
  have henums : IsBlock 8 (tag .enum .enum s.enums) :=
    isBlock_tag _ _ _ (fun _ => rfl) (fun _ => rfl)
  have hbefore := ((isOrdered_nil.append hflags).append hincludes).append hparams
  have hworkflows := ((hbefore.append hentry).append houtputs).append s.isBlock_taggedOthers
  exact ((hworkflows.append hprocesses).append hfunctions).append henums

/-! ## The laws of the listing -/

theorem item?_of_declarationAt? {p : Position} {d : Declaration} (h : s.declarationAt? p = some d) :
    s.item? p = some d.item := by
  cases p with
  | workflow i =>
    obtain ⟨w, hw, rfl⟩ := Option.map_eq_some_iff.1 h
    simp only [item?, hw, Option.map_some]
    split <;> rfl
  | _ =>
    obtain ⟨a, ha, rfl⟩ := Option.map_eq_some_iff.1 h
    simp only [item?, ha, Option.map_some]
    rfl

theorem isSome_declarationAt? {p : Position} (h : (s.item? p).isSome) :
    (s.declarationAt? p).isSome := by
  cases p <;> simpa [item?, declarationAt?] using h

theorem entryIndex?_eq_some_iff_entryId {i : Nat} (hi : i < s.workflows.length) :
    s.entryIndex? = some i ↔ ∃ id, s.entryId = some id ∧ s.owns id ∧ id.index = i := by
  rw [entryIndex?_eq_some_iff]
  constructor
  · rintro ⟨hid, -⟩
    exact ⟨_, hid, owns_iff.2 rfl, rfl⟩
  · rintro ⟨id, hid, howns, rfl⟩
    rw [← owns_iff.1 howns]
    exact ⟨hid, hi⟩

/-- A workflow shows as the entry if and only if the entry id names it. -/
theorem isEntry_iff_of_declarationAt? {p : Position} {d : Declaration}
    (h : s.declarationAt? p = some d) :
    d.isEntry ↔ ∃ id, s.entryId = some id ∧ s.owns id ∧ p = .workflow id.index := by
  cases p with
  | workflow i =>
    obtain ⟨w, hw, rfl⟩ := Option.map_eq_some_iff.1 h
    have hi := (List.getElem?_eq_some_iff.1 hw).1
    have hentry := entryIndex?_eq_some_iff_entryId hi
    simp only [Position.workflow.injEq, eq_comm (a := i)]
    rw [← hentry]
    split
    · next h => exact iff_of_true rfl h
    · next h => exact iff_of_false (by simp [Declaration.isEntry]) h
  | _ =>
    obtain ⟨a, ha, rfl⟩ := Option.map_eq_some_iff.1 h
    refine iff_of_false (by simp [Declaration.isEntry]) ?_
    rintro ⟨id, -, -, hid⟩
    cases hid

theorem not_precedes_self (x : Position × Declaration) : ¬ Precedes x x := by
  unfold Precedes
  omega

theorem isTagging_tagged (s : Script) : s.IsTagging s.tagged where
  listing := s.map_snd_tagged
  stored x hx := item?_of_declarationAt? (mem_tagged_iff.1 hx)
  complete p hp := by
    obtain ⟨d, hd⟩ := Option.isSome_iff_exists.1 (isSome_declarationAt? hp)
    exact List.mem_map.2 ⟨(p, d), mem_tagged_iff.2 hd, rfl⟩
  nodup := by
    -- Two elements of one position are equal, as the position decides the declaration.
    refine List.pairwise_map.2 (s.isOrdered_tagged.ordered.imp_of_mem ?_)
    rintro ⟨p, d⟩ ⟨q, e⟩ hd he h rfl
    have hde : d = e := Option.some.inj ((mem_tagged_iff.1 hd).symm.trans (mem_tagged_iff.1 he))
    subst hde
    exact not_precedes_self _ h
  isEntry_iff x hx := isEntry_iff_of_declarationAt? (mem_tagged_iff.1 hx)
  ordered := s.isOrdered_tagged.ordered

theorem length_declarations (s : Script) :
    s.declarations.length =
      s.featureFlags.length + s.includes.length + s.params.length + s.workflows.length +
        s.processes.length + s.functions.length + s.enums.length +
        (if s.outputs.isSome then 1 else 0) := by
  have hworkflows := s.length_entry?_add_length_workflowsExcept
  have hentry : (s.entry?.map Declaration.entry).toList.length = s.entry?.toList.length := by
    cases s.entry? <;> rfl
  have houtputs : (s.outputs.map Declaration.outputs).toList.length =
      if s.outputs.isSome then 1 else 0 := by
    cases s.outputs <;> rfl
  simp only [declarations, List.length_append, List.length_map, hentry, houtputs]
  omega

/-- In every state, a script lists each stored unit once, and nothing else, in canonical order; if
the entry id refers to a workflow of the script, that workflow is the one entry of the listing and
stands right behind the parameters, and otherwise there is no entry. -/
theorem declarations_exhaustive (s : Script) :
    (∃ tagged, s.IsTagging tagged) ∧
    s.declarations.length =
      s.featureFlags.length + s.includes.length + s.params.length + s.workflows.length +
        s.processes.length + s.functions.length + s.enums.length +
        (if s.outputs.isSome then 1 else 0) ∧
    s.declarations.filter Declaration.isEntry = (s.entry?.map .entry).toList ∧
    ∀ i w, s.declarations[i]? = some (.entry w) ↔
      i = s.featureFlags.length + s.includes.length + s.params.length ∧ s.entry? = some w :=
  ⟨⟨s.tagged, s.isTagging_tagged⟩, s.length_declarations, s.filter_isEntry_declarations,
    fun _ _ => getElem?_declarations_eq_entry_iff⟩

end Script

end WorkflowOutline
