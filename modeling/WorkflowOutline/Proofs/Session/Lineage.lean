import WorkflowOutline.Proofs.Session.Trails

/-!
# Lineages

`Descends` says of two scripts at two moments of a run that one comes from the other: a script stays
in its slot, whatever is done with it, until another script is put there, and a copy comes from the
script that was copied.

Trails tell lineages and nothing else. A script takes its trail along (`Descends.exists_trail`), and
whatever has its time on the trail of a script was done to a script that it comes from
(`descends_of_mem_times`). So the creation on the trail is the one that the script comes from
(`createdAt_iff`), and the workflows on the trail are those that were added in its lineage
(`Issued.mem_workflowSteps_iff`).
-/

namespace WorkflowOutline

/-- When the script was created and built on. -/
def Trail.times (tr : Trail) : List Nat := tr.created :: tr.steps.map Prod.fst

namespace Session

/-- If there is a script in the slot after the actions, it comes from the one that was in the named
slot after the `origin`. -/
inductive Descends (first : UInt64) (origin : List (String × Action)) (name : String) :
    List (String × Action) → String → Prop where
  | here : Descends first origin name origin name
  | stays {actions : List (String × Action)} {m n : String} {action : Action} :
      Descends first origin name actions m →
      (action.target? n = some m → ((start first).run actions).1.Refuses n action) →
      Descends first origin name (actions ++ [(n, action)]) m
  | copied {actions : List (String × Action)} {m target : String} :
      Descends first origin name actions m →
      ¬ ((start first).run actions).1.Refuses m (.copy target) →
      Descends first origin name (actions ++ [(m, .copy target)]) target

/-- The script in the slot comes from the one that the action at the given time creates. -/
def CreatedAt (first : UInt64) (actions : List (String × Action)) (m : String) (t : Nat) : Prop :=
  ∃ name host, actions[t]? = some (name, .create host) ∧
    Descends first (actions.take (t + 1)) name actions m

variable {first : UInt64} {origin actions : List (String × Action)} {name m : String}
  {action : Action} {t : Nat} {tr : Trail}

/-! ## Trails along lineages -/

/-- The trail of a script begins with the trail of the script that it comes from. -/
theorem Descends.exists_trail (h : Descends first origin name actions m)
    (htr : trailsOf first actions m = some tr) :
    ∃ tr₀ later, trailsOf first origin name = some tr₀ ∧
      tr = { tr₀ with steps := tr₀.steps ++ later } := by
  induction h generalizing tr with
  | here => exact ⟨tr, [], htr, by rw [List.append_nil]⟩
  | stays _ hkeep ih =>
    rw [trailsOf_concat] at htr
    rcases retrace_cases htr with ⟨hm, -⟩ |
      ⟨hdone, ⟨host, rfl, rfl, -⟩ | ⟨rfl, -⟩ | ⟨tr₁, c, rfl, htr₁, -, rfl⟩⟩
    · exact ih hm
    · exact absurd (hkeep rfl) hdone
    · exact absurd (hkeep rfl) hdone
    · obtain ⟨tr₀, later, htr₀, rfl⟩ := ih htr₁
      exact ⟨tr₀, later ++ [(_, c)], htr₀, by rw [Trail.extend, List.append_assoc]⟩
  | copied _ hdone ih =>
    rw [trailsOf_concat] at htr
    rcases retrace_cases htr with ⟨-, hkeep⟩ |
      ⟨-, ⟨host, hcreate, -, -⟩ | ⟨-, hm⟩ | ⟨tr₁, c, -, -, hcall, -⟩⟩
    · exact absurd (hkeep rfl) hdone
    · cases hcreate
    · exact ih hm
    · cases hcall

/-- The trails after the action at the given time. -/
theorem trailsOf_take_succ (h : actions[t]? = some (name, action)) :
    trailsOf first (actions.take (t + 1)) =
      ((start first).run (actions.take t)).1.retrace (trailsOf first (actions.take t)) t name
        action := by
  have htake : actions.take (t + 1) = actions.take t ++ [(name, action)] := by
    rw [List.take_add_one, h]
    rfl
  have hlength : (actions.take t).length = t :=
    List.length_take_of_le (Nat.le_of_lt (List.getElem?_eq_some_iff.1 h).1)
  rw [htake, trailsOf_concat, hlength]

theorem descends_last (first : UInt64) (actions : List (String × Action))
    (step : String × Action) (m : String) :
    Descends first ((actions ++ [step]).take (actions.length + 1)) m (actions ++ [step]) m := by
  rw [List.take_of_length_le (by simp)]
  exact .here

/-- What was done at a time before the last action. -/
theorem exists_descends_concat {step : String × Action} (h : actions[t]? = some (name, action))
    (hd : Descends first (actions.take (t + 1)) name (actions ++ [step]) m) :
    ∃ name action, (actions ++ [step])[t]? = some (name, action) ∧
      Descends first ((actions ++ [step]).take (t + 1)) name (actions ++ [step]) m := by
  refine ⟨name, action, getElem?_append_of_eq_some h _, ?_⟩
  rwa [List.take_append_of_le_length (List.getElem?_eq_some_iff.1 h).1]

/-- What is done at a time on the trail of a script is done to a script that it comes from. -/
theorem descends_of_mem_times (htr : trailsOf first actions m = some tr) (ht : t ∈ tr.times) :
    ∃ name action, actions[t]? = some (name, action) ∧
      Descends first (actions.take (t + 1)) name actions m := by
  induction actions using List.reverseRecOn generalizing m tr with
  | nil => cases htr
  | append_singleton actions step ih =>
    obtain ⟨n, action⟩ := step
    rw [trailsOf_concat] at htr
    rcases retrace_cases htr with ⟨hm, hkeep⟩ |
      ⟨hdone, ⟨host, rfl, rfl, rfl⟩ | ⟨rfl, hn⟩ | ⟨tr₀, c, rfl, htr₀, hcall, rfl⟩⟩
    · obtain ⟨name, a, ha, hd⟩ := ih hm ht
      exact exists_descends_concat ha (hd.stays hkeep)
    · obtain rfl : t = actions.length := List.mem_singleton.1 ht
      exact ⟨m, _, List.getElem?_concat_length, descends_last ..⟩
    · obtain ⟨name, a, ha, hd⟩ := ih hn ht
      exact exists_descends_concat ha (hd.copied hdone)
    · have ht : t ∈ tr₀.times ∨ t = actions.length := by
        simpa [Trail.times, Trail.extend, or_assoc] using ht
      rcases ht with ht | rfl
      · obtain ⟨name, a, ha, hd⟩ := ih htr₀ ht
        refine exists_descends_concat ha (hd.stays fun htarget => ?_)
        rw [target?_eq_none_of_call? hcall] at htarget
        cases htarget
      · exact ⟨m, _, List.getElem?_concat_length, descends_last ..⟩

/-! ## Creations -/

/-- A script comes from one creation, the one on its trail. -/
theorem createdAt_iff (htr : trailsOf first actions m = some tr) :
    CreatedAt first actions m t ↔ tr.created = t := by
  constructor
  · rintro ⟨name, host, haction, hd⟩
    obtain ⟨tr₀, later, htr₀, rfl⟩ := hd.exists_trail htr
    rw [trailsOf_take_succ haction] at htr₀
    have hnew : some ⟨t, ((start first).run (actions.take t)).1.nextIdentity, host, []⟩ =
        some tr₀ := by
      rw [← htr₀]
      exact (Function.update_self name _ (trailsOf first (actions.take t))).symm
    rw [← Option.some.inj hnew]
  · rintro rfl
    obtain ⟨name, action, haction, hd⟩ := descends_of_mem_times htr List.mem_cons_self
    obtain ⟨name', hcreate⟩ := (Trail.isSound_trailsOf htr).created
    obtain ⟨rfl, rfl⟩ := Prod.mk.inj (Option.some.inj (haction.symm.trans hcreate))
    exact ⟨name, _, haction, hd⟩

/-! ## Added workflows -/

section Issued

variable {w : Workflow} {id : WorkflowId}

/-- Only one id is issued at a time. -/
theorem Issued.unique {name' : String} {w' : Workflow} {id' : WorkflowId}
    (h : Issued first actions t name w id) (h' : Issued first actions t name' w' id') :
    name' = name ∧ w' = w ∧ id' = id := by
  obtain ⟨idName, s, haction, hanswer⟩ := h
  obtain ⟨idName', s', haction', hanswer'⟩ := h'
  rw [haction'] at haction
  rw [hanswer'] at hanswer
  cases haction
  cases hanswer
  exact ⟨rfl, rfl, rfl⟩

/-- The script that issues an id has a trail, which goes one step further. -/
theorem Issued.exists_trail (h : Issued first actions t name w id) :
    ∃ tr, trailsOf first (actions.take t) name = some tr ∧
      id = ⟨tr.identity, tr.workflowSteps.length⟩ ∧
      trailsOf first (actions.take (t + 1)) name = some (tr.extend t (.add (.workflow w))) := by
  obtain ⟨idName, s', haction, hanswer⟩ := h
  rw [getElem?_run _ haction] at hanswer
  have hnow := Option.some.inj hanswer
  have hdone : ¬ ((start first).run (actions.take t)).1.Refuses name
      (.add (.workflow w) idName) := fun ⟨r, hr⟩ => by
    rw [hnow] at hr
    cases hr
  obtain ⟨s, hslot, hissued⟩ := perform_add_workflow hdone
  obtain ⟨tr, htr, hs⟩ := exists_trail_of_slot hslot
  refine ⟨tr, htr, ?_, ?_⟩
  · have hid : id = s.nextId := (Answer.issued.inj (hnow.symm.trans hissued)).1
    have hscript : s = tr.history.script := hs
    rw [hid, hscript, Trail.nextId_history]
  · rw [trailsOf_take_succ haction]
    unfold retrace
    rw [hnow]
    simp only [advance, call?]
    rw [Function.update_self, htr]
    rfl

/-- A workflow is on the trail of the scripts that come from the one it was added to, and of no
others. -/
theorem Issued.mem_workflowSteps_iff (h : Issued first actions t name w id)
    (htr : trailsOf first actions m = some tr) :
    (t, w) ∈ tr.workflowSteps ↔ Descends first (actions.take (t + 1)) name actions m := by
  constructor
  · intro hmem
    have ht : t ∈ tr.times :=
      List.mem_cons_of_mem _ (List.mem_map_of_mem (Trail.mem_workflowSteps_iff.1 hmem))
    obtain ⟨name', action, haction, hd⟩ := descends_of_mem_times htr ht
    obtain ⟨_, _, haction', -⟩ := h
    obtain ⟨rfl, -⟩ := Prod.mk.inj (Option.some.inj (haction.symm.trans haction'))
    exact hd
  · intro hd
    obtain ⟨tr₁, -, -, htr₁⟩ := h.exists_trail
    obtain ⟨tr₀, later, htr₀, rfl⟩ := hd.exists_trail htr
    obtain rfl := Option.some.inj (htr₁.symm.trans htr₀)
    rw [Trail.mem_workflowSteps_iff]
    exact List.mem_append_left _ (List.mem_append_right _ (List.mem_singleton.2 rfl))

end Issued

end Session

end WorkflowOutline
