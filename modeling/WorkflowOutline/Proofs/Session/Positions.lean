import WorkflowOutline.Proofs.Script.Spans
import WorkflowOutline.Proofs.Session.Trails
import WorkflowOutline.Proofs.Session.Translation

/-!
# Positions decide nothing

Take any function on spans, run a session, and run it again with every span that is put in replaced
by its image. The two runs go along with each other step by step (`Session.moves_run`): the listings
show the same texts in the same order, validation finds the same errors and accepts the same
scripts, and the diagnostics say the same; only the places are those that the function gives. It
need not be injective, so spans that are equal, empty or reversed are no exception.
-/

namespace WorkflowOutline

/-! ## Diagnostics with other spans -/

def Label.mapRange (f : Span → Span) (l : Label) : Label := { l with range := f l.range }

def Diagnostic.mapRanges (f : Span → Span) (d : Diagnostic) : Diagnostic :=
  { d with labels := d.labels.map (Label.mapRange f) }

namespace ValidationError

variable (f : Span → Span) (e : ValidationError)

theorem span?_mapSpans : (e.mapSpans f).span? = e.span?.map f := by
  cases e <;> rfl

theorem replacedSpan?_mapSpans : (e.mapSpans f).replacedSpan? = e.replacedSpan?.map f := by
  cases e <;> rfl

theorem notes_mapSpans : (e.mapSpans f).notes = e.notes := by
  cases e <;> rfl

theorem toDiagnostic_mapSpans (fileId : Nat) :
    (e.mapSpans f).toDiagnostic fileId = (e.toDiagnostic fileId).mapRanges f := by
  have hprimary : ∀ o : Option Span, ((o.map f).map (Label.primary fileId)).toList =
      (o.map (Label.primary fileId)).toList.map (Label.mapRange f) := fun o => by
    cases o <;> rfl
  have hsecondary : ∀ (o : Option Span) (text : String),
      ((o.map f).map fun first => Label.secondary fileId first text).toList =
        (o.map fun first => Label.secondary fileId first text).toList.map (Label.mapRange f) :=
    fun o text => by cases o <;> rfl
  unfold toDiagnostic Diagnostic.mapRanges
  rw [span?_mapSpans, replacedSpan?_mapSpans, notes_mapSpans, message_mapSpans, List.map_append,
    hprimary, hsecondary]

end ValidationError

/-! ## What moves and what stays -/

/-- The second declaration is the first at another place. -/
structure Declaration.Moves (f : Span → Span) (d d' : Declaration) : Prop where
  /-- The place in the order tells the variants apart. -/
  precedence : d'.precedence = d.precedence
  kind : d'.kind = d.kind
  name : d'.name? = d.name?
  isEntry : d'.isEntry = d.isEntry
  header : d'.header = d.header
  span : d'.span = f d.span
  /-- The rest of it is the same, spans of outputs apart. -/
  content : d' = d.mapSpans f

/-- The second error is the first at another place. -/
structure ValidationError.Moves (f : Span → Span) (e e' : ValidationError) : Prop where
  message : e'.message = e.message
  span : e'.span? = e.span?.map f
  replacedSpan : e'.replacedSpan? = e.replacedSpan?.map f
  /-- Names, numbers and lines are the same. -/
  content : e' = e.mapSpans f

/-- The second label is the first on another range. -/
structure Label.Moves (f : Span → Span) (l l' : Label) : Prop where
  style : l'.style = l.style
  fileId : l'.fileId = l.fileId
  message : l'.message = l.message
  range : l'.range = f l.range

/-- The second diagnostic says what the first says about other ranges. -/
structure Diagnostic.Moves (f : Span → Span) (d d' : Diagnostic) : Prop where
  message : d'.message = d.message
  notes : d'.notes = d.notes
  labels : List.Forall₂ (Label.Moves f) d.labels d'.labels

/-- The second script shows what the first shows at other places, and gets the same verdict. -/
structure Script.Moves (f : Span → Span) (s t : Script) : Prop where
  declarations : List.Forall₂ (Declaration.Moves f) s.declarations t.declarations
  validate : List.Forall₂ (ValidationError.Moves f) s.validate t.validate
  diagnostics : ∀ fileId, List.Forall₂ (Diagnostic.Moves f)
    (s.validate.map (·.toDiagnostic fileId)) (t.validate.map (·.toDiagnostic fileId))
  accepted : (∃ x, t.finalize = .ok x) ↔ ∃ x, s.finalize = .ok x

/-- Spans move along with the function; ids, texts and verdicts stay. -/
def Comparison.upToSpans (f : Span → Span) : Comparison where
  script := Script.Moves f
  id := Eq
  workflow w w' := w' = w.mapSpan f
  declaration := Declaration.Moves f
  error := ValidationError.Moves f
  diagnostic := Diagnostic.Moves f

section Moves

variable (f : Span → Span)

theorem Declaration.moves_mapSpans (d : Declaration) : d.Moves f (d.mapSpans f) := by
  constructor
  case header => exact d.header_mapSpans f
  all_goals cases d <;> rfl

theorem ValidationError.moves_mapSpans (e : ValidationError) : e.Moves f (e.mapSpans f) where
  message := e.message_mapSpans f
  span := e.span?_mapSpans f
  replacedSpan := e.replacedSpan?_mapSpans f
  content := rfl

theorem Diagnostic.moves_mapRanges (d : Diagnostic) : d.Moves f (d.mapRanges f) where
  message := rfl
  notes := rfl
  labels := Translation.forall₂_map (fun _ => ⟨rfl, rfl, rfl, rfl⟩) d.labels

theorem Script.moves_mapSpans (s : Script) : s.Moves f (s.mapSpans f) where
  declarations := by
    rw [declarations_mapSpans]
    exact Translation.forall₂_map (Declaration.moves_mapSpans f) s.declarations
  validate := by
    rw [validate_mapSpans]
    exact Translation.forall₂_map (ValidationError.moves_mapSpans f) s.validate
  diagnostics fileId := by
    rw [validate_mapSpans, List.map_map, List.forall₂_map_left_iff, List.forall₂_map_right_iff,
      List.forall₂_same]
    intro e _
    show Diagnostic.Moves f (e.toDiagnostic fileId) ((e.mapSpans f).toDiagnostic fileId)
    rw [ValidationError.toDiagnostic_mapSpans]
    exact Diagnostic.moves_mapRanges f _
  accepted := by
    rw [exists_finalize_iff, exists_finalize_iff, validate_mapSpans, List.map_eq_nil_iff]

end Moves

/-! ## Sessions with other spans -/

/-- The translation of spans; ids are the same. -/
def Translation.ofSpans (f : Span → Span) : Translation where
  script := Script.mapSpans f
  id x := x
  host := HostModule.mapSpans f
  item := Item.mapSpans f
  workflow := Workflow.mapSpan f
  declaration := Declaration.mapSpans f
  error := ValidationError.mapSpans f
  diagnostic := Diagnostic.mapRanges f
  script_add s i := s.add_mapSpans f i
  script_setEntry s x := s.setEntry_mapSpans f x
  script_setShebang s line := s.setShebang_mapSpans f line
  issued?_add s i := by
    cases i with
    | workflow w => exact congrArg some (s.nextId_mapSpans f)
    | _ => rfl
  owns_id s x := s.owns_mapSpans f x
  workflow?_id s x := s.workflow?_mapSpans f x
  declarations_script s := s.declarations_mapSpans f
  validate_script s := s.validate_mapSpans f
  toDiagnostic_error e fileId := e.toDiagnostic_mapSpans f fileId

theorem Translation.respects_ofSpans (f : Span → Span) : (ofSpans f).Respects (.upToSpans f) where
  script := Script.moves_mapSpans f
  id _ := rfl
  workflow _ := rfl
  declaration := Declaration.moves_mapSpans f
  error := ValidationError.moves_mapSpans f
  diagnostic := Diagnostic.moves_mapRanges f

/-- The action with all spans that it puts in moved. -/
def Action.mapSpans (f : Span → Span) (a : Action) : Action := (Translation.ofSpans f).action a

namespace Session

theorem creations_map {f : Action → Action} (hf : ∀ a, (f a).isCreate = a.isCreate)
    (actions : List (String × Action)) :
    creations (actions.map fun x => (x.1, f x.2)) = creations actions := by
  unfold creations
  rw [List.countP_map]
  exact congrArg (List.countP · actions) (funext fun x => hf x.2)

variable (f : Span → Span) (first : UInt64) (actions : List (String × Action))

/-- The actions of a session with all spans that they put in moved. -/
def mapSpans : List (String × Action) := actions.map fun x => (x.1, x.2.mapSpans f)

theorem mirrors_mapSpans :
    (Translation.ofSpans f).Mirrors .whole ((start first).run actions).1
        ((start first).run (mapSpans f actions)).1 ∧
      ((start first).run (mapSpans f actions)).2 =
        ((start first).run actions).2.map (Translation.ofSpans f).answer := by
  induction actions using List.reverseRecOn with
  | nil => exact ⟨⟨fun _ _ => rfl, fun _ _ => rfl⟩, rfl⟩
  | append_singleton actions step ih =>
    obtain ⟨name, action⟩ := step
    obtain ⟨hmirrors, hanswers⟩ := ih
    have hconcat : mapSpans f (actions ++ [(name, action)]) =
        mapSpans f actions ++ [(name, action.mapSpans f)] := List.map_append
    -- Both runs have handed out the same identities, so a new script gets the same one.
    have hidentity : ((start first).run (mapSpans f actions)).1.nextIdentity =
        ((start first).run actions).1.nextIdentity := by
      rw [nextIdentity_run, nextIdentity_run]
      unfold mapSpans
      rw [creations_map fun a => by cases a <;> rfl]
    obtain ⟨hstep, hanswer⟩ := hmirrors.perform (Part.whole_uses name action) fun host _ => by
      rw [hidentity]
      rfl
    rw [hconcat, run_concat, run_concat, List.map_append, hanswers]
    exact ⟨hstep, congrArg (_ ++ [·]) hanswer⟩

/-- A session with other spans gives the same answers about other places, and ends with scripts that
show the same at other places, and with the same ids. -/
theorem moves_run :
    List.Forall₂ (Answer.Rel (.upToSpans f)) ((start first).run actions).2
      ((start first).run (mapSpans f actions)).2 ∧
    (∀ name, Option.Rel (Slot.Rel (Script.Moves f)) (((start first).run actions).1.slot? name)
      (((start first).run (mapSpans f actions)).1.slot? name)) ∧
    ∀ n, ((start first).run (mapSpans f actions)).1.id? n =
      ((start first).run actions).1.id? n := by
  obtain ⟨hmirrors, hanswers⟩ := mirrors_mapSpans f first actions
  refine ⟨?_, fun name => ?_, fun n => ?_⟩
  · rw [hanswers]
    exact Translation.forall₂_map (Translation.respects_ofSpans f).answer _
  · exact hmirrors.slot_rel (Translation.respects_ofSpans f) (Set.mem_univ name)
  · rw [hmirrors.ids n (Set.mem_univ n)]
    exact Option.map_id'

end Session

end WorkflowOutline
