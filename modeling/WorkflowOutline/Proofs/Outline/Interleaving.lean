import Mathlib
import WorkflowOutline.Proofs.Command.Running
import WorkflowOutline.Proofs.Outline.Replay
import WorkflowOutline.Proofs.Script.Spans

/-!
# Interleavings of a document

The declarations of one kind follow each other in a document, and those of other kinds may stand in
between. What a script holds depends on the sequence of each kind alone, and not on how the
sequences are interleaved (`Outline.Interleaves`): the listing, the interpreter line and the entry
are the same (`declarations_eq`, `entry?_eq`), and validation reports the same errors, of which
those of different kinds may change places (`filter_validate_eq`, `perm_validate`). Types that are
no enumerations show nowhere, so they may come and go.

A run prints no spans, so on texts of such outlines it goes alike even if the declarations stand
elsewhere in the text (`Outline.HasText`, `exitCode_runFile_eq`, `stdout_runFile_eq`).
-/

namespace WorkflowOutline

/-! ## Lists -/

section Lists

variable {α κ : Type}

/-- Each member of a list with the next one. -/
def neighbours (l : List α) : List (α × α) := l.zip l.tail

theorem neighbours_concat (l : List α) (a : α) :
    neighbours (l ++ [a]) = neighbours l ++ (l.getLast?.map (·, a)).toList := by
  unfold neighbours
  induction l with
  | nil => rfl
  | cons b l ih =>
    cases l with
    | nil => rfl
    | cons c l => simpa using ih

theorem perm_of_filter_eq [DecidableEq α] [DecidableEq κ] {l l' : List α} (key : α → κ)
    (h : ∀ k, (l.filter fun a => key a = k) = l'.filter fun a => key a = k) : l.Perm l' := by
  rw [List.perm_iff_count]
  intro a
  have hcount : ∀ l : List α, (l.filter fun b => key b = key a).count a = l.count a :=
    fun l => List.count_filter (by simp)
  rw [← hcount l, ← hcount l', h]

end Lists

/-! ## Kinds of errors -/

inductive ErrorKind where
  | entryNotInWorkflows
  | foreignEntry
  | entryIsNamed
  | duplicateEntry
  | duplicateOutputs
  | duplicateShebang
deriving DecidableEq

def ValidationError.kind : ValidationError → ErrorKind
  | entryNotInWorkflows _ _ => .entryNotInWorkflows
  | foreignEntry _ => .foreignEntry
  | entryIsNamed _ _ => .entryIsNamed
  | duplicateEntry _ _ => .duplicateEntry
  | duplicateOutputs _ _ => .duplicateOutputs
  | duplicateShebang _ _ => .duplicateShebang

/-- Repeated interpreter lines are reported first, and a named entry last. -/
structure IsErrorOrder (errors : List ValidationError) : Prop where
  shebangs_first : errors.Pairwise fun e e' =>
    e'.kind = .duplicateShebang → e.kind = .duplicateShebang
  named_last : errors.Pairwise fun e _ => e.kind ≠ .entryIsNamed

/-- Two scripts agree if they are listed alike and have the same errors, of which only those of
different kinds may change places. -/
structure Script.Agrees (s s' : Script) : Prop where
  declarations : s.declarations = s'.declarations
  shebang : s.shebang = s'.shebang
  entry : s.entry? = s'.entry?
  errors : s.validate.Perm s'.validate
  errors_ofKind : ∀ k : ErrorKind,
    (s.validate.filter fun e => e.kind = k) = s'.validate.filter fun e => e.kind = k
  isErrorOrder : IsErrorOrder s.validate ∧ IsErrorOrder s'.validate
  finalize_iff : (∃ t, s.finalize = .ok t) ↔ ∃ t, s'.finalize = .ok t

namespace Outline

open OutlineItem

variable {o o' : Outline} {identity identity' : UInt64} {fileId fileId' : Nat}
  {ds ds' : List (Span × OutlineItem)} {lines : List String}

/-! ## Sequences of one kind -/

/-- The declarations of one kind, in document order. -/
def ofKind (k : OutlineKind) (ds : List (Span × OutlineItem)) : List (Span × OutlineItem) :=
  ds.filter fun d => d.2.kind = k

/-- The same interpreter lines and, of every kind that a script lists, the same declarations in the
same order. -/
structure Interleaves (o o' : Outline) : Prop where
  shebang : o.shebang = o'.shebang
  ofKind : ∀ k, k ≠ .hostClass → ofKind k o.declarations = ofKind k o'.declarations

theorem ofKind_concat (k : OutlineKind) (ds : List (Span × OutlineItem)) (d : Span × OutlineItem) :
    ofKind k (ds ++ [d]) = ofKind k ds ++ if d.2.kind = k then [d] else [] := by
  unfold ofKind
  rw [List.filter_append]
  by_cases h : d.2.kind = k <;> simp [h]

/-- What only declarations of one kind declare can be read off the sequence of that kind. -/
theorem declared_ofKind {α : Type} {read : Span → OutlineItem → Option α} {k : OutlineKind}
    (ds : List (Span × OutlineItem))
    (hread : ∀ span d, d.kind ≠ k → read span d = none := by
      intro _ d hd
      cases d <;> first | rfl | exact absurd rfl hd) :
    declared read (ofKind k ds) = declared read ds := by
  unfold declared ofKind
  rw [List.filterMap_filter]
  refine List.filterMap_congr fun d _ => ?_
  by_cases h : d.2.kind = k
  · simp [h]
  · simp [h, hread d.1 d.2 h]

/-- The ordinals of designated workflows count workflows only. -/
theorem designations_ofKind (ds : List (Span × OutlineItem)) :
    designations (ofKind .workflow ds) = designations ds := by
  induction ds using List.reverseRecOn with
  | nil => rfl
  | append_singleton ds d ih =>
    rw [ofKind_concat, designations_concat]
    by_cases h : d.2.kind = .workflow
    · rw [if_pos h, designations_concat, ih, declared_ofKind]
    · have hnone : d.2.designated? d.1 = none := by
        obtain ⟨span, d⟩ := d
        cases d <;> first | rfl | exact absurd rfl h
      rw [if_neg h, hnone, List.append_nil, ih]
      exact (List.append_nil _).symm

/-- Of the types of a document, the enumerations are those that it declares as such. -/
theorem filter_isEnum_declared (ds : List (Span × OutlineItem)) :
    (declared hostClass? ds).filter ClassDef.isEnum = declared hostClass? (ofKind .enum ds) := by
  unfold declared ofKind
  rw [List.filter_filterMap, List.filterMap_filter]
  refine List.filterMap_congr fun d _ => ?_
  obtain ⟨span, d⟩ := d
  cases d <;> simp [hostClass?, OutlineItem.kind, ClassDef.isEnum]

/-! ## What interleavings have in common -/

namespace Interleaves

theorem shebangLines_eq (h : o.Interleaves o') : o.shebangLines = o'.shebangLines := by
  unfold shebangLines
  rw [h.shebang]

theorem declared_eq (h : o.Interleaves o') {α : Type} {read : Span → OutlineItem → Option α}
    {k : OutlineKind} (hk : k ≠ .hostClass)
    (hread : ∀ span d, d.kind ≠ k → read span d = none := by
      intro _ d hd
      cases d <;> first | rfl | exact absurd rfl hd) :
    declared read o.declarations = declared read o'.declarations := by
  rw [← declared_ofKind o.declarations hread, h.ofKind k hk, declared_ofKind _ hread]

theorem workflows_eq (h : o.Interleaves o') :
    declared workflow? o.declarations = declared workflow? o'.declarations :=
  h.declared_eq (k := .workflow) nofun

theorem designations_eq (h : o.Interleaves o') :
    designations o.declarations = designations o'.declarations := by
  rw [← designations_ofKind o.declarations, h.ofKind .workflow nofun, designations_ofKind]

theorem outputs_eq (h : o.Interleaves o') :
    declared outputs? o.declarations = declared outputs? o'.declarations :=
  h.declared_eq (k := .output) nofun

theorem enums_eq (h : o.Interleaves o') :
    (declared hostClass? o.declarations).filter ClassDef.isEnum =
      (declared hostClass? o'.declarations).filter ClassDef.isEnum := by
  rw [filter_isEnum_declared, filter_isEnum_declared, h.ofKind .enum nofun]

theorem entry?_eq (h : o.Interleaves o') :
    Script.entry? (o.build identity fileId) = Script.entry? (o'.build identity' fileId') := by
  rw [build_eq_fields, build_eq_fields, entry?_fields, entry?_fields,
    getLast?_declared_designated?, getLast?_declared_designated?, h.designations_eq]

theorem entryIndex?_eq (h : o.Interleaves o') :
    (o.build identity fileId).entryIndex? = (o'.build identity' fileId').entryIndex? := by
  rw [build_eq_fields, build_eq_fields, entryIndex?_fields, entryIndex?_fields, h.designations_eq]

theorem shebang_eq (h : o.Interleaves o') :
    (o.build identity fileId).shebang = (o'.build identity' fileId').shebang := by
  rw [build_eq_fields, build_eq_fields]
  exact congrArg List.getLast? h.shebangLines_eq

/-- The listing does not tell how the sequences are interleaved. -/
theorem declarations_eq (h : o.Interleaves o') :
    (o.build identity fileId).declarations = (o'.build identity' fileId').declarations := by
  have hflags : declared featureFlag? o.declarations = declared featureFlag? o'.declarations :=
    h.declared_eq (k := .feature) nofun
  have hincludes : declared include? o.declarations = declared include? o'.declarations :=
    h.declared_eq (k := .inclusion) nofun
  have hworkflows : declared param? o.declarations = declared param? o'.declarations :=
    h.declared_eq (k := .param) nofun
  have hprocesses : declared process? o.declarations = declared process? o'.declarations :=
    h.declared_eq (k := .process) nofun
  have hfunctions : declared function? o.declarations = declared function? o'.declarations :=
    h.declared_eq (k := .function) nofun
  have hothers : ∀ i, (o.build identity fileId).workflowsExcept i =
      (o'.build identity' fileId').workflowsExcept i := by
    intro i
    unfold Script.workflowsExcept
    rw [build_eq_fields, build_eq_fields]
    simp only [fields, h.workflows_eq]
  have henums : (o.build identity fileId).enums = (o'.build identity' fileId').enums := by
    rw [build_eq_fields, build_eq_fields]
    exact h.enums_eq
  unfold Script.declarations
  rw [h.entry?_eq, h.entryIndex?_eq, hothers, henums, build_eq_fields, build_eq_fields]
  simp only [fields, hflags, hincludes, hworkflows, h.outputs_eq, hprocesses, hfunctions]

end Interleaves

/-! ## Errors of one kind -/

/-- The errors for repeated declarations, those of entries and those of output blocks apart. -/
theorem filter_repetitions_entry (ds : List (Span × OutlineItem)) :
    (withEarlier repetition? ds).filter (fun e => e.kind = .duplicateEntry) =
      (neighbours (declared designated? ds)).map fun p =>
        .duplicateEntry (some p.1.span) (some p.2.span) := by
  induction ds using List.reverseRecOn with
  | nil => rfl
  | append_singleton ds d ih =>
    rw [withEarlier_concat, List.filter_append, ih, declared_concat]
    unfold repetition?
    rcases hw : d.2.designated? d.1 with _ | w
    · rcases d.2.outputs? d.1 with _ | b
      · simp
      · rcases (declared outputs? ds).getLast? with _ | old <;> simp [ValidationError.kind]
    · rw [Option.toList_some, neighbours_concat]
      rcases (declared designated? ds).getLast? with _ | old <;> simp [ValidationError.kind]

theorem filter_repetitions_outputs (ds : List (Span × OutlineItem)) :
    (withEarlier repetition? ds).filter (fun e => e.kind = .duplicateOutputs) =
      (neighbours (declared outputs? ds)).map fun p => .duplicateOutputs p.1.span p.2.span := by
  induction ds using List.reverseRecOn with
  | nil => rfl
  | append_singleton ds d ih =>
    rw [withEarlier_concat, List.filter_append, ih, declared_concat]
    unfold repetition?
    rcases hw : d.2.designated? d.1 with _ | w
    · rcases d.2.outputs? d.1 with _ | b
      · simp
      · rw [Option.toList_some, neighbours_concat]
        rcases (declared outputs? ds).getLast? with _ | old <;> simp [ValidationError.kind]
    · have hnone : d.2.outputs? d.1 = none := by
        obtain ⟨span, d⟩ := d
        cases d <;> first | rfl | cases hw
      rw [hnone]
      rcases (declared designated? ds).getLast? with _ | old <;> simp [ValidationError.kind]

theorem kind_of_mem_repetitions {e : ValidationError} (h : e ∈ withEarlier repetition? ds) :
    e.kind = .duplicateEntry ∨ e.kind = .duplicateOutputs := by
  obtain ⟨p, -, hp⟩ := List.mem_filterMap.1 h
  unfold repetition? at hp
  split at hp
  · obtain ⟨old, -, rfl⟩ := Option.map_eq_some_iff.1 hp
    exact .inl rfl
  · obtain ⟨old, -, rfl⟩ := Option.map_eq_some_iff.1 hp
    exact .inr rfl
  · cases hp

theorem kind_of_mem_shebangRepetitions {e : ValidationError} (h : e ∈ shebangRepetitions lines) :
    e.kind = .duplicateShebang := by
  obtain ⟨p, -, rfl⟩ := List.mem_map.1 h
  rfl

theorem kind_of_mem_nameError? {e : ValidationError} (h : e ∈ (nameError? ds).toList) :
    e.kind = .entryIsNamed := by
  obtain ⟨w, -, hw⟩ := Option.bind_eq_some_iff.1 (Option.mem_toList.1 h)
  obtain ⟨name, -, rfl⟩ := Option.map_eq_some_iff.1 hw
  rfl

theorem filter_kind (errors : List ValidationError) {k₀ : ErrorKind}
    (h : ∀ e ∈ errors, e.kind = k₀) (k : ErrorKind) :
    (errors.filter fun e => e.kind = k) = if k = k₀ then errors else [] := by
  split
  · next hk => exact List.filter_eq_self.2 fun e he => by simp [h e he, hk]
  · next hk => exact List.filter_eq_nil_iff.2 fun e he => by simpa [h e he] using Ne.symm hk

/-- The errors of one kind, read off the document. -/
theorem filter_validate (o : Outline) (identity : UInt64) (fileId : Nat) (k : ErrorKind) :
    ((o.build identity fileId).validate.filter fun e => e.kind = k) =
      match k with
      | .duplicateShebang => shebangRepetitions o.shebangLines
      | .duplicateEntry =>
          (neighbours (declared designated? o.declarations)).map fun p =>
            .duplicateEntry (some p.1.span) (some p.2.span)
      | .duplicateOutputs =>
          (neighbours (declared outputs? o.declarations)).map fun p =>
            .duplicateOutputs p.1.span p.2.span
      | .entryIsNamed => (nameError? o.declarations).toList
      | .entryNotInWorkflows => []
      | .foreignEntry => [] := by
  have hlines := filter_kind (shebangRepetitions o.shebangLines)
    (fun _ => kind_of_mem_shebangRepetitions) k
  have hname := filter_kind (nameError? o.declarations).toList (fun _ => kind_of_mem_nameError?) k
  have hothers : k ≠ .duplicateEntry → k ≠ .duplicateOutputs →
      ((withEarlier repetition? o.declarations).filter fun e => e.kind = k) = [] := by
    intro hentry houtputs
    refine List.filter_eq_nil_iff.2 fun e he => ?_
    rcases kind_of_mem_repetitions he with h | h
    · simpa [h] using hentry.symm
    · simpa [h] using houtputs.symm
  rw [build_eq_fields, validate_fields, List.filter_append, List.filter_append, hlines, hname]
  cases k with
  | duplicateEntry => simp [filter_repetitions_entry]
  | duplicateOutputs => simp [filter_repetitions_outputs]
  | _ => simp [hothers]

theorem isErrorOrder_validate (o : Outline) (identity : UInt64) (fileId : Nat) :
    IsErrorOrder (o.build identity fileId).validate := by
  have hbehind : ∀ e ∈ withEarlier repetition? o.declarations ++ (nameError? o.declarations).toList,
      e.kind ≠ .duplicateShebang := by
    intro e he
    rcases List.mem_append.1 he with he | he
    · rcases kind_of_mem_repetitions he with h | h <;> simp [h]
    · simp [kind_of_mem_nameError? he]
  have hahead : ∀ e ∈ shebangRepetitions o.shebangLines ++ withEarlier repetition? o.declarations,
      e.kind ≠ .entryIsNamed := by
    intro e he
    rcases List.mem_append.1 he with he | he
    · simp [kind_of_mem_shebangRepetitions he]
    · rcases kind_of_mem_repetitions he with h | h <;> simp [h]
  have hlast : (nameError? o.declarations).toList.Pairwise fun e _ => e.kind ≠ .entryIsNamed := by
    rcases nameError? o.declarations with _ | e <;> simp
  rw [build_eq_fields, validate_fields]
  constructor
  · rw [List.append_assoc, List.pairwise_append]
    refine ⟨?_, ?_, fun e he _ _ _ => kind_of_mem_shebangRepetitions he⟩
    · exact List.pairwise_of_forall_mem_list fun e he _ _ _ => kind_of_mem_shebangRepetitions he
    · exact List.pairwise_of_forall_mem_list fun _ _ e he hkind => absurd hkind (hbehind e he)
  · rw [List.pairwise_append]
    exact ⟨List.pairwise_of_forall_mem_list fun e he _ _ => hahead e he, hlast,
      fun e he _ _ => hahead e he⟩

namespace Interleaves

/-- Of each kind, the same errors are reported, in the same order. -/
theorem filter_validate_eq (h : o.Interleaves o') (k : ErrorKind) :
    ((o.build identity fileId).validate.filter fun e => e.kind = k) =
      (o'.build identity' fileId').validate.filter fun e => e.kind = k := by
  have hdesignated :
      declared designated? o.declarations = declared designated? o'.declarations := by
    rw [← map_snd_designations, h.designations_eq, map_snd_designations]
  rw [filter_validate, filter_validate]
  cases k with
  | duplicateShebang => exact congrArg shebangRepetitions h.shebangLines_eq
  | duplicateEntry => simp only [hdesignated]
  | duplicateOutputs => simp only [h.outputs_eq]
  | entryIsNamed => simp only [nameError?, hdesignated]
  | _ => rfl

theorem perm_validate (h : o.Interleaves o') :
    (o.build identity fileId).validate.Perm (o'.build identity' fileId').validate :=
  perm_of_filter_eq ValidationError.kind h.filter_validate_eq

theorem validate_eq_nil_iff (h : o.Interleaves o') :
    (o.build identity fileId).validate = [] ↔ (o'.build identity' fileId').validate = [] := by
  have hperm : (o.build identity fileId).validate.Perm (o'.build identity' fileId').validate :=
    h.perm_validate
  constructor
  · intro hnil
    rw [hnil] at hperm
    exact hperm.nil_eq.symm
  · intro hnil
    rw [hnil] at hperm
    exact hperm.eq_nil

end Interleaves

/-! ## Running interleavings -/

section Running

variable {flags : List Flag} {path path' : String} {env env' : Surroundings}
  {source source' : String}

theorem Interleaves.exitCode_runFile_eq (h : o.Interleaves o') (hs : o.HasText source)
    (hs' : o'.HasText source') :
    (runFile flags path env (.ok source)).exitCode =
      (runFile flags path' env' (.ok source')).exitCode := by
  have hvalid : o.sole.validate = [] ↔ o'.sole.validate = [] := h.validate_eq_nil_iff
  rw [hs.exitCode_eq, hs'.exitCode_eq]
  simp only [hvalid]

/-- A run prints the same, unless it is to show all that the script holds: spans and types too. -/
theorem Interleaves.stdout_runFile_eq (h : o.Interleaves o') (hs : o.HasText source)
    (hs' : o'.HasText source') (hflags : .check ∈ flags ∨ .ast ∉ flags) :
    (runFile flags path env (.ok source)).stdout =
      (runFile flags path' env' (.ok source')).stdout := by
  by_cases hcheck : .check ∈ flags
  · rw [stdout_runFile_of_check hcheck, stdout_runFile_of_check hcheck]
  have hast : .ast ∉ flags := hflags.resolve_left hcheck
  have hlisting : o.sole.listing = o'.sole.listing := by
    have hshebang : o.sole.shebang = o'.sole.shebang := h.shebang_eq
    have hdeclarations : o.sole.declarations = o'.sole.declarations := h.declarations_eq
    unfold Script.listing Script.headers
    rw [hshebang, hdeclarations]
  have hiff : o.sole.validate = [] ↔ o'.sole.validate = [] := h.validate_eq_nil_iff
  by_cases hvalid : o.sole.validate = []
  · rw [hs.stdout_eq hcheck hast hvalid, hs'.stdout_eq hcheck hast (hiff.1 hvalid), hlisting]
  · have hfails : (runFile flags path env (.ok source)).exitCode ≠ 0 := by
      rw [hs.exitCode_eq, if_neg hvalid]
      decide
    have hfails' : (runFile flags path' env' (.ok source')).exitCode ≠ 0 := by
      rwa [← h.exitCode_runFile_eq hs hs']
    rw [stdout_runFile_eq_empty hfails, stdout_runFile_eq_empty hfails']

end Running

/-! ## The order of kinds does not show -/

/-- The scripts of interleavings agree, and runs on any texts of theirs go alike. -/
theorem agrees_of_interleaves (h : o.Interleaves o') :
    (∀ identity identity' fileId fileId',
      (o.build identity fileId).Agrees (o'.build identity' fileId')) ∧
    ∀ source source', o.HasText source → o'.HasText source' → ∀ flags path path' env env',
      (runFile flags path env (.ok source)).exitCode =
          (runFile flags path' env' (.ok source')).exitCode ∧
        (.check ∈ flags ∨ .ast ∉ flags →
          (runFile flags path env (.ok source)).stdout =
            (runFile flags path' env' (.ok source')).stdout) := by
  refine ⟨fun identity identity' fileId fileId' => ?_, ?_⟩
  · exact {
      declarations := h.declarations_eq
      shebang := h.shebang_eq
      entry := h.entry?_eq
      errors := h.perm_validate
      errors_ofKind := h.filter_validate_eq
      isErrorOrder := ⟨o.isErrorOrder_validate .., o'.isErrorOrder_validate ..⟩
      finalize_iff := by
        rw [Script.exists_finalize_iff, Script.exists_finalize_iff, h.validate_eq_nil_iff] }
  · intro source source' hs hs' flags path path' env env'
    exact ⟨h.exitCode_runFile_eq hs hs', h.stdout_runFile_eq hs hs'⟩

/-! Two interleavings with repeated entries and output blocks, and two that are read from texts. -/

def entryRepeatedFirst : Outline :=
  ⟨some (.many ["#!a", "#!b"]),
    [(⟨0, 1⟩, .workflow none none), (⟨2, 3⟩, .output ["x"]), (⟨4, 5⟩, .hostClass "C"),
      (⟨6, 7⟩, .workflow (some "N") (some true)), (⟨8, 9⟩, .output [])]⟩

def outputsRepeatedFirst : Outline :=
  ⟨some (.many ["#!a", "#!b"]),
    [(⟨2, 3⟩, .output ["x"]), (⟨8, 9⟩, .output []), (⟨0, 1⟩, .workflow none none),
      (⟨6, 7⟩, .workflow (some "N") (some true))]⟩

def workflowLast : Outline :=
  ⟨none, [(⟨13, 23⟩, .output []), (⟨24, 37⟩, .hostClass "C"), (⟨38, 50⟩, .workflow none none)]⟩

def workflowLastText : String :=
  "declaration=[[\"output\"],[\"class\",\"C\"],[\"workflow\"]]"

def workflowFirst : Outline :=
  ⟨none, [(⟨38, 50⟩, .workflow none none), (⟨13, 23⟩, .output [])]⟩

def workflowFirstText : String := "declaration=[[\"workflow\"],[\"output\"]]"

set_option maxRecDepth 1024 in
theorem agrees_of_interleaves_repeated :
    entryRepeatedFirst.Interleaves outputsRepeatedFirst ∧
      (entryRepeatedFirst.build 0 0).validate =
        [.duplicateShebang "#!a" "#!b", .duplicateEntry (some ⟨0, 1⟩) (some ⟨6, 7⟩),
          .duplicateOutputs ⟨2, 3⟩ ⟨8, 9⟩, .entryIsNamed "N" ⟨6, 7⟩] ∧
      (outputsRepeatedFirst.build 0 0).validate =
        [.duplicateShebang "#!a" "#!b", .duplicateOutputs ⟨2, 3⟩ ⟨8, 9⟩,
          .duplicateEntry (some ⟨0, 1⟩) (some ⟨6, 7⟩), .entryIsNamed "N" ⟨6, 7⟩] ∧
      (entryRepeatedFirst.build 0 0).Agrees (outputsRepeatedFirst.build 0 0) ∧
      workflowLast.Interleaves workflowFirst ∧
      workflowLast.HasText workflowLastText ∧
      workflowFirst.HasText workflowFirstText ∧
      ∀ path path' env env',
        (runFile [] path env (.ok workflowLastText)).exitCode =
            (runFile [] path' env' (.ok workflowFirstText)).exitCode ∧
          (runFile [] path env (.ok workflowLastText)).stdout =
            (runFile [] path' env' (.ok workflowFirstText)).stdout := by
  have hrepeated : entryRepeatedFirst.Interleaves outputsRepeatedFirst :=
    ⟨rfl, fun k hk => by cases k <;> first | rfl | exact absurd rfl hk⟩
  have hworkflow : workflowLast.Interleaves workflowFirst :=
    ⟨rfl, fun k hk => by cases k <;> first | rfl | exact absurd rfl hk⟩
  have hlast : read workflowLastText = .ok workflowLast := by cbv
  have hfirst : read workflowFirstText = .ok
      ⟨none, [(⟨13, 25⟩, .workflow none none), (⟨26, 36⟩, .output [])]⟩ := by cbv
  have hlastText : workflowLast.HasText workflowLastText := hasText_of_read hlast
  have hfirstText : workflowFirst.HasText workflowFirstText := ⟨_, hfirst, rfl⟩
  refine ⟨hrepeated, rfl, rfl, (agrees_of_interleaves hrepeated).1 0 0 0 0, hworkflow, hlastText,
    hfirstText, fun path path' env env' => ?_⟩
  obtain ⟨hexit, hstdout⟩ := (agrees_of_interleaves hworkflow).2 workflowLastText workflowFirstText
    hlastText hfirstText [] path path' env env'
  exact ⟨hexit, hstdout (.inr (by decide))⟩

end Outline

end WorkflowOutline
