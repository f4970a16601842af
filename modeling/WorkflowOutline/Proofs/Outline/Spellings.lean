import Mathlib
import WorkflowOutline.Proofs.Command.Running
import WorkflowOutline.Proofs.Outline.Fields
import WorkflowOutline.Proofs.Toml.Keys

/-!
# Spellings of declarations

A declaration of a kind with given fields has many spellings (`Spells`): a table with the kind and
the fields, in any order and among any further keys, or a list of the kind and the fields in their
order. All of them are decoded to what the kind with these fields declares
(`decode_eq_ok_iff_declares`), or none is.

A text lists declarations if it has a spelling of each (`Lists`). What outline it has depends on
the declarations only, and not on their spellings (`exists_read_iff`); so two such texts build the
same script but for the places of the declarations (`exists_read_of_lists`).
-/

namespace WorkflowOutline

open Toml (Node Value)

/-- The ways to write a declaration of a kind with the given fields. -/
inductive Spells (k : OutlineKind) (given : Givens) : Node → Prop
  /-- The keys stand in any order, in whatever form of a table. Keys that are no fields of the kind
  may stand among them. -/
  | table {span : Span} {form : Toml.TableForm} {entries : List (String × Node)} {n : Node}
      (distinct : (entries.map Prod.fst).Nodup) (kind : ("kind", n) ∈ entries)
      (keyword : IsText n.plain k.keyword)
      (fields : ∀ field ∈ k.fields, ∀ v,
        given field = some v ↔ ∃ m, (field, m) ∈ entries ∧ m.plain = v) :
      Spells k given (.table span form entries)
  /-- The values follow the kind in the order of the fields. Fields at the end may be left out. -/
  | array {span : Span} {form : Toml.ArrayForm} {n : Node} {values : List Node}
      (keyword : IsText n.plain k.keyword) (length_le : values.length ≤ k.fields.length)
      (fields : ∀ (i : Nat) field, k.fields[i]? = some field →
        given field = values[i]?.map Node.plain) :
      Spells k given (.array span form (n :: values))

variable {k : OutlineKind} {given : Givens} {n : Node} {d : OutlineItem}

/-! ## Decoding spellings -/

theorem decodeKind_eq_ok_iff : OutlineItem.decodeKind n = .ok k ↔ IsText n.plain k.keyword := by
  unfold IsText OutlineItem.decodeKind
  rw [plain_eq_scalar_iff]
  split
  · next span word =>
    rcases hword : OutlineKind.ofKeyword? word with _ | k'
    · simp only [reduceCtorEq, false_iff]
      rintro ⟨_, ⟨⟩⟩
      rw [OutlineKind.ofKeyword?_keyword] at hword
      cases hword
    · rw [OutlineKind.ofKeyword?_eq_some_iff] at hword
      subst hword
      simp [OutlineKind.keyword_inj]
  · next hne =>
    simp only [reduceCtorEq, false_iff]
    rintro ⟨span, rfl⟩
    exact hne span _ rfl

theorem mapError_eq_ok_iff {ε ε' α : Type} {f : ε → ε'} {x : Except ε α} {a : α} :
    x.mapError f = .ok a ↔ x = .ok a := by
  cases x <;> simp [Except.mapError]

theorem kind_notMem_fields (k : OutlineKind) : "kind" ∉ k.fields := by cases k <;> decide

theorem decode_table_eq_ok_iff {span : Span} {form : Toml.TableForm}
    {entries : List (String × Node)} (hdistinct : (entries.map Prod.fst).Nodup)
    (hkind : ("kind", n) ∈ entries) (hkeyword : IsText n.plain k.keyword)
    (hfields : ∀ field ∈ k.fields, ∀ v,
      given field = some v ↔ ∃ m, (field, m) ∈ entries ∧ m.plain = v) (outer : Span) :
    OutlineItem.decode outer (.table span form entries) = .ok d ↔ Declares given k d := by
  have hlookup : entries.lookup "kind" = some n := (lookup_eq_some_iff_mem hdistinct).2 hkind
  have hdistinct' : ((entries.filter (·.1 != "kind")).map Prod.fst).Nodup :=
    hdistinct.sublist (List.filter_sublist.map _)
  unfold OutlineItem.decode
  dsimp only
  rw [hlookup]
  dsimp only
  rw [decodeKind_eq_ok_iff.2 hkeyword]
  refine mapError_eq_ok_iff.trans (ofFields_eq_ok_iff hdistinct' fun field hfield => ?_)
  ext v
  have hne : field ≠ "kind" := fun h => kind_notMem_fields k (h ▸ hfield)
  simp [hfields field hfield, Option.map_eq_some_iff, lookup_eq_some_iff_mem hdistinct',
    List.mem_filter, hne]

theorem lookup_zip {α : Type} {keys : List String} {values : List α} {i : Nat} {key : String}
    (hdistinct : keys.Nodup) (hkey : keys[i]? = some key) :
    (keys.zip values).lookup key = values[i]? := by
  induction keys generalizing i values with
  | nil => cases hkey
  | cons other keys ih =>
    obtain ⟨hother, hkeys⟩ := List.nodup_cons.1 hdistinct
    rcases values with _ | ⟨v, values⟩
    · rfl
    rw [List.zip_cons_cons, List.lookup_cons]
    rcases i with _ | i
    · obtain rfl := Option.some_inj.1 hkey
      simp
    · have hne : key ≠ other := by
        rintro rfl
        exact hother (List.mem_of_getElem? hkey)
      rw [beq_eq_false_iff_ne.2 hne]
      exact ih hkeys hkey

theorem map_fst_zip_sublist {α : Type} (keys : List String) (values : List α) :
    ((keys.zip values).map Prod.fst).Sublist keys := by
  induction keys generalizing values with
  | nil => exact .slnil
  | cons key keys ih =>
    rcases values with _ | ⟨v, values⟩
    · exact List.nil_sublist _
    · exact (ih values).cons_cons key

theorem ofList_eq_ok_iff {values : List Node} : OutlineItem.ofList k values = .ok d ↔
    OutlineItem.ofFields k (k.fields.zip values) = .ok d ∧ values.length ≤ k.fields.length := by
  unfold OutlineItem.ofList
  rw [bind_eq_ok_iff]
  simp only [mapError_eq_ok_iff]
  constructor
  · rintro ⟨d', hd', h⟩
    split at h
    · cases h
    · next hlength =>
      cases h
      exact ⟨hd', Nat.le_of_not_lt hlength⟩
  · rintro ⟨hd, hlength⟩
    exact ⟨d, hd, if_neg (Nat.not_lt.2 hlength)⟩

theorem decode_array_eq_ok_iff {span : Span} {form : Toml.ArrayForm} {values : List Node}
    (hkeyword : IsText n.plain k.keyword) (outer : Span) :
    OutlineItem.decode outer (.array span form (n :: values)) = .ok d ↔
      OutlineItem.ofFields k (k.fields.zip values) = .ok d ∧
        values.length ≤ k.fields.length := by
  unfold OutlineItem.decode
  dsimp only
  rw [decodeKind_eq_ok_iff.2 hkeyword, ← ofList_eq_ok_iff]
  exact mapError_eq_ok_iff

/-- Every spelling is decoded to what is declared. -/
theorem decode_eq_ok_iff_declares (h : Spells k given n) (outer : Span) :
    OutlineItem.decode outer n = .ok d ↔ Declares given k d := by
  cases h with
  | table hdistinct hkind hkeyword hfields =>
    exact decode_table_eq_ok_iff hdistinct hkind hkeyword hfields outer
  | array hkeyword hlength hfields =>
    rw [decode_array_eq_ok_iff hkeyword, and_iff_left hlength]
    refine ofFields_eq_ok_iff ((nodup_fields k).sublist (map_fst_zip_sublist _ _))
      fun field hfield => ?_
    obtain ⟨i, hi⟩ := List.mem_iff_getElem?.1 hfield
    rw [hfields i field hi, lookup_zip (nodup_fields k) hi]

theorem exists_eq_error_iff {ε α : Type} {x : Except ε α} :
    (∃ e, x = .error e) ↔ ¬ ∃ a, x = .ok a := by
  cases x <;> simp

theorem decode_eq_error_of_not_isComplete (h : Spells k given n) (hnot : ¬ IsComplete given k)
    (outer : Span) : ∃ e, OutlineItem.decode outer n = .error e := by
  rw [exists_eq_error_iff]
  simp only [decode_eq_ok_iff_declares h]
  exact mt exists_declares_iff.1 hnot

/-! ## From one spelling to another -/

section Respelling

variable {span : Span} {form : Toml.TableForm} {entries entries' : List (String × Node)}

theorem Spells.reordered (h : Spells k given (.table span form entries))
    (hperm : entries.Perm entries') : Spells k given (.table span form entries') := by
  cases h with
  | table distinct kind keyword fields =>
    refine .table ((hperm.map _).nodup_iff.1 distinct) (hperm.mem_iff.1 kind) keyword ?_
    simpa only [hperm.mem_iff] using fields

/-- A further key that is no field of the kind means nothing. -/
theorem Spells.extended (h : Spells k given (.table span form entries)) {key : String} {m : Node}
    (hfield : key ∉ k.fields) (hfresh : key ∉ entries.map Prod.fst) :
    Spells k given (.table span form ((key, m) :: entries)) := by
  cases h with
  | table distinct kind keyword fields =>
    refine .table (List.nodup_cons.2 ⟨hfresh, distinct⟩) (List.mem_cons_of_mem _ kind) keyword ?_
    intro field hmem v
    have hne : field ≠ key := fun h => hfield (h ▸ hmem)
    simpa [hne] using fields field hmem v

/-- What is written as a list can be written as a table. -/
theorem Spells.tabulated {listSpan : Span} {listForm : Toml.ArrayForm} {values : List Node}
    (h : Spells k given (.array listSpan listForm (n :: values))) (span : Span)
    (form : Toml.TableForm) :
    Spells k given (.table span form (("kind", n) :: k.fields.zip values)) := by
  cases h with
  | array keyword length_le fields =>
    have hzip := (nodup_fields k).sublist (map_fst_zip_sublist k.fields values)
    refine .table (List.nodup_cons.2 ⟨fun hkind => ?_, hzip⟩) List.mem_cons_self keyword ?_
    · exact kind_notMem_fields k ((map_fst_zip_sublist _ _).subset hkind)
    · intro field hmem v
      obtain ⟨i, hi⟩ := List.mem_iff_getElem?.1 hmem
      have hne : field ≠ "kind" := fun h => kind_notMem_fields k (h ▸ hmem)
      rw [fields i field hi, ← lookup_zip (nodup_fields k) hi, Option.map_eq_some_iff]
      simp [lookup_eq_some_iff_mem hzip, hne]

/-- Neither the place of a value nor the form of its tables matters. -/
theorem Spells.moved (h : Spells k given n) {n' : Node} (hplain : n'.plain = n.plain) :
    Spells k given n' := by
  cases h with
  | @table _ _ entries m distinct kind keyword fields =>
    rw [Node.plain_table, plain_eq_table_iff] at hplain
    obtain ⟨span, form, entries', rfl, hentries⟩ := hplain
    have hmem : ∀ es : List (String × Node), ∀ field v,
        (∃ m, (field, m) ∈ es ∧ m.plain = v) ↔
          (field, v) ∈ es.map fun e => (e.1, e.2.plain) := by
      intro es field v
      simp
    have hkeys : entries'.map Prod.fst = entries.map Prod.fst := by
      simpa [Function.comp_def] using congrArg (List.map Prod.fst) hentries
    obtain ⟨m', hkind, hm'⟩ := (hmem entries' "kind" m.plain).2
      (hentries ▸ (hmem entries "kind" m.plain).1 ⟨m, kind, rfl⟩)
    refine .table (hkeys ▸ distinct) hkind (hm' ▸ keyword) fun field hfield v => ?_
    rw [hmem, hentries, ← hmem]
    exact fields field hfield v
  | array keyword length_le fields =>
    rw [Node.plain_array, List.map_cons, plain_eq_array_iff] at hplain
    obtain ⟨span, form, items, rfl, hitems⟩ := hplain
    obtain ⟨m, values', rfl, hm, hvalues⟩ := List.map_eq_cons_iff.1 hitems
    refine .array (hm ▸ keyword) ?_ fun i field hi => ?_
    · have hlength := congrArg List.length hvalues
      rw [List.length_map, List.length_map] at hlength
      rwa [hlength]
    · rw [fields i field hi, ← List.getElem?_map, ← List.getElem?_map, hvalues]

end Respelling

/-! ## Documents -/

/-- The interpreter lines: a string, or a list of strings. -/
inductive IsShebang : Value → ShebangLines → Prop
  | one {v : Value} {line : String} (line_text : IsText v line) : IsShebang v (.one line)
  | many {v : Value} {lines : List String} (lines_texts : IsListOf IsText v lines) :
      IsShebang v (.many lines)

theorem stringItems_eq_some_iff {items : List Node} {lines : List String} :
    stringItems items = some lines ↔ List.Forall₂ IsText (items.map Node.plain) lines := by
  induction items generalizing lines with
  | nil =>
    rw [List.map_nil, List.forall₂_nil_left_iff, stringItems, Option.some_inj]
    exact eq_comm
  | cons n items ih =>
    rw [List.map_cons, List.forall₂_cons_left_iff]
    simp only [← ih, ← decodeString_eq_ok_iff]
    unfold decodeString
    split
    · rw [stringItems, Option.map_eq_some_iff]
      constructor
      · rintro ⟨lines, hlines, rfl⟩
        exact ⟨_, lines, rfl, hlines, rfl⟩
      · rintro ⟨_, lines, ⟨⟩, hlines, rfl⟩
        exact ⟨lines, hlines, rfl⟩
    · next hne =>
      have hnone : stringItems (n :: items) = none := by
        unfold stringItems
        split <;> simp_all
      simp [hnone]

theorem decodeShebang_eq_ok_iff {lines : ShebangLines} :
    ShebangLines.decode n = .ok lines ↔ IsShebang n.plain lines := by
  have hshape : IsShebang n.plain lines ↔ (∃ line, IsText n.plain line ∧ lines = .one line) ∨
      ∃ texts, IsListOf IsText n.plain texts ∧ lines = .many texts := by
    constructor
    · rintro (h | h)
      · exact .inl ⟨_, h, rfl⟩
      · exact .inr ⟨_, h, rfl⟩
    · rintro (⟨_, h, rfl⟩ | ⟨_, h, rfl⟩)
      · exact .one h
      · exact .many h
  rw [hshape]
  unfold IsListOf
  rcases n with ⟨span, s⟩ | ⟨span, form, items⟩ | ⟨span, form, entries⟩
  · rcases s with line | i | f | b | d <;> simp [ShebangLines.decode, IsText, eq_comm]
  · rw [ShebangLines.decode]
    simp only [Node.plain_array, Value.array.injEq, exists_eq_left', IsText, reduceCtorEq,
      false_and, exists_false, false_or]
    simp only [← stringItems_eq_some_iff]
    rcases stringItems items with _ | texts <;> simp [eq_comm]
  · simp [ShebangLines.decode, IsText]

theorem foldlM_decodeEntry_eq_ok_iff {entries : Toml.Entries} {start o : Outline}
    (hdistinct : (entries.map Prod.fst).Nodup) :
    entries.foldlM Outline.decodeEntry start = .ok o ↔
      (match entries.lookup "shebang" with
        | none => o.shebang = start.shebang
        | some n => ∃ lines, ShebangLines.decode n = .ok lines ∧ o.shebang = some lines) ∧
      (match entries.lookup "declaration" with
        | none => o.declarations = start.declarations
        | some n => Outline.decodeDeclarations n = .ok o.declarations) := by
  -- What is taken in for a key stays, since no later entry has that key.
  induction entries generalizing start with
  | nil =>
    obtain ⟨shebang, declarations⟩ := o
    obtain ⟨shebang', declarations'⟩ := start
    simp [pure, Except.pure, eq_comm]
  | cons entry rest ih =>
    obtain ⟨key, n⟩ := entry
    obtain ⟨hkey, hrest⟩ := List.nodup_cons.1 hdistinct
    have hnone := lookup_eq_none_of_notMem hkey
    rw [List.foldlM_cons, bind_eq_ok_iff]
    simp only [ih hrest, List.lookup_cons]
    by_cases hshebang : key = "shebang"
    · subst hshebang
      simp [hnone, Outline.decodeEntry, bind_eq_ok_iff, pure, Except.pure, ← and_assoc]
    by_cases hdeclaration : key = "declaration"
    · subst hdeclaration
      simp [hnone, Outline.decodeEntry, bind_eq_ok_iff, pure, Except.pure]
      exact and_comm
    · have hentry : start.decodeEntry (key, n) = .ok start := by
        simp [Outline.decodeEntry, hshebang, hdeclaration]
      simp [hentry, beq_eq_false_iff_ne.2 (Ne.symm hshebang),
        beq_eq_false_iff_ne.2 (Ne.symm hdeclaration)]

theorem ofDocument_eq_ok_iff {entries : Toml.Entries} {o : Outline}
    (hdistinct : (entries.map Prod.fst).Nodup) :
    Outline.ofDocument entries = .ok o ↔
      Option.Rel IsShebang ((entries.lookup "shebang").map Node.plain) o.shebang ∧
      (entries.lookup "declaration" = none ∧ o.declarations = [] ∨
        ∃ n, entries.lookup "declaration" = some n ∧
          Outline.decodeDeclarations n = .ok o.declarations) := by
  rw [Outline.ofDocument, foldlM_decodeEntry_eq_ok_iff hdistinct]
  refine and_congr ?_ ?_
  · generalize o.shebang = lines
    rcases entries.lookup "shebang" with _ | n
    · rw [Option.map_none]
      constructor
      · rintro rfl
        exact .none
      · rintro ⟨⟩
        rfl
    · simp only [decodeShebang_eq_ok_iff, Option.map_some]
      constructor
      · rintro ⟨lines, hlines, rfl⟩
        exact .some hlines
      · rintro ⟨⟩
        next lines hlines => exact ⟨lines, hlines, rfl⟩
  · rcases entries.lookup "declaration" with _ | n <;> simp

/-- A text that lists the declarations of some kinds with given fields, in whatever spellings, below
interpreter lines that have some value. -/
structure Lists (source : String) (entries : Toml.Entries) (line : Option Value)
    (listed : List (OutlineKind × Givens)) : Prop where
  document : readDocument source = .ok entries
  shebang : (entries.lookup "shebang").map Node.plain = line
  declarations : entries.lookup "declaration" = none ∧ listed = [] ∨
    ∃ span form items, entries.lookup "declaration" = some (.array span form items) ∧
      List.Forall₂ (fun l n => Spells l.1 l.2 n) listed items

variable {source source' : String} {entries entries' : Toml.Entries} {line : Option Value}
  {listed : List (OutlineKind × Givens)} {o : Outline}

theorem decodeDeclarations_array_eq_ok_iff {span : Span} {form : Toml.ArrayForm}
    {items : List Node} {ds : List (Span × OutlineItem)} :
    Outline.decodeDeclarations (.array span form items) = .ok ds ↔
      List.Forall₂ (fun n p => OutlineItem.decode span n = .ok p.2 ∧ n.span = p.1) items ds := by
  rw [Outline.decodeDeclarations, mapM_eq_ok_iff]
  simp [bind_eq_ok_iff, pure, Except.pure, Prod.ext_iff, and_comm]

theorem isProperTable_of_readDocument (h : readDocument source = .ok entries) :
    Toml.IsProperTable entries := by
  unfold readDocument at h
  split at h
  · cases h
  · next hread =>
    cases h
    exact Toml.isProperTable_of_read hread

theorem read_eq_ok_iff (h : readDocument source = .ok entries) :
    Outline.read source = .ok o ↔ Outline.ofDocument entries = .ok o := by
  rw [Outline.read_of_document h]
  exact mapError_eq_ok_iff

theorem exists_decodeDeclarations_iff (span : Span) (form : Toml.ArrayForm) {nodes : List Node}
    (h : List.Forall₂ (fun l n => Spells l.1 l.2 n) listed nodes) {items : List OutlineItem} :
    (∃ ds, Outline.decodeDeclarations (.array span form nodes) = .ok ds ∧
        ds.map Prod.snd = items) ↔
      List.Forall₂ (fun l d => Declares l.2 l.1 d) listed items := by
  simp only [decodeDeclarations_array_eq_ok_iff]
  induction h generalizing items with
  | nil => simp [eq_comm]
  | @cons l n listed nodes hspells hrest ih =>
    rw [List.forall₂_cons_left_iff]
    constructor
    · rintro ⟨ds, hds, rfl⟩
      obtain ⟨p, ps, ⟨hdecode, -⟩, hps, rfl⟩ := List.forall₂_cons_left_iff.1 hds
      exact ⟨p.2, _, (decode_eq_ok_iff_declares hspells span).1 hdecode, ih.1 ⟨ps, hps, rfl⟩, rfl⟩
    · rintro ⟨d, items, hdeclares, hitems, rfl⟩
      obtain ⟨ds, hds, rfl⟩ := ih.2 hitems
      have hdecode := (decode_eq_ok_iff_declares hspells span).2 hdeclares
      exact ⟨(n.span, d) :: ds, .cons ⟨hdecode, rfl⟩ hds, rfl⟩

/-- The outlines of a text that lists declarations. -/
theorem exists_read_iff (h : Lists source entries line listed) {lines : Option ShebangLines}
    {items : List OutlineItem} :
    (∃ o, Outline.read source = .ok o ∧ o.shebang = lines ∧ o.declarations.map Prod.snd = items) ↔
      Option.Rel IsShebang line lines ∧
        List.Forall₂ (fun l d => Declares l.2 l.1 d) listed items := by
  have hdistinct := (isProperTable_of_readDocument h.document).keys
  simp only [read_eq_ok_iff h.document, ofDocument_eq_ok_iff hdistinct, h.shebang]
  rcases h.declarations with ⟨hnone, rfl⟩ | ⟨span, form, nodes, hsome, hspells⟩
  · simp only [hnone, List.forall₂_nil_left_iff, reduceCtorEq, false_and, exists_false, or_false,
      true_and]
    constructor
    · rintro ⟨o, ⟨hlines, hnil⟩, rfl, rfl⟩
      exact ⟨hlines, by rw [hnil, List.map_nil]⟩
    · rintro ⟨hlines, rfl⟩
      exact ⟨⟨lines, []⟩, ⟨hlines, rfl⟩, rfl, rfl⟩
  · rw [← exists_decodeDeclarations_iff span form hspells]
    simp only [hsome, reduceCtorEq, false_and, false_or, Option.some_inj, exists_eq_left']
    constructor
    · rintro ⟨o, ⟨hlines, hdecode⟩, rfl, rfl⟩
      exact ⟨hlines, _, hdecode, rfl⟩
    · rintro ⟨hlines, ds, hdecode, rfl⟩
      exact ⟨⟨lines, ds⟩, ⟨hlines, hdecode⟩, rfl, rfl⟩

theorem exists_mem_of_forall₂ {α β : Type} {R : α → β → Prop} {xs : List α} {ys : List β}
    (h : List.Forall₂ R xs ys) {x : α} (hx : x ∈ xs) : ∃ y ∈ ys, R x y := by
  induction h with
  | nil => cases hx
  | cons hhead _ ih =>
    rcases List.mem_cons.1 hx with rfl | hx
    · exact ⟨_, List.mem_cons_self, hhead⟩
    · obtain ⟨y, hy, hR⟩ := ih hx
      exact ⟨y, List.mem_cons_of_mem _ hy, hR⟩

theorem exists_forall₂ {α β : Type} {R : α → β → Prop} {ys : List β}
    (h : ∀ y ∈ ys, ∃ x, R x y) : ∃ xs, List.Forall₂ R xs ys := by
  induction ys with
  | nil => exact ⟨[], .nil⟩
  | cons y ys ih =>
    obtain ⟨⟨x, hx⟩, hys⟩ := List.forall_mem_cons.1 h
    obtain ⟨xs, hxs⟩ := ih hys
    exact ⟨x :: xs, .cons hx hxs⟩

/-- Whatever is decoded is a spelling. -/
theorem exists_spells_of_decode (hproper : n.IsProper) {outer : Span}
    (h : OutlineItem.decode outer n = .ok d) : ∃ k given, Spells k given n := by
  rcases n with ⟨span, s⟩ | ⟨span, form, items⟩ | ⟨span, form, entries⟩
  · rcases s <;> cases h
  · rcases items with _ | ⟨n, values⟩
    · cases h
    have h' := h
    unfold OutlineItem.decode at h'
    obtain ⟨k, hk, -⟩ := bind_eq_ok_iff.1 h'
    have hkeyword := decodeKind_eq_ok_iff.1 hk
    have hlength := ((decode_array_eq_ok_iff hkeyword outer).1 h).2
    refine ⟨k, fun field => ((k.fields.zip values).lookup field).map Node.plain,
      .array hkeyword hlength fun i field hi => ?_⟩
    rw [lookup_zip (nodup_fields k) hi]
  · have hdistinct := (Toml.isProper_table_iff.1 hproper).keys
    unfold OutlineItem.decode at h
    dsimp only at h
    split at h
    · cases h
    · next n hlookup =>
      obtain ⟨k, hk, -⟩ := bind_eq_ok_iff.1 h
      refine ⟨k, fun field => (entries.lookup field).map Node.plain,
        .table hdistinct ((lookup_eq_some_iff_mem hdistinct).1 hlookup)
          (decodeKind_eq_ok_iff.1 hk) fun field _ v => ?_⟩
      simp [lookup_eq_some_iff_mem hdistinct]

/-- Every outline is that of a text that lists declarations. -/
theorem exists_lists_of_read (h : Outline.read source = .ok o) :
    ∃ entries line listed, Lists source entries line listed := by
  rcases hdocument : readDocument source with e | entries
  · rw [Outline.read_of_document_error hdocument] at h
    cases h
  have hproper := isProperTable_of_readDocument hdocument
  rw [read_eq_ok_iff hdocument, ofDocument_eq_ok_iff hproper.keys] at h
  rcases h.2 with ⟨hnone, -⟩ | ⟨n, hsome, hdecode⟩
  · exact ⟨entries, _, [], hdocument, rfl, .inl ⟨hnone, rfl⟩⟩
  · have hn := hproper.of_lookup hsome
    rcases n with _ | ⟨span, form, items⟩ | _
    · cases hdecode
    · rw [decodeDeclarations_array_eq_ok_iff] at hdecode
      have hspells : ∀ n ∈ items, ∃ l : OutlineKind × Givens, Spells l.1 l.2 n := by
        intro n hmem
        obtain ⟨p, -, hdecode, -⟩ := exists_mem_of_forall₂ hdecode hmem
        obtain ⟨k, given, hspells⟩ :=
          exists_spells_of_decode (Toml.isProper_array_iff.1 hn n hmem) hdecode
        exact ⟨(k, given), hspells⟩
      obtain ⟨listed, hlisted⟩ := exists_forall₂ hspells
      exact ⟨entries, _, listed, hdocument, rfl, .inr ⟨span, form, items, hsome, hlisted⟩⟩
    · cases hdecode

theorem unplaced_eq (o : Outline) :
    o.unplaced = ⟨o.shebang, (o.declarations.map Prod.snd).map fun d => (⟨0, 0⟩, d)⟩ := by
  rw [List.map_map]
  rfl

/-- Texts that list the same declarations have the same outline but for the places. -/
theorem exists_read_of_lists (h : Lists source entries line listed)
    (h' : Lists source' entries' line listed) (ho : Outline.read source = .ok o) :
    ∃ p, Outline.read source' = .ok p ∧ p.unplaced = o.unplaced := by
  have hlisted := (exists_read_iff h).1 ⟨o, ho, rfl, rfl⟩
  obtain ⟨p, hp, hlines, hitems⟩ := (exists_read_iff h').2 hlisted
  refine ⟨p, hp, ?_⟩
  rw [unplaced_eq, unplaced_eq, hlines, hitems]

theorem build_eq_of_unplaced_eq {p : Outline} (h : p.unplaced = o.unplaced) (identity : UInt64)
    (fileId : Nat) : (p.build identity fileId).mapSpans (fun _ => ⟨0, 0⟩) =
      (o.build identity fileId).mapSpans fun _ => ⟨0, 0⟩ := by
  rw [Outline.build_mapSpans, Outline.build_mapSpans]
  exact congrArg (Outline.build · identity fileId) h

theorem read_eq_error_of_lists (h : Lists source entries line listed) {l : OutlineKind × Givens}
    (hl : l ∈ listed) (hnot : ¬ IsComplete l.2 l.1) : ∃ e, Outline.read source = .error e := by
  rw [exists_eq_error_iff]
  rintro ⟨o, ho⟩
  have hlisted := ((exists_read_iff h).1 ⟨o, ho, rfl, rfl⟩).2
  obtain ⟨d, -, hd⟩ := exists_mem_of_forall₂ hlisted hl
  exact hnot hd.isComplete

/-- Whatever the kind and the fields, all spellings of a declaration are decoded to what is
declared, or all are rejected, if a required field is missing or a field does not fit; so are lists
with too many values. Every outline is that of a text that lists declarations, and texts that list
the same ones build the same script, but for the places. -/
theorem decode_of_spells :
    (∀ k given n, Spells k given n → ∀ outer,
      (∀ d, OutlineItem.decode outer n = .ok d ↔ Declares given k d) ∧
      (IsComplete given k → ∃ d, OutlineItem.decode outer n = .ok d) ∧
      (¬ IsComplete given k → ∃ e, OutlineItem.decode outer n = .error e)) ∧
    (∀ (k : OutlineKind) n, IsText n.plain k.keyword → ∀ values : List Node,
      k.fields.length < values.length → ∀ outer span form,
        ∃ e, OutlineItem.decode outer (.array span form (n :: values)) = .error e) ∧
    (∀ source entries line listed, Lists source entries line listed →
      (∀ l ∈ listed, ¬ IsComplete l.2 l.1 → ∃ e, Outline.read source = .error e) ∧
      ∀ o, Outline.read source = .ok o →
        ∀ source' entries', Lists source' entries' line listed →
          ∃ p, Outline.read source' = .ok p ∧ p.unplaced = o.unplaced ∧
            ∀ identity fileId, (p.build identity fileId).mapSpans (fun _ => ⟨0, 0⟩) =
              (o.build identity fileId).mapSpans fun _ => ⟨0, 0⟩) ∧
    ∀ source o, Outline.read source = .ok o →
      ∃ entries line listed, Lists source entries line listed := by
  refine ⟨fun k given n h outer => ⟨fun d => decode_eq_ok_iff_declares h outer, ?_, ?_⟩,
    fun k n hkeyword values hlength outer span form => ?_,
    fun source entries line listed h => ⟨fun l hl hnot => ?_, fun o ho source' entries' h' => ?_⟩,
    fun source o h => exists_lists_of_read h⟩
  · intro hcomplete
    obtain ⟨d, hd⟩ := exists_declares hcomplete
    exact ⟨d, (decode_eq_ok_iff_declares h outer).2 hd⟩
  · exact fun hnot => decode_eq_error_of_not_isComplete h hnot outer
  · rw [exists_eq_error_iff]
    rintro ⟨d, hd⟩
    exact Nat.not_le.2 hlength ((decode_array_eq_ok_iff hkeyword outer).1 hd).2
  · exact read_eq_error_of_lists h hl hnot
  · obtain ⟨p, hp, hunplaced⟩ := exists_read_of_lists h h' ho
    exact ⟨p, hp, hunplaced, build_eq_of_unplaced_eq hunplaced⟩

/-! A function as a list, and as a table with a key that is a field of another kind. -/

def listText : String := "declaration=[[\"function\",\"f\",[\"x\"]]]"

def functionList : Node :=
  .array ⟨13, 35⟩ .brackets
    [.scalar ⟨14, 24⟩ (.string "function"), .scalar ⟨25, 28⟩ (.string "f"),
      .array ⟨29, 34⟩ .brackets [.scalar ⟨30, 33⟩ (.string "x")]]

def listEntries : Toml.Entries := [("declaration", .array ⟨12, 36⟩ .brackets [functionList])]

def tableText : String :=
  "[[declaration]]\nparams=[\"x\"]\nname=\"f\"\nkind=\"function\"\nvalues=1"

def functionTable : Node :=
  .table ⟨0, 62⟩ .header
    [("params", .array ⟨23, 28⟩ .brackets [.scalar ⟨24, 27⟩ (.string "x")]),
      ("name", .scalar ⟨34, 37⟩ (.string "f")), ("kind", .scalar ⟨43, 53⟩ (.string "function")),
      ("values", .scalar ⟨61, 62⟩ (.integer 1))]

def tableEntries : Toml.Entries := [("declaration", .array ⟨0, 62⟩ .headers [functionTable])]

def functionGivens : Givens := fun field =>
  [("name", .scalar (.string "f")), ("params", .array [.scalar (.string "x")])].lookup field

theorem spells_functionList : Spells .function functionGivens functionList := by
  refine .array ?_ (by decide) ?_
  · simp [IsText, OutlineKind.keyword]
  · rintro (_ | _ | i) field hi <;> cases hi <;>
      simp [functionGivens, List.lookup]

theorem spells_functionTable : Spells .function functionGivens functionTable := by
  have hextended : Spells .function functionGivens (.table ⟨0, 0⟩ .inline
      [("values", .scalar ⟨0, 0⟩ (.integer 1)), ("kind", .scalar ⟨14, 24⟩ (.string "function")),
        ("name", .scalar ⟨25, 28⟩ (.string "f")),
        ("params", .array ⟨29, 34⟩ .brackets [.scalar ⟨30, 33⟩ (.string "x")])]) :=
    (spells_functionList.tabulated ⟨0, 0⟩ .inline).extended (by decide) (by decide)
  refine (hextended.reordered (List.reverse_perm _).symm).moved ?_
  simp [functionTable]

theorem lists_listText : Lists listText listEntries none [(.function, functionGivens)] where
  document := by cbv
  shebang := rfl
  declarations := .inr ⟨_, _, _, rfl, .cons spells_functionList .nil⟩

theorem lists_tableText : Lists tableText tableEntries none [(.function, functionGivens)] where
  document := by cbv
  shebang := rfl
  declarations := .inr ⟨_, _, _, rfl, .cons spells_functionTable .nil⟩

theorem decode_of_spells_function :
    Spells .function functionGivens functionList ∧
      Spells .function functionGivens functionTable ∧
      OutlineItem.decode ⟨0, 0⟩ functionList = .ok (.function "f" ["x"]) ∧
      OutlineItem.decode ⟨0, 0⟩ functionTable = .ok (.function "f" ["x"]) ∧
      Lists listText listEntries none [(.function, functionGivens)] ∧
      Lists tableText tableEntries none [(.function, functionGivens)] ∧
      ∃ o p, Outline.read listText = .ok o ∧ Outline.read tableText = .ok p ∧
        p.unplaced = o.unplaced := by
  have hparams : Option.Rel (IsListOf IsText) (functionGivens "params") (some ["x"]) :=
    .some ⟨_, rfl, .cons rfl .nil⟩
  have hdeclares : Declares functionGivens .function (.function "f" ["x"]) :=
    .function rfl rfl hparams
  obtain ⟨hdecode, -, htexts, -⟩ := decode_of_spells
  have hread : Outline.read listText = .ok ⟨none, [(⟨13, 35⟩, .function "f" ["x"])]⟩ := by
    rw [read_eq_ok_iff lists_listText.document]
    rfl
  obtain ⟨p, hp, hunplaced, -⟩ :=
    (htexts _ _ _ _ lists_listText).2 _ hread _ _ lists_tableText
  exact ⟨spells_functionList, spells_functionTable,
    ((hdecode _ _ _ spells_functionList _).1 _).2 hdeclares,
    ((hdecode _ _ _ spells_functionTable _).1 _).2 hdeclares,
    lists_listText, lists_tableText, _, p, hread, hp, hunplaced⟩

end WorkflowOutline
