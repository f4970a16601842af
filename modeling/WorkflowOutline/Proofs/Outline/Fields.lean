import Mathlib.Data.List.Forall2
import WorkflowOutline.Outline.Decode

/-!
# What fields hold

`Node.plain` forgets where a value stands in its text and in which form. What a field of an outline
holds depends on that only, and is said here without any decoder: `IsText`, `IsFlag`, `IsImport`,
`IsLiteral` and lists of these. Each decoder agrees (`decodeString_eq_ok_iff` and the like).

`Declares` is the schema of the declarations: what a kind with the given fields declares, with the
defaults of the fields that are not given. There is such a declaration if and only if the required
fields are given and all fit (`exists_declares_iff`), and `OutlineItem.ofFields` finds it in
whatever order the fields are listed (`ofFields_eq_ok_iff`).
-/

namespace WorkflowOutline

open Toml (Node Value DateTime)

/-! ## Values without their places -/

namespace Toml.Node

mutual

/-- The value of a node, without spans and forms. -/
def plain : Node → Value
  | scalar _ s => .scalar s
  | array _ _ items => .array (plainItems items)
  | table _ _ entries => .table (plainEntries entries)

/-- The values of a list. -/
def plainItems : List Node → List Value
  | [] => []
  | n :: rest => n.plain :: plainItems rest

/-- The values of a table with their keys. -/
def plainEntries : List (String × Node) → List (String × Value)
  | [] => []
  | (key, n) :: rest => (key, n.plain) :: plainEntries rest

end

@[simp] theorem plain_scalar (span : Span) (s : Scalar) : (scalar span s).plain = .scalar s := by
  rw [plain]

@[simp] theorem plain_array (span : Span) (form : ArrayForm) (items : List Node) :
    (array span form items).plain = .array (items.map plain) := by
  rw [plain]
  congr 1
  induction items with
  | nil => rw [plainItems, List.map_nil]
  | cons n rest ih => rw [plainItems, ih, List.map_cons]

@[simp] theorem plain_table (span : Span) (form : TableForm) (entries : List (String × Node)) :
    (table span form entries).plain = .table (entries.map fun e => (e.1, e.2.plain)) := by
  rw [plain]
  congr 1
  induction entries with
  | nil => rw [plainEntries, List.map_nil]
  | cons e rest ih => rw [plainEntries, ih, List.map_cons]

/-- A node is a scalar, a list of nodes or a table of nodes. -/
theorem induct {motive : Node → Prop} (scalar : ∀ span s, motive (.scalar span s))
    (array : ∀ span form items, (∀ n ∈ items, motive n) → motive (.array span form items))
    (table : ∀ span form entries, (∀ e ∈ entries, motive e.2) → motive (.table span form entries)) :
    ∀ n, motive n
  | .scalar span s => scalar span s
  | .array span form items => array span form items fun n hn =>
      have hlt : sizeOf n < sizeOf (Node.array span form items) := by
        have hmem := List.sizeOf_lt_of_mem hn
        simp only [Node.array.sizeOf_spec]
        omega
      induct scalar array table n
  | .table span form entries => table span form entries fun e he =>
      have hlt : sizeOf e.2 < sizeOf (Node.table span form entries) := by
        have hmem := List.sizeOf_lt_of_mem he
        obtain ⟨key, n⟩ := e
        simp only [Prod.mk.sizeOf_spec, Node.table.sizeOf_spec] at hmem ⊢
        omega
      induct scalar array table e.2
termination_by n => sizeOf n
decreasing_by all_goals exact hlt

end Toml.Node

/-! ## What values are read as -/

/-- A string. -/
def IsText (v : Value) (text : String) : Prop := v = .scalar (.string text)

/-- A truth value. -/
def IsFlag (v : Value) (b : Bool) : Prop := v = .scalar (.boolean b)

/-- A list whose members are read in some way. -/
def IsListOf {α : Type} (reads : Value → α → Prop) (v : Value) (xs : List α) : Prop :=
  ∃ vs, v = .array vs ∧ List.Forall₂ reads vs xs

/-- An imported name: a string, or a table with the name and its alias. -/
inductive IsImport : Value → ImportedName → Prop
  | plain (name : String) : IsImport (.scalar (.string name)) ⟨name, none⟩
  | aliased {entries : List (String × Value)} {name newName : String}
      (name_given : entries.lookup "name" = some (.scalar (.string name)))
      (alias_given : entries.lookup "alias" = some (.scalar (.string newName))) :
      IsImport (.table entries) ⟨name, some newName⟩

/-- A literal is the value itself, but tables with one certain key stand for dates and times. -/
inductive IsLiteral : Value → Value → Prop
  | scalar (s : Toml.Scalar) : IsLiteral (.scalar s) (.scalar s)
  | array {vs ws : List Value} (items : List.Forall₂ IsLiteral vs ws) :
      IsLiteral (.array vs) (.array ws)
  | dateTime {text : String} {d : DateTime} (shown : DateTime.ofString? text = some d) :
      IsLiteral (.table [(DateTime.key, .scalar (.string text))]) (.scalar (.dateTime d))
  | table {vs ws : List (String × Value)} (key : ∀ e ∈ vs.head?, e.1 ≠ DateTime.key)
      (keys : vs.map Prod.fst = ws.map Prod.fst)
      (values : List.Forall₂ IsLiteral (vs.map Prod.snd) (ws.map Prod.snd)) :
      IsLiteral (.table vs) (.table ws)

/-! ## The schema of declarations -/

/-- The values that are given for fields. -/
abbrev Givens := String → Option Value

/-- What a kind with the given fields declares. -/
inductive Declares (given : Givens) : OutlineKind → OutlineItem → Prop
  | feature {text : Value} {name : String} {value : Option Value}
      (name_given : given "name" = some text) (name_text : IsText text name)
      (value_given : Option.Rel IsLiteral (given "value") value) :
      Declares given .feature (.feature name (value.getD (.scalar (.boolean true))))
  | inclusion {text : Value} {source : String} {names : Option (List ImportedName)}
      (source_given : given "from" = some text) (source_text : IsText text source)
      (names_given : Option.Rel (IsListOf IsImport) (given "names") names) :
      Declares given .inclusion (.inclusion source (names.getD []))
  | param {text : Value} {name : String} {default : Option Value}
      (name_given : given "name" = some text) (name_text : IsText text name)
      (default_given : Option.Rel IsLiteral (given "default") default) :
      Declares given .param (.param name default)
  | workflow {name : Option String} {entry : Option Bool}
      (name_given : Option.Rel IsText (given "name") name)
      (entry_given : Option.Rel IsFlag (given "entry") entry) :
      Declares given .workflow (.workflow name entry)
  | output {names : Option (List String)}
      (names_given : Option.Rel (IsListOf IsText) (given "names") names) :
      Declares given .output (.output (names.getD []))
  | process {text : Value} {name : String}
      (name_given : given "name" = some text) (name_text : IsText text name) :
      Declares given .process (.process name)
  | function {text : Value} {name : String} {params : Option (List String)}
      (name_given : given "name" = some text) (name_text : IsText text name)
      (params_given : Option.Rel (IsListOf IsText) (given "params") params) :
      Declares given .function (.function name (params.getD []))
  | enum {text : Value} {name : String} {values : Option (List String)}
      (name_given : given "name" = some text) (name_text : IsText text name)
      (values_given : Option.Rel (IsListOf IsText) (given "values") values) :
      Declares given .enum (.enum name (values.getD []))
  | hostClass {text : Value} {name : String}
      (name_given : given "name" = some text) (name_text : IsText text name) :
      Declares given .hostClass (.hostClass name)

/-- The fields that have no default. -/
def OutlineKind.requiredFields : OutlineKind → List String
  | .feature | .param | .process | .function | .enum | .hostClass => ["name"]
  | .inclusion => ["from"]
  | .workflow | .output => []

/-- Whether a value is of the type of a field. -/
def FieldType.Fits : FieldType → Value → Prop
  | .text, v => ∃ text, IsText v text
  | .literal, v => ∃ w, IsLiteral v w
  | .flag, v => ∃ b, IsFlag v b
  | .texts, v => ∃ texts, IsListOf IsText v texts
  | .imports, v => ∃ names, IsListOf IsImport v names

/-- No required field is missing, and every field of the kind that is given fits. -/
structure IsComplete (given : Givens) (k : OutlineKind) : Prop where
  required : ∀ field ∈ k.requiredFields, given field ≠ none
  fits : ∀ field type, (field, type) ∈ k.fieldTypes → ∀ v, given field = some v → type.Fits v

/-! ## Decoders of values -/

theorem bind_eq_ok_iff {ε α β : Type} {x : Except ε α} {f : α → Except ε β} {b : β} :
    (x >>= f) = .ok b ↔ ∃ a, x = .ok a ∧ f a = .ok b := by
  cases x <;> simp [Bind.bind, Except.bind]

theorem mapM_eq_ok_iff {ε α β : Type} {f : α → Except ε β} {xs : List α} {ys : List β} :
    xs.mapM f = .ok ys ↔ List.Forall₂ (fun x y => f x = .ok y) xs ys := by
  induction xs generalizing ys with
  | nil =>
    rw [List.mapM_nil, List.forall₂_nil_left_iff]
    exact ⟨fun h => (Except.ok.inj h).symm, fun h => h ▸ rfl⟩
  | cons x xs ih =>
    simp only [List.mapM_cons, bind_eq_ok_iff, List.forall₂_cons_left_iff, ih]
    constructor
    · rintro ⟨y, hy, ys', hys, h⟩
      exact ⟨y, ys', hy, hys, (Except.ok.inj h).symm⟩
    · rintro ⟨y, ys', hy, hys, rfl⟩
      exact ⟨y, hy, ys', hys, rfl⟩

theorem lookup_map_snd {α β : Type} (f : α → β) (key : String) (entries : List (String × α)) :
    (entries.map fun e => (e.1, f e.2)).lookup key = (entries.lookup key).map f := by
  induction entries with
  | nil => rfl
  | cons e rest ih =>
    rw [List.map_cons, List.lookup_cons, List.lookup_cons]
    split <;> [rfl; exact ih]

theorem plain_eq_scalar_iff {n : Node} {s : Toml.Scalar} :
    n.plain = .scalar s ↔ ∃ span, n = .scalar span s := by
  cases n <;> simp

theorem plain_eq_array_iff {n : Node} {vs : List Value} :
    n.plain = .array vs ↔ ∃ span form items, n = .array span form items ∧
      items.map Node.plain = vs := by
  cases n <;> simp

theorem plain_eq_table_iff {n : Node} {vs : List (String × Value)} :
    n.plain = .table vs ↔ ∃ span form entries, n = .table span form entries ∧
      entries.map (fun e => (e.1, e.2.plain)) = vs := by
  cases n <;> simp

theorem decodeString_eq_ok_iff (n : Node) (text : String) :
    decodeString n = .ok text ↔ IsText n.plain text := by
  unfold IsText decodeString
  rw [plain_eq_scalar_iff]
  split <;> simp_all

theorem decodeBool_eq_ok_iff (n : Node) (b : Bool) :
    decodeBool n = .ok b ↔ IsFlag n.plain b := by
  unfold IsFlag decodeBool
  rw [plain_eq_scalar_iff]
  cases b <;> split <;> simp_all

theorem decodeList_eq_ok_iff {α : Type} {decode : Node → Except Mismatch α}
    {reads : Value → α → Prop} (h : ∀ n a, decode n = .ok a ↔ reads n.plain a) (n : Node)
    (xs : List α) : decodeList decode n = .ok xs ↔ IsListOf reads n.plain xs := by
  unfold IsListOf
  rcases n with ⟨span, s⟩ | ⟨span, form, items⟩ | ⟨span, form, entries⟩
  · simp [decodeList]
  · simp only [decodeList, mapM_eq_ok_iff, h, Node.plain_array, Value.array.injEq,
      exists_eq_left', List.forall₂_map_left_iff]
  · simp [decodeList]

theorem decodeImport_eq_ok_iff (n : Node) (e : ImportedName) :
    decodeImport n = .ok e ↔ IsImport n.plain e := by
  rcases n with ⟨span, s⟩ | ⟨span, form, items⟩ | ⟨span, form, entries⟩
  · rcases s with name | i | f | b | d
    case string =>
      rw [Node.plain_scalar]
      constructor
      · rintro ⟨⟩
        exact .plain name
      · rintro ⟨⟩
        rfl
    all_goals
      rw [Node.plain_scalar]
      exact ⟨nofun, nofun⟩
  · rw [Node.plain_array]
    exact ⟨nofun, nofun⟩
  · rw [Node.plain_table]
    constructor
    · intro h
      unfold decodeImport at h
      dsimp only at h
      split at h
      · next hname halias =>
        cases h
        refine .aliased ?_ ?_
        · rw [lookup_map_snd, hname, Option.map_some, Node.plain_scalar]
        · rw [lookup_map_snd, halias, Option.map_some, Node.plain_scalar]
      · cases h
    · rintro (_ | ⟨hname, halias⟩)
      rw [lookup_map_snd, Option.map_eq_some_iff] at hname halias
      obtain ⟨n, hname, hn⟩ := hname
      obtain ⟨m, halias, hm⟩ := halias
      obtain ⟨_, rfl⟩ := plain_eq_scalar_iff.1 hn
      obtain ⟨_, rfl⟩ := plain_eq_scalar_iff.1 hm
      simp only [decodeImport, hname, halias]

/-! ## Literals -/

theorem decodeDateTime_eq_ok_iff {n : Node} {d : DateTime} :
    decodeDateTime n = .ok d ↔ ∃ text, IsText n.plain text ∧ DateTime.ofString? text = some d := by
  simp only [← decodeString_eq_ok_iff]
  unfold decodeDateTime decodeString
  split
  · next text =>
    rcases hshown : DateTime.ofString? text with _ | d' <;> simp [hshown]
  · simp

theorem tableDateTime_eq_none_iff {entries : List (String × Node)} :
    tableDateTime entries = none ↔ ∀ e ∈ entries.head?, e.1 ≠ DateTime.key := by
  rcases entries with _ | ⟨⟨key, n⟩, rest⟩
  · simp [tableDateTime]
  · by_cases hkey : key = DateTime.key <;> simp [tableDateTime, hkey]

theorem tableDateTime_eq_some_ok_iff {entries : List (String × Node)} {d : DateTime} :
    tableDateTime entries = some (.ok d) ↔
      ∃ n, entries = [(DateTime.key, n)] ∧ decodeDateTime n = .ok d := by
  rcases entries with _ | ⟨⟨key, n⟩, rest⟩
  · simp [tableDateTime]
  by_cases hkey : key = DateTime.key
  · rcases rest with _ | ⟨e, rest⟩
    · simp [tableDateTime, hkey, bind_eq_ok_iff, pure, Except.pure]
    · simp [tableDateTime, hkey, bind_eq_ok_iff, throw, throwThe, MonadExceptOf.throw]
  · simp [tableDateTime, hkey]

theorem map_eq_ok_iff {ε α β : Type} {f : α → β} {x : Except ε α} {b : β} :
    f <$> x = .ok b ↔ ∃ a, x = .ok a ∧ f a = b := by
  cases x <;> simp [Functor.map, Except.map]

theorem forall₂_iff_of_mem {α β : Type} {R S : α → β → Prop} {xs : List α} {ys : List β}
    (h : ∀ x ∈ xs, ∀ y, R x y ↔ S x y) : List.Forall₂ R xs ys ↔ List.Forall₂ S xs ys := by
  induction xs generalizing ys with
  | nil => rw [List.forall₂_nil_left_iff, List.forall₂_nil_left_iff]
  | cons x xs ih =>
    obtain ⟨hx, hxs⟩ := List.forall_mem_cons.1 h
    simp only [List.forall₂_cons_left_iff, hx, ih hxs]

theorem forall₂_pairs_iff {κ α β : Type} {R : α → β → Prop} {es : List (κ × α)}
    {fs : List (κ × β)} :
    List.Forall₂ (fun e f => e.1 = f.1 ∧ R e.2 f.2) es fs ↔
      es.map Prod.fst = fs.map Prod.fst ∧ List.Forall₂ R (es.map Prod.snd) (fs.map Prod.snd) := by
  induction es generalizing fs with
  | nil => rcases fs with _ | ⟨f, fs⟩ <;> simp
  | cons e es ih =>
    rcases fs with _ | ⟨f, fs⟩
    · simp
    · rw [List.forall₂_cons, ih]
      simp only [List.map_cons, List.cons.injEq, List.forall₂_cons]
      tauto

theorem decodeLiteralEntries_eq_ok_iff {entries : List (String × Node)}
    {ws : List (String × Value)} :
    decodeLiteralEntries entries = .ok ws ↔
      entries.map Prod.fst = ws.map Prod.fst ∧
        List.Forall₂ (fun n w => decodeLiteral n = .ok w) (entries.map Prod.snd)
          (ws.map Prod.snd) := by
  have hentry : ∀ (e : String × Node) (f : String × Value),
      (do return (e.1, ← decodeLiteral e.2) : Except Mismatch _) = .ok f ↔
        e.1 = f.1 ∧ decodeLiteral e.2 = .ok f.2 := by
    rintro ⟨key, n⟩ ⟨key', w⟩
    rw [bind_eq_ok_iff]
    simp [pure, Except.pure, and_comm]
  rw [decodeLiteralEntries_eq_mapM, mapM_eq_ok_iff, ← forall₂_pairs_iff]
  simp only [hentry]

theorem decodeLiteral_table_eq_ok_iff {span : Span} {form : Toml.TableForm}
    {entries : List (String × Node)} {w : Value} :
    decodeLiteral (.table span form entries) = .ok w ↔
      (∃ d, w = .scalar (.dateTime d) ∧
        ∃ n, entries = [(DateTime.key, n)] ∧ decodeDateTime n = .ok d) ∨
      (∀ e ∈ entries.head?, e.1 ≠ DateTime.key) ∧
        ∃ ws, w = .table ws ∧ decodeLiteralEntries entries = .ok ws := by
  rw [decodeLiteral, ← tableDateTime_eq_none_iff]
  simp only [← tableDateTime_eq_some_ok_iff]
  rcases tableDateTime entries with _ | d <;> simp [map_eq_ok_iff, and_comm, eq_comm (a := w)]

theorem isLiteral_table_iff {vs : List (String × Value)} {w : Value} :
    IsLiteral (.table vs) w ↔
      (∃ d, w = .scalar (.dateTime d) ∧
        ∃ text, vs = [(DateTime.key, .scalar (.string text))] ∧
          DateTime.ofString? text = some d) ∨
      (∀ e ∈ vs.head?, e.1 ≠ DateTime.key) ∧
        ∃ ws, w = .table ws ∧ vs.map Prod.fst = ws.map Prod.fst ∧
          List.Forall₂ IsLiteral (vs.map Prod.snd) (ws.map Prod.snd) := by
  constructor
  · intro h
    cases h with
    | dateTime shown => exact .inl ⟨_, rfl, _, rfl, shown⟩
    | table key keys values => exact .inr ⟨key, _, rfl, keys, values⟩
  · rintro (⟨d, rfl, text, rfl, shown⟩ | ⟨key, ws, rfl, keys, values⟩)
    · exact .dateTime shown
    · exact .table key keys values

theorem decodeLiteral_eq_ok_iff (n : Node) (w : Value) :
    decodeLiteral n = .ok w ↔ IsLiteral n.plain w := by
  induction n using Node.induct generalizing w with
  | scalar span s =>
    rw [Node.plain_scalar, decodeLiteral]
    constructor
    · rintro ⟨⟩
      exact .scalar s
    · rintro ⟨⟩
      rfl
  | array span form items ih =>
    have hitems : ∀ ws, decodeLiterals items = .ok ws ↔
        List.Forall₂ IsLiteral (items.map Node.plain) ws := by
      intro ws
      rw [decodeLiterals_eq_mapM, mapM_eq_ok_iff, List.forall₂_map_left_iff]
      exact forall₂_iff_of_mem ih
    rw [Node.plain_array, decodeLiteral, map_eq_ok_iff]
    constructor
    · rintro ⟨ws, hws, rfl⟩
      exact .array ((hitems ws).1 hws)
    · rintro ⟨⟩
      next ws hws => exact ⟨ws, (hitems ws).2 hws, rfl⟩
  | table span form entries ih =>
    have hhead : (∀ e ∈ entries.head?, e.1 ≠ DateTime.key) ↔
        ∀ e ∈ (entries.map fun e => (e.1, e.2.plain)).head?, e.1 ≠ DateTime.key := by
      cases entries <;> simp
    have hdate : ∀ d, (∃ n, entries = [(DateTime.key, n)] ∧ decodeDateTime n = .ok d) ↔
        ∃ text, entries.map (fun e => (e.1, e.2.plain)) =
          [(DateTime.key, .scalar (.string text))] ∧ DateTime.ofString? text = some d := by
      intro d
      simp only [decodeDateTime_eq_ok_iff, IsText, List.map_eq_singleton_iff, Prod.mk.injEq]
      constructor
      · rintro ⟨n, rfl, text, hn, shown⟩
        exact ⟨text, ⟨_, rfl, rfl, hn⟩, shown⟩
      · rintro ⟨text, ⟨⟨key, n⟩, rfl, rfl, hn⟩, shown⟩
        exact ⟨n, rfl, text, hn, shown⟩
    have hentries : ∀ ws, decodeLiteralEntries entries = .ok ws ↔
        (entries.map fun e => (e.1, e.2.plain)).map Prod.fst = ws.map Prod.fst ∧
          List.Forall₂ IsLiteral ((entries.map fun e => (e.1, e.2.plain)).map Prod.snd)
            (ws.map Prod.snd) := by
      intro ws
      rw [decodeLiteralEntries_eq_ok_iff, List.map_map, List.map_map, List.forall₂_map_left_iff,
        List.forall₂_map_left_iff]
      exact and_congr_right fun _ => forall₂_iff_of_mem ih
    rw [Node.plain_table, decodeLiteral_table_eq_ok_iff, isLiteral_table_iff, hhead]
    simp only [hdate, hentries]

/-! ## Decoders of fields -/

section Fields

variable {α : Type} {decode : Node → Except Mismatch α} {reads : Value → α → Prop}
  {fields : Fields} {given : Givens} {field : String} {k : OutlineKind} {d : OutlineItem}

theorem required_eq_ok_iff (h : ∀ n a, decode n = .ok a ↔ reads n.plain a)
    (hgiven : given field = (fields.lookup field).map Node.plain) {a : α} :
    fields.required field decode = .ok a ↔ ∃ v, given field = some v ∧ reads v a := by
  rw [hgiven, Fields.required]
  rcases fields.lookup field with _ | n <;> simp [h]

theorem optional_eq_ok_iff (h : ∀ n a, decode n = .ok a ↔ reads n.plain a)
    (hgiven : given field = (fields.lookup field).map Node.plain) {a : Option α} :
    fields.optional field decode = .ok a ↔ Option.Rel reads (given field) a := by
  rw [hgiven, Fields.optional]
  rcases fields.lookup field with _ | n
  · dsimp only
    rw [Option.map_none]
    constructor
    · rintro ⟨⟩
      exact .none
    · rintro ⟨⟩
      rfl
  · dsimp only
    rw [map_eq_ok_iff, Option.map_some]
    simp only [h]
    constructor
    · rintro ⟨a, ha, rfl⟩
      exact .some ha
    · rintro ⟨⟩
      next a ha => exact ⟨a, ha, rfl⟩

theorem checkType_eq_ok_iff {type : FieldType} {n : Node} :
    OutlineItem.checkType type n = .ok () ↔ type.Fits n.plain := by
  have hdiscard : ∀ {β : Type} (x : Except Mismatch β), discard x = .ok () ↔ ∃ b, x = .ok b := by
    rintro β (e | b) <;> simp [discard, Functor.discard, Functor.mapConst, Except.map]
  cases type <;> simp only [OutlineItem.checkType, hdiscard, FieldType.Fits]
  case text => simp only [decodeString_eq_ok_iff]
  case literal => simp only [decodeLiteral_eq_ok_iff]
  case flag => simp only [decodeBool_eq_ok_iff]
  case texts => simp only [decodeList_eq_ok_iff decodeString_eq_ok_iff]
  case imports => simp only [decodeList_eq_ok_iff decodeImport_eq_ok_iff]

theorem lookup_eq_none_of_notMem {β : Type} {entries : List (String × β)} {key : String}
    (h : key ∉ entries.map Prod.fst) : entries.lookup key = none := by
  rw [List.lookup_eq_none_iff]
  intro e he
  exact bne_iff_ne.2 fun heq => h (List.mem_map.2 ⟨e, he, heq.symm⟩)

theorem lookup_eq_some_iff_mem {β : Type} {entries : List (String × β)} {key : String} {b : β}
    (h : (entries.map Prod.fst).Nodup) : entries.lookup key = some b ↔ (key, b) ∈ entries := by
  induction entries with
  | nil => simp
  | cons e rest ih =>
    obtain ⟨other, c⟩ := e
    obtain ⟨hother, hrest⟩ := List.nodup_cons.1 h
    rw [List.lookup_cons, List.mem_cons, ← ih hrest]
    by_cases hkey : key = other
    · subst hkey
      simp [lookup_eq_none_of_notMem hother, eq_comm]
    · simp [hkey, beq_eq_false_iff_ne.2 hkey]

theorem nodup_fields (k : OutlineKind) : k.fields.Nodup := by cases k <;> decide

theorem checkField_eq_ok_iff {n : Node} :
    OutlineItem.checkField k field n = .ok () ↔
      ∀ type, (field, type) ∈ k.fieldTypes → type.Fits n.plain := by
  have hlookup : ∀ type, k.fieldTypes.lookup field = some type ↔ (field, type) ∈ k.fieldTypes :=
    fun _ => lookup_eq_some_iff_mem (nodup_fields k)
  simp only [← hlookup]
  unfold OutlineItem.checkField
  rcases k.fieldTypes.lookup field with _ | type <;> simp [checkType_eq_ok_iff, pure, Except.pure]

theorem forM_eq_ok_iff {ε β : Type} {f : β → Except ε Unit} {xs : List β} :
    xs.forM f = .ok () ↔ ∀ x ∈ xs, f x = .ok () := by
  induction xs with
  | nil => simp [pure, Except.pure]
  | cons x xs ih =>
    change (f x >>= fun _ => xs.forM f) = .ok () ↔ _
    rw [bind_eq_ok_iff, List.forall_mem_cons, ← ih]
    exact ⟨fun ⟨(), h⟩ => h, fun h => ⟨(), h⟩⟩

end Fields

/-! ## Decoding by fields -/

section OfFields

variable {fields : Fields} {given : Givens} {k : OutlineKind} {d : OutlineItem}

theorem forM_checkField_eq_ok_iff (hdistinct : (fields.map Prod.fst).Nodup)
    (hgiven : ∀ field ∈ k.fields, given field = (fields.lookup field).map Node.plain) :
    (fields.forM fun (name, n) => OutlineItem.checkField k name n) = .ok () ↔
      ∀ field type, (field, type) ∈ k.fieldTypes → ∀ v, given field = some v → type.Fits v := by
  rw [forM_eq_ok_iff]
  simp only [checkField_eq_ok_iff]
  constructor
  · intro h field type htype v hv
    rw [hgiven field (List.mem_map.2 ⟨_, htype, rfl⟩), Option.map_eq_some_iff] at hv
    obtain ⟨n, hn, rfl⟩ := hv
    exact h _ ((lookup_eq_some_iff_mem hdistinct).1 hn) type htype
  · rintro h ⟨field, n⟩ hn type htype
    refine h field type htype _ ?_
    rw [hgiven field (List.mem_map.2 ⟨_, htype, rfl⟩), (lookup_eq_some_iff_mem hdistinct).2 hn]
    rfl

theorem fits_of_text {field text : String} {w : Value} (hw : given field = some w)
    (htext : IsText w text) (v : Value) (hv : given field = some v) : FieldType.Fits .text v := by
  obtain rfl := Option.some_inj.1 (hw.symm.trans hv)
  exact ⟨text, htext⟩

theorem exists_of_rel {α : Type} {reads : Value → α → Prop} {field : String} {a : Option α}
    (h : Option.Rel reads (given field) a) (v : Value) (hv : given field = some v) :
    ∃ b, reads v b := by
  rw [hv] at h
  cases h with
  | some h => exact ⟨_, h⟩

theorem exists_rel {α : Type} {reads : Value → α → Prop} {field : String}
    (h : ∀ v, given field = some v → ∃ b, reads v b) : ∃ a, Option.Rel reads (given field) a := by
  rcases hv : given field with _ | v
  · exact ⟨none, .none⟩
  · obtain ⟨b, hb⟩ := h v hv
    exact ⟨some b, .some hb⟩

theorem isComplete_iff : IsComplete given k ↔
    (∀ field ∈ k.requiredFields, given field ≠ none) ∧
      ∀ p ∈ k.fieldTypes, ∀ v, given p.1 = some v → p.2.Fits v :=
  ⟨fun h => ⟨h.required, fun p hp => h.fits p.1 p.2 hp⟩, fun h => ⟨h.1, fun _ _ hp => h.2 _ hp⟩⟩

/-- What is declared has all required fields, and all its fields fit. -/
theorem Declares.isComplete (h : Declares given k d) : IsComplete given k := by
  have hne : ∀ {field v}, given field = some v → given field ≠ none :=
    fun hv => Option.ne_none_iff_exists'.2 ⟨_, hv⟩
  rw [isComplete_iff]
  cases h <;> simp only [OutlineKind.requiredFields, OutlineKind.fieldTypes,
    List.forall_mem_cons, List.not_mem_nil, false_implies, implies_true, and_true, true_and]
  case feature hgiven htext hvalue =>
    exact ⟨hne hgiven, fits_of_text hgiven htext, exists_of_rel hvalue⟩
  case inclusion hgiven htext hnames =>
    exact ⟨hne hgiven, fits_of_text hgiven htext, exists_of_rel hnames⟩
  case param hgiven htext hdefault =>
    exact ⟨hne hgiven, fits_of_text hgiven htext, exists_of_rel hdefault⟩
  case workflow hname hentry => exact ⟨exists_of_rel hname, exists_of_rel hentry⟩
  case output hnames => exact exists_of_rel hnames
  case process hgiven htext => exact ⟨hne hgiven, fits_of_text hgiven htext⟩
  case function hgiven htext hparams =>
    exact ⟨hne hgiven, fits_of_text hgiven htext, exists_of_rel hparams⟩
  case enum hgiven htext hvalues =>
    exact ⟨hne hgiven, fits_of_text hgiven htext, exists_of_rel hvalues⟩
  case hostClass hgiven htext => exact ⟨hne hgiven, fits_of_text hgiven htext⟩

theorem exists_declares (h : IsComplete given k) : ∃ d, Declares given k d := by
  have htext : ∀ {field}, given field ≠ none →
      (∀ v, given field = some v → FieldType.Fits .text v) →
        ∃ text v, given field = some v ∧ IsText v text := by
    intro field hrequired hfits
    obtain ⟨v, hv⟩ := Option.ne_none_iff_exists'.1 hrequired
    obtain ⟨text, htext⟩ := hfits v hv
    exact ⟨text, v, hv, htext⟩
  obtain ⟨hrequired, hfits⟩ := isComplete_iff.1 h
  cases k <;> simp only [OutlineKind.requiredFields, OutlineKind.fieldTypes,
    List.forall_mem_cons, List.not_mem_nil, false_implies, implies_true, and_true]
      at hrequired hfits
  case feature =>
    obtain ⟨name, v, hv, hname⟩ := htext hrequired hfits.1
    obtain ⟨value, hvalue⟩ := exists_rel hfits.2
    exact ⟨_, .feature hv hname hvalue⟩
  case inclusion =>
    obtain ⟨source, v, hv, hsource⟩ := htext hrequired hfits.1
    obtain ⟨names, hnames⟩ := exists_rel hfits.2
    exact ⟨_, .inclusion hv hsource hnames⟩
  case param =>
    obtain ⟨name, v, hv, hname⟩ := htext hrequired hfits.1
    obtain ⟨default, hdefault⟩ := exists_rel hfits.2
    exact ⟨_, .param hv hname hdefault⟩
  case workflow =>
    obtain ⟨name, hname⟩ := exists_rel hfits.1
    obtain ⟨entry, hentry⟩ := exists_rel hfits.2
    exact ⟨_, .workflow hname hentry⟩
  case output =>
    obtain ⟨names, hnames⟩ := exists_rel hfits
    exact ⟨_, .output hnames⟩
  case process =>
    obtain ⟨name, v, hv, hname⟩ := htext hrequired hfits
    exact ⟨_, .process hv hname⟩
  case function =>
    obtain ⟨name, v, hv, hname⟩ := htext hrequired hfits.1
    obtain ⟨params, hparams⟩ := exists_rel hfits.2
    exact ⟨_, .function hv hname hparams⟩
  case enum =>
    obtain ⟨name, v, hv, hname⟩ := htext hrequired hfits.1
    obtain ⟨values, hvalues⟩ := exists_rel hfits.2
    exact ⟨_, .enum hv hname hvalues⟩
  case hostClass =>
    obtain ⟨name, v, hv, hname⟩ := htext hrequired hfits
    exact ⟨_, .hostClass hv hname⟩

theorem exists_declares_iff : (∃ d, Declares given k d) ↔ IsComplete given k :=
  ⟨fun ⟨_, h⟩ => h.isComplete, exists_declares⟩

/-- In whatever order distinct fields are listed, they are decoded to what they declare. -/
theorem ofFields_eq_ok_iff (hdistinct : (fields.map Prod.fst).Nodup)
    (hgiven : ∀ field ∈ k.fields, given field = (fields.lookup field).map Node.plain) :
    OutlineItem.ofFields k fields = .ok d ↔ Declares given k d := by
  have hfits : (∃ u, (fields.forM fun (name, n) => OutlineItem.checkField k name n) = .ok u) ↔
      ∀ field type, (field, type) ∈ k.fieldTypes → ∀ v, given field = some v → type.Fits v := by
    rw [← forM_checkField_eq_ok_iff hdistinct hgiven]
    exact ⟨fun ⟨(), h⟩ => h, fun h => ⟨(), h⟩⟩
  have hrequired := fun field hfield text =>
    required_eq_ok_iff decodeString_eq_ok_iff (hgiven field hfield) (a := text)
  have htext := fun field hfield text =>
    optional_eq_ok_iff decodeString_eq_ok_iff (hgiven field hfield) (a := text)
  have hflag := fun field hfield b =>
    optional_eq_ok_iff decodeBool_eq_ok_iff (hgiven field hfield) (a := b)
  have hliteral := fun field hfield w =>
    optional_eq_ok_iff decodeLiteral_eq_ok_iff (hgiven field hfield) (a := w)
  have htexts := fun field hfield texts =>
    optional_eq_ok_iff (decodeList_eq_ok_iff decodeString_eq_ok_iff) (hgiven field hfield)
      (a := texts)
  have himports := fun field hfield names =>
    optional_eq_ok_iff (decodeList_eq_ok_iff decodeImport_eq_ok_iff) (hgiven field hfield)
      (a := names)
  unfold OutlineItem.ofFields
  rw [bind_eq_ok_iff, exists_and_right, hfits]
  -- What is declared fits, so that only the second part has to be looked at.
  refine Iff.trans (and_congr_right fun _ => ?_) (and_iff_right_of_imp fun h => h.isComplete.fits)
  cases k <;> simp (disch := decide) only [bind_eq_ok_iff, hrequired, htext, hflag, hliteral,
    htexts, himports]
  case feature =>
    constructor
    · rintro ⟨name, ⟨v, hv, hname⟩, value, hvalue, ⟨⟩⟩
      exact .feature hv hname hvalue
    · intro h
      cases h with
      | feature hv hname hvalue => exact ⟨_, ⟨_, hv, hname⟩, _, hvalue, rfl⟩
  case inclusion =>
    constructor
    · rintro ⟨source, ⟨v, hv, hsource⟩, names, hnames, ⟨⟩⟩
      exact .inclusion hv hsource hnames
    · intro h
      cases h with
      | inclusion hv hsource hnames => exact ⟨_, ⟨_, hv, hsource⟩, _, hnames, rfl⟩
  case param =>
    constructor
    · rintro ⟨name, ⟨v, hv, hname⟩, default, hdefault, ⟨⟩⟩
      exact .param hv hname hdefault
    · intro h
      cases h with
      | param hv hname hdefault => exact ⟨_, ⟨_, hv, hname⟩, _, hdefault, rfl⟩
  case workflow =>
    constructor
    · rintro ⟨name, hname, entry, hentry, ⟨⟩⟩
      exact .workflow hname hentry
    · intro h
      cases h with
      | workflow hname hentry => exact ⟨_, hname, _, hentry, rfl⟩
  case output =>
    constructor
    · rintro ⟨names, hnames, ⟨⟩⟩
      exact .output hnames
    · intro h
      cases h with
      | output hnames => exact ⟨_, hnames, rfl⟩
  case process =>
    constructor
    · rintro ⟨name, ⟨v, hv, hname⟩, ⟨⟩⟩
      exact .process hv hname
    · intro h
      cases h with
      | process hv hname => exact ⟨_, ⟨_, hv, hname⟩, rfl⟩
  case function =>
    constructor
    · rintro ⟨name, ⟨v, hv, hname⟩, params, hparams, ⟨⟩⟩
      exact .function hv hname hparams
    · intro h
      cases h with
      | function hv hname hparams => exact ⟨_, ⟨_, hv, hname⟩, _, hparams, rfl⟩
  case enum =>
    constructor
    · rintro ⟨name, ⟨v, hv, hname⟩, values, hvalues, ⟨⟩⟩
      exact .enum hv hname hvalues
    · intro h
      cases h with
      | enum hv hname hvalues => exact ⟨_, ⟨_, hv, hname⟩, _, hvalues, rfl⟩
  case hostClass =>
    constructor
    · rintro ⟨name, ⟨v, hv, hname⟩, ⟨⟩⟩
      exact .hostClass hv hname
    · intro h
      cases h with
      | hostClass hv hname => exact ⟨_, ⟨_, hv, hname⟩, rfl⟩

end OfFields

end WorkflowOutline
