import WorkflowOutline.Proofs.Script.Spans

/-!
# Headers tell what they declare

Headers are written without any escaping. Still, if all names are tokens (`IsToken`), a header tells
all that its declaration holds but its spans and whether it is the entry (`Declaration.content`),
whatever stands in values, defaults and sources (`header_eq_iff`). So the headers of a script tell
its listing (`headers_eq_iff`).

The argument is that each part of a header can be told from what follows it (`Delimited`): a token
ends at the first delimiter (`delimited_toList`), and a list of items that can be told from what may
follow them ends at its closing text (`ListForm.delimited_text`).
-/

namespace WorkflowOutline

/-! ## Tokens -/

/-- The characters that headers put around names. -/
def isDelimiter (c : Char) : Bool := c ∈ [' ', ',', ';', '(', ')', '{', '}']

/-- A name that cannot be taken for two, or for a part of the text around it. -/
structure IsToken (name : String) : Prop where
  ne_nil : name.toList ≠ []
  isDelimiter_eq_false : ∀ c ∈ name.toList, isDelimiter c = false

instance (name : String) : Decidable (IsToken name) :=
  decidable_of_iff (name.toList ≠ [] ∧ name.toList.all (!isDelimiter ·) = true)
    ⟨fun h => ⟨h.1, by simpa using h.2⟩,
      fun h => ⟨h.ne_nil, by simpa using h.isDelimiter_eq_false⟩⟩

/-- No token goes on with this text. -/
def EndsToken (r : List Char) : Prop := ∀ c ∈ r.head?, isDelimiter c = true

theorem isToken_keyword (k : Kind) : IsToken k.keyword := by cases k <;> decide

/-! ## Texts that can be told from what follows -/

/-- Of what satisfies `P`, the text can be told from what follows it, if that satisfies `Q`. -/
def Delimited {α : Type} (P : α → Prop) (text : α → List Char) (Q : List Char → Prop) : Prop :=
  ∀ ⦃a b : α⦄ ⦃r s : List Char⦄, P a → P b → Q r → Q s → text a ++ r = text b ++ s → a = b ∧ r = s

theorem append_inj_of_endsToken {a b r s : List Char} (ha : ∀ c ∈ a, isDelimiter c = false)
    (hb : ∀ c ∈ b, isDelimiter c = false) (hr : EndsToken r) (hs : EndsToken s)
    (h : a ++ r = b ++ s) : a = b ∧ r = s := by
  induction a generalizing b with
  | nil =>
    cases b with
    | nil => exact ⟨rfl, h⟩
    | cons y b =>
      obtain rfl : r = y :: (b ++ s) := h
      exact absurd (hr y rfl) (by simp [hb y])
  | cons x a ih =>
    cases b with
    | nil =>
      obtain rfl : x :: (a ++ r) = s := h
      exact absurd (hs x rfl) (by simp [ha x])
    | cons y b =>
      obtain ⟨rfl, htail⟩ := List.cons.inj h
      obtain ⟨rfl, hrest⟩ := ih (fun c hc => ha c (List.mem_cons_of_mem _ hc))
        (fun c hc => hb c (List.mem_cons_of_mem _ hc)) htail
      exact ⟨rfl, hrest⟩

theorem delimited_toList : Delimited IsToken String.toList EndsToken := by
  intro a b r s ha hb hr hs h
  obtain ⟨hname, hrest⟩ :=
    append_inj_of_endsToken ha.isDelimiter_eq_false hb.isDelimiter_eq_false hr hs h
  exact ⟨String.toList_inj.1 hname, hrest⟩

/-- A token does not start like a text in front of which a token ends. -/
theorem IsToken.toList_append_ne {name : String} {r s : List Char} (h : IsToken name)
    (hr : EndsToken r) : name.toList ++ s ≠ r := by
  rintro rfl
  rcases hname : name.toList with _ | ⟨c, cs⟩
  · exact h.ne_nil hname
  · have hc := h.isDelimiter_eq_false c (by simp [hname])
    rw [hr c (by simp [hname])] at hc
    cases hc

/-! ## Lists of items -/

/-- How a list is written: without items, between two items, and behind the last one. -/
structure ListForm where
  empty : List Char
  separator : List Char
  close : List Char

namespace ListForm

variable {α : Type} {P : α → Prop} {form : ListForm} {item : α → List Char}

/-- The text of a list behind its first item. -/
def rest (form : ListForm) (item : α → List Char) : List α → List Char
  | [] => form.close
  | x :: xs => form.separator ++ (item x ++ form.rest item xs)

/-- The text of a list up to its end. -/
def text (form : ListForm) (item : α → List Char) : List α → List Char
  | [] => form.empty
  | x :: xs => item x ++ form.rest item xs

/-- What may stand behind an item of a list. -/
def Follows (form : ListForm) (r : List Char) : Prop :=
  ∃ s, r = form.separator ++ s ∨ r = form.close ++ s

theorem follows_rest (form : ListForm) (item : α → List Char) (xs : List α) (r : List Char) :
    form.Follows (form.rest item xs ++ r) := by
  cases xs with
  | nil => exact ⟨r, .inr rfl⟩
  | cons x xs => exact ⟨item x ++ form.rest item xs ++ r, .inl (List.append_assoc ..)⟩

theorem rest_eq_intercalate (form : ListForm) (item : α → List Char) (x : α) (xs : List α) :
    item x ++ form.rest item xs =
      form.separator.intercalate ((x :: xs).map item) ++ form.close := by
  induction xs generalizing x with
  | nil => simp [rest]
  | cons y xs ih => simp [rest, ih]

theorem text_eq_intercalate (h : form.empty = form.close) (xs : List α) :
    form.text item xs = form.separator.intercalate (xs.map item) ++ form.close := by
  cases xs with
  | nil => exact h
  | cons x xs => exact rest_eq_intercalate form item x xs

section Delimited

variable (hitem : Delimited P item form.Follows)
  (hmark : ∀ r s, form.separator ++ r ≠ form.close ++ s)

include hitem hmark

theorem delimited_rest :
    Delimited (fun xs => ∀ x ∈ xs, P x) (form.rest item) fun _ => True := by
  intro xs ys r s hxs hys _ _ h
  induction xs generalizing ys with
  | nil =>
    cases ys with
    | nil => exact ⟨rfl, List.append_cancel_left h⟩
    | cons y ys =>
      rw [rest, rest, List.append_assoc] at h
      exact absurd h.symm (hmark _ _)
  | cons x xs ih =>
    cases ys with
    | nil =>
      rw [rest, rest, List.append_assoc] at h
      exact absurd h (hmark _ _)
    | cons y ys =>
      simp only [rest, List.append_assoc, List.append_cancel_left_eq] at h
      obtain ⟨rfl, hrest⟩ := hitem (hxs x List.mem_cons_self) (hys y List.mem_cons_self)
        (form.follows_rest item xs r) (form.follows_rest item ys s) h
      obtain ⟨rfl, hend⟩ := ih (fun z hz => hxs z (List.mem_cons_of_mem _ hz))
        (fun z hz => hys z (List.mem_cons_of_mem _ hz)) hrest
      exact ⟨rfl, hend⟩

/-- A list can be told from whatever follows it, if its items can be told from what follows them
there, and neither a separator nor an item looks like the end of the list. -/
theorem delimited_text (hempty : ∀ x r s, P x → item x ++ r ≠ form.empty ++ s) :
    Delimited (fun xs => ∀ x ∈ xs, P x) (form.text item) fun _ => True := by
  intro xs ys r s hxs hys _ _ h
  rcases xs with _ | ⟨x, xs⟩ <;> rcases ys with _ | ⟨y, ys⟩
  · exact ⟨rfl, List.append_cancel_left h⟩
  · rw [text, text, List.append_assoc] at h
    exact absurd h.symm (hempty _ _ _ (hys y List.mem_cons_self))
  · rw [text, text, List.append_assoc] at h
    exact absurd h (hempty _ _ _ (hxs x List.mem_cons_self))
  · rw [text, text, List.append_assoc, List.append_assoc] at h
    obtain ⟨rfl, hrest⟩ := hitem (hxs x List.mem_cons_self) (hys y List.mem_cons_self)
      (form.follows_rest item xs r) (form.follows_rest item ys s) h
    obtain ⟨rfl, hend⟩ := delimited_rest hitem hmark (fun z hz => hxs z (List.mem_cons_of_mem _ hz))
      (fun z hz => hys z (List.mem_cons_of_mem _ hz)) trivial trivial hrest
    exact ⟨rfl, hend⟩

end Delimited

/-! ## The lists in headers -/

/-- Items in braces, set apart by semicolons, behind the opening brace. -/
def braces : ListForm := ⟨['}'], [';', ' '], [' ', '}']⟩

/-- Constants in braces, set apart by commas, behind the opening brace. -/
def constants : ListForm := ⟨[' ', '}'], [',', ' '], [' ', '}']⟩

/-- Parameters between parentheses, behind the opening one. -/
def parameters : ListForm := ⟨[')'], [',', ' '], [')']⟩

theorem Follows.endsToken (hseparator : ∀ s, EndsToken (form.separator ++ s))
    (hclose : ∀ s, EndsToken (form.close ++ s)) {r : List Char} (h : form.Follows r) :
    EndsToken r := by
  obtain ⟨s, rfl | rfl⟩ := h
  · exact hseparator s
  · exact hclose s

theorem endsToken_of_follows_braces {r : List Char} (h : braces.Follows r) : EndsToken r :=
  h.endsToken (by rintro s c ⟨⟩; rfl) (by rintro s c ⟨⟩; rfl)

/-- A list of names can be told from whatever follows it, if all are tokens. -/
theorem delimited_names (hseparator : ∀ s, EndsToken (form.separator ++ s))
    (hclose : ∀ s, EndsToken (form.close ++ s)) (hempty : ∀ s, EndsToken (form.empty ++ s))
    (hmark : ∀ r s, form.separator ++ r ≠ form.close ++ s) :
    Delimited (fun names => ∀ name ∈ names, IsToken name) (form.text String.toList)
      fun _ => True := by
  refine delimited_text ?_ hmark fun name r s hname => hname.toList_append_ne (hempty s)
  intro a b r s ha hb hr hs h
  exact delimited_toList ha hb (hr.endsToken hseparator hclose) (hs.endsToken hseparator hclose) h

theorem delimited_braces_names :
    Delimited (fun names => ∀ name ∈ names, IsToken name) (braces.text String.toList)
      fun _ => True :=
  delimited_names (by rintro s c ⟨⟩; rfl) (by rintro s c ⟨⟩; rfl) (by rintro s c ⟨⟩; rfl)
    (by rintro r s ⟨⟩)

theorem delimited_constants :
    Delimited (fun names => ∀ name ∈ names, IsToken name) (constants.text String.toList)
      fun _ => True :=
  delimited_names (by rintro s c ⟨⟩; rfl) (by rintro s c ⟨⟩; rfl) (by rintro s c ⟨⟩; rfl)
    (by rintro r s ⟨⟩)

theorem delimited_parameters :
    Delimited (fun names => ∀ name ∈ names, IsToken name) (parameters.text String.toList)
      fun _ => True :=
  delimited_names (by rintro s c ⟨⟩; rfl) (by rintro s c ⟨⟩; rfl) (by rintro s c ⟨⟩; rfl)
    (by rintro r s ⟨⟩)

end ListForm

theorem toList_bracedList {α : Type} (item : α → String) (xs : List α) :
    (bracedList (xs.map item)).toList =
      ['{', ' '] ++ ListForm.braces.text (fun x => (item x).toList) xs := by
  cases xs with
  | nil => simp [bracedList, ListForm.text, ListForm.braces]
  | cons x xs =>
    have hitems := ListForm.rest_eq_intercalate .braces (fun x => (item x).toList) x xs
    rw [ListForm.text, hitems]
    simp [bracedList, ListForm.braces, Function.comp_def]

/-! ## The names in a declaration -/

def ImportedName.names (e : ImportedName) : List String := e.name :: e.newName.toList

/-- The one-line header of an item. -/
def Item.header : Item → String
  | featureFlag f => f.header
  | inclusion i => i.header
  | param p => p.header
  | workflow w => w.header
  | process p => p.header
  | function f => f.header
  | outputs b => b.header
  | hostClass c => c.header

namespace Declaration

/-- All names that a declaration holds; values, defaults and sources are none. -/
def names : Declaration → List String
  | featureFlag f => [f.name]
  | inclusion i => i.entries.flatMap ImportedName.names
  | param p => [p.name]
  | entry w => w.name.toList
  | outputs b => b.outputs.map Output.name
  | workflow w => w.name.toList
  | process p => [p.name]
  | function f => f.name :: f.parameters
  | enum c => c.name :: c.constants

/-- What a declaration holds, without its spans, and the entry like any other workflow. -/
def content (d : Declaration) : Item := d.item.mapSpans fun _ => ⟨0, 0⟩

end Declaration

theorem ListForm.Follows.ne_alias {r : List Char} (h : braces.Follows r) (s : List Char) :
    r ≠ " as ".toList ++ s := by
  obtain ⟨t, rfl | rfl⟩ := h <;> rintro ⟨⟩

/-- An imported name with its alias can be told from what may follow it between braces. -/
theorem ImportedName.delimited_header :
    Delimited (fun e : ImportedName => ∀ name ∈ e.names, IsToken name) (fun e => e.header.toList)
      ListForm.braces.Follows := by
  rintro ⟨n, alias?⟩ ⟨m, alias'?⟩ r s he hf hr hs h
  have hr' := ListForm.endsToken_of_follows_braces hr
  have hs' := ListForm.endsToken_of_follows_braces hs
  have halias : ∀ t, EndsToken (" as ".toList ++ t) := by rintro t c ⟨⟩; rfl
  have hn : IsToken n := he n (by simp [names])
  have hm : IsToken m := hf m (by simp [names])
  rcases alias? with _ | a <;> rcases alias'? with _ | b <;>
    simp only [header, String.toList_append, List.append_assoc] at h
  · obtain ⟨rfl, hrest⟩ := delimited_toList hn hm hr' hs' h
    exact ⟨rfl, hrest⟩
  · exact absurd (delimited_toList hn hm hr' (halias _) h).2 (hr.ne_alias _)
  · exact absurd (delimited_toList hn hm (halias _) hs' h).2.symm (hs.ne_alias _)
  · obtain ⟨rfl, hrest⟩ := delimited_toList hn hm (halias _) (halias _) h
    obtain ⟨rfl, hend⟩ := delimited_toList (he a (by simp [names])) (hf b (by simp [names])) hr' hs'
      (List.append_cancel_left hrest)
    exact ⟨rfl, hend⟩

/-! ## Headers of each sort -/

theorem FeatureFlag.header_inj {f g : FeatureFlag} (hf : IsToken f.name) (hg : IsToken g.name)
    (h : f.header = g.header) : f.name = g.name ∧ f.value = g.value := by
  have hchars := congrArg String.toList h
  simp only [header, String.toList_append, List.append_assoc, List.append_cancel_left_eq] at hchars
  obtain ⟨hname, hrest⟩ :=
    delimited_toList hf hg (by rintro c ⟨⟩; rfl) (by rintro c ⟨⟩; rfl) hchars
  exact ⟨hname, String.toList_inj.1 (List.append_cancel_left hrest)⟩

theorem Include.header_inj {i j : Include}
    (hi : ∀ e ∈ i.entries, ∀ name ∈ e.names, IsToken name)
    (hj : ∀ e ∈ j.entries, ∀ name ∈ e.names, IsToken name) (h : i.header = j.header) :
    i.entries = j.entries ∧ i.source = j.source := by
  have hlist : Delimited (fun es : List ImportedName => ∀ e ∈ es, ∀ name ∈ e.names, IsToken name)
      (ListForm.braces.text fun e => e.header.toList) fun _ => True := by
    refine ListForm.delimited_text ImportedName.delimited_header (by rintro r s ⟨⟩) ?_
    intro e r s he
    have hname : IsToken e.name := he e.name List.mem_cons_self
    obtain ⟨name, _ | newName⟩ := e
    · exact hname.toList_append_ne (by rintro c ⟨⟩; rfl)
    · simp only [ImportedName.header, String.toList_append, List.append_assoc]
      exact hname.toList_append_ne (by rintro c ⟨⟩; rfl)
  have hchars := congrArg String.toList h
  simp only [header, String.toList_append, toList_bracedList, List.append_assoc,
    List.append_cancel_left_eq, List.cons_append, List.cons.injEq, true_and] at hchars
  obtain ⟨hentries, hrest⟩ := hlist hi hj trivial trivial hchars
  have hsource := List.append_cancel_right (List.append_cancel_left hrest)
  exact ⟨hentries, String.toList_inj.1 hsource⟩

theorem Param.header_inj {p q : Param} (hp : IsToken p.name) (hq : IsToken q.name)
    (h : p.header = q.header) : p.name = q.name ∧ p.default = q.default := by
  obtain ⟨n, default?, _⟩ := p
  obtain ⟨m, default'?, _⟩ := q
  have hequals : ∀ t, EndsToken (" = ".toList ++ t) := by rintro t c ⟨⟩; rfl
  have hnil : EndsToken [] := by rintro c ⟨⟩
  have hchars := congrArg String.toList h
  rcases default? with _ | v <;> rcases default'? with _ | w <;>
    simp only [header, String.toList_append, List.append_assoc, List.append_cancel_left_eq]
      at hchars
  · exact ⟨String.toList_inj.1 hchars, rfl⟩
  · rw [← List.append_nil n.toList] at hchars
    cases (delimited_toList hp hq hnil (hequals _) hchars).2
  · rw [← List.append_nil m.toList] at hchars
    cases (delimited_toList hp hq (hequals _) hnil hchars).2
  · obtain ⟨hname, hrest⟩ := delimited_toList hp hq (hequals _) (hequals _) hchars
    exact ⟨hname, congrArg some (String.toList_inj.1 (List.append_cancel_left hrest))⟩

theorem Workflow.header_inj {v w : Workflow} (h : v.header = w.header) : v.name = w.name := by
  have hchars := congrArg String.toList h
  obtain ⟨_ | n, _⟩ := v <;> obtain ⟨_ | m, _⟩ := w
  · rfl
  · simp [header] at hchars
  · simp [header] at hchars
  · simp only [header, String.toList_append, List.append_cancel_left_eq] at hchars
    exact congrArg some (String.toList_inj.1 hchars)

theorem ProcessDef.header_inj {p q : ProcessDef} (h : p.header = q.header) : p.name = q.name := by
  have hchars := congrArg String.toList h
  simp only [header, String.toList_append, List.append_cancel_left_eq] at hchars
  exact String.toList_inj.1 hchars

theorem FunctionDef.header_inj {f g : FunctionDef} (hf : IsToken f.name) (hg : IsToken g.name)
    (hf' : ∀ name ∈ f.parameters, IsToken name) (hg' : ∀ name ∈ g.parameters, IsToken name)
    (h : f.header = g.header) : f.name = g.name ∧ f.parameters = g.parameters := by
  have htext : ∀ d : FunctionDef, d.header.toList =
      "function ".toList ++ (d.name.toList ++ '(' :: ListForm.parameters.text String.toList
        d.parameters) := by
    intro d
    rw [ListForm.text_eq_intercalate rfl]
    simp [header, ListForm.parameters]
  have hchars := congrArg String.toList h
  rw [htext, htext, List.append_cancel_left_eq] at hchars
  obtain ⟨hname, hrest⟩ :=
    delimited_toList hf hg (by rintro c ⟨⟩; rfl) (by rintro c ⟨⟩; rfl) hchars
  rw [List.cons.injEq, ← List.append_nil (ListForm.text _ _ f.parameters),
    ← List.append_nil (ListForm.text _ _ g.parameters)] at hrest
  exact ⟨hname, (ListForm.delimited_parameters hf' hg' trivial trivial hrest.2).1⟩

theorem OutputBlock.header_inj {b c : OutputBlock}
    (hb : ∀ name ∈ b.outputs.map Output.name, IsToken name)
    (hc : ∀ name ∈ c.outputs.map Output.name, IsToken name) (h : b.header = c.header) :
    b.outputs.map Output.name = c.outputs.map Output.name := by
  have htext : ∀ b : OutputBlock, b.header.toList =
      "output ".toList ++ ['{', ' '] ++
        (ListForm.braces.text String.toList (b.outputs.map Output.name) ++ []) := by
    intro b
    have hnames : b.outputs.map Output.header = (b.outputs.map Output.name).map id :=
      (List.map_id _).symm
    rw [header, hnames, String.toList_append, toList_bracedList]
    simp
  have hchars := congrArg String.toList h
  rw [htext, htext, List.append_cancel_left_eq] at hchars
  exact (ListForm.delimited_braces_names hb hc trivial trivial hchars).1

theorem ClassDef.header_inj {c d : ClassDef} (hc : IsToken c.name) (hd : IsToken d.name)
    (hc' : ∀ name ∈ c.constants, IsToken name) (hd' : ∀ name ∈ d.constants, IsToken name)
    (hckind : c.kind = .enum) (hdkind : d.kind = .enum) (h : c.header = d.header) :
    c.name = d.name ∧ c.constants = d.constants := by
  have htext : ∀ c : ClassDef, c.kind = .enum → c.header.toList =
      "enum ".toList ++ (c.name.toList ++ ([' ', '{', ' '] ++
        (ListForm.constants.text String.toList c.constants ++ []))) := by
    intro c hkind
    rw [ListForm.text_eq_intercalate rfl]
    simp [header, hkind, ListForm.constants]
  have hchars := congrArg String.toList h
  rw [htext c hckind, htext d hdkind, List.append_cancel_left_eq] at hchars
  obtain ⟨hname, hrest⟩ :=
    delimited_toList hc hd (by rintro c ⟨⟩; rfl) (by rintro c ⟨⟩; rfl) hchars
  have hconstants := List.append_cancel_left hrest
  exact ⟨hname, (ListForm.delimited_constants hc' hd' trivial trivial hconstants).1⟩

/-! ## Headers of all sorts -/

namespace Declaration

variable {d e : Declaration}

/-- All names are tokens, and what is listed as an enumeration is one. -/
structure IsPlain (d : Declaration) : Prop where
  isToken : ∀ name ∈ d.names, IsToken name
  isEnum : ∀ c, d = enum c → c.isEnum = true

/-- A header starts with its keyword, which a blank ends if anything follows. -/
theorem exists_toList_header (hd : d.IsPlain) :
    ∃ r, EndsToken r ∧ d.header.toList = d.kind.keyword.toList ++ r := by
  have hword : ∀ (keyword word : String) (s : List Char), word.toList = keyword.toList ++ [' '] →
      ∃ r, EndsToken r ∧ word.toList ++ s = keyword.toList ++ r := by
    intro keyword word s h
    refine ⟨' ' :: s, by rintro c ⟨⟩; rfl, ?_⟩
    rw [h, List.append_assoc, List.singleton_append]
  have hworkflow : ∀ w : Workflow, ∃ r, EndsToken r ∧
      w.header.toList = "workflow".toList ++ r := by
    rintro ⟨_ | name, _⟩
    · exact ⟨[], by rintro c ⟨⟩, by simp [Workflow.header]⟩
    · simp only [Workflow.header, String.toList_append]
      exact hword _ _ _ rfl
  cases d with
  | featureFlag f =>
    simp only [header, FeatureFlag.header, String.toList_append, List.append_assoc]
    exact hword "feature" _ _ rfl
  | inclusion i =>
    simp only [header, Include.header, String.toList_append, List.append_assoc]
    exact hword "include" _ _ rfl
  | param p =>
    obtain ⟨name, _ | value, _⟩ := p <;>
      simp only [header, Param.header, String.toList_append, List.append_assoc] <;>
      exact hword "param" _ _ rfl
  | entry w => exact hworkflow w
  | outputs b =>
    simp only [header, OutputBlock.header, String.toList_append]
    exact hword "output" _ _ rfl
  | workflow w => exact hworkflow w
  | process p =>
    simp only [header, ProcessDef.header, String.toList_append]
    exact hword "process" _ _ rfl
  | function f =>
    simp only [header, FunctionDef.header, String.toList_append, List.append_assoc]
    exact hword "function" _ _ rfl
  | enum c =>
    have hkind : c.kind = .enum := by simpa [ClassDef.isEnum] using hd.isEnum c rfl
    simp only [header, ClassDef.header, hkind, String.toList_append, List.append_assoc]
    exact hword "enum" _ _ rfl

theorem kind_eq_of_header_eq (hd : d.IsPlain) (he : e.IsPlain) (h : d.header = e.header) :
    d.kind = e.kind := by
  obtain ⟨r, hr, hdchars⟩ := exists_toList_header hd
  obtain ⟨s, hs, hechars⟩ := exists_toList_header he
  have hchars := congrArg String.toList h
  rw [hdchars, hechars] at hchars
  exact Kind.keyword_inj.1
    (delimited_toList (isToken_keyword _) (isToken_keyword _) hr hs hchars).1

/-- A header shows the content and nothing else. -/
theorem header_content (d : Declaration) : d.content.header = d.header := by
  cases d with
  | outputs b =>
    simp only [content, item, Item.mapSpans, Item.header, header, OutputBlock.header,
      OutputBlock.mapSpans, List.map_map]
    rfl
  | _ => rfl

theorem content_eq_of_header_eq (hd : d.IsPlain) (he : e.IsPlain) (h : d.header = e.header) :
    d.content = e.content := by
  have hkind := kind_eq_of_header_eq hd he h
  have hworkflow : ∀ v w : Workflow, v.header = w.header →
      (workflow v).content = (workflow w).content := by
    intro v w h
    simp [content, item, Item.mapSpans, Workflow.mapSpan, Workflow.header_inj h]
  cases d with
  | featureFlag f =>
    cases e with
    | featureFlag g =>
      obtain ⟨hname, hvalue⟩ := FeatureFlag.header_inj (hd.isToken _ List.mem_cons_self)
        (he.isToken _ List.mem_cons_self) h
      simp [content, item, Item.mapSpans, FeatureFlag.mapSpan, hname, hvalue]
    | _ => cases hkind
  | inclusion i =>
    cases e with
    | inclusion j =>
      obtain ⟨hentries, hsource⟩ := Include.header_inj
        (fun x hx name hname => hd.isToken _ (List.mem_flatMap.2 ⟨x, hx, hname⟩))
        (fun x hx name hname => he.isToken _ (List.mem_flatMap.2 ⟨x, hx, hname⟩)) h
      simp [content, item, Item.mapSpans, Include.mapSpan, hentries, hsource]
    | _ => cases hkind
  | param p =>
    cases e with
    | param q =>
      obtain ⟨hname, hdefault⟩ := Param.header_inj (hd.isToken _ List.mem_cons_self)
        (he.isToken _ List.mem_cons_self) h
      simp [content, item, Item.mapSpans, Param.mapSpan, hname, hdefault]
    | _ => cases hkind
  | entry v =>
    cases e with
    | entry w => exact hworkflow v w h
    | workflow w => exact hworkflow v w h
    | _ => cases hkind
  | outputs b =>
    cases e with
    | outputs c =>
      have hnames := OutputBlock.header_inj hd.isToken he.isToken h
      have hmap : ∀ b : OutputBlock, b.outputs.map (Output.mapSpan fun _ => ⟨0, 0⟩) =
          (b.outputs.map Output.name).map fun name => ⟨name, ⟨0, 0⟩⟩ := by
        intro b
        rw [List.map_map]
        rfl
      simp only [content, item, Item.mapSpans, OutputBlock.mapSpans, hmap, hnames]
    | _ => cases hkind
  | workflow v =>
    cases e with
    | entry w => exact hworkflow v w h
    | workflow w => exact hworkflow v w h
    | _ => cases hkind
  | process p =>
    cases e with
    | process q =>
      simp [content, item, Item.mapSpans, ProcessDef.mapSpan, ProcessDef.header_inj h]
    | _ => cases hkind
  | function f =>
    cases e with
    | function g =>
      obtain ⟨hname, hparameters⟩ := FunctionDef.header_inj (hd.isToken _ List.mem_cons_self)
        (he.isToken _ List.mem_cons_self)
        (fun name hname => hd.isToken _ (List.mem_cons_of_mem _ hname))
        (fun name hname => he.isToken _ (List.mem_cons_of_mem _ hname)) h
      simp [content, item, Item.mapSpans, FunctionDef.mapSpan, hname, hparameters]
    | _ => cases hkind
  | enum c =>
    cases e with
    | enum c' =>
      have hc : c.kind = .enum := by simpa [ClassDef.isEnum] using hd.isEnum c rfl
      have hc' : c'.kind = .enum := by simpa [ClassDef.isEnum] using he.isEnum c' rfl
      obtain ⟨hname, hconstants⟩ := ClassDef.header_inj (hd.isToken _ List.mem_cons_self)
        (he.isToken _ List.mem_cons_self)
        (fun name hname => hd.isToken _ (List.mem_cons_of_mem _ hname))
        (fun name hname => he.isToken _ (List.mem_cons_of_mem _ hname)) hc hc' h
      simp [content, item, Item.mapSpans, ClassDef.mapSpan, hname, hconstants, hc, hc']
    | _ => cases hkind

theorem header_eq_iff (hd : d.IsPlain) (he : e.IsPlain) :
    d.header = e.header ↔ d.content = e.content := by
  refine ⟨content_eq_of_header_eq hd he, fun h => ?_⟩
  rw [← d.header_content, h, e.header_content]

end Declaration

/-! ## Listings -/

namespace Script

/-- All names in the listing are tokens. -/
def HasTokenNames (s : Script) : Prop := ∀ d ∈ s.declarations, ∀ name ∈ d.names, IsToken name

instance (s : Script) : Decidable s.HasTokenNames := inferInstanceAs (Decidable (∀ d ∈ _, _))

theorem isPlain_of_mem_declarations {s : Script} (h : s.HasTokenNames) {d : Declaration}
    (hd : d ∈ s.declarations) : d.IsPlain where
  isToken := h d hd
  isEnum := by
    rintro c rfl
    exact isEnum_of_mem_declarations hd

theorem map_eq_map_iff {α β γ : Type} {f : α → β} {g : α → γ} {xs ys : List α}
    (h : ∀ x ∈ xs, ∀ y ∈ ys, f x = f y ↔ g x = g y) :
    xs.map f = ys.map f ↔ xs.map g = ys.map g := by
  induction xs generalizing ys with
  | nil => cases ys <;> simp
  | cons x xs ih =>
    cases ys with
    | nil => simp
    | cons y ys =>
      rw [List.map_cons, List.map_cons, List.map_cons, List.map_cons, List.cons.injEq,
        List.cons.injEq, h x List.mem_cons_self y List.mem_cons_self,
        ih fun z hz w hw => h z (List.mem_cons_of_mem _ hz) w (List.mem_cons_of_mem _ hw)]

/-- Scripts have the same headers if and only if they list the same, one by one: declarations of the
same kind with the same names, values, defaults, sources and lists. -/
theorem headers_eq_iff {s t : Script} (hs : s.HasTokenNames) (ht : t.HasTokenNames) :
    s.headers = t.headers ↔
      s.declarations.map Declaration.content = t.declarations.map Declaration.content :=
  map_eq_map_iff fun _ hd _ he =>
    Declaration.header_eq_iff (isPlain_of_mem_declarations hs hd)
      (isPlain_of_mem_declarations ht he)

/-! Values, defaults and sources may look like the text around them. -/

/-- A script whose entry is its first workflow. -/
def quoting : Script :=
  { empty 0 0 with
    featureFlags := [⟨"a", "'x' = 1; { }", ⟨0, 1⟩⟩]
    includes := [⟨"m' from 'n", [⟨"A", some "B"⟩, ⟨"C", none⟩], ⟨2, 3⟩⟩, ⟨"m", [], ⟨4, 5⟩⟩]
    params := [⟨"p", some "q = 1", ⟨6, 7⟩⟩, ⟨"p", none, ⟨8, 9⟩⟩]
    entryId := some ⟨0, 0⟩
    workflows := [⟨none, ⟨10, 11⟩⟩, ⟨some "W", ⟨12, 13⟩⟩]
    functions := [⟨"f", ["x", "y"], ⟨14, 15⟩⟩, ⟨"f", [], ⟨16, 17⟩⟩]
    host := ⟨0, [.enumeration "E" ["A", "B"] ⟨18, 19⟩]⟩ }

/-- The same script at other places, without an entry. -/
def quotingElsewhere : Script := { quoting.mapSpans fun x => x.cover ⟨0, 99⟩ with entryId := none }

theorem headers_eq_iff_quoting :
    quoting.HasTokenNames ∧ quotingElsewhere.HasTokenNames ∧
      quoting.headers = quotingElsewhere.headers ∧
      quoting.declarations ≠ quotingElsewhere.declarations ∧
      quoting.declarations.map Declaration.content =
        quotingElsewhere.declarations.map Declaration.content := by
  have hs : quoting.HasTokenNames := by decide
  have ht : quotingElsewhere.HasTokenNames := by decide
  have hheaders : quoting.headers = quotingElsewhere.headers := by decide
  exact ⟨hs, ht, hheaders, by decide, (headers_eq_iff hs ht).1 hheaders⟩

end Script

end WorkflowOutline
