import Mathlib
import WorkflowOutline.Toml.Printer

/-!
# Control characters in printed values

Keys, numbers, dates and times are printed without control characters (`IsClean`). Strings are
printed with line feeds if they have some, in one of the forms that go over several lines, and all
other control characters are escaped. So a value has no control character but line feeds, and these
only where one of its strings has some (`FeedsIff`, `feedsIff_render`).
-/

namespace WorkflowOutline.Toml

/-! ## Texts without control characters -/

def IsClean (text : List Char) : Prop := ∀ c ∈ text, isControl c = false

section IsClean

variable {text text' : List Char} {c : Char}

@[simp] theorem isClean_nil : IsClean [] := nofun

@[simp] theorem isClean_cons : IsClean (c :: text) ↔ isControl c = false ∧ IsClean text :=
  List.forall_mem_cons

@[simp] theorem isClean_append : IsClean (text ++ text') ↔ IsClean text ∧ IsClean text' :=
  List.forall_mem_append

theorem IsClean.sublist (h : IsClean text) (hsub : text' ⊆ text) : IsClean text' :=
  fun c hc => h c (hsub hc)

theorem isControl_eq_false (h : 32 ≤ c.toNat) (h' : c.toNat < 127) : isControl c = false := by
  simp only [isControl, Bool.or_eq_false_iff, Bool.and_eq_false_iff, decide_eq_false_iff_not,
    beq_eq_false_iff_ne]
  omega

theorem isControl_of_isAlphanum (h : c.isAlphanum = true) : isControl c = false := by
  have hrange : (65 ≤ c.toNat ∧ c.toNat ≤ 90) ∨ (97 ≤ c.toNat ∧ c.toNat ≤ 122) ∨
      (48 ≤ c.toNat ∧ c.toNat ≤ 57) := by
    simp only [Char.isAlphanum, Char.isAlpha, Char.isUpper, Char.isLower, Char.isDigit,
      Bool.or_eq_true, Bool.and_eq_true, decide_eq_true_eq, or_assoc] at h
    exact h
  exact isControl_eq_false (by omega) (by omega)

@[simp] theorem isClean_toDigits (n : Nat) : IsClean (Nat.toDigits 10 n) := fun _ hc =>
  isControl_of_isAlphanum (Bool.or_eq_true_iff.2
    (.inr (Nat.isDigit_of_mem_toDigits (by decide) (by decide) hc)))

@[simp] theorem isClean_replicate_zero (n : Nat) : IsClean (List.replicate n '0') := by
  intro c hc
  obtain ⟨-, rfl⟩ := List.mem_replicate.1 hc
  rfl

end IsClean

/-! ## Numbers, dates and times -/

@[simp] theorem isClean_padded (width n : Nat) : IsClean (padded width n).toList := by
  simp [padded]

@[simp] theorem isClean_date (d : Date) : IsClean d.text.toList := by
  simp [Date.text, isControl]

@[simp] theorem isClean_time (t : Time) : IsClean t.text.toList := by
  have hfraction : IsClean
      ((padded 9 t.nanosecond).toList.reverse.dropWhile (· == '0')).reverse :=
    (isClean_padded 9 t.nanosecond).sublist fun c hc =>
      List.mem_reverse.1 ((List.dropWhile_sublist _).subset (List.mem_reverse.1 hc))
  unfold Time.text
  split <;> simp [isControl, hfraction]

@[simp] theorem isClean_offset (o : Offset) : IsClean o.text.toList := by
  rcases o with _ | east
  · simp [Offset.text, isControl]
  · simp only [Offset.text]
    split <;> simp [isControl]

@[simp] theorem isClean_dateTime (d : DateTime) : IsClean d.text.toList := by
  cases d <;> simp [DateTime.text, isControl]

theorem isClean_positional (d : Binary64.DecimalForm) : IsClean d.positional.toList := by
  unfold Binary64.DecimalForm.positional
  split
  · simp [isControl]
  · simp only [String.toList_append, String.toList_ofList, isClean_append]
    have hpadded : ∀ n, IsClean (List.replicate n '0' ++ Nat.toDigits 10 d.digits) := by simp
    exact ⟨⟨(hpadded _).sublist (List.take_subset _ _), by simp [isControl]⟩,
      (hpadded _).sublist (List.drop_subset _ _)⟩

theorem isClean_float (f : Binary64) : IsClean (renderFloat f).toList := by
  rcases f with _ | negative | ⟨negative, mantissa, exponent⟩
  · simp [renderFloat, isControl]
  · simp only [renderFloat, Binary64.positional]
    split <;> simp [isControl]
  · simp only [renderFloat, Binary64.positional, String.toList_append, isClean_append]
    constructor
    · split <;> simp [isControl]
    · split
      · simp [isControl]
      · exact isClean_positional _

theorem isClean_integer (i : Int) : IsClean (toString i).toList := by
  rw [Int.toString_eq_repr]
  cases i <;> simp [Int.repr, isControl]

/-! ## Texts whose only control characters are line feeds -/

/-- Of the control characters the text has none but line feeds, and has these if and only if `P`. -/
def FeedsIff (text : List Char) (P : Prop) : Prop :=
  ∀ c, isControl c = true → (c ∈ text ↔ c = '\n' ∧ P)

namespace FeedsIff

variable {text text' : List Char} {P Q : Prop}

theorem congr (h : FeedsIff text P) (hPQ : P ↔ Q) : FeedsIff text Q := by
  rwa [← hPQ]

theorem of_isClean (h : IsClean text) : FeedsIff text False := by
  intro c hc
  rw [and_false, iff_false]
  intro hmem
  rw [h c hmem] at hc
  cases hc

theorem isClean (h : FeedsIff text P) (hP : ¬ P) : IsClean text := by
  intro c hmem
  by_contra hc
  exact hP ((h c (by simpa using hc)).1 hmem).2

theorem append (h : FeedsIff text P) (h' : FeedsIff text' Q) :
    FeedsIff (text ++ text') (P ∨ Q) := by
  intro c hc
  rw [List.mem_append, h c hc, h' c hc, and_or_left]

theorem append_isClean (h : FeedsIff text P) (h' : IsClean text') : FeedsIff (text ++ text') P :=
  (h.append (of_isClean h')).congr (iff_of_eq (or_false P))

theorem prepend_isClean (h : FeedsIff text' P) (h' : IsClean text) : FeedsIff (text ++ text') P :=
  ((of_isClean h').append h).congr (iff_of_eq (false_or P))

/-- Clean texts around a text change nothing. -/
theorem between (h : FeedsIff text P) {before after : List Char} (hbefore : IsClean before)
    (hafter : IsClean after) : FeedsIff (before ++ text ++ after) P :=
  (h.prepend_isClean hbefore).append_isClean hafter

theorem newline_mem_iff (h : FeedsIff text P) : '\n' ∈ text ↔ P := by
  rw [h '\n' (by decide), and_iff_right rfl]

theorem self (h : FeedsIff text P) : FeedsIff text ('\n' ∈ text) := h.congr h.newline_mem_iff.symm

theorem return_notMem (h : FeedsIff text P) : '\r' ∉ text := by
  rw [h '\r' (by decide)]
  simp

end FeedsIff

/-- A list of texts has the characters of its members, and of its separator. -/
theorem mem_intercalate_iff {c : Char} {sep : String} (hsep : c ∉ sep.toList)
    (texts : List String) :
    c ∈ (String.intercalate sep texts).toList ↔ ∃ text ∈ texts, c ∈ text.toList := by
  rw [String.toList_intercalate]
  induction texts with
  | nil => simp
  | cons text texts ih =>
    cases texts with
    | nil => simp
    | cons next texts =>
      rw [List.map_cons, List.map_cons, List.intercalate_cons_cons, ← List.map_cons,
        List.mem_append, List.mem_append, ih]
      simp [hsep]

theorem feedsIff_intercalate {sep : String} (hsep : IsClean sep.toList) {texts : List String}
    (h : ∀ text ∈ texts, FeedsIff text.toList ('\n' ∈ text.toList)) :
    FeedsIff (String.intercalate sep texts).toList (∃ text ∈ texts, '\n' ∈ text.toList) := by
  intro c hc
  have hnot : c ∉ sep.toList := fun hmem => by
    rw [hsep c hmem] at hc
    cases hc
  rw [mem_intercalate_iff hnot, ← exists_and_left]
  refine exists_congr fun text => ?_
  rw [and_left_comm]
  exact and_congr_right fun htext => h text htext c hc

/-! ## Strings and keys -/

theorem isControl_upperHexDigit (n : Nat) : isControl (upperHexDigit (n % 16)) = false := by
  have hdigit : ∀ k : Fin 16, isControl (upperHexDigit k) = false := by decide
  exact hdigit ⟨n % 16, Nat.mod_lt n (by decide)⟩

theorem isClean_unicodeEscape (c : Char) : IsClean (unicodeEscape c) := by
  simp only [unicodeEscape, isClean_cons, isControl_upperHexDigit, isClean_nil]
  decide

theorem feedsIff_escapeBasic (multiline : Bool) (c : Char) :
    FeedsIff (escapeBasic multiline c) (multiline = true ∧ c = '\n') := by
  by_cases hc : c = '\n'
  · subst hc
    cases multiline with
    | true =>
      intro c _
      simp [escapeBasic]
    | false => exact (FeedsIff.of_isClean (by simp [escapeBasic, isControl])).congr (by simp)
  · refine (FeedsIff.of_isClean ?_).congr (by simp [hc])
    unfold escapeBasic
    rw [if_neg hc]
    split_ifs with _ _ _ _ _ hcontrol
    iterate 5 (· simp [isControl])
    · exact isClean_unicodeEscape c
    · simpa using hcontrol

theorem feedsIff_basicText (multiline : Bool) (allowed run : Nat) (text : List Char) :
    FeedsIff (basicText multiline allowed run text) (multiline = true ∧ '\n' ∈ text) := by
  induction text generalizing run with
  | nil => exact (FeedsIff.of_isClean isClean_nil).congr (by simp)
  | cons c rest ih =>
    unfold basicText
    split_ifs with hquote
    · have hopen : IsClean ['"'] := by simp [isControl]
      exact ((ih (run + 1)).prepend_isClean hopen).congr (by simp [hquote])
    · have hescaped : IsClean ['\\', '"'] := by simp [isControl]
      exact ((ih 0).prepend_isClean hescaped).congr (by simp [hquote])
    · exact ((feedsIff_escapeBasic multiline c).append (ih 0)).congr
        (by simp [← and_or_left, eq_comm])

/-- On one line between double quotes, every control character is escaped. -/
theorem isClean_quoteAs_basic (text : List Char) : IsClean (quoteAs .basic text) := by
  have hquote : IsClean ['"'] := by simp [isControl]
  exact ((feedsIff_basicText false 0 0 text).between hquote hquote).isClean (by simp)

theorem feedsIff_of_any_eq_false {text : List Char}
    (h : (text.any fun c => isControl c && c != '\n') = false) : FeedsIff text ('\n' ∈ text) := by
  intro c hc
  have hother : ∀ c ∈ text, isControl c = true → c = '\n' := by simpa using h
  constructor
  · intro hmem
    obtain rfl := hother c hmem hc
    exact ⟨rfl, hmem⟩
  · rintro ⟨rfl, hmem⟩
    exact hmem

/-- What the form of a string tells of it: only strings without line feeds are on one line, and what
is not escaped has no other control characters. -/
theorem stringForm_spec (text : List Char) :
    match stringForm text with
    | .basic => '\n' ∉ text
    | .literal => FeedsIff text ('\n' ∈ text) ∧ '\n' ∉ text
    | .multilineBasic => True
    | .multilineLiteral => FeedsIff text ('\n' ∈ text) := by
  unfold stringForm
  dsimp only
  split_ifs with hbasic hliteral _ hmultiline hnewline
  · simp only [Bool.and_eq_true, Bool.not_eq_true', List.contains_eq_mem,
      decide_eq_false_iff_not] at hbasic
    exact hbasic.2
  · simp only [Bool.and_eq_true, Bool.not_eq_true', List.contains_eq_mem,
      decide_eq_false_iff_not] at hliteral
    exact ⟨feedsIff_of_any_eq_false hliteral.1.1, hliteral.2⟩
  · trivial
  · simp only [Bool.and_eq_true, Bool.not_eq_true'] at hmultiline
    exact feedsIff_of_any_eq_false hmultiline.1
  · trivial
  · simpa using hnewline

theorem feedsIff_renderString (s : String) :
    FeedsIff (renderString s).toList ('\n' ∈ s.toList) := by
  have hopening : FeedsIff (if s.toList.contains '\n' then ['\n'] else []) ('\n' ∈ s.toList) := by
    by_cases h : '\n' ∈ s.toList
    · intro c _
      simp [h]
    · exact (FeedsIff.of_isClean (by simp [h])).congr (by simp [h])
  have hquote : IsClean ['\''] := by simp [isControl]
  have hdouble : IsClean ['"', '"', '"'] := by simp [isControl]
  have hsingle : IsClean ['\'', '\'', '\''] := by simp [isControl]
  have hform := stringForm_spec s.toList
  unfold renderString
  rw [String.toList_ofList]
  cases h : stringForm s.toList with
  | basic =>
    rw [h] at hform
    exact (FeedsIff.of_isClean (isClean_quoteAs_basic s.toList)).congr (by simp [hform])
  | literal =>
    rw [h] at hform
    exact hform.1.between hquote hquote
  | multilineBasic =>
    exact (((hopening.prepend_isClean hdouble).append
      (feedsIff_basicText true 2 0 s.toList)).append_isClean hdouble).congr (by simp)
  | multilineLiteral =>
    rw [h] at hform
    exact (((hopening.prepend_isClean hsingle).append hform).append_isClean hsingle).congr (by simp)

theorem isClean_renderKey (name : String) : IsClean (renderKey name).toList := by
  have hquoted : IsClean (quoteAs (keyForm name.toList) name.toList) := by
    unfold keyForm
    dsimp only
    split_ifs with _ hliteral
    · exact isClean_quoteAs_basic name.toList
    · have hname : IsClean name.toList := by
        simp only [Bool.and_eq_true, Bool.not_eq_true', List.any_eq_false, Bool.not_eq_true]
          at hliteral
        exact hliteral.1
      simpa [quoteAs, isControl] using hname
    · exact isClean_quoteAs_basic name.toList
  unfold renderKey
  dsimp only
  split_ifs with hbare
  · intro c hc
    simp only [Bool.and_eq_true, List.all_eq_true, Bool.or_eq_true, beq_iff_eq] at hbare
    rcases hbare.2 c hc with (halnum | rfl) | rfl
    · exact isControl_of_isAlphanum halnum
    · rfl
    · rfl
  · rwa [String.toList_ofList]

/-! ## The strings in values -/

namespace Value

mutual

/-- The strings in a value, at whatever depth; keys are none. -/
def strings : Value → List String
  | scalar (.string s) => [s]
  | scalar _ => []
  | array items => stringsAll items
  | table entries => stringsEach entries

def stringsAll : List Value → List String
  | [] => []
  | v :: rest => v.strings ++ stringsAll rest

def stringsEach : List (String × Value) → List String
  | [] => []
  | (_, v) :: rest => v.strings ++ stringsEach rest

end

@[simp] theorem strings_array (items : List Value) :
    (array items).strings = items.flatMap strings := by
  rw [strings]
  induction items with
  | nil => rfl
  | cons v rest ih => rw [stringsAll, ih, List.flatMap_cons]

@[simp] theorem strings_table (entries : List (String × Value)) :
    (table entries).strings = entries.flatMap fun e => e.2.strings := by
  rw [strings]
  induction entries with
  | nil => rfl
  | cons e rest ih => rw [stringsEach, ih, List.flatMap_cons]

theorem render_array (items : List Value) :
    (array items).render = renderItems (items.map render) := by
  rw [render]
  congr 1
  induction items with
  | nil => rfl
  | cons v rest ih => rw [renderAll, ih, List.map_cons]

theorem render_table (entries : List (String × Value)) :
    (table entries).render = renderEntries (entries.map fun e => (e.1, e.2.render)) := by
  rw [render]
  congr 1
  induction entries with
  | nil => rfl
  | cons e rest ih => rw [renderEach, ih, List.map_cons]

end Value

/-! ## Values -/

theorem feedsIff_scalar (s : Scalar) :
    FeedsIff s.render.toList (∃ text, s = .string text ∧ '\n' ∈ text.toList) := by
  cases s with
  | string text => exact (feedsIff_renderString text).congr (by simp)
  | integer i => exact (FeedsIff.of_isClean (isClean_integer i)).congr (by simp)
  | float f => exact (FeedsIff.of_isClean (isClean_float f)).congr (by simp)
  | boolean b =>
    refine (FeedsIff.of_isClean ?_).congr (by simp)
    cases b <;> simp [Scalar.render, isControl]
  | dateTime d => exact (FeedsIff.of_isClean (isClean_dateTime d)).congr (by simp)

theorem feedsIff_renderItems {items : List String}
    (h : ∀ text ∈ items, FeedsIff text.toList ('\n' ∈ text.toList)) :
    FeedsIff (renderItems items).toList (∃ text ∈ items, '\n' ∈ text.toList) := by
  simp only [renderItems, String.toList_append]
  exact (feedsIff_intercalate (by simp [isControl]) h).between (by simp [isControl])
    (by simp [isControl])

theorem feedsIff_renderEntries {entries : List (String × String)}
    (h : ∀ e ∈ entries, FeedsIff e.2.toList ('\n' ∈ e.2.toList)) :
    FeedsIff (renderEntries entries).toList (∃ e ∈ entries, '\n' ∈ e.2.toList) := by
  -- The order of the entries does not matter.
  have hperm := List.mergeSort_perm entries fun a b => !decide (b.1 < a.1)
  simp only [renderEntries, ← hperm.mem_iff] at h ⊢
  generalize entries.mergeSort (fun a b => !decide (b.1 < a.1)) = sorted at h ⊢
  have hentry : ∀ e ∈ sorted,
      FeedsIff (renderKey e.1 ++ " = " ++ e.2).toList ('\n' ∈ e.2.toList) := by
    intro e he
    simp only [String.toList_append]
    exact (h e he).prepend_isClean
      (isClean_append.2 ⟨isClean_renderKey e.1, by simp [isControl]⟩)
  have htexts : FeedsIff
      (String.intercalate ", " (sorted.map fun e => renderKey e.1 ++ " = " ++ e.2)).toList
      (∃ e ∈ sorted, '\n' ∈ e.2.toList) := by
    refine (feedsIff_intercalate (by simp [isControl]) ?_).congr ?_
    · intro text htext
      obtain ⟨e, he, rfl⟩ := List.mem_map.1 htext
      exact (hentry e he).self
    · simp only [List.mem_map, exists_exists_and_eq_and]
      exact exists_congr fun e => and_congr_right fun he => (hentry e he).newline_mem_iff
  cases sorted with
  | nil => exact (FeedsIff.of_isClean (by simp [isControl])).congr (by simp)
  | cons e rest =>
    simp only [Text.toList_braced]
    exact htexts.between (by simp [isControl]) (by simp [isControl])

theorem exists_newline_mem_iff {α : Type} {xs : List α} {text : α → String}
    {strings : α → List String}
    (h : ∀ x ∈ xs, FeedsIff (text x).toList (∃ s ∈ strings x, '\n' ∈ s.toList)) :
    (∃ x ∈ xs, '\n' ∈ (text x).toList) ↔ ∃ s ∈ xs.flatMap strings, '\n' ∈ s.toList := by
  constructor
  · rintro ⟨x, hx, hmem⟩
    obtain ⟨s, hs, hfeed⟩ := (h x hx).newline_mem_iff.1 hmem
    exact ⟨s, List.mem_flatMap.2 ⟨x, hx, hs⟩, hfeed⟩
  · rintro ⟨s, hs, hfeed⟩
    obtain ⟨x, hx, hs⟩ := List.mem_flatMap.1 hs
    exact ⟨x, hx, (h x hx).newline_mem_iff.2 ⟨s, hs, hfeed⟩⟩

namespace Value

mutual

/-- A value is printed with line feeds exactly if one of its strings has some, and with no other
control characters. -/
theorem feedsIff_render :
    (v : Value) → FeedsIff v.render.toList (∃ s ∈ v.strings, '\n' ∈ s.toList)
  | .scalar s => by
    rw [render]
    refine (feedsIff_scalar s).congr ?_
    cases s <;> simp [strings]
  | .array items => by
    have hitems := feedsIff_renderAll items
    rw [render_array, strings_array]
    refine (feedsIff_renderItems (List.forall_mem_map.2 fun v hv => (hitems v hv).self)).congr ?_
    simp only [List.mem_map, exists_exists_and_eq_and]
    exact exists_newline_mem_iff hitems
  | .table entries => by
    have hentries := feedsIff_renderEach entries
    rw [render_table, strings_table]
    refine (feedsIff_renderEntries
      (List.forall_mem_map.2 fun e he => (hentries e he).self)).congr ?_
    simp only [List.mem_map, exists_exists_and_eq_and]
    exact exists_newline_mem_iff hentries

theorem feedsIff_renderAll : (items : List Value) →
    ∀ v ∈ items, FeedsIff v.render.toList (∃ s ∈ v.strings, '\n' ∈ s.toList)
  | [] => nofun
  | v :: rest => List.forall_mem_cons.2 ⟨feedsIff_render v, feedsIff_renderAll rest⟩

theorem feedsIff_renderEach : (entries : List (String × Value)) →
    ∀ e ∈ entries, FeedsIff e.2.render.toList (∃ s ∈ e.2.strings, '\n' ∈ s.toList)
  | [] => nofun
  | (_, v) :: rest => List.forall_mem_cons.2 ⟨feedsIff_render v, feedsIff_renderEach rest⟩

end

/-- A value that is written as a script would write it has the line feeds of its strings. -/
theorem newline_mem_literal_iff (v : Value) :
    '\n' ∈ v.literal.toList ↔ ∃ s ∈ v.strings, '\n' ∈ s.toList := by
  unfold literal
  split
  · simp [strings]
  · next d =>
    have hdate : '\n' ∉ d.text.toList := fun h => absurd (isClean_dateTime d _ h) (by decide)
    rw [(feedsIff_render _).newline_mem_iff, strings_table]
    simp [strings, hdate]
  · exact (feedsIff_render v).newline_mem_iff

/-- It does not end with a carriage return: a string ends with its quote. -/
theorem getLast?_literal_ne (v : Value) : v.literal.toList.getLast? ≠ some '\r' := by
  unfold literal
  split
  · rw [String.toList_append, List.getLast?_append]
    simp
  · exact fun h => (feedsIff_render _).return_notMem (List.mem_of_getLast? h)
  · exact fun h => (feedsIff_render v).return_notMem (List.mem_of_getLast? h)

end Value

end WorkflowOutline.Toml
