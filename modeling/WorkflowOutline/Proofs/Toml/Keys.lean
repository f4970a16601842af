import Mathlib.Data.List.Nodup
import Mathlib.Data.Option.Basic
import WorkflowOutline.Toml.Document

/-!
# Keys of documents

No table of a document has a key twice, at whatever depth (`isProperTable_of_read`): inline tables,
lines and sections all go through operations on tables that fail rather than name a key again.
`Reader.Yields` carries this through the readers, which know nothing of keys.
-/

namespace WorkflowOutline.Toml

/-! ## Tables without repeated keys -/

/-- No table in a value has a key twice. -/
inductive Node.IsProper : Node → Prop
  | scalar (span : Span) (s : Scalar) : IsProper (.scalar span s)
  | array {span : Span} {form : ArrayForm} {items : List Node}
      (members : ∀ n ∈ items, IsProper n) : IsProper (.array span form items)
  | table {span : Span} {form : TableForm} {entries : List (String × Node)}
      (keys : (entries.map Prod.fst).Nodup) (values : ∀ e ∈ entries, IsProper e.2) :
      IsProper (.table span form entries)

/-- No key is named twice, neither here nor below. -/
structure IsProperTable (entries : Entries) : Prop where
  keys : (entries.map Prod.fst).Nodup
  values : ∀ e ∈ entries, e.2.IsProper

variable {entries entries' : Entries} {key : String} {n : Node}

theorem isProper_table_iff {span : Span} {form : TableForm} :
    (Node.table span form entries).IsProper ↔ IsProperTable entries :=
  ⟨fun | .table keys values => ⟨keys, values⟩, fun h => .table h.keys h.values⟩

theorem isProper_array_iff {span : Span} {form : ArrayForm} {items : List Node} :
    (Node.array span form items).IsProper ↔ ∀ n ∈ items, n.IsProper :=
  ⟨fun | .array members => members, .array⟩

namespace IsProperTable

theorem nil : IsProperTable [] := ⟨List.nodup_nil, nofun⟩

theorem of_lookup (h : IsProperTable entries) (hlookup : entries.lookup key = some n) :
    n.IsProper := by
  obtain ⟨before, after, rfl, -⟩ := List.lookup_eq_some_iff.1 hlookup
  exact h.values (key, n) (List.mem_append_right _ List.mem_cons_self)

theorem concat (h : IsProperTable entries) (hfree : key ∉ entries.map Prod.fst)
    (hn : n.IsProper) : IsProperTable (entries ++ [(key, n)]) where
  keys := by
    rw [List.map_append]
    exact List.nodup_append_comm.1 (List.nodup_cons.2 ⟨hfree, h.keys⟩)
  values := by
    intro e he
    rcases List.mem_append.1 he with he | he
    · exact h.values e he
    · obtain rfl := List.mem_singleton.1 he
      exact hn

theorem concat_of_lookup (h : IsProperTable entries) (hfree : entries.lookup key = none)
    (hn : n.IsProper) : IsProperTable (entries ++ [(key, n)]) := by
  refine h.concat (fun hkey => ?_) hn
  obtain ⟨e, he, rfl⟩ := List.mem_map.1 hkey
  exact bne_iff_ne.1 (List.lookup_eq_none_iff.1 hfree e he) rfl

theorem replace (h : IsProperTable entries) (hn : n.IsProper) :
    IsProperTable (Table.replace entries key n) where
  keys := by
    have hkeys : (Table.replace entries key n).map Prod.fst = entries.map Prod.fst := by
      rw [Table.replace, List.map_map]
      refine List.map_congr_left fun e _ => ?_
      by_cases he : e.1 = key <;> simp [he]
    rw [hkeys]
    exact h.keys
  values := by
    intro e he
    obtain ⟨e', he', rfl⟩ := List.mem_map.1 he
    split
    · exact hn
    · exact h.values e' he'

/-- A table that is moved to the end. -/
theorem moved (h : IsProperTable entries) (hn : n.IsProper) :
    IsProperTable (entries.filter (·.1 != key) ++ [(key, n)]) := by
  refine concat ⟨h.keys.sublist (List.filter_sublist.map _),
    fun e he => h.values e (List.mem_of_mem_filter he)⟩ (fun hkey => ?_) hn
  obtain ⟨e, he, rfl⟩ := List.mem_map.1 hkey
  simpa using (List.mem_filter.1 he).2

end IsProperTable

/-! ## Filling tables -/

namespace Table

variable {change : Content → Option Entries}

theorem isProperTable_updateAt (viaDots : Bool)
    (hchange : ∀ form es es', IsProperTable es → change (form, es) = some es' →
      IsProperTable es') (path : List Reader.KeyPart) {form : TableForm}
    (h : IsProperTable entries)
    (hupdate : updateAt viaDots change path (form, entries) = some entries') :
    IsProperTable entries' := by
  -- On the path: what it enters stands in a proper table, and is proper for that reason.
  induction path generalizing form entries entries' with
  | nil => exact hchange form entries entries' h hupdate
  | cons key path ih =>
    rw [updateAt] at hupdate
    split at hupdate
    · next hfree =>
      obtain ⟨inner, hinner, heq⟩ := Option.bind_eq_some_iff.1 hupdate
      cases heq
      exact h.concat_of_lookup hfree (isProper_table_iff.2 (ih .nil hinner))
    · next hlookup =>
      split at hupdate
      · cases hupdate
      · obtain ⟨inner, hinner, heq⟩ := Option.bind_eq_some_iff.1 hupdate
        cases heq
        have htable := isProper_table_iff.1 (h.of_lookup hlookup)
        exact h.replace (isProper_table_iff.2 (ih htable hinner))
    · next items hlookup =>
      have hitems := isProper_array_iff.1 (h.of_lookup hlookup)
      split at hupdate
      · next hlast =>
        obtain ⟨inner, hinner, heq⟩ := Option.bind_eq_some_iff.1 hupdate
        cases heq
        have htable := isProper_table_iff.1 (hitems _ (List.mem_of_getLast? hlast))
        refine h.replace (isProper_array_iff.2 fun n hn => ?_)
        rcases List.mem_append.1 hn with hn | hn
        · exact hitems n ((List.dropLast_sublist items).subset hn)
        · obtain rfl := List.mem_singleton.1 hn
          exact isProper_table_iff.2 (ih htable hinner)
      · cases hupdate
    · cases hupdate

theorem isProperTable_insertNew {k : Reader.KeyPart} (h : IsProperTable entries) (hn : n.IsProper)
    (hinsert : insertNew k n entries = some entries') : IsProperTable entries' := by
  unfold insertNew at hinsert
  split at hinsert
  · cases hinsert
  · next hfree =>
    cases hinsert
    exact h.concat_of_lookup (Option.not_isSome_iff_eq_none.1 hfree) hn

theorem isProperTable_insert {path : List Reader.KeyPart} {k : Reader.KeyPart}
    (h : IsProperTable entries) (hn : n.IsProper)
    (hinsert : insert entries path k n = some entries') : IsProperTable entries' := by
  unfold insert at hinsert
  split at hinsert
  · exact isProperTable_insertNew h hn hinsert
  · refine isProperTable_updateAt true (fun form es es' hes hchange => ?_) path h hinsert
    dsimp only at hchange
    split at hchange
    · exact isProperTable_insertNew hes hn hchange
    · cases hchange

theorem isProperTable_insertLines {lines : List Line} (h : IsProperTable entries)
    (hlines : ∀ line ∈ lines, line.value.IsProper)
    (hinsert : insertLines entries lines = some entries') : IsProperTable entries' := by
  unfold insertLines at hinsert
  induction lines generalizing entries with
  | nil =>
    cases hinsert
    exact h
  | cons line lines ih =>
    obtain ⟨hline, hlines⟩ := List.forall_mem_cons.1 hlines
    rw [List.foldlM_cons] at hinsert
    obtain ⟨inserted, hfirst, hrest⟩ := Option.bind_eq_some_iff.1 hinsert
    exact ih (isProperTable_insert h hline hfirst) hlines hrest

theorem isProperTable_place {s : Section} (h : IsProperTable entries)
    (hlines : ∀ line ∈ s.lines, line.value.IsProper) (hplace : s.place entries = some entries') :
    IsProperTable entries' := by
  unfold Section.place at hplace
  dsimp only at hplace
  split at hplace
  · obtain ⟨inner, hinner, hplace⟩ := Option.bind_eq_some_iff.1 hplace
    have htable : (Node.table s.span .header inner).IsProper :=
      isProper_table_iff.2 (isProperTable_insertLines .nil hlines hinner)
    split at hplace
    · next hfree =>
      cases hplace
      refine h.concat_of_lookup hfree (isProper_array_iff.2 fun n hn => ?_)
      obtain rfl := List.mem_singleton.1 hn
      exact htable
    · next hlookup =>
      cases hplace
      refine h.replace (isProper_array_iff.2 fun n hn => ?_)
      rcases List.mem_append.1 hn with hn | hn
      · exact isProper_array_iff.1 (h.of_lookup hlookup) n hn
      · obtain rfl := List.mem_singleton.1 hn
        exact htable
    · cases hplace
  · split at hplace
    · next hfree =>
      obtain ⟨inner, hinner, heq⟩ := Option.bind_eq_some_iff.1 hplace
      cases heq
      exact h.concat_of_lookup hfree
        (isProper_table_iff.2 (isProperTable_insertLines .nil hlines hinner))
    · next hlookup =>
      obtain ⟨inner, hinner, heq⟩ := Option.bind_eq_some_iff.1 hplace
      cases heq
      have htable := isProper_table_iff.1 (h.of_lookup hlookup)
      exact h.moved (isProper_table_iff.2 (isProperTable_insertLines htable hlines hinner))
    · cases hplace

theorem isProperTable_addSection {s : Section} (h : IsProperTable entries)
    (hlines : ∀ line ∈ s.lines, line.value.IsProper)
    (hadd : addSection entries s = some entries') : IsProperTable entries' :=
  isProperTable_updateAt false (fun _ _ _ hes hplace => isProperTable_place hes hlines hplace) _ h
    hadd

theorem isProperTable_addSections {sections : List Section} (h : IsProperTable entries)
    (hlines : ∀ s ∈ sections, ∀ line ∈ s.lines, line.value.IsProper)
    (hadd : sections.foldlM addSection entries = some entries') : IsProperTable entries' := by
  induction sections generalizing entries with
  | nil =>
    cases hadd
    exact h
  | cons s sections ih =>
    obtain ⟨hs, hsections⟩ := List.forall_mem_cons.1 hlines
    rw [List.foldlM_cons] at hadd
    obtain ⟨added, hfirst, hrest⟩ := Option.bind_eq_some_iff.1 hadd
    exact ih (isProperTable_addSection h hs hfirst) hsections hrest

end Table

/-! ## What readers yield -/

namespace Reader

variable {α β : Type} {P : α → Prop} {Q : β → Prop}

/-- Whatever the reader reads satisfies `P`. -/
def Yields (r : Reader α) (P : α → Prop) : Prop := ∀ c a c', r c = some (a, c') → P a

theorem yields_true (r : Reader α) : r.Yields fun _ => True := fun _ _ _ _ => trivial

theorem yields_pure {a : α} (h : P a) : Yields (pure a) P := by
  rintro c _ _ ⟨⟩
  exact h

theorem yields_failure : Yields (failure : Reader α) P := nofun

theorem Yields.bind {r : Reader α} {f : α → Reader β} (hr : r.Yields P)
    (hf : ∀ a, P a → (f a).Yields Q) : (r >>= f).Yields Q := by
  intro c b c' h
  obtain ⟨⟨a, c₁⟩, ha, hb⟩ := Option.bind_eq_some_iff.1 h
  exact hf a (hr c a c₁ ha) c₁ b c' hb

/-- Nothing need be known of what is read first. -/
theorem yields_bind {r : Reader α} {f : α → Reader β} (hf : ∀ a, (f a).Yields Q) :
    (r >>= f).Yields Q :=
  (yields_true r).bind fun a _ => hf a

theorem Yields.map {r : Reader α} {f : α → β} (hr : r.Yields fun a => Q (f a)) :
    (f <$> r).Yields Q := by
  intro c b c' h
  obtain ⟨⟨a, c₁⟩, ha, heq⟩ := Option.bind_eq_some_iff.1 h
  cases heq
  exact hr c a c' ha

theorem Yields.orElse {r s : Reader α} (hr : r.Yields P) (hs : s.Yields P) :
    (r <|> s).Yields P := by
  intro c a c' h
  have hcases : (r c <|> s c) = some (a, c') := h
  rcases (Option.orElse_eq_some ..).1 hcases with ha | ⟨-, ha⟩
  · exact hr c a c' ha
  · exact hs c a c' ha

theorem Yields.optionally {r : Reader α} (hr : r.Yields P) :
    (optionally r).Yields fun a => ∀ b ∈ a, P b := by
  refine Yields.orElse (Yields.map ?_) (yields_pure nofun)
  intro c a c' h b hb
  obtain rfl := Option.some_inj.1 hb
  exact hr c _ c' h

theorem Yields.upTo {r : Reader α} (hr : r.Yields P) (n : Nat) :
    (upTo n r).Yields fun as => ∀ a ∈ as, P a := by
  induction n with
  | zero => exact yields_pure (List.forall_mem_nil P)
  | succ n ih =>
    refine hr.optionally.bind fun a ha => ?_
    rcases a with _ | a
    · exact yields_pure (List.forall_mem_nil P)
    · exact ih.bind fun rest hrest => yields_pure (List.forall_mem_cons.2 ⟨ha a rfl, hrest⟩)

theorem Yields.many {r : Reader α} (hr : r.Yields P) :
    (many r).Yields fun as => ∀ a ∈ as, P a :=
  yields_bind fun _ => hr.upTo _

theorem Yields.separated {separator : Reader β} {r : Reader α} (hr : r.Yields P) :
    (separated separator r).Yields fun as => ∀ a ∈ as, P a := by
  have hnext : (separator *> r).Yields P := by
    rw [seqRight_eq_bind]
    exact yields_bind fun _ => hr
  exact hr.bind fun first hfirst => hnext.many.bind fun rest hrest =>
    yields_pure (List.forall_mem_cons.2 ⟨hfirst, hrest⟩)

theorem Yields.spanned {r : Reader α} (hr : r.Yields P) : (spanned r).Yields fun p => P p.2 :=
  yields_bind fun _ => hr.bind fun _ ha => yields_bind fun _ => yields_pure ha

/-! ## Reading documents -/

section Values

variable {item : Reader Node} (hitem : item.Yields Node.IsProper)

include hitem

theorem yields_arrayItems : (arrayItems item).Yields fun items => ∀ n ∈ items, n.IsProper := by
  unfold arrayItems
  refine yields_bind fun _ => yields_bind fun _ => hitem.separated.optionally.bind ?_
  intro items hitems
  have hmembers : ∀ n ∈ items.getD [], n.IsProper := by
    rcases items with _ | items
    · exact List.forall_mem_nil _
    · exact hitems items rfl
  refine yields_bind fun _ => ?_
  dsimp only
  split
  · exact yields_bind fun _ => yields_bind fun _ => yields_bind fun _ => yields_pure hmembers
  · exact yields_bind fun _ => yields_bind fun _ => yields_bind fun _ => yields_pure hmembers

theorem yields_line : (line item).Yields fun l => l.value.IsProper := by
  unfold line
  refine yields_bind fun ⟨path, key⟩ => yields_bind fun _ => yields_bind fun _ => ?_
  exact hitem.bind fun n hn => yields_bind fun _ => yields_pure hn

theorem yields_inlineTable : (inlineTable item).Yields IsProperTable := by
  unfold inlineTable
  refine yields_bind fun _ => yields_bind fun _ => (yields_line hitem).separated.optionally.bind ?_
  intro lines hlines
  have hvalues : ∀ l ∈ lines.getD [], l.value.IsProper := by
    rcases lines with _ | lines
    · exact List.forall_mem_nil _
    · exact hlines lines rfl
  refine yields_bind fun _ => ?_
  split
  · next hinsert => exact yields_pure (Table.isProperTable_insertLines .nil hvalues hinsert)
  · exact yields_failure

end Values

theorem yields_value (depth : Nat) : (value depth).Yields Node.IsProper := by
  have hscalar : value.scalarNode.Yields Node.IsProper :=
    Yields.map fun _ p _ _ => .scalar p.1 p.2
  induction depth with
  | zero => exact hscalar
  | succ depth ih =>
    rw [value]
    have harray : (spanned (arrayItems (value depth))).Yields fun p => ∀ n ∈ p.2, n.IsProper :=
      (yields_arrayItems ih).spanned
    have htable : (spanned (inlineTable (value depth))).Yields fun p => IsProperTable p.2 :=
      (yields_inlineTable ih).spanned
    refine hscalar.orElse (Yields.orElse (Yields.map ?_) (Yields.map ?_))
    · exact fun c p c' h => isProper_array_iff.2 (harray c p c' h)
    · exact fun c p c' h => isProper_table_iff.2 (htable c p c' h)

theorem yields_lines : lines.Yields fun ls => ∀ l ∈ ls, l.value.IsProper := by
  unfold lines
  refine Yields.many (yields_bind fun _ => (yields_line (yields_value _)).bind fun l hl => ?_)
  exact yields_bind fun _ => yields_pure hl

theorem yields_tableSection :
    tableSection.Yields fun s => ∀ l ∈ s.lines, l.value.IsProper := by
  unfold tableSection
  exact yields_bind fun _ => yields_bind fun _ => yields_lines.bind fun _ hls => yields_pure hls

theorem yields_document : document.Yields fun p =>
    (∀ l ∈ p.1, l.value.IsProper) ∧ ∀ s ∈ p.2, ∀ l ∈ s.lines, l.value.IsProper := by
  unfold document
  refine yields_lines.bind fun first hfirst => yields_tableSection.many.bind fun ss hss => ?_
  exact yields_bind fun _ => yields_bind fun _ => yields_pure ⟨hfirst, hss⟩

theorem Yields.readAll {r : Reader α} (hr : r.Yields P) {text : List Char} {offset : Nat} {a : α}
    (h : r.readAll text offset = some a) : P a := by
  unfold Reader.readAll at h
  rw [Option.map_eq_some_iff] at h
  obtain ⟨⟨a, c⟩, h, rfl⟩ := h
  have hend : (r <* atEnd).Yields P := by
    rw [seqLeft_eq_bind]
    exact hr.bind fun a ha => yields_bind fun _ => yields_pure ha
  exact hend _ a c h

end Reader

theorem isProperTable_of_readAll {chars : List Char} {offset : Nat}
    (h : (Reader.document.readAll chars offset >>= fun p =>
      Table.insertLines [] p.1 >>= fun root => p.2.foldlM Table.addSection root) = some entries) :
    IsProperTable entries := by
  obtain ⟨⟨lines, sections⟩, hdocument, h⟩ := Option.bind_eq_some_iff.1 h
  obtain ⟨root, hroot, hsections⟩ := Option.bind_eq_some_iff.1 h
  obtain ⟨hlines, hvalues⟩ := Reader.yields_document.readAll hdocument
  exact Table.isProperTable_addSections (Table.isProperTable_insertLines .nil hlines hroot) hvalues
    hsections

/-- No table of a document has a key twice. -/
theorem isProperTable_of_read {text : String} (h : Document.read text = some entries) :
    IsProperTable entries := by
  unfold Document.read at h
  dsimp only at h
  split at h
  · split at h <;> exact isProperTable_of_readAll h
  · exact isProperTable_of_readAll h

end WorkflowOutline.Toml
