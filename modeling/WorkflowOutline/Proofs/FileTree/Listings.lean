import Mathlib.Data.List.Nodup
import WorkflowOutline.FileTree.Path

/-!
# Files of a tree, whatever the order of its listings

A system lists the entries of a directory in any order. `FileTree.Relisted` holds of trees that
differ in these orders only, and `FileTree.HasFile` says of a place what file is there, without any
order. The files of a tree are exactly those that it has (`mem_files_iff`); a relisted tree has the
same ones in another order (`Relisted.perm_files`); and where no directory has two entries of one
name (`FileTree.IsProper`), every place occurs once (`IsProper.nodup_places`). What a path leads to
in such a tree is of that sort as well (`IsProper.find`).
-/

namespace WorkflowOutline.FileTree

/-- The file at a place of a tree. -/
inductive HasFile : FileTree → Place → FileContent → Prop
  | here (content : FileContent) : HasFile (file content) [] content
  | inside {entries : List (String × FileTree)} {name : String} {t : FileTree} {place : Place}
      {content : FileContent} (mem : (name, t) ∈ entries) (file : HasFile t place content) :
      HasFile (directory entries) (name :: place) content

/-- No directory has two entries of one name. -/
inductive IsProper : FileTree → Prop
  | file (content : FileContent) : IsProper (file content)
  | directory {entries : List (String × FileTree)} (names : (entries.map Prod.fst).Nodup)
      (below : ∀ e ∈ entries, IsProper e.2) : IsProper (directory entries)

/-- The same tree, whose directories list their entries in some other order. -/
inductive Relisted : FileTree → FileTree → Prop
  | refl (t : FileTree) : Relisted t t
  | trans {t u v : FileTree} (first : Relisted t u) (second : Relisted u v) : Relisted t v
  | entries {es fs : List (String × FileTree)} (perm : es.Perm fs) :
      Relisted (directory es) (directory fs)
  | inside (before after : List (String × FileTree)) (name : String) {t u : FileTree}
      (entry : Relisted t u) :
      Relisted (directory (before ++ (name, t) :: after))
        (directory (before ++ (name, u) :: after))

/-- A tree is a file, or a directory whose entries are trees. -/
theorem induct {motive : FileTree → Prop} (file : ∀ content, motive (.file content))
    (directory : ∀ entries, (∀ e ∈ entries, motive e.2) → motive (.directory entries)) :
    ∀ t, motive t
  | .file content => file content
  | .directory entries => directory entries fun e he =>
      have hlt : sizeOf e.2 < sizeOf (FileTree.directory entries) := by
        have hmem := List.sizeOf_lt_of_mem he
        obtain ⟨name, t⟩ := e
        simp only [Prod.mk.sizeOf_spec, FileTree.directory.sizeOf_spec] at hmem ⊢
        omega
      induct file directory e.2
termination_by t => sizeOf t
decreasing_by exact hlt

variable {t u : FileTree} {entries : List (String × FileTree)} {place : Place}
  {content : FileContent}

/-! ## The files of a tree -/

theorem files_directory (entries : List (String × FileTree)) :
    (directory entries).files
      = entries.flatMap fun e => e.2.files.map fun f => (e.1 :: f.1, f.2) := by
  rw [files, entryFiles_eq_flatMap]

theorem mem_files_iff : (place, content) ∈ t.files ↔ t.HasFile place content := by
  induction t using induct generalizing place with
  | file c =>
    rw [files, List.mem_singleton, Prod.mk.injEq]
    constructor
    · rintro ⟨rfl, rfl⟩
      exact .here _
    · rintro ⟨⟩
      exact ⟨rfl, rfl⟩
  | directory entries ih =>
    rw [files_directory, List.mem_flatMap]
    constructor
    · rintro ⟨⟨name, t⟩, he, hf⟩
      obtain ⟨⟨below, c⟩, hbelow, heq⟩ := List.mem_map.1 hf
      obtain ⟨rfl, rfl⟩ := Prod.mk.inj heq
      exact .inside he ((ih _ he).1 hbelow)
    · rintro (_ | ⟨he, hfile⟩)
      exact ⟨_, he, List.mem_map.2 ⟨_, (ih _ he).2 hfile, rfl⟩⟩

theorem Relisted.perm_files (h : t.Relisted u) : t.files.Perm u.files := by
  induction h with
  | refl t => rfl
  | trans first second ih₁ ih₂ => exact ih₁.trans ih₂
  | entries perm =>
    rw [files_directory, files_directory]
    exact perm.flatMap_right _
  | inside before after name entry ih =>
    rw [files_directory, files_directory, List.flatMap_append, List.flatMap_append,
      List.flatMap_cons, List.flatMap_cons]
    exact ((ih.map _).append_right _).append_left _

/-- A file stays a file, and a directory a directory. -/
theorem Relisted.shape (h : t.Relisted u) :
    (∃ content, t = file content ∧ u = file content) ∨
      ∃ es fs, t = directory es ∧ u = directory fs := by
  induction h with
  | refl t => cases t <;> simp
  | trans first second ih₁ ih₂ =>
    rcases ih₁ with ⟨_, rfl, rfl⟩ | ⟨_, _, rfl, rfl⟩ <;> simpa using ih₂
  | entries perm => exact .inr ⟨_, _, rfl, rfl⟩
  | inside before after name entry ih => exact .inr ⟨_, _, rfl, rfl⟩

theorem IsProper.nodup_places (h : t.IsProper) : (t.files.map Prod.fst).Nodup := by
  induction h with
  | file content => rw [files]; exact List.nodup_singleton _
  | directory names below ih =>
    rename_i entries
    have hplaces : ∀ e : String × FileTree,
        (e.2.files.map fun f => (e.1 :: f.1, f.2)).map Prod.fst =
          (e.2.files.map Prod.fst).map (e.1 :: ·) := by
      intro e
      rw [List.map_map, List.map_map]
      rfl
    rw [files_directory, List.map_flatMap, List.nodup_flatMap]
    simp only [hplaces]
    refine ⟨fun e he => (ih e he).map (List.cons_injective), ?_⟩
    -- Places below different entries start with different names.
    refine (List.pairwise_map.1 names).imp fun hne place hleft hright => ?_
    obtain ⟨p, -, rfl⟩ := List.mem_map.1 hleft
    obtain ⟨q, -, heq⟩ := List.mem_map.1 hright
    exact hne (List.cons.inj heq).1.symm

theorem isProper_directory_iff :
    (directory entries).IsProper ↔ (entries.map Prod.fst).Nodup ∧ ∀ e ∈ entries, e.2.IsProper :=
  ⟨fun | .directory names below => ⟨names, below⟩, fun h => .directory h.1 h.2⟩

/-! ## Trees that paths lead to -/

theorem IsProper.walk {above : List FileTree} {here : FileTree} (habove : ∀ t ∈ above, t.IsProper)
    (hhere : here.IsProper) (steps : List String) (h : here.walk above steps = .ok t) :
    t.IsProper := by
  induction steps generalizing above here with
  | nil =>
    cases h
    exact hhere
  | cons step rest ih =>
    rcases here with content | entries
    · cases h
    rw [FileTree.walk.eq_def] at h
    dsimp only at h
    split at h
    · exact ih habove hhere h
    split at h
    · rcases above with _ | ⟨parent, above⟩
      · exact ih (List.forall_mem_nil _) hhere h
      · obtain ⟨hparent, habove⟩ := List.forall_mem_cons.1 habove
        exact ih habove hparent h
    split at h
    · cases h
    split at h
    · cases h
    · next u hlookup =>
      obtain ⟨before, after, rfl, -⟩ := List.lookup_eq_some_iff.1 hlookup
      have hentry : u.IsProper := (isProper_directory_iff.1 hhere).2 (step, u)
        (List.mem_append_right _ List.mem_cons_self)
      exact ih (List.forall_mem_cons.2 ⟨hhere, habove⟩) hentry h

/-- What a path leads to in a proper tree is proper as well. -/
theorem IsProper.find {fs : FileSystem} {path : String} (h : fs.root.IsProper)
    (hfind : fs.find path = .ok t) : t.IsProper := by
  unfold FileSystem.find at hfind
  split at hfind
  · cases hfind
  split at hfind
  · cases hfind
  split at hfind
  all_goals exact h.walk (List.forall_mem_nil _) _ hfind

end WorkflowOutline.FileTree
