import Mathlib
import WorkflowOutline.Fixture.Discovery
import WorkflowOutline.Proofs.FileTree.Listings

/-!
# What is discovered

`IsDiscovery` says what the fixtures of a tree are, without any search: the files whose names end as
those of fixtures do, each once, in the order of their places. This determines a list
(`IsDiscovery.unique`), and `discover` finds it in every tree without repeated names
(`isDiscovery_discover`). So in whatever order directories list their entries, the same fixtures are
found in the same order (`discover_of_relisted`).

Places are compared name by name (`placeLE_iff`), which is not the order of the paths as texts:
everything below a directory `a` comes before a file `a.test.toml`.
-/

namespace WorkflowOutline.Fixture

open FileTree (HasFile IsProper Relisted)

/-- The list of the fixtures of a tree: the files with names of fixtures, at whatever depth, in
strictly increasing order of their places, which are compared name by name. -/
structure IsDiscovery (t : FileTree) (found : List (Place × FileContent)) : Prop where
  mem_iff : ∀ place content, (place, content) ∈ found ↔
    t.HasFile place content ∧ ∃ directories stem, place = directories ++ [stem ++ nameEnd]
  increasing : found.Pairwise fun f g => List.Lex (· < ·) f.1 g.1

variable {t u : FileTree} {found found' : List (Place × FileContent)}

/-! ## Names of fixtures -/

theorem isFixtureName_iff {name : String} :
    isFixtureName name = true ↔ ∃ stem, name = stem ++ nameEnd := by
  unfold isFixtureName
  rw [List.isSuffixOf_iff_suffix]
  constructor
  · rintro ⟨stem, h⟩
    refine ⟨String.ofList stem, String.toList_inj.1 ?_⟩
    rw [String.toList_append, String.toList_ofList, h]
  · rintro ⟨stem, rfl⟩
    exact ⟨stem.toList, String.toList_append.symm⟩

theorem isFixturePlace_iff {place : Place} :
    isFixturePlace place = true ↔
      ∃ directories stem, place = directories ++ [stem ++ nameEnd] := by
  unfold isFixturePlace
  rcases List.eq_nil_or_concat' place with rfl | ⟨directories, name, rfl⟩
  · simp
  · rw [List.getLast?_concat, Option.map_some, Option.getD_some, isFixtureName_iff]
    constructor
    · rintro ⟨stem, rfl⟩
      exact ⟨directories, stem, rfl⟩
    · rintro ⟨directories', stem, h⟩
      exact ⟨stem, (List.append_singleton_inj.1 h).2⟩

/-! ## The order of places -/

theorem placeLE_iff {p q : Place} : placeLE p q = true ↔ p ≤ q := by
  unfold placeLE
  rw [Bool.not_eq_true', ← Bool.not_eq_true, List.lex_eq_true_iff_lex]
  simp only [decide_eq_true_eq]
  exact not_lt (a := q)

theorem pairwise_discover (t : FileTree) :
    (discover t).Pairwise fun f g => f.1 ≤ g.1 := by
  have hsorted : (discover t).Pairwise fun f g => placeLE f.1 g.1 = true := by
    refine List.pairwise_mergeSort (fun f g h hfg hgh => ?_) (fun f g => ?_) _
    · exact placeLE_iff.2 ((placeLE_iff.1 hfg).trans (placeLE_iff.1 hgh))
    · rw [Bool.or_eq_true, placeLE_iff, placeLE_iff]
      exact le_total f.1 g.1
  exact hsorted.imp placeLE_iff.1

/-! ## Discovery -/

theorem IsDiscovery.nodup (h : IsDiscovery t found) : found.Nodup := by
  refine h.increasing.imp ?_
  rintro f _ hlt rfl
  exact lt_irrefl f.1 hlt

/-- There is one such list. -/
theorem IsDiscovery.unique (h : IsDiscovery t found) (h' : IsDiscovery t found') :
    found = found' := by
  refine List.Perm.eq_of_pairwise (fun f g _ _ hfg hgf => ?_) h.increasing h'.increasing ?_
  · exact absurd hgf (lt_asymm (a := f.1) hfg)
  · refine (List.perm_ext_iff_of_nodup h.nodup h'.nodup).2 ?_
    rintro ⟨place, content⟩
    rw [h.mem_iff, h'.mem_iff]

/-- What is there does not depend on the order of listings. -/
theorem IsDiscovery.relisted (h : IsDiscovery t found) (htu : t.Relisted u) :
    IsDiscovery u found where
  mem_iff place content := by
    rw [h.mem_iff, ← FileTree.mem_files_iff, ← FileTree.mem_files_iff, htu.perm_files.mem_iff]
  increasing := h.increasing

theorem isDiscovery_discover (ht : (t.files.map Prod.fst).Nodup) :
    IsDiscovery t (discover t) where
  mem_iff place content := by
    unfold discover
    rw [List.mem_mergeSort, List.mem_filter, FileTree.mem_files_iff, isFixturePlace_iff]
  increasing := by
    have hperm : ((discover t).map Prod.fst).Perm
        ((t.files.filter fun f => isFixturePlace f.1).map Prod.fst) :=
      (List.mergeSort_perm _ _).map _
    have hnodup : ((discover t).map Prod.fst).Nodup :=
      hperm.nodup_iff.2 (ht.sublist (List.filter_sublist.map _))
    exact ((pairwise_discover t).and (List.pairwise_map.1 hnodup)).imp fun h =>
      lt_of_le_of_ne h.1 h.2

/-- In whatever order directories list their entries, the fixtures of the tree are found, each once
and in the order of their places; so a path stands for the same files. -/
theorem discover_of_relisted (ht : t.IsProper) (htu : t.Relisted u) :
    discover u = discover t ∧ IsDiscovery t (discover t) ∧
      ∀ path, filesAt path (.ok u) = filesAt path (.ok t) := by
  have hfound := isDiscovery_discover ht.nodup_places
  have hrelisted : (u.files.map Prod.fst).Nodup :=
    (htu.perm_files.map Prod.fst).nodup_iff.1 ht.nodup_places
  have heq := (isDiscovery_discover hrelisted).unique (hfound.relisted htu)
  refine ⟨heq, hfound, fun path => ?_⟩
  rcases htu.shape with ⟨content, rfl, rfl⟩ | ⟨es, fs, rfl, rfl⟩
  · rfl
  · simp only [filesAt, heq]

/-! A directory and a fixture of similar names, and a directory with the name of a fixture. -/

def nestedEntries : List (String × FileTree) :=
  [(".test.toml", .file (.error .notText)), ("z.test.toml", .file (.ok "")),
    ("z.toml", .file (.ok ""))]

def nested : FileTree :=
  .directory [("a", .directory nestedEntries), ("a.test.toml", .file (.ok "")),
    ("b.test.toml", .directory [("test.toml", .file (.ok ""))])]

def nestedReversed : FileTree :=
  .directory [("b.test.toml", .directory [("test.toml", .file (.ok ""))]),
    ("a.test.toml", .file (.ok "")), ("a", .directory nestedEntries.reverse)]

theorem relisted_nestedReversed : nested.Relisted nestedReversed := by
  have hinside := Relisted.inside []
    [("a.test.toml", .file (.ok "")), ("b.test.toml", .directory [("test.toml", .file (.ok ""))])]
    "a" (.entries (List.reverse_perm nestedEntries).symm)
  exact hinside.trans (.entries (List.reverse_perm _).symm)

theorem discover_of_relisted_nested :
    nested.IsProper ∧ nested.Relisted nestedReversed ∧
      discover nestedReversed = [(["a", ".test.toml"], .error .notText),
        (["a", "z.test.toml"], .ok ""), (["a.test.toml"], .ok "")] ∧
      IsDiscovery nested (discover nested) := by
  have hproper : nested.IsProper := by
    simp [nested, nestedEntries, FileTree.isProper_directory_iff, IsProper.file]
  obtain ⟨heq, hfound, -⟩ := discover_of_relisted hproper relisted_nestedReversed
  refine ⟨hproper, relisted_nestedReversed, ?_, hfound⟩
  rw [heq]
  cbv

end WorkflowOutline.Fixture
