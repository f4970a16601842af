import WorkflowOutline.FileTree.Path

/-!
# Finding fixtures

A fixture is a file whose name ends in `.test.toml`, however deep it lies; directories are searched
whatever their names. `discover` lists the fixtures of a tree in the order of their places, in which
everything below a directory comes before the entries whose names follow that of the directory.
-/

namespace WorkflowOutline.Fixture

/-- The end of the names of fixtures. -/
def nameEnd : String := ".test.toml"

/-- Whether a file of this name is a fixture. -/
def isFixtureName (name : String) : Bool := nameEnd.toList.isSuffixOf name.toList

/-- Whether the file at a place is a fixture. -/
def isFixturePlace (place : Place) : Bool := (place.getLast?.map isFixtureName).getD false

/-- Places are compared name by name. -/
def placeLE (p q : Place) : Bool := !List.lex q p fun a b => decide (a < b)

/-- The fixtures of a tree with their places, in order. -/
def discover (t : FileTree) : List (Place × FileContent) :=
  (t.files.filter fun f => isFixturePlace f.1).mergeSort fun f g => placeLE f.1 g.1

/-- A fixture to be run. -/
structure File where
  /-- How the file was reached. -/
  path : String
  /-- The path from where the search began. -/
  name : String
  content : FileContent

/-- The fixtures that a path stands for: a file itself, whatever its name, and otherwise those found
in the directory. What cannot be read holds none. -/
def filesAt (path : String) (target : Except FileError FileTree) : List File :=
  match target with
  | .error _ => []
  | .ok (.file content) => [⟨path, Path.lastStep path, content⟩]
  | .ok (.directory entries) =>
      (discover (.directory entries)).map fun (place, content) =>
        ⟨Path.below path place, String.intercalate "/" place, content⟩

end WorkflowOutline.Fixture
