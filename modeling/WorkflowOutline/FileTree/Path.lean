import WorkflowOutline.FileTree.Basic

/-!
# Paths

A path is a text whose steps are set apart by slashes. A `FileSystem` has one tree with all files,
and a directory to work in. `FileSystem.find` follows a path from the root, if it starts with a
slash, and otherwise from the working directory: a step with no text or a single dot stays in its
directory, two dots go up, and any other step is the name of an entry. No step leads out of a file.
-/

namespace WorkflowOutline

namespace Path

/-! ## Steps -/

/-- The steps of a path, of which `current` has been read of the first one. -/
def splitSteps (current : List Char) : List Char → List (List Char)
  | [] => [current]
  | c :: rest =>
      if c = '/' then current :: splitSteps [] rest else splitSteps (current ++ [c]) rest

/-- The texts between the slashes of a path; there is at least one. -/
def steps (path : String) : List String := (splitSteps [] path.toList).map String.ofList

/-- The text behind the last slash. -/
def lastStep (path : String) : String := (steps path).getLast?.getD path

/-- The path of what is at a place below a path. -/
def below (path : String) (place : Place) : String :=
  let relative := String.intercalate "/" place
  if path.toList.getLast? = some '/' then path ++ relative else path ++ "/" ++ relative

/-- Names may have so many bytes. -/
def maxNameBytes : Nat := 255

/-- Whole paths have fewer bytes than this. -/
def maxPathBytes : Nat := 4096

end Path

namespace FileTree

/-- Follows steps from `here`, which is below the directories `above`, the nearest one first. There
is nothing above the outermost directory, and two dots stay in it. -/
def walk (above : List FileTree) (here : FileTree) : List String → Except FileError FileTree
  | [] => .ok here
  | step :: rest =>
      match here with
      | file _ => .error .notDirectory
      | directory entries =>
          if step = "" ∨ step = "." then walk above here rest
          else if step = ".." then
            match above with
            | [] => walk [] here rest
            | parent :: above => walk above parent rest
          else if Path.maxNameBytes < step.utf8ByteSize then .error .nameTooLong
          else
            match entries.lookup step with
            | none => .error .notFound
            | some t => walk (here :: above) t rest

/-- The directory that holds files with the given paths; a path that ends in a slash stands for an
empty directory. -/
def ofListing (listing : List (String × FileContent)) : FileTree :=
  directory <| listing.foldl
    (fun entries (path, content) =>
      let steps := Path.steps path
      let last := steps.getLast?.getD ""
      let file? := if last = "" then none else some (last, content)
      insert file? (steps.dropLast.filter fun step => step != "" && step != ".") entries)
    []

end FileTree

/-! ## File systems -/

/-- All files, and the place of the directory from which paths start unless they say otherwise. -/
structure FileSystem where
  root : FileTree
  workingDirectory : Place

namespace FileSystem

/-- What a path leads to. The empty path leads nowhere. -/
def find (fs : FileSystem) (path : String) : Except FileError FileTree :=
  if path = "" then .error .notFound
  else if Path.maxPathBytes ≤ path.utf8ByteSize then .error .nameTooLong
  else
    match Path.steps path with
    | "" :: rest => fs.root.walk [] rest
    | steps => fs.root.walk [] (fs.workingDirectory ++ steps)

/-- A file system with nothing in it but a directory to work in. -/
def ofDirectory (t : FileTree) : FileSystem := ⟨.directory [("work", t)], ["work"]⟩

end FileSystem

end WorkflowOutline
