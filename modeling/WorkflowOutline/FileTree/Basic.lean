/-!
# File trees

A `FileTree` is a file or a directory with all that is below it. `FileTree.files` lists its files,
each with its place: the names of the directories that lead to it, and its own. `FileTree.ofListing`
builds a tree from the paths of its files.
-/

namespace WorkflowOutline

/-! ## Contents -/

/-- Why a file or directory cannot be read. -/
inductive FileError where
  | notFound
  | permissionDenied
  | notDirectory
  | isDirectory
  | nameTooLong
  /-- The bytes of the file are no text. -/
  | notText
  /-- Any other refusal of the system, in its words and with its number. -/
  | other (reason : String) (code : Nat)
deriving DecidableEq, Repr, Inhabited

namespace FileError

/-- A refusal of the system with its number. -/
def systemMessage (reason : String) (code : Nat) : String :=
  reason ++ " (os error " ++ toString code ++ ")"

/-- The text of the error. -/
def message : FileError → String
  | notFound => systemMessage "No such file or directory" 2
  | permissionDenied => systemMessage "Permission denied" 13
  | notDirectory => systemMessage "Not a directory" 20
  | isDirectory => systemMessage "Is a directory" 21
  | nameTooLong => systemMessage "File name too long" 36
  | notText => "stream did not contain valid UTF-8"
  | other reason code => systemMessage reason code

/-- The refusal of the system that has the number; the words are those for the remaining ones. -/
def ofCode (reason : String) (code : Nat) : FileError :=
  if code = 2 then notFound
  else if code = 13 then permissionDenied
  else if code = 20 then notDirectory
  else if code = 21 then isDirectory
  else if code = 36 then nameTooLong
  else other reason code

end FileError

/-- The text of a file, or why it cannot be read. -/
abbrev FileContent := Except FileError String

/-- The content of a file with the given bytes. -/
def FileContent.ofBytes (bytes : ByteArray) : FileContent :=
  match String.fromUTF8? bytes with
  | none => .error .notText
  | some text => .ok text

/-! ## Trees -/

/-- A file, or a directory with its entries in the order in which the system lists them. -/
inductive FileTree where
  | file (content : FileContent)
  | directory (entries : List (String × FileTree))
deriving Inhabited

/-- The place of a file: the names that lead to it from the top of a tree. -/
abbrev Place := List String

namespace FileTree

mutual

/-- All files of a tree with their places. -/
def files : FileTree → List (Place × FileContent)
  | file content => [([], content)]
  | directory entries => entryFiles entries

/-- All files below the entries of a directory. -/
def entryFiles : List (String × FileTree) → List (Place × FileContent)
  | [] => []
  | (name, t) :: rest => t.files.map (fun f => (name :: f.1, f.2)) ++ entryFiles rest

end

theorem entryFiles_eq_flatMap (entries : List (String × FileTree)) :
    entryFiles entries
      = entries.flatMap fun e => e.2.files.map fun f => (e.1 :: f.1, f.2) := by
  induction entries with
  | nil => simp [entryFiles]
  | cons e rest ih =>
    obtain ⟨name, t⟩ := e
    simp [entryFiles, ih]

/-- Reads a tree as a file; a directory has no text. -/
def read : FileTree → FileContent
  | file content => content
  | directory _ => .error .isDirectory

/-! ## Building -/

/-- Sets an entry, in its old position if there is one of that name. -/
def putEntry (name : String) (t : FileTree) :
    List (String × FileTree) → List (String × FileTree)
  | [] => [(name, t)]
  | (other, old) :: rest =>
      if other = name then (name, t) :: rest else (other, old) :: putEntry name t rest

/-- The entries of the directory with the given name, none if there is no such directory. -/
def subentries (entries : List (String × FileTree)) (name : String) : List (String × FileTree) :=
  match entries.lookup name with
  | some (directory below) => below
  | _ => []

/-- Makes the directories of a path, and in the last of them the file, if there is one. -/
def insert (file? : Option (String × FileContent)) :
    List String → List (String × FileTree) → List (String × FileTree)
  | [], entries =>
      match file? with
      | none => entries
      | some (name, content) => putEntry name (file content) entries
  | name :: rest, entries =>
      putEntry name (directory (insert file? rest (subentries entries name))) entries

end FileTree

end WorkflowOutline
