import WorkflowOutline.Toml.Lexical

/-!
# Filling tables

A document says piecemeal what its tables hold. `Table.updateAt` follows a path of keys and changes
the table at its end, making the tables it passes through where they are missing; `Table.insert`
puts a value under a dotted key, and `Table.addSection` puts a whole section in its place. They
fail where a document would define something twice.
-/

namespace WorkflowOutline.Toml

open Reader (KeyPart)

/-- The entries of a table, in the order in which they were first named. -/
abbrev Entries := List (String × Node)

namespace Table

/-- Replaces the value of a key in its place. -/
def replace (entries : Entries) (key : String) (n : Node) : Entries :=
  entries.map fun e => if e.1 = key then (key, n) else e

/-- A table and how it came about. -/
abbrev Content := TableForm × Entries

/-- Changes the table at the end of a path. A path of a dotted key passes only through tables that
no header opened; a path of a header passes through any. Both enter the last table of an array
that was written by headers, and no value that is already complete. -/
def updateAt (viaDots : Bool) (change : Content → Option Entries) :
    List KeyPart → Content → Option Entries
  | [], content => change content
  | key :: path, (_, entries) =>
      match entries.lookup key.name with
      | none => do
          let form : TableForm := if viaDots then .dotted else .implicit
          let inner ← updateAt viaDots change path (form, [])
          return entries ++ [(key.name, .table key.span form inner)]
      | some (.table span form inner) =>
          if form = .inline ∨ (viaDots ∧ form = .header) then none
          else do
            let inner' ← updateAt viaDots change path (form, inner)
            return replace entries key.name (.table span form inner')
      | some (.array span .headers items) =>
          match items.getLast? with
          | some (.table last form inner) => do
              let inner' ← updateAt viaDots change path (form, inner)
              return replace entries key.name
                (.array span .headers (items.dropLast ++ [.table last form inner']))
          | _ => none
      | some _ => none

/-- Puts a value under a key that is still free. -/
def insertNew (key : KeyPart) (n : Node) (entries : Entries) : Option Entries :=
  if (entries.lookup key.name).isSome then none else some (entries ++ [(key.name, n)])

/-- Puts a value under a dotted key. All tables on the way, the last one too, have to be made by
dotted keys. -/
def insert (entries : Entries) (path : List KeyPart) (key : KeyPart) (n : Node) :
    Option Entries :=
  if path.isEmpty then insertNew key n entries
  else
    updateAt true (fun (form, inner) => if form = .dotted then insertNew key n inner else none)
      path (.header, entries)

/-- One line of a table: a dotted key and its value. -/
structure Line where
  path : List KeyPart
  key : KeyPart
  value : Node

/-- Puts lines into a table, in order. -/
def insertLines (entries : Entries) (lines : List Line) : Option Entries :=
  lines.foldlM (fun entries line => insert entries line.path line.key line.value) entries

/-! ## Sections -/

/-- A header: its key, its span, and whether it adds a table to an array. -/
structure Header where
  path : List KeyPart
  key : KeyPart
  addsToArray : Bool
  span : Span

/-- A header with the lines below it. -/
structure Section where
  header : Header
  lines : List Line

/-- A section reaches from its header to the end of its last value. -/
def Section.span (s : Section) : Span :=
  match s.lines.getLast? with
  | none => s.header.span
  | some line => s.header.span.cover line.value.span

/-- Puts a section into the table that its header's key belongs to. A table that was only passed
through by longer headers may be opened once, and then moves to the end; an array of tables grows by
one. -/
def Section.place (s : Section) (entries : Entries) : Option Entries :=
  let name := s.header.key.name
  if s.header.addsToArray then do
    let table := Node.table s.span .header (← insertLines [] s.lines)
    match entries.lookup name with
    | none => return entries ++ [(name, .array s.span .headers [table])]
    | some (.array span .headers items) =>
        return replace entries name (.array (span.cover s.span) .headers (items ++ [table]))
    | some _ => none
  else
    match entries.lookup name with
    | none => do
        return entries ++ [(name, .table s.span .header (← insertLines [] s.lines))]
    | some (.table _ .implicit inner) => do
        let inner ← insertLines inner s.lines
        return entries.filter (·.1 != name) ++ [(name, .table s.span .header inner)]
    | some _ => none

/-- Puts a section in its place in a document. -/
def addSection (root : Entries) (s : Section) : Option Entries :=
  updateAt false (fun content => s.place content.2) s.header.path (.header, root)

end Table

end WorkflowOutline.Toml
