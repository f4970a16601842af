import WorkflowOutline.FileTree.Basic
import WorkflowOutline.Outline.Literal
import WorkflowOutline.Toml.Document

/-!
# Decoding outlines

`OutlineItem.decode` reads a declaration from a table, in which the fields stand in any order
beside the kind, or from an array, which lists the kind and then the fields in their order. Both
forms are read by one function on named fields, `OutlineItem.ofFields`. `Outline.read` reads a whole
text, and `Outline.load` a file.

The first error in the order of the document counts. Only where every field that is written fits is
a missing one an error.
-/

namespace WorkflowOutline

open Toml (Node)

/-- Named values, in the order in which they are written. -/
abbrev Fields := List (String × Node)

/-! ## Values of fields -/

/-- A string. -/
def decodeString : Node → Except Mismatch String
  | .scalar _ (.string s) => .ok s
  | n => .error (.wrongType (.ofNode n) .string)

/-- A truth value. -/
def decodeBool : Node → Except Mismatch Bool
  | .scalar _ (.boolean b) => .ok b
  | n => .error (.wrongType (.ofNode n) .boolean)

/-- A list of which every member is decoded. -/
def decodeList {α : Type} (decode : Node → Except Mismatch α) : Node → Except Mismatch (List α)
  | .array _ _ items => items.mapM decode
  | n => .error (.wrongType (.ofNode n) .sequence)

/-- An imported name: a string, or a table with the name and its alias. -/
def decodeImport : Node → Except Mismatch ImportedName
  | .scalar _ (.string s) => .ok ⟨s, none⟩
  | .table _ _ entries =>
      match entries.lookup "name", entries.lookup "alias" with
      | some (.scalar _ (.string name)), some (.scalar _ (.string newName)) =>
          .ok ⟨name, some newName⟩
      | _, _ => .error .noImportForm
  | _ => .error .noImportForm

/-! ## Declarations -/

namespace Fields

/-- A field, decoded if it is written. -/
def optional {α : Type} (fields : Fields) (name : String) (decode : Node → Except Mismatch α) :
    Except Mismatch (Option α) :=
  match fields.lookup name with
  | none => .ok none
  | some n => some <$> decode n

/-- A field that has to be written. -/
def required {α : Type} (fields : Fields) (name : String) (decode : Node → Except Mismatch α) :
    Except Mismatch α :=
  match fields.lookup name with
  | none => .error (.missingField name)
  | some n => decode n

end Fields

namespace OutlineItem

/-- Whether a value is what a field holds. -/
def checkType : FieldType → Node → Except Mismatch Unit
  | .text, n => discard (decodeString n)
  | .literal, n => discard (decodeLiteral n)
  | .flag, n => discard (decodeBool n)
  | .texts, n => discard (decodeList decodeString n)
  | .imports, n => discard (decodeList decodeImport n)

/-- Whether the value of one field fits; what is no field of the kind may hold anything. -/
def checkField (kind : OutlineKind) (name : String) (n : Node) : Except Mismatch Unit :=
  match kind.fieldTypes.lookup name with
  | none => pure ()
  | some type => checkType type n

/-- The declaration of a kind with the given fields. A flag without a value is set to true. -/
def ofFields (kind : OutlineKind) (fields : Fields) : Except Mismatch OutlineItem := do
  fields.forM fun (name, n) => checkField kind name n
  match kind with
  | .feature => do
      let name ← fields.required "name" decodeString
      let value ← fields.optional "value" decodeLiteral
      return .feature name (value.getD (.scalar (.boolean true)))
  | .inclusion => do
      let source ← fields.required "from" decodeString
      let names ← fields.optional "names" (decodeList decodeImport)
      return .inclusion source (names.getD [])
  | .param => do
      let name ← fields.required "name" decodeString
      let default ← fields.optional "default" decodeLiteral
      return .param name default
  | .workflow => do
      let name ← fields.optional "name" decodeString
      let entry ← fields.optional "entry" decodeBool
      return .workflow name entry
  | .output => do
      let names ← fields.optional "names" (decodeList decodeString)
      return .output (names.getD [])
  | .process => do
      let name ← fields.required "name" decodeString
      return .process name
  | .function => do
      let name ← fields.required "name" decodeString
      let params ← fields.optional "params" (decodeList decodeString)
      return .function name (params.getD [])
  | .enum => do
      let name ← fields.required "name" decodeString
      let values ← fields.optional "values" (decodeList decodeString)
      return .enum name (values.getD [])
  | .hostClass => do
      let name ← fields.required "name" decodeString
      return .hostClass name

/-- The declaration of a kind whose fields are listed in their order. Fields at the end may be left
out where they have a default. -/
def ofList (kind : OutlineKind) (values : List Node) : Except Mismatch OutlineItem := do
  let item ← (ofFields kind (kind.fields.zip values)).mapError fun m =>
    match m with
    | .missingField _ => .tooFewFields kind
    | m => m
  if kind.fields.length < values.length then .error (.tooManyFields values.length kind)
  else .ok item

/-- The kind that a value names; errors are at the value. -/
def decodeKind : Node → Except SchemaError OutlineKind
  | .scalar span (.string word) =>
      match OutlineKind.ofKeyword? word with
      | some kind => .ok kind
      | none => .error ⟨.unknownKind word, span⟩
  | n => .error ⟨.wrongType (.ofNode n) .kind, n.span⟩

/-- A declaration in either form. Errors in its fields are put at `outer`, the list that the
declaration stands in. -/
def decode (outer : Span) : Node → Except SchemaError OutlineItem
  | .table span _ entries =>
      match entries.lookup "kind" with
      | none => .error ⟨.missingField "kind", span⟩
      | some n => do
          let kind ← decodeKind n
          (ofFields kind (entries.filter (·.1 != "kind"))).mapError (⟨·, outer⟩)
  | .array span _ [] => .error ⟨.missingField "kind", span⟩
  | .array _ _ (n :: values) => do
      let kind ← decodeKind n
      (ofList kind values).mapError (⟨·, outer⟩)
  | .scalar span (.dateTime _) => .error ⟨.missingField "kind", span⟩
  | n => .error ⟨.wrongType (.ofNode n) .declaration, n.span⟩

end OutlineItem

/-! ## Outlines -/

/-- The strings of a list that holds nothing else. -/
def stringItems : List Node → Option (List String)
  | [] => some []
  | .scalar _ (.string s) :: rest => (stringItems rest).map (s :: ·)
  | _ :: _ => none

namespace ShebangLines

/-- A string, or a list of strings. -/
def decode : Node → Except SchemaError ShebangLines
  | .scalar _ (.string s) => .ok (.one s)
  | .array span _ items =>
      match stringItems items with
      | some lines => .ok (.many lines)
      | none => .error ⟨.noShebangForm, span⟩
  | n => .error ⟨.noShebangForm, n.span⟩

end ShebangLines

namespace Outline

/-- The declarations of a list, each with the span of its element. -/
def decodeDeclarations : Node → Except SchemaError (List (Span × OutlineItem))
  | .array span _ items =>
      items.mapM fun n => do
        let item ← OutlineItem.decode span n
        return (n.span, item)
  | n => .error ⟨.wrongType (.ofNode n) .sequence, n.span⟩

/-- Takes in one entry of the document; unknown keys mean nothing. -/
def decodeEntry (outline : Outline) (entry : String × Node) : Except SchemaError Outline :=
  match entry with
  | ("shebang", n) => do return { outline with shebang := some (← ShebangLines.decode n) }
  | ("declaration", n) => do return { outline with declarations := ← decodeDeclarations n }
  | _ => .ok outline

/-- The outline that a document describes. -/
def ofDocument (entries : Toml.Entries) : Except SchemaError Outline :=
  entries.foldlM decodeEntry ⟨none, []⟩

end Outline

/-! ## Texts and files -/

/-- Why a text is no outline, or no fixture. -/
inductive ReadError where
  | notToml
  | schema (e : SchemaError)
deriving DecidableEq, Repr

/-- The text of the error, for the text that it was found in. -/
def ReadError.report (refusal : Toml.Refusal) (e : ReadError) (source : String) : String :=
  match e with
  | .notToml => refusal source
  | schema e => e.report source

/-- Reads a text as a document. -/
def readDocument (source : String) : Except ReadError Toml.Entries :=
  match Toml.Document.read source with
  | none => .error .notToml
  | some entries => .ok entries

/-- Reads an outline. -/
def Outline.read (source : String) : Except ReadError Outline := do
  let entries ← readDocument source
  (Outline.ofDocument entries).mapError .schema

/-- Why a file gives no outline. -/
inductive LoadError where
  | unreadable (path : String) (e : FileError)
  | invalid (source : String) (e : ReadError)
deriving DecidableEq, Repr

/-- The text of the error. -/
def LoadError.message (refusal : Toml.Refusal) : LoadError → String
  | unreadable path e => "cannot read '" ++ path ++ "': " ++ e.message
  | invalid source e => "invalid outline: " ++ e.report refusal source

/-- The text of a file and the outline in it. -/
def Outline.load (path : String) (content : FileContent) : Except LoadError (String × Outline) :=
  match content with
  | .error e => .error (.unreadable path e)
  | .ok source =>
      match Outline.read source with
      | .error e => .error (.invalid source e)
      | .ok outline => .ok (source, outline)

end WorkflowOutline
