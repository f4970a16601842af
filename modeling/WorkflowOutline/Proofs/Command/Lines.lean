import WorkflowOutline.Proofs.Command.Running
import WorkflowOutline.Proofs.Declaration.Headers
import WorkflowOutline.Proofs.Outline.Designation
import WorkflowOutline.Proofs.Toml.Controls
import WorkflowOutline.Text.Basic

/-!
# The lines of a run

A run prints the interpreter line and the headers of the declarations, each with a line end. Whether
what it prints has a line for each of them depends on what they hold: names, sources and strings are
written as they are, so a line feed in one of them makes for a line more.

Which texts these are is read off the document (`OutlineItem.texts`): around them a header has no
line feed (`Item.newline_mem_header_iff`), and of a value it has those of the strings in it. A
carriage return at the end of a header is lost in front of the line end, so the texts that stand
there count too (`OutlineItem.finalText?`). `lines_stdout_runFile` says that the lines of a run are
what it should print exactly if all this is in order (`Outline.IsOneLined`), and
`not_forall_lines_stdout_runFile` shows a valid document where it is not.
-/

namespace WorkflowOutline

/-! ## Lines of texts -/

namespace Text

/-- The text ends in what is taken for a part of the line end if a line feed follows. -/
def EndsInReturn (text : String) : Prop := text.toList.getLast? = some '\r'

instance (text : String) : Decidable (EndsInReturn text) :=
  inferInstanceAs (Decidable (text.toList.getLast? = some '\r'))

/-- A text that is shown as one line, and as it is. -/
structure IsLine (text : String) : Prop where
  newline : '\n' ∉ text.toList
  carriage : ¬ EndsInReturn text

theorem endsInReturn_append_iff {a b : String} :
    EndsInReturn (a ++ b) ↔ EndsInReturn b ∨ b = "" ∧ EndsInReturn a := by
  unfold EndsInReturn
  rw [String.toList_append, List.getLast?_append, ← String.toList_eq_nil_iff]
  rcases b.toList.eq_nil_or_concat with h | ⟨rest, c, h⟩ <;> simp [h]

theorem not_endsInReturn_braced (s : String) : ¬ EndsInReturn (braced s) := by
  rw [EndsInReturn, toList_braced, List.getLast?_append]
  simp

theorem dropReturn_eq_self_iff {line : List Char} :
    dropReturn line = line ↔ line.getLast? ≠ some '\r' := by
  unfold dropReturn
  split
  · next h =>
    refine iff_of_false (fun hdrop => ?_) (absurd h)
    have hlength := congrArg List.length hdrop
    have hne : line ≠ [] := by
      rintro rfl
      cases h
    have hpos := List.length_pos_iff.2 hne
    rw [List.length_dropLast] at hlength
    omega
  · next h => exact iff_of_true rfl h

theorem splitLines_append (current text rest : List Char) :
    splitLines current (text ++ '\n' :: rest) =
      splitLines current (text ++ ['\n']) ++ splitLines [] rest := by
  induction text generalizing current with
  | nil => simp [splitLines]
  | cons c text ih =>
    by_cases hc : c = '\n' <;> simp [splitLines, hc, ih]

theorem length_splitLines (current text : List Char) :
    (splitLines current (text ++ ['\n'])).length = text.count '\n' + 1 := by
  induction text generalizing current with
  | nil => simp [splitLines]
  | cons c text ih =>
    by_cases hc : c = '\n' <;> simp [splitLines, hc, ih]

theorem splitLines_of_notMem {text : List Char} (h : '\n' ∉ text) (current : List Char) :
    splitLines current (text ++ ['\n']) = [dropReturn (current ++ text)] := by
  induction text generalizing current with
  | nil => simp [splitLines]
  | cons c text ih =>
    rw [List.mem_cons, not_or] at h
    simp [splitLines, Ne.symm h.1, ih h.2]

variable {ls : List String}

theorem lines_ofLines (ls : List String) :
    lines (Outcome.ofLines ls) = ls.flatMap fun line => lines (line ++ "\n") := by
  induction ls with
  | nil => rfl
  | cons line ls ih =>
    have hcons : Outcome.ofLines (line :: ls) = line ++ "\n" ++ Outcome.ofLines ls := by
      simp [Outcome.ofLines]
    have hsplit := splitLines_append [] line.toList (Outcome.ofLines ls).toList
    rw [List.flatMap_cons, ← ih, hcons]
    simp [lines, hsplit]

/-- Every line feed in one of the texts makes for a line more. -/
theorem length_lines_ofLines (ls : List String) :
    (lines (Outcome.ofLines ls)).length =
      (ls.map fun line => line.toList.count '\n').sum + ls.length := by
  rw [lines_ofLines]
  induction ls with
  | nil => rfl
  | cons line ls ih =>
    have hline : (lines (line ++ "\n")).length = line.toList.count '\n' + 1 := by
      simpa [lines] using length_splitLines [] line.toList
    rw [List.flatMap_cons, List.length_append, ih, hline, List.map_cons, List.sum_cons,
      List.length_cons]
    omega

theorem length_lines_ofLines_eq_iff :
    (lines (Outcome.ofLines ls)).length = ls.length ↔ ∀ line ∈ ls, '\n' ∉ line.toList := by
  rw [length_lines_ofLines, Nat.add_eq_right, List.sum_eq_zero_iff]
  simp [List.count_eq_zero]

theorem lines_ofLines_of_newline (h : ∀ line ∈ ls, '\n' ∉ line.toList) :
    lines (Outcome.ofLines ls) = ls.map fun line => String.ofList (dropReturn line.toList) := by
  rw [lines_ofLines, List.map_eq_flatMap]
  refine List.flatMap_congr fun line hline => ?_
  have hsplit : splitLines [] (line.toList ++ ['\n']) = [dropReturn line.toList] :=
    splitLines_of_notMem (h line hline) []
  simp [lines, hsplit]

/-- Printed texts can be told apart again exactly if each is one line. -/
theorem lines_ofLines_eq_iff : lines (Outcome.ofLines ls) = ls ↔ ∀ line ∈ ls, IsLine line := by
  have hline : ∀ line : String, String.ofList (dropReturn line.toList) = id line ↔
      ¬ EndsInReturn line := fun line => by
    rw [id, ← String.toList_inj, String.toList_ofList, dropReturn_eq_self_iff, EndsInReturn]
  constructor
  · intro h line hmem
    have hnewline := length_lines_ofLines_eq_iff.1 (congrArg List.length h)
    rw [lines_ofLines_of_newline hnewline] at h
    have hmap := List.map_inj_left.1 (h.trans ls.map_id.symm)
    exact ⟨hnewline line hmem, (hline line).1 (hmap line hmem)⟩
  · intro h
    rw [lines_ofLines_of_newline fun line hmem => (h line hmem).newline]
    exact (List.map_congr_left fun line hmem => (hline line).2 (h line hmem).carriage).trans
      ls.map_id

end Text

/-! ## Headers -/

/-- The texts that the header of an item shows as they are. -/
def Item.texts : Item → List String
  | featureFlag f => [f.name, f.value]
  | inclusion i => i.source :: i.entries.flatMap ImportedName.names
  | param p => p.name :: p.default.toList
  | workflow w => w.name.toList
  | process p => [p.name]
  | function f => f.name :: f.parameters
  | outputs b => b.outputs.map Output.name
  | hostClass c => c.name :: if c.isEnum then c.constants else []

/-- The one of these texts with which the header ends, if there is one. -/
def Item.finalText? : Item → Option String
  | featureFlag f => some f.value
  | param p => some (p.default.getD p.name)
  | workflow w => w.name
  | process p => some p.name
  | hostClass c => if c.isEnum then none else some c.name
  | _ => none

theorem newline_mem_bracedList_iff (texts : List String) :
    '\n' ∈ (bracedList texts).toList ↔ ∃ text ∈ texts, '\n' ∈ text.toList := by
  cases texts with
  | nil => simp [bracedList]
  | cons text texts =>
    simp only [bracedList, Text.toList_braced, List.mem_append]
    rw [Toml.mem_intercalate_iff (by decide)]
    simp

theorem ImportedName.newline_mem_header_iff (e : ImportedName) :
    '\n' ∈ e.header.toList ↔ ∃ name ∈ e.names, '\n' ∈ name.toList := by
  rcases e with ⟨name, _ | newName⟩ <;> simp [header, names]

namespace Item

open Text (EndsInReturn endsInReturn_append_iff)

/-- Around its texts a header has no line feed. -/
theorem newline_mem_header_iff (i : Item) :
    '\n' ∈ i.header.toList ↔ ∃ text ∈ i.texts, '\n' ∈ text.toList := by
  cases i with
  | featureFlag f => simp [header, FeatureFlag.header, texts]
  | inclusion i =>
    have hnames : '\n' ∈ (bracedList (i.entries.map ImportedName.header)).toList ↔
        ∃ name ∈ i.entries.flatMap ImportedName.names, '\n' ∈ name.toList := by
      rw [newline_mem_bracedList_iff]
      simp only [List.mem_map, exists_exists_and_eq_and, ImportedName.newline_mem_header_iff,
        List.mem_flatMap]
      constructor
      · rintro ⟨e, he, name, hname, hfeed⟩
        exact ⟨name, ⟨e, he, hname⟩, hfeed⟩
      · rintro ⟨name, ⟨e, he, hname⟩, hfeed⟩
        exact ⟨e, he, name, hname, hfeed⟩
    simp [header, Include.header, texts, hnames, or_comm]
  | param p => rcases p with ⟨name, _ | value, span⟩ <;> simp [header, Param.header, texts]
  | workflow w => rcases w with ⟨_ | name, span⟩ <;> simp [header, Workflow.header, texts]
  | process p => simp [header, ProcessDef.header, texts]
  | function f =>
    have hparameters := Toml.mem_intercalate_iff (by decide : '\n' ∉ ", ".toList) f.parameters
    simp only [header, FunctionDef.header, texts, String.toList_append, List.mem_append,
      hparameters]
    simp
  | outputs b =>
    have houtputs := newline_mem_bracedList_iff (b.outputs.map Output.header)
    simp only [header, OutputBlock.header, texts, String.toList_append, List.mem_append, houtputs]
    simp [Output.header]
  | hostClass c =>
    have hconstants := Toml.mem_intercalate_iff (by decide : '\n' ∉ ", ".toList) c.constants
    rcases c with ⟨name, _ | _, constants, span⟩
    · simp only [header, ClassDef.header, texts, String.toList_append, Text.toList_braced,
        List.mem_append, hconstants]
      simp [ClassDef.isEnum]
    · simp [header, ClassDef.header, texts, ClassDef.isEnum]

/-- A header ends with its last text, or with a fixed one. -/
theorem endsInReturn_header_iff (i : Item) :
    EndsInReturn i.header ↔ ∃ text ∈ i.finalText?, EndsInReturn text := by
  cases i with
  | featureFlag f => simp +decide [header, FeatureFlag.header, finalText?, endsInReturn_append_iff]
  | inclusion i => simp +decide [header, Include.header, finalText?, endsInReturn_append_iff]
  | param p =>
    rcases p with ⟨name, _ | value, span⟩ <;>
      simp +decide [header, Param.header, finalText?, endsInReturn_append_iff]
  | workflow w =>
    rcases w with ⟨_ | name, span⟩ <;>
      simp +decide [header, Workflow.header, finalText?, endsInReturn_append_iff]
  | process p => simp +decide [header, ProcessDef.header, finalText?, endsInReturn_append_iff]
  | function f => simp +decide [header, FunctionDef.header, finalText?, endsInReturn_append_iff]
  | outputs b =>
    rcases b with ⟨_ | ⟨output, outputs⟩, span⟩ <;>
      simp +decide [header, OutputBlock.header, bracedList, finalText?, endsInReturn_append_iff,
        Text.not_endsInReturn_braced]
  | hostClass c =>
    rcases c with ⟨name, _ | _, constants, span⟩ <;>
      simp +decide [header, ClassDef.header, ClassDef.isEnum, finalText?, endsInReturn_append_iff,
        Text.not_endsInReturn_braced]

end Item

theorem Declaration.header_item (d : Declaration) : d.item.header = d.header := by
  cases d <;> rfl

/-- A script lists its items, of the types the enumerations only, and nothing else. -/
theorem Script.exists_mem_declarations_iff (s : Script) (i : Item) :
    (∃ d ∈ s.declarations, d.item = i) ↔
      match i with
      | .featureFlag f => f ∈ s.featureFlags
      | .inclusion i => i ∈ s.includes
      | .param p => p ∈ s.params
      | .workflow w => w ∈ s.workflows
      | .process p => p ∈ s.processes
      | .function f => f ∈ s.functions
      | .outputs b => b ∈ s.outputs
      | .hostClass c => c ∈ s.enums := by
  have hworkflow : ∀ w, w ∈ s.workflows ↔
      s.entry? = some w ∨ w ∈ s.workflowsExcept s.entryIndex? := fun w => by
    rw [s.perm_workflows.mem_iff, List.mem_append, Option.mem_toList]
  simp only [declarations, List.mem_append, or_and_right, exists_or, List.mem_map,
    Option.mem_toList, Option.mem_def, Option.map_eq_some_iff, exists_exists_and_eq_and,
    Declaration.item]
  cases i <;> simp [hworkflow]

/-! ## The texts of an outline -/

namespace OutlineItem

/-- The texts of a declaration that a listing shows; types that are no enumerations are not
listed. -/
def texts : OutlineItem → List String
  | feature name value => name :: value.strings
  | inclusion source names => source :: names.flatMap ImportedName.names
  | param name default => name :: (default.map Toml.Value.strings).getD []
  | workflow name _ => name.toList
  | output names => names
  | process name => [name]
  | function name params => name :: params
  | enum name values => name :: values
  | hostClass _ => []

/-- The one of these texts with which the declaration is shown last, if nothing is written behind
it. -/
def finalText? : OutlineItem → Option String
  | param name none => some name
  | workflow name _ => name
  | process name => some name
  | _ => none

variable {d : OutlineItem}

theorem texts_eq_nil (h : d.kind = .hostClass) : d.texts = [] ∧ d.finalText? = none := by
  cases d with
  | hostClass name => exact ⟨rfl, rfl⟩
  | _ => cases h

theorem newline_mem_header_iff (hd : d.kind ≠ .hostClass) (span : Span) :
    '\n' ∈ (d.toItem span).header.toList ↔ ∃ text ∈ d.texts, '\n' ∈ text.toList := by
  rw [Item.newline_mem_header_iff]
  cases d with
  | feature name value => simp [toItem, Item.texts, texts, Toml.Value.newline_mem_literal_iff]
  | inclusion source names => simp [toItem, Item.texts, texts]
  | param name default =>
    cases default <;> simp [toItem, Item.texts, texts, Toml.Value.newline_mem_literal_iff]
  | workflow name entry => simp [toItem, Item.texts, texts]
  | output names => simp [toItem, Item.texts, texts]
  | process name => simp [toItem, Item.texts, texts]
  | function name params => simp [toItem, Item.texts, texts]
  | enum name values => simp [toItem, Item.texts, texts, ClassDef.enumeration, ClassDef.isEnum]
  | hostClass name => exact absurd rfl hd

theorem endsInReturn_header_iff (hd : d.kind ≠ .hostClass) (span : Span) :
    Text.EndsInReturn (d.toItem span).header ↔ ∃ text ∈ d.finalText?, Text.EndsInReturn text := by
  rw [Item.endsInReturn_header_iff]
  have hliteral : ∀ v : Toml.Value, ¬ Text.EndsInReturn v.literal :=
    fun v => v.getLast?_literal_ne
  cases d with
  | feature name value => simp [toItem, Item.finalText?, finalText?, hliteral]
  | param name default => cases default <;> simp [toItem, Item.finalText?, finalText?, hliteral]
  | hostClass name => exact absurd rfl hd
  | _ => rfl

end OutlineItem

namespace Outline

open OutlineItem

variable {flags : List Flag} {path source : String} {env : Surroundings} {o : Outline}

/-- A valid script lists the declarations of its document, but the types that are no
enumerations. -/
theorem mem_declarations_sole_iff (hvalid : o.sole.validate = []) (i : Item) :
    (∃ d ∈ o.sole.declarations, d.item = i) ↔
      ∃ d ∈ o.declarations, d.2.kind ≠ .hostClass ∧ d.2.toItem d.1 = i := by
  have hreplay := o.isReplay_build soleIdentity soleFileId
  obtain ⟨-, -, hlength⟩ := length_declared_le_of_validate_eq_nil hvalid
  have hlisted : ∀ {α : Type} (read : Span → OutlineItem → Option α) (a : α),
      (∀ span d, read span d = some a ↔ d.kind ≠ .hostClass ∧ d.toItem span = i) →
        (a ∈ declared read o.declarations ↔
          ∃ d ∈ o.declarations, d.2.kind ≠ .hostClass ∧ d.2.toItem d.1 = i) :=
    fun read a h => List.mem_filterMap.trans (exists_congr fun d => and_congr_right fun _ => h _ _)
  rw [Script.exists_mem_declarations_iff]
  cases i with
  | featureFlag f =>
    have hflag := hlisted featureFlag? f (by rintro span ⟨⟩ <;> simp [featureFlag?, toItem, kind])
    rwa [← hreplay.featureFlags] at hflag
  | inclusion i =>
    have hinclude := hlisted include? i (by rintro span ⟨⟩ <;> simp [include?, toItem, kind])
    rwa [← hreplay.includes] at hinclude
  | param p =>
    have hparam := hlisted param? p (by rintro span ⟨⟩ <;> simp [param?, toItem, kind])
    rwa [← hreplay.params] at hparam
  | workflow w =>
    have hworkflow := hlisted workflow? w (by rintro span ⟨⟩ <;> simp [workflow?, toItem, kind])
    rwa [← hreplay.workflows] at hworkflow
  | process p =>
    have hprocess := hlisted process? p (by rintro span ⟨⟩ <;> simp [process?, toItem, kind])
    rwa [← hreplay.processes] at hprocess
  | function f =>
    have hfunction := hlisted function? f (by rintro span ⟨⟩ <;> simp [function?, toItem, kind])
    rwa [← hreplay.functions] at hfunction
  | outputs b =>
    have houtputs := hlisted outputs? b (by rintro span ⟨⟩ <;> simp [outputs?, toItem, kind])
    rwa [← toList_getLast?_of_length_le hlength, Option.mem_toList, ← hreplay.outputs] at houtputs
  | hostClass c =>
    have hclasses : o.sole.enums = (declared hostClass? o.declarations).filter ClassDef.isEnum :=
      congrArg (List.filter ClassDef.isEnum) hreplay.classes
    dsimp only
    rw [hclasses, declared, List.filter_filterMap, List.mem_filterMap]
    refine exists_congr fun d => and_congr_right fun _ => ?_
    obtain ⟨span, d⟩ := d
    cases d with
    | enum name values =>
      constructor
      · intro h
        obtain ⟨⟨⟩, -⟩ := Option.filter_eq_some_iff.1 h
        exact ⟨by simp [kind], rfl⟩
      · rintro ⟨-, ⟨⟩⟩
        rfl
    | hostClass name =>
      refine iff_of_false (fun h => ?_) fun h => h.1 rfl
      obtain ⟨⟨⟩, henum⟩ := Option.filter_eq_some_iff.1 h
      cases henum
    | _ => simp [hostClass?, toItem]

/-! ## The lines of a run -/

/-- The texts that a run shows are shown on one line each, and as they are. -/
structure IsOneLined (o : Outline) : Prop where
  shebang : ∀ line ∈ o.shebangLines, Text.IsLine line
  newline : ∀ d ∈ o.declarations, ∀ text ∈ d.2.texts, '\n' ∉ text.toList
  carriage : ∀ d ∈ o.declarations, ∀ text ∈ d.2.finalText?, ¬ Text.EndsInReturn text

/-- What headers are like can be said of the declarations of the document. -/
theorem forall_mem_headers_sole_iff (hvalid : o.sole.validate = []) {P : String → Prop} :
    (∀ header ∈ o.sole.headers, P header) ↔
      ∀ d ∈ o.declarations, d.2.kind ≠ .hostClass → P (d.2.toItem d.1).header := by
  constructor
  · intro h d hd hkind
    obtain ⟨d', hd', hitem⟩ := (mem_declarations_sole_iff hvalid _).2 ⟨d, hd, hkind, rfl⟩
    rw [← hitem, d'.header_item]
    exact h _ (List.mem_map_of_mem hd')
  · intro h header hheader
    obtain ⟨d, hd, rfl⟩ := List.mem_map.1 hheader
    obtain ⟨d', hd', hkind, hitem⟩ := (mem_declarations_sole_iff hvalid _).1 ⟨d, hd, rfl⟩
    rw [← d.header_item, ← hitem]
    exact h d' hd' hkind

theorem forall_newline_notMem_iff (hvalid : o.sole.validate = []) :
    (∀ header ∈ o.sole.headers, '\n' ∉ header.toList) ↔
      ∀ d ∈ o.declarations, ∀ text ∈ d.2.texts, '\n' ∉ text.toList := by
  rw [forall_mem_headers_sole_iff hvalid]
  refine forall₂_congr fun d _ => ?_
  by_cases hkind : d.2.kind = .hostClass
  · simp [hkind, (texts_eq_nil hkind).1]
  · rw [newline_mem_header_iff hkind]
    simp [hkind]

theorem forall_not_endsInReturn_iff (hvalid : o.sole.validate = []) :
    (∀ header ∈ o.sole.headers, ¬ Text.EndsInReturn header) ↔
      ∀ d ∈ o.declarations, ∀ text ∈ d.2.finalText?, ¬ Text.EndsInReturn text := by
  rw [forall_mem_headers_sole_iff hvalid]
  refine forall₂_congr fun d _ => ?_
  by_cases hkind : d.2.kind = .hostClass
  · simp [hkind, (texts_eq_nil hkind).2]
  · rw [endsInReturn_header_iff hkind]
    simp [hkind]

theorem toList_shebang_sole (hvalid : o.sole.validate = []) :
    o.sole.shebang.toList = o.shebangLines := by
  obtain ⟨hlength, -, -⟩ := length_declared_le_of_validate_eq_nil hvalid
  have hshebang : o.sole.shebang = o.shebangLines.getLast? := by
    rw [sole, build_eq_fields]
    rfl
  rw [hshebang, toList_getLast?_of_length_le hlength]

/-- A run on a valid document prints one line for its interpreter line and for each declaration of
its script exactly if no text that is shown has a line feed, which is to say that no header has one.
These lines are the interpreter line and the headers exactly if the document is one-lined. -/
theorem lines_stdout_runFile (hcheck : .check ∉ flags) (hast : .ast ∉ flags)
    (hread : read source = .ok o) (hvalid : o.sole.validate = []) :
    (runFile flags path env (.ok source)).exitCode = 0 ∧
    ((∀ d ∈ o.sole.declarations, '\n' ∉ d.header.toList) ↔
      ∀ d ∈ o.declarations, ∀ text ∈ d.2.texts, '\n' ∉ text.toList) ∧
    ((Text.lines (runFile flags path env (.ok source)).stdout).length =
        o.sole.shebang.toList.length + o.sole.declarations.length ↔
      (∀ line ∈ o.shebangLines, '\n' ∉ line.toList) ∧
        ∀ d ∈ o.declarations, ∀ text ∈ d.2.texts, '\n' ∉ text.toList) ∧
    (Text.lines (runFile flags path env (.ok source)).stdout =
        o.sole.shebang.toList ++ o.sole.declarations.map Declaration.header ↔ o.IsOneLined) := by
  have hheaders : o.sole.declarations.map Declaration.header = o.sole.headers := rfl
  have hnewline := forall_newline_notMem_iff hvalid
  have hcarriage := forall_not_endsInReturn_iff hvalid
  have hstdout : (runFile flags path env (.ok source)).stdout =
      Outcome.ofLines (o.shebangLines ++ o.sole.headers) := by
    rw [stdout_runFile hcheck hast hread hvalid, Script.listing, toList_shebang_sole hvalid]
  rw [hstdout, toList_shebang_sole hvalid, hheaders]
  refine ⟨(exitCode_runFile_eq_zero_iff hread).2 hvalid, ?_, ?_, ?_⟩
  · rw [← hnewline, ← hheaders, List.forall_mem_map]
  · have hlength : o.sole.declarations.length = o.sole.headers.length := (List.length_map _).symm
    rw [hlength, ← List.length_append, Text.length_lines_ofLines_eq_iff, List.forall_mem_append,
      hnewline]
  · rw [Text.lines_ofLines_eq_iff, List.forall_mem_append]
    constructor
    · rintro ⟨hshebang, hlines⟩
      exact ⟨hshebang, hnewline.1 fun header h => (hlines header h).newline,
        hcarriage.1 fun header h => (hlines header h).carriage⟩
    · intro h
      exact ⟨h.shebang, fun header hheader =>
        ⟨hnewline.2 h.newline header hheader, hcarriage.2 h.carriage header hheader⟩⟩

/-! A document that is shown line by line, and one with a name of two lines. -/

def oneLineText : String :=
  "shebang=\"#!x\"\ndeclaration=[[\"param\",\"p\",[\"a b\"]],[\"workflow\"]]"

def oneLineOutline : Outline :=
  ⟨some (.one "#!x"), [(⟨27, 48⟩, .param "p" (some (.array [.scalar (.string "a b")]))),
    (⟨49, 61⟩, .workflow none none)]⟩

theorem lines_stdout_runFile_oneLine :
    .check ∉ ([] : List Flag) ∧ .ast ∉ ([] : List Flag) ∧
      read oneLineText = .ok oneLineOutline ∧ oneLineOutline.sole.validate = [] ∧
      oneLineOutline.IsOneLined ∧
      Text.lines (runFile [] "a" .plain (.ok oneLineText)).stdout =
        ["#!x", "param p = [\"a b\"]", "workflow"] := by
  have hcheck : .check ∉ ([] : List Flag) := nofun
  have hast : .ast ∉ ([] : List Flag) := nofun
  have hread : read oneLineText = .ok oneLineOutline := by cbv
  have hvalid : oneLineOutline.sole.validate = [] := rfl
  have hshebang : Text.IsLine "#!x" := ⟨by decide, by decide⟩
  have honeLined : oneLineOutline.IsOneLined :=
    ⟨List.forall_mem_singleton.2 hshebang, by decide, by decide⟩
  obtain ⟨-, -, -, hlines⟩ := lines_stdout_runFile hcheck hast hread hvalid
  exact ⟨hcheck, hast, hread, hvalid, honeLined, hlines.2 honeLined⟩

def twoLineText : String := "[[declaration]]\nkind = \"process\"\nname = \"A\\nB\"\n"

def twoLineOutline : Outline := ⟨none, [(⟨0, 46⟩, .process "A\nB")]⟩

/-- A run need not print one line for each declaration: names are written as they are. -/
theorem not_forall_lines_stdout_runFile :
    (¬ ∀ (source path : String) (env : Surroundings) (o : Outline),
      read source = .ok o → o.sole.validate = [] →
        Text.lines (runFile [] path env (.ok source)).stdout =
          o.sole.shebang.toList ++ o.sole.declarations.map Declaration.header) ∧
      ¬ ∀ (source : String) (o : Outline), read source = .ok o → o.sole.validate = [] →
        ∀ d ∈ o.sole.declarations, '\n' ∉ d.header.toList := by
  have hread : read twoLineText = .ok twoLineOutline := by cbv
  have hvalid : twoLineOutline.sole.validate = [] := rfl
  have hheader : '\n' ∈ (Declaration.process ⟨"A\nB", ⟨0, 46⟩⟩).header.toList := by decide
  constructor
  · intro h
    have hlines := h twoLineText "a" .plain twoLineOutline hread hvalid
    rw [stdout_runFile (by decide) (by decide) hread hvalid] at hlines
    exact (Text.lines_ofLines_eq_iff.1 hlines _ (List.mem_singleton_self _)).newline hheader
  · intro h
    exact h twoLineText twoLineOutline hread hvalid _ (List.mem_singleton_self _) hheader

end Outline

end WorkflowOutline
