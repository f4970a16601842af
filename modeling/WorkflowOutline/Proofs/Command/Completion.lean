import Mathlib.Data.List.InsertIdx
import WorkflowOutline.Command.Execution

/-!
# Completed command lines

`IsFirstWord` says where the first argument without a dash stands in an argument vector, of which
the name of the program is no argument, whatever it looks like. `Completes` says in these terms, and
without any search, what becomes of a vector: it stays as it is if there is no such argument or the
first one is a word of the command language, and otherwise takes in `run` at that place. Just this
is what `completeVector` does (`completes_iff`).

The `run` that was taken in is the first argument without a dash of the result
(`IsFirstWord.insertIdx`). So a completed vector is complete (`completeVector_completeVector`), and
two vectors that become the same are equal, or one of them is the completion of the other
(`completeVector_eq_completeVector_iff`). `IsCompletion` collects these laws; for the program they
mean that it takes a command line and its completion alike (`Outcome.ofVector_completeVector`).
-/

namespace WorkflowOutline

variable {argv argv' completed dashed : List String} {pos pos' : Nat} {word word' file : String}

/-! ## The first argument without a dash -/

/-- The place of the first argument without a dash. -/
structure IsFirstWord (argv : List String) (pos : Nat) (word : String) : Prop where
  /-- The name of the program stands at the front and does not count. -/
  pos_pos : 0 < pos
  getElem?_eq : argv[pos]? = some word
  hasDash_eq : hasDash word = false
  dashed : ∀ i arg, 0 < i → i < pos → argv[i]? = some arg → hasDash arg = true

theorem IsFirstWord.le (h : IsFirstWord argv pos word) (h' : IsFirstWord argv pos' word') :
    pos' ≤ pos := by
  by_contra hlt
  have hdash := h'.dashed pos word h.pos_pos (Nat.lt_of_not_le hlt) h.getElem?_eq
  rw [h.hasDash_eq] at hdash
  cases hdash

theorem IsFirstWord.pos_unique (h : IsFirstWord argv pos word)
    (h' : IsFirstWord argv pos' word') : pos = pos' :=
  Nat.le_antisymm (h'.le h) (h.le h')

/-- A word that is put in front of the first one is the first one. -/
theorem IsFirstWord.insertIdx (h : IsFirstWord argv pos word) (hdash : hasDash word' = false) :
    IsFirstWord (argv.insertIdx pos word') pos word' where
  pos_pos := h.pos_pos
  getElem?_eq := by
    obtain ⟨hlt, -⟩ := List.getElem?_eq_some_iff.1 h.getElem?_eq
    rw [List.getElem?_insertIdx_self, if_pos (Nat.le_of_lt hlt)]
  hasDash_eq := hdash
  dashed i arg hi hlt harg := by
    rw [List.getElem?_insertIdx_of_lt hlt] at harg
    exact h.dashed i arg hi hlt harg

theorem isFirstWord_cons_append (hdashed : ∀ arg ∈ dashed, hasDash arg = true)
    (hdash : hasDash word = false) (program : String) (rest : List String) :
    IsFirstWord (program :: (dashed ++ word :: rest)) (dashed.length + 1) word where
  pos_pos := Nat.succ_pos _
  getElem?_eq := by simp
  hasDash_eq := hdash
  dashed i arg hi hlt harg := by
    obtain ⟨j, rfl⟩ := Nat.exists_eq_add_one.2 hi
    rw [List.getElem?_cons_succ,
      List.getElem?_append_left (Nat.lt_of_succ_lt_succ hlt)] at harg
    exact hdashed arg (List.mem_of_getElem? harg)

/-- The first argument without a dash cuts the vector in two. -/
theorem IsFirstWord.exists_eq_cons_append (h : IsFirstWord argv pos word) :
    ∃ program dashed rest, argv = program :: (dashed ++ word :: rest) ∧
      pos = dashed.length + 1 ∧ ∀ arg ∈ dashed, hasDash arg = true := by
  obtain ⟨i, rfl⟩ := Nat.exists_eq_add_one.2 h.pos_pos
  cases argv with
  | nil => cases h.getElem?_eq
  | cons program args =>
    have hword : args[i]? = some word := h.getElem?_eq
    obtain ⟨hi, rfl⟩ := List.getElem?_eq_some_iff.1 hword
    refine ⟨program, args.take i, args.drop (i + 1), ?_, ?_, fun arg harg => ?_⟩
    · rw [List.getElem_cons_drop, List.take_append_drop]
    · rw [List.length_take_of_le (Nat.le_of_lt hi)]
    · obtain ⟨j, hj, rfl⟩ := List.mem_take_iff_getElem.1 harg
      have hlt : j < i := Nat.lt_of_lt_of_le hj (Nat.min_le_left _ _)
      refine h.dashed (j + 1) _ (Nat.succ_pos j) (Nat.succ_lt_succ hlt) ?_
      rw [List.getElem?_cons_succ, List.getElem?_eq_getElem]

theorem dashed_or_exists_isFirstWord (argv : List String) :
    (∀ arg ∈ argv.tail, hasDash arg = true) ∨ ∃ pos word, IsFirstWord argv pos word := by
  cases argv with
  | nil => exact .inl fun arg harg => nomatch harg
  | cons program args =>
    cases hfind : args.find? fun arg => !hasDash arg with
    | none =>
      left
      intro arg harg
      simpa using List.find?_eq_none.1 hfind arg harg
    | some word =>
      right
      obtain ⟨hword, dashed, rest, rfl, hdashed⟩ := List.find?_eq_some_iff_append.1 hfind
      exact ⟨dashed.length + 1, word, isFirstWord_cons_append (by simpa using hdashed)
        (by simpa using hword) program rest⟩

/-! ## Completing arguments -/

theorem hasDash_run : hasDash Subcommand.run.keyword = false := by decide

theorem withDefaultSubcommand_append (h : ∀ arg ∈ dashed, hasDash arg = true)
    (rest : List String) :
    withDefaultSubcommand (dashed ++ rest) = dashed ++ withDefaultSubcommand rest := by
  induction dashed with
  | nil => rfl
  | cons arg dashed ih =>
    have hrest := ih fun arg' harg' => h arg' (List.mem_cons_of_mem _ harg')
    rw [List.cons_append, withDefaultSubcommand, if_pos (h arg List.mem_cons_self), hrest,
      List.cons_append]

theorem withDefaultSubcommand_file (hdash : hasDash file = false) (hfile : file ∉ commandKeywords)
    (rest : List String) :
    withDefaultSubcommand (file :: rest) = Subcommand.run.keyword :: file :: rest := by
  rw [withDefaultSubcommand, if_neg (by simp [hdash]), if_neg hfile]

/-- A command line that starts with a word of the command language is complete. -/
theorem withDefaultSubcommand_keyword (h : word ∈ commandKeywords) (rest : List String) :
    withDefaultSubcommand (word :: rest) = word :: rest := by
  have hdash : hasDash word = false := by
    simp only [commandKeywords, List.mem_cons, List.not_mem_nil, or_false] at h
    rcases h with rfl | rfl | rfl <;> decide
  rw [withDefaultSubcommand, if_neg (by simp [hdash]), if_pos h]

theorem completeVector_dashed (h : ∀ arg ∈ argv.tail, hasDash arg = true) :
    completeVector argv = argv := by
  cases argv with
  | nil => rfl
  | cons program args =>
    have hargs := withDefaultSubcommand_append h []
    rw [List.append_nil, withDefaultSubcommand, List.append_nil] at hargs
    exact congrArg (program :: ·) hargs

theorem completeVector_keyword (hdashed : ∀ arg ∈ dashed, hasDash arg = true)
    (hword : word ∈ commandKeywords) (program : String) (rest : List String) :
    completeVector (program :: (dashed ++ word :: rest)) = program :: (dashed ++ word :: rest) := by
  rw [completeVector, withDefaultSubcommand_append hdashed, withDefaultSubcommand_keyword hword]

theorem completeVector_file (hdashed : ∀ arg ∈ dashed, hasDash arg = true)
    (hdash : hasDash file = false) (hfile : file ∉ commandKeywords) (program : String)
    (rest : List String) :
    completeVector (program :: (dashed ++ file :: rest)) =
      program :: (dashed ++ Subcommand.run.keyword :: file :: rest) := by
  rw [completeVector, withDefaultSubcommand_append hdashed, withDefaultSubcommand_file hdash hfile]

/-! ## What becomes of an argument vector -/

/-- What becomes of an argument vector. -/
inductive Completes (argv : List String) : List String → Prop where
  | dashed (h : ∀ arg ∈ argv.tail, hasDash arg = true) : Completes argv argv
  | keyword {pos : Nat} {word : String} (h : IsFirstWord argv pos word)
      (hword : word ∈ commandKeywords) : Completes argv argv
  /-- The subcommand is put right in front of the first argument without a dash. -/
  | file {pos : Nat} {file : String} (h : IsFirstWord argv pos file)
      (hfile : file ∉ commandKeywords) :
      Completes argv (argv.insertIdx pos Subcommand.run.keyword)

theorem insertIdx_append_length (before after : List String) (arg : String) :
    (before ++ after).insertIdx before.length arg = before ++ arg :: after := by
  induction before with
  | nil => rfl
  | cons first before ih =>
    rw [List.cons_append, List.length_cons, List.insertIdx_succ_cons, ih, List.cons_append]

theorem IsFirstWord.completeVector_eq_self (h : IsFirstWord argv pos word)
    (hword : word ∈ commandKeywords) : completeVector argv = argv := by
  obtain ⟨program, dashed, rest, rfl, -, hdashed⟩ := h.exists_eq_cons_append
  exact completeVector_keyword hdashed hword program rest

theorem IsFirstWord.completeVector_eq_insertIdx (h : IsFirstWord argv pos file)
    (hfile : file ∉ commandKeywords) :
    completeVector argv = argv.insertIdx pos Subcommand.run.keyword := by
  obtain ⟨program, dashed, rest, rfl, rfl, hdashed⟩ := h.exists_eq_cons_append
  rw [completeVector_file hdashed h.hasDash_eq hfile, List.insertIdx_succ_cons,
    insertIdx_append_length]

theorem completes_iff : Completes argv completed ↔ completeVector argv = completed := by
  constructor
  · intro h
    cases h with
    | dashed h => exact completeVector_dashed h
    | keyword h hword => exact h.completeVector_eq_self hword
    | file h hfile => exact h.completeVector_eq_insertIdx hfile
  · rintro rfl
    rcases dashed_or_exists_isFirstWord argv with h | ⟨pos, word, h⟩
    · rw [completeVector_dashed h]
      exact .dashed h
    · by_cases hword : word ∈ commandKeywords
      · rw [h.completeVector_eq_self hword]
        exact .keyword h hword
      · rw [h.completeVector_eq_insertIdx hword]
        exact .file h hword

theorem completes_completeVector (argv : List String) : Completes argv (completeVector argv) :=
  completes_iff.2 rfl

/-- A vector is complete, or the first argument without a dash of its completion is the `run` that
was taken in. -/
theorem completeVector_eq_self_or_exists (argv : List String) :
    completeVector argv = argv ∨
      ∃ pos, IsFirstWord (completeVector argv) pos Subcommand.run.keyword ∧
        (completeVector argv).eraseIdx pos = argv := by
  have h := completes_completeVector argv
  generalize completeVector argv = completed at h ⊢
  cases h with
  | dashed => exact .inl rfl
  | keyword => exact .inl rfl
  | file h => exact .inr ⟨_, h.insertIdx hasDash_run, List.eraseIdx_insertIdx_self _⟩

/-- A completed vector is complete. -/
theorem completeVector_completeVector (argv : List String) :
    completeVector (completeVector argv) = completeVector argv := by
  rcases completeVector_eq_self_or_exists argv with h | ⟨pos, h, -⟩
  · rw [h, h]
  · exact h.completeVector_eq_self List.mem_cons_self

theorem sublist_completeVector (argv : List String) : argv.Sublist (completeVector argv) := by
  have h := completes_completeVector argv
  generalize completeVector argv = completed at h ⊢
  cases h with
  | dashed => exact List.Sublist.refl argv
  | keyword => exact List.Sublist.refl argv
  | file => exact List.sublist_insertIdx argv _ _

theorem head?_completeVector (argv : List String) :
    (completeVector argv).head? = argv.head? := by
  cases argv <;> rfl

/-- Two vectors become the same only if they are equal or one is the completion of the other. -/
theorem completeVector_eq_completeVector_iff :
    completeVector argv = completeVector argv' ↔
      argv = argv' ∨ completeVector argv = argv' ∨ argv = completeVector argv' := by
  constructor
  · intro heq
    rcases completeVector_eq_self_or_exists argv with h | ⟨pos, h, herase⟩
    · exact .inr (.inr (h.symm.trans heq))
    rcases completeVector_eq_self_or_exists argv' with h' | ⟨pos', h', herase'⟩
    · exact .inr (.inl (heq.trans h'))
    -- Both took in a word, which the common result shows at one place only.
    rw [← heq] at h' herase'
    rw [h.pos_unique h'] at herase
    exact .inl (herase.symm.trans herase')
  · rintro (rfl | rfl | rfl)
    · rfl
    · exact (completeVector_completeVector argv).symm
    · exact completeVector_completeVector argv'

/-! ## The laws of completion -/

/-- The laws of a function that completes argument vectors. -/
structure IsCompletion (complete : List String → List String) : Prop where
  completes_iff : ∀ argv completed, Completes argv completed ↔ complete argv = completed
  /-- What was taken in is `run`, and without it the vector is the old one. -/
  eraseIdx : ∀ argv pos file, IsFirstWord argv pos file → file ∉ commandKeywords →
    (complete argv)[pos]? = some Subcommand.run.keyword ∧ (complete argv).eraseIdx pos = argv
  program : ∀ argv : List String, (complete argv).head? = argv.head?
  sublist : ∀ argv : List String, argv.Sublist (complete argv)
  idempotent : ∀ argv, complete (complete argv) = complete argv
  alike_iff : ∀ argv argv', complete argv = complete argv' ↔
    argv = argv' ∨ complete argv = argv' ∨ argv = complete argv'
  /-- In front of a file, `run` may be spelled out or not. -/
  spelledOut : ∀ program dashed file rest, (∀ arg ∈ dashed, hasDash arg = true) →
    hasDash file = false → file ∉ commandKeywords →
      complete (program :: (dashed ++ file :: rest)) =
        complete (program :: (dashed ++ Subcommand.run.keyword :: file :: rest))

/-- Completion takes in `run` in front of the first argument without a dash, unless that is a word
of the command language, and changes nothing else. -/
theorem isCompletion_completeVector : IsCompletion completeVector where
  completes_iff _ _ := completes_iff
  eraseIdx argv pos file h hfile := by
    rw [h.completeVector_eq_insertIdx hfile]
    exact ⟨(h.insertIdx hasDash_run).getElem?_eq, List.eraseIdx_insertIdx_self _⟩
  program := head?_completeVector
  sublist := sublist_completeVector
  idempotent := completeVector_completeVector
  alike_iff _ _ := completeVector_eq_completeVector_iff
  spelledOut program dashed file rest hdashed hdash hfile := by
    rw [completeVector_file hdashed hdash hfile, completeVector_keyword hdashed List.mem_cons_self]

/-! The name of the program does not count, and the empty text is a file. -/

example :
    completeVector ["run", "--check", "", "test"] = ["run", "--check", "run", "", "test"] := by
  decide

/-! ## Running completed command lines -/

/-- The program does with a command line what it does with its completion. -/
theorem Outcome.ofVector_completeVector (argv : List String) (env : Surroundings)
    (target : String → Except FileError FileTree) :
    ofVector (completeVector argv) env target = ofVector argv env target := by
  unfold ofVector Invocation.ofVector
  rw [completeVector_completeVector]

end WorkflowOutline
