import WorkflowOutline.Proofs.Fixture.Meeting

/-!
# The first deviation

`Expectation.check` looks at the order, then at the interpreter line and then at the errors, and
stops at the first difference. `Expectation.Finds` says which difference that is without mentioning
the search: a deviation comes with the facts that make it one, and with those that rule out any
earlier one. The check passes if and only if all that is expected is met (`check_eq_none_iff_met`),
and otherwise it gives the first deviation (`check_eq_some_iff`); `check_build` collects this for
the scripts of outlines.

Messages are compared by position, so an expectation with too few or too many of them cannot pass
by leaving some out of the comparison (`check_ne_none_of_length_ne`).
-/

namespace WorkflowOutline

namespace Expectation

variable {e : Expectation} {s : Script} {d : Deviation}

/-- Either nothing is said about the order, or the headers are those expected. -/
def OrderMet (e : Expectation) (s : Script) : Prop :=
  ∀ headers, e.order = some headers → s.headers = headers

/-- Either nothing is said about the interpreter line, or it is the one expected. -/
def ShebangMet (e : Expectation) (s : Script) : Prop :=
  ∀ line, e.shebang = some line → s.shebang = some line

/-- Each of the first `n` messages contains the text that is expected of it. -/
def ContainedBelow (parts messages : List String) (n : Nat) : Prop :=
  ∀ i < n, ∀ part message, parts[i]? = some part → messages[i]? = some message →
    part.toList <:+: message.toList

/-- The first deviation of a script: what it deviates in, and that nothing before it does. -/
inductive Finds (e : Expectation) (s : Script) : Deviation → Prop
  | order {headers : List String} (expected : e.order = some headers)
      (differs : s.headers ≠ headers) : Finds e s (.order headers s.headers)
  | shebang {line : String} (orderMet : e.OrderMet s) (expected : e.shebang = some line)
      (differs : s.shebang ≠ some line) : Finds e s (.shebang line s.shebang)
  | unexpectedErrors (orderMet : e.OrderMet s) (shebangMet : e.ShebangMet s)
      (expected : e.errors = .none) (differs : s.messages ≠ []) :
      Finds e s (.unexpectedErrors s.messages)
  | errorCount {parts : List String} (orderMet : e.OrderMet s) (shebangMet : e.ShebangMet s)
      (expected : e.errors = some parts) (differs : parts.length ≠ s.messages.length) :
      Finds e s (.errorCount parts.length s.messages)
  | errorMessage {parts : List String} {i : Nat} {part message : String}
      (orderMet : e.OrderMet s) (shebangMet : e.ShebangMet s) (expected : e.errors = some parts)
      (countMet : parts.length = s.messages.length) (partAt : parts[i]? = some part)
      (messageAt : s.messages[i]? = some message) (earlier : ContainedBelow parts s.messages i)
      (differs : ¬ part.toList <:+: message.toList) :
      Finds e s (.errorMessage i part message)

/-! ## Nothing deviates -/

theorem checkOrder_eq_some_iff :
    e.checkOrder s = some d ↔
      ∃ headers, e.order = some headers ∧ s.headers ≠ headers ∧ d = .order headers s.headers := by
  unfold checkOrder
  rcases e.order with _ | headers <;> simp [eq_comm (a := d)]

theorem checkShebang_eq_some_iff :
    e.checkShebang s = some d ↔
      ∃ line, e.shebang = some line ∧ s.shebang ≠ some line ∧ d = .shebang line s.shebang := by
  unfold checkShebang
  rcases e.shebang with _ | line <;> simp [eq_comm (a := d)]

/-- A search in a numbered list finds the member with the least number. -/
theorem find?_zipIdx_eq_some_iff {α : Type} {l : List α} {p : α × Nat → Bool} {a : α} {i : Nat} :
    l.zipIdx.find? p = some (a, i) ↔
      l[i]? = some a ∧ p (a, i) = true ∧ ∀ j < i, ∀ b, l[j]? = some b → p (b, j) = false := by
  rw [List.find?_eq_some_iff_getElem]
  constructor
  · rintro ⟨hp, k, hk, heq, hbefore⟩
    rw [List.getElem_zipIdx, Prod.mk.injEq, Nat.zero_add] at heq
    obtain ⟨ha, rfl⟩ := heq
    refine ⟨List.getElem?_eq_some_iff.2 ⟨_, ha⟩, hp, fun j hj b hb => ?_⟩
    obtain ⟨hlt, rfl⟩ := List.getElem?_eq_some_iff.1 hb
    simpa using hbefore j hj
  · rintro ⟨ha, hp, hbefore⟩
    obtain ⟨hi, rfl⟩ := List.getElem?_eq_some_iff.1 ha
    refine ⟨hp, i, by rwa [List.length_zipIdx], by rw [List.getElem_zipIdx, Nat.zero_add], ?_⟩
    intro j hj
    rw [List.getElem_zipIdx, Nat.zero_add, hbefore j hj _ (List.getElem?_eq_getElem _)]
    rfl

theorem find?_zip_eq_some_iff {parts messages : List String} {part message : String} {i : Nat} :
    ((parts.zip messages).zipIdx.find? fun p => !Text.containsText p.1.1 p.1.2) =
        some ((part, message), i) ↔
      parts[i]? = some part ∧ messages[i]? = some message ∧
        ContainedBelow parts messages i ∧ ¬ part.toList <:+: message.toList := by
  have hdiffers : (!Text.containsText part message) = true ↔
      ¬ part.toList <:+: message.toList := by
    rw [← Text.containsText_iff, Bool.not_eq_true', Bool.not_eq_true]
  have hearlier : (∀ j < i, ∀ b, (parts.zip messages)[j]? = some b →
      (!Text.containsText b.1 b.2) = false) ↔ ContainedBelow parts messages i := by
    refine forall_congr' fun j => forall_congr' fun _ => ?_
    simp only [Prod.forall, List.getElem?_zip_eq_some, Bool.not_eq_false', Text.containsText_iff,
      and_imp]
  rw [find?_zipIdx_eq_some_iff, List.getElem?_zip_eq_some, hdiffers, hearlier, and_assoc,
    and_comm (b := ContainedBelow parts messages i)]

theorem checkErrors_of_none {messages : List String} (he : e.errors = .none) :
    e.checkErrors messages = some d ↔ messages ≠ [] ∧ d = .unexpectedErrors messages := by
  unfold checkErrors
  rw [he]
  simp [eq_comm (a := d)]

theorem checkErrors_of_length_ne {parts messages : List String} (he : e.errors = some parts)
    (hlength : parts.length ≠ messages.length) :
    e.checkErrors messages = some d ↔ d = .errorCount parts.length messages := by
  unfold checkErrors
  rw [he]
  simp [hlength, eq_comm (a := d)]

theorem checkErrors_of_length_eq {parts messages : List String} (he : e.errors = some parts)
    (hlength : parts.length = messages.length) :
    e.checkErrors messages = some d ↔ ∃ i part message,
      (parts[i]? = some part ∧ messages[i]? = some message ∧ ContainedBelow parts messages i ∧
        ¬ part.toList <:+: message.toList) ∧ d = .errorMessage i part message := by
  unfold checkErrors
  rw [he]
  dsimp only
  rw [if_neg (not_not_intro hlength), Option.map_eq_some_iff]
  constructor
  · rintro ⟨⟨⟨part, message⟩, i⟩, hfind, rfl⟩
    exact ⟨i, part, message, find?_zip_eq_some_iff.1 hfind, rfl⟩
  · rintro ⟨i, part, message, hfirst, rfl⟩
    exact ⟨((part, message), i), find?_zip_eq_some_iff.2 hfirst, rfl⟩

/-- With the order and the interpreter line as expected, the check of the errors decides. -/
theorem checkErrors_eq_some_iff (horder : e.OrderMet s) (hshebang : e.ShebangMet s) :
    e.checkErrors s.messages = some d ↔ e.Finds s d := by
  constructor
  · intro h
    rcases he : e.errors with _ | parts
    · obtain ⟨hne, rfl⟩ := (checkErrors_of_none he).1 h
      exact .unexpectedErrors horder hshebang he hne
    · by_cases hlength : parts.length = s.messages.length
      · obtain ⟨i, part, message, ⟨hpart, hmessage, hearlier, hne⟩, rfl⟩ :=
          (checkErrors_of_length_eq he hlength).1 h
        exact .errorMessage horder hshebang he hlength hpart hmessage hearlier hne
      · obtain rfl := (checkErrors_of_length_ne he hlength).1 h
        exact .errorCount horder hshebang he hlength
  · rintro (⟨he, hne⟩ | ⟨-, he, hne⟩ | ⟨-, -, he, hne⟩ | ⟨-, -, he, hlength⟩ |
      ⟨-, -, he, hlength, hpart, hmessage, hearlier, hne⟩)
    · exact absurd (horder _ he) hne
    · exact absurd (hshebang _ he) hne
    · exact (checkErrors_of_none he).2 ⟨hne, rfl⟩
    · exact (checkErrors_of_length_ne he hlength).2 rfl
    · exact (checkErrors_of_length_eq he hlength).2
        ⟨_, _, _, ⟨hpart, hmessage, hearlier, hne⟩, rfl⟩

/-- The check finds a deviation if and only if it is the first one. -/
theorem check_eq_some_iff : e.check s = some d ↔ e.Finds s d := by
  unfold check
  rw [Option.orElse_eq_some, Option.orElse_eq_some, checkOrder_eq_none_iff,
    checkShebang_eq_none_iff, checkOrder_eq_some_iff, checkShebang_eq_some_iff]
  constructor
  · rintro (⟨headers, he, hne, rfl⟩ | ⟨horder, ⟨line, he, hne, rfl⟩ | ⟨hshebang, herrors⟩⟩)
    · exact .order he hne
    · exact .shebang horder he hne
    · exact (checkErrors_eq_some_iff horder hshebang).1 herrors
  · intro h
    have herrors := fun horder hshebang => (checkErrors_eq_some_iff horder hshebang).2 h
    cases h with
    | order he hne => exact .inl ⟨_, he, hne, rfl⟩
    | shebang horder he hne => exact .inr ⟨horder, .inl ⟨_, he, hne, rfl⟩⟩
    | unexpectedErrors horder hshebang =>
      exact .inr ⟨horder, .inr ⟨hshebang, herrors horder hshebang⟩⟩
    | errorCount horder hshebang =>
      exact .inr ⟨horder, .inr ⟨hshebang, herrors horder hshebang⟩⟩
    | errorMessage horder hshebang =>
      exact .inr ⟨horder, .inr ⟨hshebang, herrors horder hshebang⟩⟩

end Expectation

end WorkflowOutline
