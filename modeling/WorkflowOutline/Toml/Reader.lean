/-!
# Reading characters

A `Reader` takes something off the front of a text, or fails. The position in the text is known in
bytes. All reading goes through `satisfy`; a failed alternative leaves the text as it was.
-/

namespace WorkflowOutline.Toml

/-- The unread characters and the number of bytes in front of them. -/
structure Cursor where
  rest : List Char
  offset : Nat

/-- Takes a value off the front of a text, or fails. -/
abbrev Reader := StateT Cursor Option

namespace Reader

variable {α β : Type}

/-- The number of bytes read so far. -/
def position : Reader Nat := do return (← get).offset

/-- The unread characters. -/
def upcoming : Reader (List Char) := do return (← get).rest

/-- Reads one character of a class. -/
def satisfy (p : Char → Bool) : Reader Char := fun c =>
  match c.rest with
  | [] => none
  | x :: rest => if p x then some (x, ⟨rest, c.offset + x.utf8Size⟩) else none

/-- Reads the given character. -/
def char (x : Char) : Reader Unit := do let _ ← satisfy (· == x)

/-- Reads the given characters. -/
def chars : List Char → Reader Unit
  | [] => pure ()
  | x :: xs => do char x; chars xs

/-- Holds at the end of the text only. -/
def atEnd : Reader Unit := do
  if (← upcoming).isEmpty then pure () else failure

/-- Reads something, if it is there. -/
def optionally (r : Reader α) : Reader (Option α) := (some <$> r) <|> pure none

/-- Reads as often as possible, but at most as many times as given. -/
def upTo : Nat → Reader α → Reader (List α)
  | 0, _ => pure []
  | n + 1, r => do
      match ← optionally r with
      | none => pure []
      | some a => do
          let rest ← upTo n r
          pure (a :: rest)

/-- Reads as often as possible. A reader that takes at least one character each time cannot succeed
more often than there are characters left. -/
def many (r : Reader α) : Reader (List α) := do upTo (← upcoming).length r

/-- Reads at least once. -/
def many1 (r : Reader α) : Reader (List α) := do
  let first ← r
  let rest ← many r
  pure (first :: rest)

/-- Reads items between separators, at least one. -/
def separated (separator : Reader β) (r : Reader α) : Reader (List α) := do
  let first ← r
  let rest ← many (separator *> r)
  pure (first :: rest)

/-- Reads the longest run of characters of a class. -/
def takeWhile (p : Char → Bool) : Reader (List Char) := many (satisfy p)

/-- Reads exactly so many times. -/
def times : Nat → Reader α → Reader (List α)
  | 0, _ => pure []
  | n + 1, r => do
      let a ← r
      let rest ← times n r
      pure (a :: rest)

/-- Reads a whole text. -/
def readAll (r : Reader α) (text : List Char) (offset : Nat) : Option α :=
  ((r <* atEnd) ⟨text, offset⟩).map Prod.fst

end Reader

end WorkflowOutline.Toml
