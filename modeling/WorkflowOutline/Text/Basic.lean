/-!
# Texts and places in them

What the program does with texts of any sort: it takes them apart into lines (`Text.lines`), finds
one inside another (`Text.containsText`), puts them in braces (`Text.braced`), and points at the
part of a source that a declaration comes from (`Span`).
-/

namespace WorkflowOutline

namespace Text

/-! ## Ranges of code points -/

/-- Whether the code point of a character lies in one of the closed ranges. -/
def inRanges (ranges : List (Nat × Nat)) (c : Char) : Bool :=
  ranges.any fun (low, high) => low ≤ c.toNat && c.toNat ≤ high

/-! ## Lines

A carriage return in front of a line feed belongs to the line end, and a line feed at the very end
starts no further line. -/

/-- Drops a carriage return at the end of a line. -/
def dropReturn (line : List Char) : List Char :=
  if line.getLast? = some '\r' then line.dropLast else line

/-- The lines of a text, of which `current` has been read of the first one. -/
def splitLines (current : List Char) : List Char → List (List Char)
  | [] => if current.isEmpty then [] else [current]
  | c :: rest =>
      if c = '\n' then dropReturn current :: splitLines [] rest
      else splitLines (current ++ [c]) rest

/-- The lines of a text, without their ends. -/
def lines (s : String) : List String := (splitLines [] s.toList).map String.ofList

/-! ## Texts inside texts -/

/-- Whether the first list of characters occurs in the second without gaps. -/
def containsChars (needle : List Char) : List Char → Bool
  | [] => needle.isEmpty
  | c :: rest => needle.isPrefixOf (c :: rest) || containsChars needle rest

theorem containsChars_iff {needle text : List Char} :
    containsChars needle text = true ↔ needle <:+: text := by
  induction text with
  | nil => simp [containsChars, List.isEmpty_iff]
  | cons c rest ih =>
    simp only [containsChars, Bool.or_eq_true, List.isPrefixOf_iff_prefix, ih]
    exact List.infix_cons_iff.symm

/-- Whether the first text occurs in the second. -/
def containsText (needle text : String) : Bool := containsChars needle.toList text.toList

theorem containsText_iff {needle text : String} :
    containsText needle text = true ↔ needle.toList <:+: text.toList := containsChars_iff

/-! ## Braces -/

def openBrace : String := String.ofList ['{']

def closeBrace : String := String.ofList ['}']

/-- A text in braces, with a blank on either side. -/
def braced (s : String) : String := openBrace ++ " " ++ s ++ " " ++ closeBrace

@[simp] theorem toList_openBrace : openBrace.toList = ['{'] := String.toList_ofList

@[simp] theorem toList_closeBrace : closeBrace.toList = ['}'] := String.toList_ofList

@[simp] theorem toList_braced (s : String) :
    (braced s).toList = ['{', ' '] ++ s.toList ++ [' ', '}'] := by
  simp [braced]

end Text

/-! ## Spans -/

/-- The byte range from `start` up to, and excluding, `stop`; either end may be the larger one.
Spans are carried, compared and printed; nothing orders or measures scripts by them. -/
structure Span where
  start : Nat
  stop : Nat
deriving DecidableEq, Repr, Inhabited

namespace Span

/-- The number of bytes covered, nothing for a reversed span. -/
def length (s : Span) : Nat := s.stop - s.start

/-- From the start of the first span to the end of the second. -/
def cover (first last : Span) : Span := ⟨first.start, last.stop⟩

end Span

end WorkflowOutline
