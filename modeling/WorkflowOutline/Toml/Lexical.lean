import WorkflowOutline.Toml.Reader
import WorkflowOutline.Toml.Value

/-!
# The words of TOML

Readers for what a document is made of: blanks and comments, keys, strings, numbers, dates and
times.
-/

namespace WorkflowOutline.Toml

/-! ## Classes of characters -/

/-- A blank is a space or a tab. -/
def isBlank (c : Char) : Bool := c == ' ' || c == '\t'

/-- Comments and strings hold no control character but the tab. -/
def isTextChar (c : Char) : Bool := c == '\t' || (0x20 ≤ c.toNat && c.toNat != 0x7F)

/-- Letters, digits, dashes and underscores make up a key without quotes. -/
def isBareChar (c : Char) : Bool := c.isAlphanum || c == '-' || c == '_'

/-- A digit of base sixteen. -/
def isHexDigit (c : Char) : Bool :=
  c.isDigit || ('a' ≤ c && c ≤ 'f') || ('A' ≤ c && c ≤ 'F')

/-- The value of a digit. -/
def digitValue (c : Char) : Nat :=
  if c.isDigit then c.toNat - '0'.toNat
  else if 'a' ≤ c then c.toNat - 'a'.toNat + 10
  else c.toNat - 'A'.toNat + 10

/-- The number written by digits of a base. -/
def numeral (base : Nat) (digits : List Char) : Nat :=
  digits.foldl (fun n c => base * n + digitValue c) 0

namespace Reader

/-! ## Blanks and comments -/

/-- Skips blanks. -/
def blanks : Reader Unit := do let _ ← takeWhile isBlank

/-- A line ends in a line feed, possibly after a carriage return. -/
def newline : Reader Unit := char '\n' <|> chars ['\r', '\n']

/-- A comment runs to the end of the line. -/
def comment : Reader Unit := do
  char '#'
  let _ ← takeWhile isTextChar

/-- What may follow a header or a value on its line. -/
def lineEnd : Reader Unit := do
  blanks
  let _ ← optionally comment
  newline <|> atEnd

/-- Blanks, line ends and comments, as allowed between the items of an array. -/
def trivia : Reader Unit := do
  let _ ← many ((do let _ ← satisfy isBlank) <|> newline <|> (do comment; newline))

/-! ## Strings -/

/-- A character given by so many digits of base sixteen; surrogates are no characters. -/
def codePoint (count : Nat) : Reader Char := do
  let n := numeral 16 (← times count (satisfy isHexDigit))
  if h : n.isValidChar then pure (Char.ofNatAux n h) else failure

/-- The rest of an escape sequence, after the backslash. -/
def escape : Reader Char := do
  match ← satisfy fun _ => true with
  | 'b' => pure '\x08'
  | 't' => pure '\t'
  | 'n' => pure '\n'
  | 'f' => pure '\x0c'
  | 'r' => pure '\r'
  | '"' => pure '"'
  | '\\' => pure '\\'
  | 'u' => codePoint 4
  | 'U' => codePoint 8
  | _ => failure

/-- A character between double quotes. -/
def basicChar : Reader Char :=
  satisfy (fun c => isTextChar c && c != '"' && c != '\\') <|> (do char '\\'; escape)

/-- A string between double quotes, on one line. -/
def basicString : Reader (List Char) := do
  char '"'
  let text ← many basicChar
  char '"'
  pure text

/-- A string between single quotes, on one line, without escapes. -/
def literalString : Reader (List Char) := do
  char '\''
  let text ← takeWhile fun c => isTextChar c && c != '\''
  char '\''
  pure text

/-- One or two quotes that do not end a string of several lines. -/
def innerQuotes (quote : Char) : Reader (List Char) := do
  let count := ((← upcoming).takeWhile (· == quote)).length
  if 1 ≤ count ∧ count ≤ 2 then times count (satisfy (· == quote)) else failure

/-- The three quotes that end a string of several lines, after up to two that belong to it. -/
def closingQuotes (quote : Char) : Reader (List Char) := do
  let count := ((← upcoming).takeWhile (· == quote)).length
  if 3 ≤ count ∧ count ≤ 5 then
    let quotes ← times count (satisfy (· == quote))
    pure (quotes.drop 3)
  else failure

/-- A line end inside a string of several lines reads as a line feed. -/
def innerNewline : Reader (List Char) := do newline; pure ['\n']

/-- A backslash at the end of a line skips the line end and all blanks and line ends behind it. -/
def continuation : Reader (List Char) := do
  char '\\'
  blanks
  newline
  let _ ← many ((do let _ ← satisfy isBlank) <|> newline)
  pure []

/-- A string between three double quotes. A line end right after the opening is not part of it. -/
def multilineBasicString : Reader (List Char) := do
  chars ['"', '"', '"']
  let _ ← optionally newline
  let parts ← many
    ((do pure [← basicChar]) <|> innerNewline <|> continuation <|> innerQuotes '"')
  let last ← closingQuotes '"'
  pure (parts.flatten ++ last)

/-- A string between three single quotes, without escapes. -/
def multilineLiteralString : Reader (List Char) := do
  chars ['\'', '\'', '\'']
  let _ ← optionally newline
  let parts ← many
    ((do pure [← satisfy fun c => isTextChar c && c != '\'']) <|> innerNewline
      <|> innerQuotes '\'')
  let last ← closingQuotes '\''
  pure (parts.flatten ++ last)

/-- A string in any of the four forms. -/
def string : Reader String :=
  String.ofList <$>
    (multilineBasicString <|> basicString <|> multilineLiteralString <|> literalString)

/-! ## Keys -/

/-- A part of a dotted key, and where it stands. -/
structure KeyPart where
  name : String
  span : Span

/-- A key without dots. -/
def simpleKey : Reader KeyPart := do
  let start ← position
  let name ← basicString <|> literalString <|> many1 (satisfy isBareChar)
  return ⟨String.ofList name, ⟨start, ← position⟩⟩

/-- The greatest depth to which values and dotted keys nest. -/
def depthLimit : Nat := 79

/-- Keys joined by dots, with blanks around each of them: all but the last, and the last. -/
def dottedKey : Reader (List KeyPart × KeyPart) := do
  let first ← part
  let rest ← many (char '.' *> part)
  let keys := first :: rest
  if keys.length ≤ depthLimit then pure (keys.dropLast, rest.getLastD first) else failure
where
  part : Reader KeyPart := do
    blanks
    let key ← simpleKey
    blanks
    pure key

/-! ## Numbers -/

/-- Digits of which any two may be set apart by one underscore. -/
def digitRun (isDigit : Char → Bool) : Reader (List Char) := do
  let first ← satisfy isDigit
  let rest ← many (satisfy isDigit <|> (char '_' *> satisfy isDigit))
  pure (first :: rest)

/-- A sign; true for minus. -/
def sign : Reader Bool := (char '-' *> pure true) <|> (char '+' *> pure false) <|> pure false

/-- A whole number in base ten, without a zero in front. -/
def wholeDigits : Reader (List Char) := do
  match (← upcoming).head? with
  | some '0' => pure [← satisfy (· == '0')]
  | _ => digitRun Char.isDigit

/-- The largest integer of 64 bits with a sign. -/
def maxInteger : Int := 9223372036854775807

/-- Accepts what fits into 64 bits with a sign. -/
def ranged (i : Int) : Reader Int :=
  if -maxInteger - 1 ≤ i ∧ i ≤ maxInteger then pure i else failure

/-- A whole number in a base that is a power of two, after its two-letter mark. -/
def basedInteger (mark : Char) (base : Nat) (isDigit : Char → Bool) : Reader Int := do
  chars ['0', mark]
  ranged (numeral base (← digitRun isDigit))

/-- A whole number. -/
def integer : Reader Int :=
  basedInteger 'x' 16 isHexDigit
    <|> basedInteger 'o' 8 (fun c => '0' ≤ c && c ≤ '7')
    <|> basedInteger 'b' 2 (fun c => c == '0' || c == '1')
    <|> (do
      let negative ← sign
      let n : Int := numeral 10 (← wholeDigits)
      ranged (if negative then -n else n))

/-- The power of ten after a number. -/
def exponent : Reader Int := do
  let _ ← satisfy fun c => c == 'e' || c == 'E'
  let negative ← sign
  let n : Int := numeral 10 (← digitRun Char.isDigit)
  pure (if negative then -n else n)

/-- A number with a fraction, a power of ten or both. It may not overflow to plus infinity. -/
def decimalFloat : Reader Binary64 := do
  let negative ← sign
  let whole ← wholeDigits
  let fraction ← optionally (char '.' *> digitRun Char.isDigit)
  let power ← match fraction with
    | none => some <$> exponent
    | some _ => optionally exponent
  let places := fraction.getD []
  let f := Binary64.ofDecimal negative (numeral 10 (whole ++ places))
    (power.getD 0 - places.length)
  if f = .infinity false then failure else pure f

/-- A number with a fraction or a power of ten, or one of the names for what is no real number. -/
def float : Reader Binary64 :=
  decimalFloat <|> (do
    let negative ← sign
    (do chars ['i', 'n', 'f']; pure (.infinity negative))
      <|> (do chars ['n', 'a', 'n']; pure .nan))

/-! ## Dates and times -/

/-- A number of exactly so many digits. -/
def fixedDigits (count : Nat) : Reader Nat := do
  return numeral 10 (← times count (satisfy Char.isDigit))

/-- A day of the calendar. -/
def date : Reader Date := do
  let year ← fixedDigits 4
  char '-'
  let month ← fixedDigits 2
  char '-'
  let day ← fixedDigits 2
  let d : Date := ⟨year, month, day⟩
  if d.isValid then pure d else failure

/-- A time of day; of its fraction nine digits count. -/
def time (limits : ClockLimits) : Reader Time := do
  let hour ← fixedDigits 2
  char ':'
  let minute ← fixedDigits 2
  char ':'
  let second ← fixedDigits 2
  let fraction ← optionally (char '.' *> many1 (satisfy Char.isDigit))
  let digits := (fraction.getD []).take 9
  let t : Time := ⟨hour, minute, second, numeral 10 digits * Nat.pow 10 (9 - digits.length)⟩
  if t.isValid limits then pure t else failure

/-- An offset from universal time. -/
def timeOffset (limits : ClockLimits) : Reader Offset :=
  (do let _ ← satisfy fun c => c == 'Z' || c == 'z'; pure .zulu)
    <|> (do
      let negative ← (char '-' *> pure true) <|> (char '+' *> pure false)
      let hours ← fixedDigits 2
      char ':'
      let minutes ← fixedDigits 2
      let east := hours * 60 + minutes
      if minutes ≤ limits.offsetMinute ∧ east ≤ limits.offset then
        pure (.minutes (if negative then -(east : Int) else east))
      else failure)

/-- A date, a time or both, with an offset only after both. -/
def dateTime (limits : ClockLimits) : Reader DateTime :=
  (do
    let d ← date
    let t? ← optionally do
      let _ ← satisfy fun c => c == 'T' || c == 't' || c == ' '
      time limits
    match t? with
    | none => pure (.date d)
    | some t => do
        match ← optionally (timeOffset limits) with
        | none => pure (.unzoned d t)
        | some o => pure (.zoned d t o))
    <|> (.time <$> time limits)

/-! ## Scalars -/

/-- A value without parts. A date is tried before a number, whose digits it begins with. -/
def scalar : Reader Scalar :=
  (.string <$> string)
    <|> (.dateTime <$> dateTime .bare)
    <|> (.float <$> float)
    <|> (.integer <$> integer)
    <|> (do chars ['t', 'r', 'u', 'e']; pure (.boolean true))
    <|> (do chars ['f', 'a', 'l', 's', 'e']; pure (.boolean false))

end Reader

/-- The date or time that a string consists of. -/
def DateTime.ofString? (s : String) : Option DateTime :=
  (StateT.run (Reader.dateTime .quoted <* Reader.atEnd) ⟨s.toList, 0⟩).map Prod.fst

end WorkflowOutline.Toml
