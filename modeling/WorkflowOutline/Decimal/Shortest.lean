import WorkflowOutline.Decimal.Binary64

/-!
# The shortest decimal text of a binary number

`Binary64.shortest` finds the fewest decimal digits that read back as the same number, and among
those the nearest to it; of two equally near ones it takes the larger. `Binary64.positional` writes
these digits without an exponent and with at least one digit after the point.
-/

namespace WorkflowOutline

namespace Binary64

/-- A decimal number `digits * 10 ^ exponent`. -/
structure DecimalForm where
  digits : Nat
  exponent : Int
deriving DecidableEq, Repr

/-- The least `p` with `num / den < 10 ^ p`. -/
def decimalMagnitude (num den : Nat) : Int :=
  if den ≤ num then digitCount (num / den)
  else
    -- `j` is least with `den ≤ num * 10 ^ j`
    let c := (den + num - 1) / num
    let j := if c ≤ 1 then 0 else digitCount (c - 1)
    1 - (j : Int)

/-- Strips zeros at the end of the digits, at most as many as given. -/
def DecimalForm.strip : Nat → DecimalForm → DecimalForm
  | 0, d => d
  | n + 1, d =>
      if d.digits % 10 = 0 ∧ d.digits ≠ 0 then strip n ⟨d.digits / 10, d.exponent + 1⟩ else d

/-- The digits of a positive number. A real reads back as the number when it lies between the
midpoints to its two neighbours, the midpoints included when the mantissa is even. On the grid of
decimals with `n` digits only the two points around the number can be nearest to it, so `n` is
raised until one of them reads back; seventeen digits always do. -/
def shortest (mantissa : Nat) (exponent : Int) : DecimalForm :=
  -- everything is counted in quarters of a unit in the last place
  let scale := exponent - 2
  let up := if 0 ≤ scale then Nat.pow 2 scale.toNat else 1
  let down := if 0 ≤ scale then 1 else Nat.pow 2 (-scale).toNat
  let isBinade := mantissa = leadingBit ∧ minExponent < exponent
  let low := (4 * mantissa - (if isBinade then 1 else 2)) * up
  let mid := 4 * mantissa * up
  let high := (4 * mantissa + 2) * up
  let p := decimalMagnitude mid down
  let reads (n d : Nat) : Bool :=
    if mantissa % 2 = 0 then low * d ≤ n ∧ n ≤ high * d else low * d < n ∧ n < high * d
  let attempt (n : Nat) : Option DecimalForm :=
    let unit := p - n
    -- a grid point `q` stands for `q * a / b` in the chosen unit
    let a := (if 0 ≤ unit then Nat.pow 10 unit.toNat else 1) * down
    let b := if 0 ≤ unit then 1 else Nat.pow 10 (-unit).toNat
    let q := mid * b / a
    let below := reads (q * a) b
    let above := reads ((q + 1) * a) b
    let nearerAbove := (q + 1) * a - mid * b ≤ mid * b - q * a
    if above ∧ (nearerAbove ∨ ¬ below) then some ⟨q + 1, unit⟩
    else if below then some ⟨q, unit⟩
    else none
  (((List.range 17).findSome? fun n => attempt (n + 1)).getD ⟨mantissa, exponent⟩).strip 20

/-- Writes a decimal number without an exponent. -/
def DecimalForm.positional (d : DecimalForm) : String :=
  let digits := Nat.toDigits 10 d.digits
  if 0 ≤ d.exponent then
    String.ofList (digits ++ List.replicate d.exponent.toNat '0') ++ ".0"
  else
    let places := (-d.exponent).toNat
    let padded := List.replicate (places + 1 - digits.length) '0' ++ digits
    let whole := padded.length - places
    String.ofList (padded.take whole) ++ "." ++ String.ofList (padded.drop whole)

/-- The text of a number; the sign of zero is kept. -/
def positional : Binary64 → String
  | .nan => "NaN"
  | .infinity negative => if negative then "-inf" else "inf"
  | .finite negative mantissa exponent =>
      (if negative then "-" else "") ++
        (if mantissa = 0 then "0.0" else (shortest mantissa exponent).positional)

end Binary64

end WorkflowOutline
