import Heartbeat.Binary64.Fixed

/-!
# The fewest digits that read back

A number is shown with as few significant digits as possible such that reading them gives the
same number. The search is the definition: for one digit, two digits, and so on, the two
neighbours of the exact value on that decimal grid are read, the nearer one first, and the first
that reads back is taken. Seventeen digits are enough for every binary64 number; should none of
the grids answer, the exact value is written out, which always reads back.

One unit is `5 ^ 1074` times `10 ^ -1074`, so the exact decimal digits of a magnitude are those
of a whole number, and its neighbours on a grid are found by cutting digits off.
-/

namespace Heartbeat.Binary64

/-- A positive decimal number, `digits * 10 ^ exponent`. -/
structure Decimal where
  digits : Nat
  exponent : Int
  deriving DecidableEq, Repr

/-- Does the decimal round to exactly this magnitude? -/
def Decimal.readsAs (decimal : Decimal) (units : Nat) : Bool :=
  match ofDecimal false decimal.digits decimal.exponent with
  | finite _ nearest _ => nearest = units
  | _ => false

/-- The magnitude as a decimal, digit for digit. -/
def exactDecimal (units : Nat) : Decimal := ⟨units * 5 ^ 1074, -1074⟩

/-- The neighbours of a decimal when its last `dropped` digits are cut off, the nearer first. -/
def Decimal.neighbours (decimal : Decimal) (dropped : Nat) : List Decimal :=
  let below := decimal.digits / 10 ^ dropped
  let nearest := roundHalfEven decimal.digits (10 ^ dropped)
  [⟨nearest, decimal.exponent + dropped⟩, ⟨2 * below + 1 - nearest, decimal.exponent + dropped⟩]

/-- The decimal of fewest digits that reads as this magnitude. -/
def shortestDecimal (units : Nat) : Decimal :=
  let exact := exactDecimal units
  let width := (Nat.toDigits 10 exact.digits).length
  let onGrid (count : Nat) : Option Decimal :=
    (exact.neighbours (width - (count + 1))).find? (·.readsAs units)
  ((List.range 17).findSome? onGrid).getD exact

/-- The digits of an exponent: a sign, and at least two digits. -/
def exponentDigits (exponent : Int) : List Char :=
  (if exponent < 0 then '-' else '+') :: paddedDigits 2 exponent.natAbs

/-- Significant digits with the point at position `point` counted from the first digit. From
`10 ^ -4` up to below `10 ^ 16` the point is written where it stands, with a digit on either
side of it; outside this range it follows the first digit and the shift becomes an exponent. -/
def placed (digits : List Char) (point : Int) : List Char :=
  if point ≤ -4 ∨ 16 < point then
    digits.take 1 ++ (if digits.length ≤ 1 then [] else '.' :: digits.drop 1)
      ++ 'e' :: exponentDigits (point - 1)
  else if point ≤ 0 then
    '0' :: '.' :: List.replicate (-point).toNat '0' ++ digits
  else if point < digits.length then
    digits.take point.toNat ++ '.' :: digits.drop point.toNat
  else
    digits ++ List.replicate (point - digits.length).toNat '0' ++ ['.', '0']

/-- A decimal written out, without zeros at the end of its significant digits. -/
def Decimal.text (decimal : Decimal) : List Char :=
  let digits := Nat.toDigits 10 decimal.digits
  placed (digits.reverse.dropWhile (· = '0')).reverse (digits.length + decimal.exponent)

/-- The shortest text of a number that reads back as the same number. -/
def shortest : Binary64 → String
  | nan => "nan"
  | infinity negative => .ofList (signMark negative ++ ['i', 'n', 'f'])
  | finite negative units _ =>
    .ofList (signMark negative ++
      if units = 0 then ['0', '.', '0'] else (shortestDecimal units).text)

end Heartbeat.Binary64
