import Heartbeat.Binary64.Basic

/-!
# Numbers with a fixed count of decimal places

Percentages are shown with two decimal places and durations with three. The number shown is the
exact value rounded once, a half going to the even last digit; the sign is the sign of the
number, so that a negative zero and everything rounded to it keep their minus.
-/

namespace Heartbeat.Binary64

/-- The mark in front of a negative number. -/
def signMark (negative : Bool) : List Char := if negative then ['-'] else []

/-- The decimal digits of `n`, filled up with zeros on the left to at least `width`. -/
def paddedDigits (width n : Nat) : List Char :=
  let digits := Nat.toDigits 10 n
  List.replicate (width - digits.length) '0' ++ digits

/-- The number `n / 10 ^ places` written out, with a point before the last `places` digits. -/
def pointed (places n : Nat) : List Char :=
  Nat.toDigits 10 (n / 10 ^ places) ++ '.' :: paddedDigits places (n % 10 ^ places)

/-- How often `10 ^ -places` goes into a magnitude, rounded to the nearest whole number. -/
def scaled (places units : Nat) : Nat := roundHalfEven (units * 10 ^ places) unitsInOne

/-- The text of a number with exactly `places` decimal places. -/
def fixed (places : Nat) : Binary64 → String
  | nan => "nan"
  | infinity negative => .ofList (signMark negative ++ ['i', 'n', 'f'])
  | finite negative units _ => .ofList (signMark negative ++ pointed places (scaled places units))

end Heartbeat.Binary64
