import Heartbeat.Binary64.Basic
import Heartbeat.Text.Blank
import Heartbeat.Text.Digit

/-!
# Reading numbers

A number given as text may stand between blanks, may carry a sign, may separate its digits by
single underscores and may use the decimal digits of any script. A text is first brought into
plain form, in which blanks and digits are those of the first 128 characters; what else lies
beyond them makes it no number.
-/

namespace Heartbeat.Text

/-- A character in plain form, if it can be part of a number. -/
def plainChar? (c : Char) : Option Char :=
  if c.toNat < 128 then some c
  else if isWideBlank c then some ' '
  else (digitValue? c).map Nat.digitChar

/-- The text without what is blank at either end. -/
def trimmed (text : List Char) : List Char :=
  ((text.dropWhile isBlank).reverse.dropWhile isBlank).reverse

/-- The text without its underscores, each of which has to stand between two digits. -/
def ungrouped? (afterDigit : Bool) : List Char → Option (List Char)
  | [] => some []
  | c :: rest =>
    if c = '_' then
      if afterDigit && rest.head?.any Char.isDigit then ungrouped? false rest else none
    else (ungrouped? c.isDigit rest).map (c :: ·)

/-- The characters of a number in plain form: trimmed, and without underscores. -/
def plain? (text : String) : Option (List Char) := do
  ungrouped? false (trimmed (← text.toList.mapM plainChar?))

/-- Splits off a sign; true stands for the minus. -/
def splitSign : List Char → Bool × List Char
  | '-' :: rest => (true, rest)
  | '+' :: rest => (false, rest)
  | text => (false, text)

/-- The value of a run of digits, if it is one. -/
def digits? (text : List Char) : Option Nat :=
  if text ≠ [] ∧ text.all Char.isDigit then some (Nat.ofDigitChars 10 text 0) else none

/-- The longest run of digits that is read as a whole number. -/
def longestNumeral : Nat := 4300

/-- Reads a whole number: a sign if there is one, and decimal digits. -/
def int? (text : String) : Option Int := do
  let (negative, body) := splitSign (← plain? text)
  let magnitude ← digits? body
  if body.length ≤ longestNumeral then
    some (if negative then -(magnitude : Int) else magnitude)
  else none

/-- Reads the exponent of a decimal: nothing at all, or a letter and a whole number. -/
def exponent? : List Char → Option Int
  | [] => some 0
  | letter :: rest => do
    if letter ≠ 'e' ∧ letter ≠ 'E' then none
    let (negative, body) := splitSign rest
    let magnitude ← digits? body
    some (if negative then -(magnitude : Int) else magnitude)

/-- Reads a decimal without sign: digits with at most one point among them, then an exponent. -/
def decimal? (negative : Bool) (text : List Char) : Option Binary64 := do
  let whole := text.takeWhile Char.isDigit
  let afterWhole := text.dropWhile Char.isDigit
  let (fraction, rest) := match afterWhole with
    | '.' :: rest => (rest.takeWhile Char.isDigit, rest.dropWhile Char.isDigit)
    | rest => ([], rest)
  let digits ← digits? (whole ++ fraction)
  let exponent ← exponent? rest
  some (.ofDecimal negative digits (exponent - fraction.length))

/-- Reads a binary64 number: a decimal, an infinity or what is not a number, with a sign if there
is one. The words may be written in capitals. -/
def binary64? (text : String) : Option Binary64 := do
  let (negative, body) := splitSign (← plain? text)
  let word := String.ofList (body.map Char.toLower)
  if word = "inf" ∨ word = "infinity" then some (.infinity negative)
  else if word = "nan" then some .nan
  else decimal? negative body

end Heartbeat.Text
