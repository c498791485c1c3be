import Heartbeat.Text.Printable

/-!
# Quoted text

A message that reports a text which could not be read shows it in quotes, so that its ends and
its invisible characters are seen. Single quotes are used unless the text holds one and holds no
double quote. Inside, the backslash and the quote in use are marked with a backslash, tab and the
two line ends have a letter, and every other character that is not printable is written by its
number in two, four or eight hexadecimal digits.
-/

namespace Heartbeat.Text

/-- The hexadecimal digits of `n`, filled up with zeros to at least `width`. -/
def hexDigits (width n : Nat) : List Char :=
  let digits := Nat.toDigits 16 n
  List.replicate (width - digits.length) '0' ++ digits

/-- How one character stands between quotes of the given kind. -/
def escaped (quote c : Char) : List Char :=
  if c = '\\' ∨ c = quote then ['\\', c]
  else if c = '\t' then ['\\', 't']
  else if c = '\n' then ['\\', 'n']
  else if c = '\r' then ['\\', 'r']
  else if isPrintable c then [c]
  else if c.toNat < 0x100 then '\\' :: 'x' :: hexDigits 2 c.toNat
  else if c.toNat < 0x10000 then '\\' :: 'u' :: hexDigits 4 c.toNat
  else '\\' :: 'U' :: hexDigits 8 c.toNat

/-- The quote that surrounds a text. -/
def quoteFor (text : List Char) : Char :=
  if text.contains '\'' && !text.contains '"' then '"' else '\''

/-- The text in quotes. -/
def quoted (text : String) : String :=
  let quote := quoteFor text.toList
  .ofList (quote :: text.toList.flatMap (escaped quote) ++ [quote])

end Heartbeat.Text
