/-!
# Blank characters

What may surround a number, and what ends an address, is blank. The six blanks of the first 128
characters are the space and the five controls from tab to carriage return; the separators of
files, groups, records and units are not among them. The blanks beyond are the separators that the
character database, version 14.0, lists, and the next-line control.
-/

namespace Heartbeat.Text

/-- A blank among the first 128 characters. -/
def isBlank (c : Char) : Bool :=
  c = ' ' || (9 ≤ c.toNat && c.toNat ≤ 13)

/-- A blank beyond the first 128 characters. -/
def isWideBlank (c : Char) : Bool :=
  (0x2000 ≤ c.toNat && c.toNat ≤ 0x200a) ||
    [0x85, 0xa0, 0x1680, 0x2028, 0x2029, 0x202f, 0x205f, 0x3000].contains c.toNat

end Heartbeat.Text
