import Heartbeat.Power
import Heartbeat.Text.Blank

/-!
# Addresses

A destination is given as an address of four bytes. Besides four decimal numerals the notation
admits fewer of them, the last one then filling all bytes that are left, and it admits octal
numerals with a leading zero and hexadecimal ones with a leading `0x`. The first blank ends the
address and what follows is ignored, but a zero character makes the whole text unreadable. An
address is shown in one way only: as four decimal numerals.
-/

namespace Heartbeat

/-- An address, as the number whose base-256 digits are its four bytes. -/
structure Address where
  value : Nat
  value_lt : value < 256 ^ 4
  deriving DecidableEq, Repr

namespace Address

/-- The four bytes, the leading one first. -/
def bytes (address : Address) : List Nat :=
  [address.value / 256 ^ 3, address.value / 256 ^ 2 % 256, address.value / 256 % 256,
    address.value % 256]

/-- The address written as four decimal numerals. -/
def dotted (address : Address) : String :=
  ".".intercalate (address.bytes.map Nat.repr)

/-- The value of a digit in the bases up to sixteen. -/
def digitValue? (base : Nat) (c : Char) : Option Nat :=
  let value :=
    if '0' ≤ c ∧ c ≤ '9' then c.toNat - '0'.toNat
    else if 'a' ≤ c ∧ c ≤ 'f' then c.toNat - 'a'.toNat + 10
    else if 'A' ≤ c ∧ c ≤ 'F' then c.toNat - 'A'.toNat + 10
    else base
  if value < base then some value else none

/-- The number that the digits stand for, if all of them are digits of the base. -/
def digits? (base : Nat) (text : List Char) : Option Nat :=
  (text.mapM (digitValue? base)).map (·.foldl (fun number digit => base * number + digit) 0)

/-- Reads one numeral. Hexadecimal and decimal numerals have at least one digit; an octal one may
consist of its leading zero. -/
def numeral? : List Char → Option Nat
  | [] => none
  | '0' :: 'x' :: rest | '0' :: 'X' :: rest => if rest = [] then none else digits? 16 rest
  | '0' :: rest => digits? 8 rest
  | text => digits? 10 text

/-- Cuts a text at every point. -/
def parts : List Char → List (List Char)
  | [] => [[]]
  | c :: rest => if c = '.' then [] :: parts rest else (parts rest).modifyHead (c :: ·)

/-- The number of `room` bytes whose leading bytes are all numerals but the last, and whose
remaining bytes, as many as there is room for, are the last one. -/
def assemble? : Nat → List Nat → Option Nat
  | 0, _ | _, [] => none
  | room + 1, [last] => if last < 256 ^ (room + 1) then some last else none
  | room + 1, byte :: rest =>
    if byte < 256 then (assemble? room rest).map (byte * 256 ^ room + ·) else none

theorem lt_of_assemble? {room : Nat} {numerals : List Nat} {value : Nat}
    (h : assemble? room numerals = some value) : value < 256 ^ room := by
  fun_induction assemble? room numerals generalizing value with
  | case1 => simp at h
  | case2 => simp at h
  | case3 room last hlast => simp at h; omega
  | case4 => simp at h
  | case5 room byte rest hrest hbyte ih =>
      obtain ⟨tail, htail, rfl⟩ := Option.map_eq_some_iff.1 h
      have := ih htail
      calc byte * 256 ^ room + tail < (byte + 1) * 256 ^ room := by
            rw [Nat.add_mul]; omega
        _ ≤ 256 ^ (room + 1) := by
            rw [Nat.pow_succ, Nat.mul_comm]; exact Nat.mul_le_mul_left _ (by omega)
  | case6 => simp at h

/-- What is read of an address: the text before the first blank. -/
def beforeBlank (text : List Char) : List Char := text.takeWhile (!Text.isBlank ·)

/-- Reads an address. -/
def parse? (text : String) : Option Address :=
  if text.toList.contains '\x00' then none
  else match (parts (beforeBlank text.toList)).mapM numeral? with
    | none => none
    | some numerals =>
      match h : assemble? 4 numerals with
      | none => none
      | some value => some ⟨value, lt_of_assemble? h⟩

end Address

/-- Where datagrams go to or come from: a host as text, and a port. -/
structure Endpoint where
  host : String
  port : Int
  deriving DecidableEq, Repr

namespace Endpoint

/-- The endpoint of a server given as text. The host is the shown form of the address. -/
def resolve? (server : String) (port : Int) : Option Endpoint :=
  (Address.parse? server).map fun address => ⟨address.dotted, port⟩

end Endpoint

end Heartbeat
