import Heartbeat.Address
import Mathlib.Data.List.Forall2
import Mathlib.Data.Nat.Digits.Defs

/-!
# How an address is written

`Written` is the notation of an address by itself: what stands before the first blank is numerals in
one of three bases with a point between any two. `Fit` bounds the numbers, where the bound of the
last depends on how many there are, and `Fills` says which bytes a number stands for. A server is
resolved exactly when it is written in this way within the bounds (`Endpoint.resolve?_iff_written`).

Each step of the reader is matched with its part of the notation. A numeral holds no point, so the
numerals are found again between the points. An address has one form in four bytes, so the bytes in
front of the last numeral are the other numerals as they stand.
-/

namespace Heartbeat

namespace Address

/-! ## The notation -/

/-- A digit of a base, small or capital, with its value. -/
def IsDigit (base : Nat) (c : Char) (value : Nat) : Prop :=
  value < base ∧ (c = Nat.digitChar value ∨ c = (Nat.digitChar value).toUpper)

/-- Digits of a base, with the number that they stand for. -/
def IsNumber (base : Nat) (text : List Char) (number : Nat) : Prop :=
  ∃ digits, List.Forall₂ (IsDigit base) text digits ∧ number = Nat.ofDigits base digits.reverse

/-- The three ways to write a numeral. -/
inductive Numeral : List Char → Nat → Prop
  | decimal {first : Char} {rest : List Char} {number : Nat} (hfirst : first ≠ '0')
      (h : IsNumber 10 (first :: rest) number) : Numeral (first :: rest) number
  | octal {rest : List Char} {number : Nat} (h : IsNumber 8 rest number) :
      Numeral ('0' :: rest) number
  | hexadecimal {letter : Char} {rest : List Char} {number : Nat}
      (hletter : letter = 'x' ∨ letter = 'X') (hsome : rest ≠ []) (h : IsNumber 16 rest number) :
      Numeral ('0' :: letter :: rest) number

/-- The blanks, which end an address. -/
def blanks : List Char := [' ', '\t', '\n', '\x0b', '\x0c', '\r']

/-- Do the numerals stand in a text as an address is written: separated by points, before the first
blank, and with no zero character anywhere? -/
def Written (text : List Char) (numbers : List Nat) : Prop :=
  '\x00' ∉ text ∧ ∃ address rest, text = address ++ rest ∧ (∀ c ∈ address, c ∉ blanks) ∧
    (∀ c, rest.head? = some c → c ∈ blanks) ∧
    ∃ numerals, address = ['.'].intercalate numerals ∧ List.Forall₂ Numeral numerals numbers

/-- Are the numbers within their bounds? All but the last are a byte each, and the last has the room
that they leave of four bytes. -/
structure Fit (leading : List Nat) (last : Nat) : Prop where
  length_le : leading.length ≤ 3
  leading_le : ∀ number ∈ leading, number ≤ 255
  last_le : last ≤ 256 ^ (4 - leading.length) - 1

/-- A number in so many bytes, the leading one first. -/
structure Fills (count number : Nat) (bytes : List Nat) : Prop where
  length_eq : bytes.length = count
  byte_le : ∀ byte ∈ bytes, byte ≤ 255
  value_eq : Nat.ofDigits 256 bytes.reverse = number

/-! ## Numerals -/

theorem mapM_eq_some_iff {α β : Type} {f : α → Option β} {l : List α} {l' : List β} :
    l.mapM f = some l' ↔ List.Forall₂ (fun a b => f a = some b) l l' := by
  induction l generalizing l' with
  | nil => simp [eq_comm]
  | cons a rest ih =>
      simp only [List.mapM_cons, Option.bind_eq_bind, Option.bind_eq_some_iff, ih,
        List.forall₂_cons_left_iff]
      constructor
      · rintro ⟨b, hb, rest', hrest, heq⟩
        exact ⟨b, rest', hb, hrest, (Option.some.inj heq).symm⟩
      · rintro ⟨b, rest', hb, hrest, rfl⟩
        exact ⟨b, hb, rest', hrest, rfl⟩

theorem digitValue?_digitChar (base : Nat) {value : Nat} (hvalue : value < 16) :
    digitValue? base (Nat.digitChar value) = (if value < base then some value else none) ∧
      digitValue? base (Nat.digitChar value).toUpper =
        if value < base then some value else none := by
  match value with
  | 0 | 1 | 2 | 3 | 4 | 5 | 6 | 7 | 8 | 9 | 10 | 11 | 12 | 13 | 14 | 15 => exact ⟨rfl, rfl⟩
  | _ + 16 => omega

/-- Where the digits stand among the characters. -/
theorem toNat_digitChar {value : Nat} (hvalue : value < 16) :
    (Nat.digitChar value).toNat = (if value < 10 then value + 48 else value + 87) ∧
      (Nat.digitChar value).toUpper.toNat = if value < 10 then value + 48 else value + 55 := by
  match value with
  | 0 | 1 | 2 | 3 | 4 | 5 | 6 | 7 | 8 | 9 | 10 | 11 | 12 | 13 | 14 | 15 => exact ⟨rfl, rfl⟩
  | _ + 16 => omega

theorem digitValue?_eq_some_iff {base value : Nat} (hbase : base ≤ 16) {c : Char} :
    digitValue? base c = some value ↔ IsDigit base c value := by
  constructor
  · intro h
    obtain ⟨hlt, hvalue⟩ := Option.ite_none_right_eq_some.mp h
    rw [Option.some.inj hvalue] at hlt
    have hnat := toNat_digitChar (by omega : value < 16)
    refine ⟨hlt, ?_⟩
    simp only [← Char.toNat_inj, hnat]
    replace hvalue := Option.some.inj hvalue
    split at hvalue
    · next hrange =>
        have hlow : 48 ≤ c.toNat := hrange.1
        have hhigh : c.toNat ≤ 57 := hrange.2
        have : c.toNat - 48 = value := hvalue
        left
        rw [if_pos (by omega)]
        omega
    split at hvalue
    · next hrange =>
        have hlow : 97 ≤ c.toNat := hrange.1
        have : c.toNat - 97 + 10 = value := hvalue
        left
        rw [if_neg (by omega)]
        omega
    split at hvalue
    · next hrange =>
        have hlow : 65 ≤ c.toNat := hrange.1
        have : c.toNat - 65 + 10 = value := hvalue
        right
        rw [if_neg (by omega)]
        omega
    · omega
  · rintro ⟨hlt, hc⟩
    obtain ⟨hsmall, hcapital⟩ := digitValue?_digitChar base (by omega : value < 16)
    rcases hc with rfl | rfl
    · rw [hsmall, if_pos hlt]
    · rw [hcapital, if_pos hlt]

theorem digits?_eq_some_iff {base number : Nat} (hbase : base ≤ 16) {text : List Char} :
    digits? base text = some number ↔ IsNumber base text number := by
  have hdigits : (digitValue? base · = some ·) = IsDigit base := by
    funext c value
    exact propext (digitValue?_eq_some_iff hbase)
  have hvalue : ∀ digits : List Nat,
      digits.foldl (fun number digit => base * number + digit) 0 =
        Nat.ofDigits base digits.reverse := by
    intro digits
    rw [Nat.ofDigits_eq_foldr, List.foldr_reverse]
    simp only [Nat.cast_id, Nat.add_comm]
  rw [digits?, Option.map_eq_some_iff]
  simp only [mapM_eq_some_iff, hdigits, hvalue, IsNumber, eq_comm (a := number)]

/-- A letter that announces a base is no octal digit. -/
theorem not_isNumber_octal {letter : Char} (hletter : letter = 'x' ∨ letter = 'X')
    {rest : List Char} {number : Nat} : ¬ IsNumber 8 (letter :: rest) number := by
  rw [← digits?_eq_some_iff (by decide), digits?, List.mapM_cons]
  rcases hletter with rfl | rfl <;> nofun

theorem numeral?_eq_some_iff {text : List Char} {number : Nat} :
    numeral? text = some number ↔ Numeral text number := by
  constructor
  · intro h
    rw [numeral?.eq_def] at h
    split at h
    · cases h
    · next rest =>
        obtain ⟨hsome, hdigits⟩ := Option.ite_none_left_eq_some.mp h
        exact .hexadecimal (.inl rfl) hsome ((digits?_eq_some_iff (by decide)).mp hdigits)
    · next rest =>
        obtain ⟨hsome, hdigits⟩ := Option.ite_none_left_eq_some.mp h
        exact .hexadecimal (.inr rfl) hsome ((digits?_eq_some_iff (by decide)).mp hdigits)
    · exact .octal ((digits?_eq_some_iff (by decide)).mp h)
    · next hnil _ _ hzero =>
        cases text with
        | nil => exact absurd rfl hnil
        | cons first rest =>
            refine .decimal ?_ ((digits?_eq_some_iff (by decide)).mp h)
            rintro rfl
            exact hzero rest rfl
  · intro h
    cases h with
    | @decimal first rest number hfirst h =>
        have hread := (digits?_eq_some_iff (by decide)).mpr h
        rw [numeral?.eq_def]
        split
        · next heq => cases heq
        · next heq => cases heq; exact absurd rfl hfirst
        · next heq => cases heq; exact absurd rfl hfirst
        · next heq => cases heq; exact absurd rfl hfirst
        · exact hread
    | @octal rest number h =>
        have hread := (digits?_eq_some_iff (by decide)).mpr h
        rw [numeral?.eq_def]
        split
        · next heq => cases heq
        · next heq => cases heq; exact absurd h (not_isNumber_octal (.inl rfl))
        · next heq => cases heq; exact absurd h (not_isNumber_octal (.inr rfl))
        · next heq => cases heq; exact hread
        · next hzero => exact absurd rfl (hzero rest)
    | @hexadecimal letter rest number hletter hsome h =>
        have hread := (digits?_eq_some_iff (by decide)).mpr h
        rcases hletter with rfl | rfl
        · exact (if_neg hsome).trans hread
        · exact (if_neg hsome).trans hread

/-! ## Points and blanks -/

theorem parts_eq_splitOn (text : List Char) : parts text = text.splitOn '.' := by
  induction text with
  | nil => rfl
  | cons c rest ih =>
      rw [parts, List.splitOn_cons_eq_if_modifyHead, ih]
      simp only [beq_iff_eq]

theorem IsDigit.ne_point {base value : Nat} (hbase : base ≤ 16) {c : Char}
    (h : IsDigit base c value) : c ≠ '.' := by
  rintro rfl
  have hread := (digitValue?_eq_some_iff hbase).mpr h
  have hnone : digitValue? base '.' = none := if_neg (Nat.lt_irrefl base)
  rw [hnone] at hread
  cases hread

theorem IsNumber.point_not_mem {base number : Nat} (hbase : base ≤ 16) {text : List Char}
    (h : IsNumber base text number) : '.' ∉ text := by
  obtain ⟨digits, hdigits, -⟩ := h
  have hne : ∀ c ∈ text, c ≠ '.' :=
    ((List.forall₂_and_left _ _).mp (hdigits.imp fun c value hc => ⟨hc.ne_point hbase, hc⟩)).1
  exact fun hmem => hne '.' hmem rfl

theorem Numeral.point_not_mem {text : List Char} {number : Nat} (h : Numeral text number) :
    '.' ∉ text := by
  cases h with
  | decimal hfirst h => exact h.point_not_mem (by decide)
  | octal h =>
      have := h.point_not_mem (by decide)
      simp [this]
  | hexadecimal hletter hsome h =>
      have := h.point_not_mem (by decide)
      rcases hletter with rfl | rfl <;> simp [this]

/-- Numerals are found again between the points that separate them. -/
theorem mapM_numeral?_parts {text : List Char} {numbers : List Nat} (hsome : numbers ≠ []) :
    (parts text).mapM numeral? = some numbers ↔
      ∃ numerals, text = ['.'].intercalate numerals ∧ List.Forall₂ Numeral numerals numbers := by
  have hnumeral : (numeral? · = some ·) = Numeral := by
    funext text number
    exact propext numeral?_eq_some_iff
  rw [mapM_eq_some_iff, hnumeral, parts_eq_splitOn]
  constructor
  · intro h
    exact ⟨_, (List.intercalate_splitOn '.').symm, h⟩
  · rintro ⟨numerals, rfl, h⟩
    have hpoint : ∀ numeral ∈ numerals, '.' ∉ numeral :=
      ((List.forall₂_and_left _ _).mp (h.imp fun numeral number hn => ⟨hn.point_not_mem, hn⟩)).1
    have hne : numerals ≠ [] := by
      rintro rfl
      exact hsome (List.forall₂_nil_left_iff.mp h)
    rwa [List.splitOn_intercalate '.' hpoint hne]

theorem isBlank_iff (c : Char) : Text.isBlank c = true ↔ c ∈ blanks := by
  have hblanks : c ∈ blanks ↔ c.toNat = 32 ∨ c.toNat = 9 ∨ c.toNat = 10 ∨ c.toNat = 11 ∨
      c.toNat = 12 ∨ c.toNat = 13 := by
    simp only [blanks, List.mem_cons, List.not_mem_nil, or_false, ← Char.toNat_inj]
    rfl
  have hspace : c = ' ' ↔ c.toNat = 32 := Char.toNat_inj.symm
  rw [hblanks, Text.isBlank]
  simp only [hspace, Bool.or_eq_true, Bool.and_eq_true, decide_eq_true_eq]
  omega

theorem beforeBlank_eq_iff {text address : List Char} :
    beforeBlank text = address ↔ ∃ rest, text = address ++ rest ∧
      (∀ c ∈ address, c ∉ blanks) ∧ ∀ c, rest.head? = some c → c ∈ blanks := by
  rw [beforeBlank]
  constructor
  · rintro rfl
    refine ⟨text.dropWhile (!Text.isBlank ·), List.takeWhile_append_dropWhile.symm, ?_, ?_⟩
    · intro c hmem
      have := List.all_eq_true.mp List.all_takeWhile c hmem
      rw [← isBlank_iff]
      simpa using this
    · intro c hc
      have := List.head?_dropWhile_not (!Text.isBlank ·) text
      rw [hc] at this
      rw [← isBlank_iff]
      simpa using this
  · rintro ⟨rest, rfl, haddress, hrest⟩
    rw [List.takeWhile_append_of_pos]
    · cases rest with
      | nil => exact List.append_nil address
      | cons c rest =>
          rw [List.takeWhile_cons_of_neg, List.append_nil]
          have := (isBlank_iff c).mpr (hrest c rfl)
          simp [this]
    · intro c hmem
      have := mt (isBlank_iff c).mp (haddress c hmem)
      simpa using this

/-! ## Bytes -/

theorem Fills.unique {count number : Nat} {bytes other : List Nat} (h : Fills count number bytes)
    (h' : Fills count number other) : bytes = other := by
  refine List.reverse_injective (Nat.ofDigits_inj_of_len_eq (b := 256) (by decide) ?_ ?_ ?_ ?_)
  · rw [List.length_reverse, List.length_reverse, h.length_eq, h'.length_eq]
  · exact fun byte hmem => Nat.lt_succ_of_le (h.byte_le byte (List.mem_reverse.mp hmem))
  · exact fun byte hmem => Nat.lt_succ_of_le (h'.byte_le byte (List.mem_reverse.mp hmem))
  · rw [h.value_eq, h'.value_eq]

/-- A number below the bound has its bytes. -/
theorem exists_fills {count number : Nat} (h : number < 256 ^ count) :
    ∃ bytes, Fills count number bytes := by
  induction count generalizing number with
  | zero => exact ⟨[], rfl, nofun, by simp at h; exact h.symm⟩
  | succ count ih =>
      obtain ⟨bytes, hlength, hbytes, hvalue⟩ := ih (by omega : number / 256 < 256 ^ count)
      refine ⟨bytes ++ [number % 256], by rw [List.length_append, hlength]; rfl, ?_, ?_⟩
      · intro byte hmem
        rcases List.mem_append.mp hmem with hmem | hmem
        · exact hbytes byte hmem
        · have := List.mem_singleton.mp hmem
          omega
      · rw [List.reverse_append, List.reverse_singleton, List.singleton_append, Nat.ofDigits_cons,
          hvalue]
        omega

theorem fills_bytes (address : Address) : Fills 4 address.value address.bytes := by
  have hlt : address.value < 256 ^ 4 := address.value_lt
  refine ⟨rfl, ?_, ?_⟩
  · simp [bytes]
    omega
  · simp [bytes, Nat.ofDigits_cons]
    omega

/-- Bytes in front of a number count on from its own. -/
theorem Fills.append {count last : Nat} {leading rest : List Nat}
    (hleading : ∀ byte ∈ leading, byte ≤ 255) (h : Fills count last rest) :
    Fills (leading.length + count) (last + 256 ^ count * Nat.ofDigits 256 leading.reverse)
      (leading ++ rest) := by
  refine ⟨by rw [List.length_append, h.length_eq], ?_, ?_⟩
  · exact fun byte hmem => (List.mem_append.mp hmem).elim (hleading byte) (h.byte_le byte)
  · rw [List.reverse_append, Nat.ofDigits_append, h.value_eq, List.length_reverse, h.length_eq]

/-! ## The address -/

theorem assemble?_cons {room byte : Nat} {rest : List Nat} (hrest : rest ≠ []) :
    assemble? (room + 1) (byte :: rest) =
      if byte < 256 then (assemble? room rest).map (byte * 256 ^ room + ·) else none := by
  cases rest with
  | nil => exact absurd rfl hrest
  | cons => rfl

theorem assemble?_eq_some_iff {room value last : Nat} {leading : List Nat} :
    assemble? room (leading ++ [last]) = some value ↔
      leading.length < room ∧ (∀ byte ∈ leading, byte ≤ 255) ∧
      last < 256 ^ (room - leading.length) ∧
      last + 256 ^ (room - leading.length) * Nat.ofDigits 256 leading.reverse = value := by
  induction leading generalizing room value with
  | nil =>
      cases room with
      | zero => simp [assemble?]
      | succ room => simp [assemble?]
  | cons byte rest ih =>
      cases room with
      | zero => simp [assemble?]
      | succ room =>
          have hroom : room + 1 - (byte :: rest).length = room - rest.length := by simp
          have hvalue : rest.length < room → byte * 256 ^ room +
              (last + 256 ^ (room - rest.length) * Nat.ofDigits 256 rest.reverse) =
              last + 256 ^ (room - rest.length) *
                (Nat.ofDigits 256 rest.reverse + 256 ^ rest.length * byte) := by
            intro hlt
            have hpow : 256 ^ (room - rest.length) * 256 ^ rest.length = 256 ^ room := by
              rw [← Nat.pow_add, Nat.sub_add_cancel (Nat.le_of_lt hlt)]
            rw [Nat.mul_add, ← Nat.mul_assoc _ _ byte, hpow, Nat.mul_comm byte]
            omega
          rw [List.cons_append, assemble?_cons (by simp), Nat.ofDigits_reverse_cons, hroom,
            Option.ite_none_right_eq_some, Option.map_eq_some_iff]
          simp only [ih, List.length_cons, List.forall_mem_cons]
          constructor
          · rintro ⟨hbyte, _, ⟨hlength, hrest, hlast, rfl⟩, rfl⟩
            exact ⟨by omega, ⟨by omega, hrest⟩, hlast, (hvalue hlength).symm⟩
          · rintro ⟨hlength, ⟨hbyte, hrest⟩, hlast, rfl⟩
            exact ⟨by omega, _, ⟨by omega, hrest, hlast, rfl⟩, hvalue (by omega)⟩

/-- The value of an address whose numerals are within their bounds. -/
theorem assemble?_four_iff {value last : Nat} {leading : List Nat} :
    assemble? 4 (leading ++ [last]) = some value ↔ Fit leading last ∧
      last + 256 ^ (4 - leading.length) * Nat.ofDigits 256 leading.reverse = value := by
  have hroom : 0 < 256 ^ (4 - leading.length) := Nat.pow_pos (by decide)
  rw [assemble?_eq_some_iff]
  constructor
  · rintro ⟨hlength, hleading, hlast, hvalue⟩
    exact ⟨⟨by omega, hleading, by omega⟩, hvalue⟩
  · rintro ⟨⟨hlength, hleading, hlast⟩, hvalue⟩
    exact ⟨by omega, hleading, by omega, hvalue⟩

theorem parse?_eq_some_iff_assemble? {server : String} {address : Address} :
    parse? server = some address ↔ '\x00' ∉ server.toList ∧ ∃ numbers,
      (parts (beforeBlank server.toList)).mapM numeral? = some numbers ∧
      assemble? 4 numbers = some address.value := by
  rw [parse?]
  simp only [List.contains_eq_mem, decide_eq_true_eq, Option.ite_none_left_eq_some]
  refine and_congr_right fun _ => ?_
  cases (parts (beforeBlank server.toList)).mapM numeral? with
  | none => simp
  | some numbers =>
      simp only [Option.some.injEq, exists_eq_left']
      split
      · next hnone => simp [hnone]
      · next value hvalue =>
          constructor
          · rintro ⟨⟩
            exact hvalue
          · intro h
            obtain rfl : value = address.value := Option.some.inj (hvalue.symm.trans h)
            rfl

theorem parse?_eq_some_iff {server : String} {address : Address} :
    parse? server = some address ↔ ∃ leading last, Written server.toList (leading ++ [last]) ∧
      Fit leading last ∧
      last + 256 ^ (4 - leading.length) * Nat.ofDigits 256 leading.reverse = address.value := by
  rw [parse?_eq_some_iff_assemble?]
  constructor
  · rintro ⟨hzero, numbers, hread, hvalue⟩
    have hsome : numbers ≠ [] := by
      rintro rfl
      cases hvalue
    obtain ⟨leading, last, rfl⟩ : ∃ leading last, numbers = leading ++ [last] :=
      ⟨_, _, (List.dropLast_concat_getLast hsome).symm⟩
    obtain ⟨rest, htext, haddress, hrest⟩ := beforeBlank_eq_iff.mp rfl
    exact ⟨leading, last, ⟨hzero, _, rest, htext, haddress, hrest,
      (mapM_numeral?_parts hsome).mp hread⟩, assemble?_four_iff.mp hvalue⟩
  · rintro ⟨leading, last, ⟨hzero, address, rest, htext, haddress, hrest, hnumerals⟩, hfit⟩
    refine ⟨hzero, _, (mapM_numeral?_parts (by simp)).mpr ?_, assemble?_four_iff.mpr hfit⟩
    rwa [beforeBlank_eq_iff.mpr ⟨rest, htext, haddress, hrest⟩]

theorem exists_parse? {server : String} {leading : List Nat} {last : Nat}
    (hwritten : Written server.toList (leading ++ [last])) (hfit : Fit leading last) :
    ∃ address, parse? server = some address ∧
      last + 256 ^ (4 - leading.length) * Nat.ofDigits 256 leading.reverse = address.value := by
  have hlt := lt_of_assemble? (assemble?_four_iff.mpr ⟨hfit, rfl⟩)
  exact ⟨⟨_, hlt⟩, parse?_eq_some_iff.mpr ⟨leading, last, hwritten, hfit, rfl⟩, rfl⟩

/-- The bytes of an address are the leading numerals, and those that the last one fills. -/
theorem bytes_eq_iff {address : Address} {leading : List Nat} {last : Nat}
    (hfit : Fit leading last) :
    last + 256 ^ (4 - leading.length) * Nat.ofDigits 256 leading.reverse = address.value ↔
      ∃ rest, Fills (4 - leading.length) last rest ∧ address.bytes = leading ++ rest := by
  have hlength : leading.length + (4 - leading.length) = 4 := by
    have := hfit.length_le
    omega
  have hfills := address.fills_bytes
  constructor
  · intro hvalue
    have hroom : 0 < 256 ^ (4 - leading.length) := Nat.pow_pos (by decide)
    have hlast := hfit.last_le
    obtain ⟨rest, hrest⟩ := exists_fills (by omega : last < 256 ^ (4 - leading.length))
    have hall := hrest.append hfit.leading_le
    rw [hlength, hvalue] at hall
    exact ⟨rest, hrest, hfills.unique hall⟩
  · rintro ⟨rest, hrest, hbytes⟩
    rw [hbytes] at hfills
    exact (hrest.append hfit.leading_le).value_eq.symm.trans hfills.value_eq

end Address

namespace Endpoint

/-- A server is resolved exactly when it is written as an address, with one to four numerals within
their bounds. The host then shows its four bytes, of which the last numeral fills those that the
others leave. -/
theorem resolve?_iff_written (server : String) (port : Int) :
    (∀ endpoint, resolve? server port = some endpoint ↔
      ∃ leading last rest, Address.Written server.toList (leading ++ [last]) ∧
        Address.Fit leading last ∧ Address.Fills (4 - leading.length) last rest ∧
        endpoint = ⟨".".intercalate ((leading ++ rest).map Nat.repr), port⟩) ∧
    (resolve? server port = none ↔
      ¬ ∃ leading last, Address.Written server.toList (leading ++ [last]) ∧
        Address.Fit leading last) := by
  constructor
  · intro endpoint
    rw [resolve?, Option.map_eq_some_iff]
    constructor
    · rintro ⟨address, hparse, rfl⟩
      obtain ⟨leading, last, hwritten, hfit, hvalue⟩ := Address.parse?_eq_some_iff.mp hparse
      obtain ⟨rest, hrest, hbytes⟩ := (Address.bytes_eq_iff hfit).mp hvalue
      exact ⟨leading, last, rest, hwritten, hfit, hrest, by rw [Address.dotted, hbytes]⟩
    · rintro ⟨leading, last, rest, hwritten, hfit, hrest, rfl⟩
      obtain ⟨address, hparse, hvalue⟩ := Address.exists_parse? hwritten hfit
      obtain ⟨other, hother, hbytes⟩ := (Address.bytes_eq_iff hfit).mp hvalue
      refine ⟨address, hparse, ?_⟩
      rw [Address.dotted, hbytes, hother.unique hrest]
  · rw [resolve?, Option.map_eq_none_iff, Option.eq_none_iff_forall_ne_some]
    constructor
    · rintro hnone ⟨leading, last, hwritten, hfit⟩
      obtain ⟨address, hparse, -⟩ := Address.exists_parse? hwritten hfit
      exact hnone address hparse
    · intro hnone address hparse
      obtain ⟨leading, last, hwritten, hfit, -⟩ := Address.parse?_eq_some_iff.mp hparse
      exact hnone ⟨leading, last, hwritten, hfit⟩

example : resolve? "0x7F.01 and more" 80 = some ⟨"127.0.0.1", 80⟩ := by decide +kernel

end Endpoint

end Heartbeat
