import Mathlib.Data.Nat.Digits.Lemmas
import Heartbeat.Proofs.AddressGrammar

/-!
# How an address is shown

An address may be written in many ways, but it is shown in one: as four decimal numerals of a byte
each, none of them with a leading zero (`Normal`). A number has just one such numeral, the one that
is printed (`plain_iff`), and since it is never taken for an octal one, the shown form is itself a
way to write the address.

So a server that is resolved once more comes to the same host, and the hosts that resolution leaves
alone are those in the shown form, one for each address (`Endpoint.resolve?_normal`).
-/

namespace Heartbeat

namespace Address

/-- A decimal numeral without leading zeros. -/
structure Plain (text : List Char) (number : Nat) : Prop where
  isNumber : IsNumber 10 text number
  ne_nil : text ≠ []
  no_leading_zero : text.head? = some '0' → text = ['0']

/-- Is this the text of four bytes, a plain numeral for each and a point between any two? -/
structure Normal (text : List Char) (bytes : List Nat) : Prop where
  length_eq : bytes.length = 4
  byte_le : ∀ byte ∈ bytes, byte ≤ 255
  numerals : ∃ numerals, text = ['.'].intercalate numerals ∧ List.Forall₂ Plain numerals bytes

/-! ## Plain numerals -/

/-- There are no capitals among the ten decimal digits. -/
theorem isDigit_ten_iff {c : Char} {value : Nat} :
    IsDigit 10 c value ↔ value < 10 ∧ c = Nat.digitChar value := by
  unfold IsDigit
  constructor
  · intro h
    obtain ⟨hlt, hc⟩ := h
    have hnat := toNat_digitChar (by omega : value < 16)
    refine ⟨hlt, hc.elim id ?_⟩
    intro hcapital
    rw [hcapital, ← Char.toNat_inj, hnat.1, hnat.2, if_pos hlt]
    rw [if_pos hlt]
  · intro h
    exact ⟨h.1, .inl h.2⟩

theorem isNumber_ten_iff {text : List Char} {number : Nat} :
    IsNumber 10 text number ↔ ∃ digits : List Nat, (∀ digit ∈ digits, digit < 10) ∧
      text = digits.map Nat.digitChar ∧ number = Nat.ofDigits 10 digits.reverse := by
  have hdigits : ∀ digits : List Nat, List.Forall₂ (IsDigit 10) text digits ↔
      (∀ digit ∈ digits, digit < 10) ∧ text = digits.map Nat.digitChar := by
    intro digits
    induction digits generalizing text with
    | nil => simp
    | cons digit digits ih =>
        cases text with
        | nil => simp
        | cons c text =>
            simp only [List.forall₂_cons, isDigit_ten_iff, ih, List.forall_mem_cons, List.map_cons,
              List.cons.injEq]
            tauto
  unfold IsNumber
  simp only [hdigits, and_assoc]

/-- The printed numeral of a number shows its digits. -/
theorem toDigits_eq_map_digits {number : Nat} (hpos : 0 < number) :
    Nat.toDigits 10 number = ((Nat.digits 10 number).reverse).map Nat.digitChar := by
  induction number using Nat.strongRecOn with
  | _ number ih =>
      rw [Nat.digits_def' (by decide) hpos, List.reverse_cons, List.map_append]
      by_cases hlt : number < 10
      · rw [Nat.toDigits_of_lt_base hlt, Nat.div_eq_of_lt hlt, Nat.mod_eq_of_lt hlt]
        rfl
      · rw [Nat.toDigits_of_base_le (by decide) (by omega), ih (number / 10) (by omega) (by omega)]
        rfl

theorem plain_toDigits (number : Nat) : Plain (Nat.toDigits 10 number) number := by
  by_cases hzero : number = 0
  · subst hzero
    refine ⟨isNumber_ten_iff.mpr ⟨[0], ?_, rfl, rfl⟩, ?_, fun _ => rfl⟩
    · simp
    · simp
  · have hpos : 0 < number := Nat.pos_of_ne_zero hzero
    have hsome : Nat.digits 10 number ≠ [] := Nat.digits_ne_nil_iff_ne_zero.mpr hzero
    rw [toDigits_eq_map_digits hpos]
    refine ⟨isNumber_ten_iff.mpr ⟨_, ?_, rfl, ?_⟩, ?_, ?_⟩
    · intro digit hmem
      exact Nat.digits_lt_base (by decide) (List.mem_reverse.mp hmem)
    · rw [List.reverse_reverse, Nat.ofDigits_digits]
    · simpa using hsome
    · -- the leading digit is the last one that is found, and that one is not zero
      intro hhead
      rw [List.head?_map, List.head?_reverse, List.getLast?_eq_some_getLast hsome] at hhead
      have hlast := Nat.getLast_digit_ne_zero 10 hzero
      simp only [Option.map_some, Option.some.injEq, Nat.digitChar_eq_zero] at hhead
      exact absurd hhead hlast

/-- No number has a second plain numeral. -/
theorem Plain.eq_toDigits {text : List Char} {number : Nat} (h : Plain text number) :
    text = Nat.toDigits 10 number := by
  obtain ⟨digits, hlt, htext, hnumber⟩ := isNumber_ten_iff.mp h.isNumber
  subst htext
  subst hnumber
  by_cases hlead : digits.head? = some 0
  · have hhead : (digits.map Nat.digitChar).head? = some '0' := by
      rw [List.head?_map, hlead]
      rfl
    have hsingle := h.no_leading_zero hhead
    obtain ⟨digit, hdigits, hdigit⟩ := List.map_eq_singleton_iff.mp hsingle
    subst hdigits
    obtain rfl : digit = 0 := by simpa using hlead
    rfl
  · have hsome : digits ≠ [] := by
      intro hnil
      exact h.ne_nil (by rw [hnil]; rfl)
    have hrecover : Nat.digits 10 (Nat.ofDigits 10 digits.reverse) = digits.reverse := by
      apply Nat.digits_ofDigits 10 (by decide)
      · intro digit hmem
        exact hlt digit (List.mem_reverse.mp hmem)
      · intro hreverse hlast
        rw [List.getLast_reverse] at hlast
        exact hlead (by rw [List.head?_eq_some_head hsome, hlast])
    have hpos : 0 < Nat.ofDigits 10 digits.reverse := by
      apply Nat.pos_of_ne_zero
      intro hzero
      rw [hzero, Nat.digits_zero] at hrecover
      exact hsome (List.reverse_eq_nil_iff.mp hrecover.symm)
    rw [toDigits_eq_map_digits hpos, hrecover, List.reverse_reverse]

theorem plain_iff {text : List Char} {number : Nat} :
    Plain text number ↔ text = Nat.toDigits 10 number := by
  constructor
  · exact Plain.eq_toDigits
  · intro h
    rw [h]
    exact plain_toDigits number

/-- A plain numeral is not taken for an octal one, unless it is the zero. -/
theorem Plain.numeral {text : List Char} {number : Nat} (h : Plain text number) :
    Numeral text number := by
  cases text with
  | nil => exact absurd rfl h.ne_nil
  | cons first rest =>
      by_cases hfirst : first = '0'
      · subst hfirst
        have hsingle := h.no_leading_zero rfl
        have hzero : number = 0 := by
          have hread := (digits?_eq_some_iff (by decide)).mpr h.isNumber
          rw [hsingle] at hread
          exact (Option.some.inj hread).symm
        rw [hsingle, hzero]
        exact .octal ⟨[], .nil, rfl⟩
      · exact .decimal hfirst h.isNumber

/-! ## Normal texts -/

theorem forall₂_plain_iff {numerals : List (List Char)} {bytes : List Nat} :
    List.Forall₂ Plain numerals bytes ↔ numerals = bytes.map (Nat.toDigits 10) := by
  have hplain : Plain = fun text number => text = Nat.toDigits 10 number := by
    funext text number
    exact propext plain_iff
  rw [hplain, ← List.forall₂_map_right_iff (f := Nat.toDigits 10), List.forall₂_eq_eq_eq]

/-- Four bytes have just one normal text. -/
theorem Normal.eq_intercalate {text : List Char} {bytes : List Nat} (h : Normal text bytes) :
    text = ['.'].intercalate (bytes.map (Nat.toDigits 10)) := by
  obtain ⟨numerals, htext, hplain⟩ := h.numerals
  rw [htext, forall₂_plain_iff.mp hplain]

theorem normal_intercalate {bytes : List Nat} (hlength : bytes.length = 4)
    (hbytes : ∀ byte ∈ bytes, byte ≤ 255) :
    Normal (['.'].intercalate (bytes.map (Nat.toDigits 10))) bytes :=
  ⟨hlength, hbytes, _, rfl, forall₂_plain_iff.mpr rfl⟩

theorem mem_intercalate {separator c : Char} {texts : List (List Char)}
    (h : c ∈ [separator].intercalate texts) : c = separator ∨ ∃ text ∈ texts, c ∈ text := by
  induction texts with
  | nil => cases h
  | cons first rest ih =>
      by_cases hrest : rest = []
      · subst hrest
        rw [List.intercalate_singleton] at h
        exact .inr ⟨first, List.mem_cons_self, h⟩
      · rw [List.intercalate_cons_of_ne_nil hrest, List.mem_append, List.mem_append,
          List.mem_singleton] at h
        rcases h with (hfirst | hseparator) | hlater
        · exact .inr ⟨first, List.mem_cons_self, hfirst⟩
        · exact .inl hseparator
        · refine (ih hlater).imp_right ?_
          intro hin
          obtain ⟨text, hmem, hc⟩ := hin
          exact ⟨text, List.mem_cons_of_mem _ hmem, hc⟩

theorem Normal.point_or_isDigit {text : List Char} {bytes : List Nat} (h : Normal text bytes)
    {c : Char} (hmem : c ∈ text) : c = '.' ∨ c.isDigit = true := by
  rw [h.eq_intercalate] at hmem
  refine (mem_intercalate hmem).imp_right ?_
  intro hin
  obtain ⟨numeral, hnumeral, hc⟩ := hin
  obtain ⟨byte, -, rfl⟩ := List.mem_map.mp hnumeral
  exact Nat.isDigit_of_mem_toDigits (by decide) (by decide) hc

/-- The shown form is one of the ways to write an address: nothing in it ends the text early. -/
theorem Normal.written {text : List Char} {bytes : List Nat} (h : Normal text bytes) :
    Written text bytes := by
  obtain ⟨numerals, htext, hplain⟩ := h.numerals
  refine ⟨?_, text, [], (List.append_nil text).symm, ?_, by simp, numerals, htext,
    hplain.imp fun _ _ hnumeral => hnumeral.numeral⟩
  · intro hmem
    rcases h.point_or_isDigit hmem with hpoint | hdigit
    · cases hpoint
    · cases hdigit
  · intro c hmem hblank
    rcases h.point_or_isDigit hmem with hpoint | hdigit
    · rw [hpoint] at hblank
      simp [blanks] at hblank
    · simp only [blanks, List.mem_cons, List.not_mem_nil, or_false] at hblank
      rcases hblank with rfl | rfl | rfl | rfl | rfl | rfl <;> cases hdigit

/-- Read as an address, a normal text gives its bytes. -/
theorem Normal.exists_parse? {host : String} {bytes : List Nat} (h : Normal host.toList bytes) :
    ∃ address, parse? host = some address ∧ address.bytes = bytes := by
  have hsome : bytes ≠ [] := by
    intro hnil
    have hlength := h.length_eq
    rw [hnil] at hlength
    cases hlength
  obtain ⟨leading, last, rfl⟩ : ∃ leading last, bytes = leading ++ [last] :=
    ⟨_, _, (List.dropLast_concat_getLast hsome).symm⟩
  have hlength : leading.length = 3 := by
    have hall := h.length_eq
    rw [List.length_append, List.length_singleton] at hall
    omega
  have hlast : last ≤ 255 := h.byte_le last (by simp)
  have hfit : Fit leading last := by
    refine ⟨by omega, ?_, ?_⟩
    · intro byte hmem
      exact h.byte_le byte (List.mem_append_left _ hmem)
    · rw [hlength]
      omega
  have hfills : Fills (4 - leading.length) last [last] := by
    refine ⟨by rw [hlength]; rfl, ?_, by simp⟩
    intro byte hmem
    rw [List.mem_singleton.mp hmem]
    exact hlast
  obtain ⟨address, hparse, hvalue⟩ := Address.exists_parse? h.written hfit
  obtain ⟨rest, hrest, hbytes⟩ := (bytes_eq_iff hfit).mp hvalue
  exact ⟨address, hparse, by rw [hbytes, hrest.unique hfills]⟩

theorem toList_dotted (address : Address) :
    address.dotted.toList = ['.'].intercalate (address.bytes.map (Nat.toDigits 10)) := by
  rw [dotted, String.toList_intercalate, List.map_map]
  have hrepr : String.toList ∘ Nat.repr = Nat.toDigits 10 := by
    funext number
    exact Nat.toList_repr
  rw [hrepr]
  rfl

theorem normal_dotted (address : Address) : Normal address.dotted.toList address.bytes := by
  rw [toList_dotted]
  exact normal_intercalate rfl address.fills_bytes.byte_le

theorem bytes_injective {address other : Address} (h : address.bytes = other.bytes) :
    address = other := by
  have hvalue : address.value = other.value := by
    rw [← address.fills_bytes.value_eq, h, other.fills_bytes.value_eq]
  cases address
  cases other
  cases hvalue
  rfl

/-- The shown form of an address is read as that address. -/
theorem parse?_dotted (address : Address) : parse? address.dotted = some address := by
  obtain ⟨other, hparse, hbytes⟩ := address.normal_dotted.exists_parse?
  rw [hparse, bytes_injective hbytes]

/-- A normal text is the shown form of the address that it is read as. -/
theorem Normal.eq_dotted {host : String} {address : Address}
    (h : Normal host.toList address.bytes) : host = address.dotted := by
  apply String.toList_injective
  rw [h.eq_intercalate, toList_dotted]

end Address

namespace Endpoint

theorem resolve?_eq_some_iff {server : String} {port : Int} {endpoint : Endpoint} :
    resolve? server port = some endpoint ↔
      ∃ address, Address.parse? server = some address ∧ endpoint = ⟨address.dotted, port⟩ := by
  rw [resolve?, Option.map_eq_some_iff]
  simp only [eq_comm]

/-- A host is resolved to itself exactly when it is in the shown form. -/
theorem resolve?_self_iff {host : String} {port : Int} :
    resolve? host port = some ⟨host, port⟩ ↔ ∃ bytes, Address.Normal host.toList bytes := by
  rw [resolve?_eq_some_iff]
  constructor
  · intro h
    obtain ⟨address, -, hendpoint⟩ := h
    have hhost : host = address.dotted := congrArg Endpoint.host hendpoint
    exact ⟨address.bytes, hhost ▸ address.normal_dotted⟩
  · intro h
    obtain ⟨bytes, hnormal⟩ := h
    obtain ⟨address, hparse, rfl⟩ := hnormal.exists_parse?
    exact ⟨address, hparse, by rw [← hnormal.eq_dotted]⟩

/-- Resolution gives a normal form. A host that comes out stands for the same address as the server,
is in the shown form, and is resolved to itself. The hosts of which that can be said are those in
the shown form: any four bytes have one, with a numeral for each, and every address has just one. -/
theorem resolve?_normal (port : Int) :
    (∀ server endpoint, resolve? server port = some endpoint →
      Address.parse? endpoint.host = Address.parse? server ∧
      (∃ bytes, Address.Normal endpoint.host.toList bytes) ∧
      resolve? endpoint.host port = some endpoint) ∧
    (∀ host : String, resolve? host port = some ⟨host, port⟩ ↔
      ∃ bytes, Address.Normal host.toList bytes) ∧
    (∀ bytes : List Nat, bytes.length = 4 → (∀ byte ∈ bytes, byte ≤ 255) →
      resolve? (".".intercalate (bytes.map toString)) port =
        some ⟨".".intercalate (bytes.map toString), port⟩) ∧
    ∀ address : Address, ∃! host : String,
      Address.parse? host = some address ∧ resolve? host port = some ⟨host, port⟩ := by
  have hself : ∀ address : Address,
      resolve? address.dotted port = some ⟨address.dotted, port⟩ := by
    intro address
    exact resolve?_self_iff.mpr ⟨address.bytes, address.normal_dotted⟩
  refine ⟨?_, fun host => resolve?_self_iff, ?_, ?_⟩
  · intro server endpoint hresolve
    obtain ⟨address, hparse, rfl⟩ := resolve?_eq_some_iff.mp hresolve
    refine ⟨?_, ⟨address.bytes, address.normal_dotted⟩, hself address⟩
    rw [hparse]
    exact address.parse?_dotted
  · intro bytes hlength hbytes
    have htext : (".".intercalate (bytes.map toString)).toList =
        ['.'].intercalate (bytes.map (Nat.toDigits 10)) := by
      have hshown : String.toList ∘ toString = Nat.toDigits 10 := by
        funext number
        exact Nat.toList_repr
      rw [String.toList_intercalate, List.map_map, hshown]
      rfl
    apply resolve?_self_iff.mpr
    rw [htext]
    exact ⟨bytes, Address.normal_intercalate hlength hbytes⟩
  · intro address
    refine ⟨address.dotted, ⟨address.parse?_dotted, hself address⟩, ?_⟩
    intro host hhost
    obtain ⟨hparse, hresolve⟩ := hhost
    obtain ⟨other, hother, hendpoint⟩ := resolve?_eq_some_iff.mp hresolve
    obtain rfl : address = other := Option.some.inj (hparse.symm.trans hother)
    exact congrArg Endpoint.host hendpoint

/-- An octal numeral, and a last one that fills three bytes. -/
theorem resolve?_normal_of_shorthand :
    resolve? "0177.1" 9 = some ⟨"127.0.0.1", 9⟩ ∧
      Address.parse? "127.0.0.1" = Address.parse? "0177.1" ∧
      (∃ bytes, Address.Normal "127.0.0.1".toList bytes) ∧
      resolve? "127.0.0.1" 9 = some ⟨"127.0.0.1", 9⟩ := by
  have hresolve : resolve? "0177.1" 9 = some ⟨"127.0.0.1", 9⟩ := by decide +kernel
  exact ⟨hresolve, (resolve?_normal 9).1 _ _ hresolve⟩

end Endpoint

end Heartbeat
