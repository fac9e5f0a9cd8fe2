import Mathlib.Data.List.Basic
import Mathlib.Tactic.Common

/-! # Octets in hexadecimal digits

Octets are written with two digits each and a mark between any two of them (`HexText`). Their
number fixes the length of the text, so a text with something behind it is not one of as many
octets. `readOctets` accepts these texts and no others.
-/

namespace Katran.Foundation

/-- The value of a hexadecimal digit. -/
def hexValue (digit : Char) : Option Nat :=
  if '0' ≤ digit ∧ digit ≤ '9' then some (digit.toNat - '0'.toNat)
  else if 'a' ≤ digit ∧ digit ≤ 'f' then some (digit.toNat - 'a'.toNat + 10)
  else if 'A' ≤ digit ∧ digit ≤ 'F' then some (digit.toNat - 'A'.toNat + 10)
  else none

/-- The octet that two digits stand for. -/
def octetOf (high low : Char) : Option UInt8 :=
  (hexValue high).bind fun upper => (hexValue low).map fun lower => (16 * upper + lower).toUInt8

/-- Octets in two digits each, with marks between them. -/
inductive HexText (mark : Char → Prop) : List UInt8 → List Char → Prop
  | last {octet : UInt8} {high low : Char} (digits : octetOf high low = some octet) :
      HexText mark [octet] [high, low]
  | more {octet : UInt8} {high low between : Char} {octets : List UInt8} {text : List Char}
      (digits : octetOf high low = some octet) (marked : mark between)
      (rest : HexText mark octets text) :
      HexText mark (octet :: octets) (high :: low :: between :: text)

section Texts

variable {mark : Char → Prop} {octets : List UInt8} {text : List Char}

/-- The text has two digits for each octet, and the marks between them. -/
theorem HexText.length_text (written : HexText mark octets text) :
    text.length + 1 = 3 * octets.length := by
  induction written with
  | last _ => rfl
  | more _ _ _ ih =>
      simp only [List.length_cons]
      omega

/-! ## Reading -/

/-- Read so many octets, with nothing behind them. -/
def readOctets (mark : Char → Prop) [DecidablePred mark] : Nat → List Char → Option (List UInt8)
  | 1, [high, low] => (octetOf high low).map fun octet => [octet]
  | count + 1, high :: low :: between :: text =>
      if mark between then
        (octetOf high low).bind fun octet =>
          (readOctets mark count text).map fun octets => octet :: octets
      else none
  | _, _ => none

variable [DecidablePred mark]

/-- Octets that are written can be read back. -/
theorem HexText.read (written : HexText mark octets text) :
    readOctets mark octets.length text = some octets := by
  induction written with
  | last digits => simp only [List.length_singleton, readOctets, digits, Option.map_some]
  | more digits marked rest ih =>
      simp only [List.length_cons, readOctets, marked, ↓reduceIte, digits, ih, Option.bind_some,
        Option.map_some]

/-- What has been read was written so. -/
theorem hexText_of_read {count : Nat} (read : readOctets mark count text = some octets) :
    octets.length = count ∧ HexText mark octets text := by
  fun_induction readOctets mark count text generalizing octets with
  | case1 high low =>
      obtain ⟨octet, digits, rfl⟩ := Option.map_eq_some_iff.mp read
      exact ⟨rfl, .last digits⟩
  | case2 count high low between text marked ih =>
      obtain ⟨octet, digits, others⟩ := Option.bind_eq_some_iff.mp read
      obtain ⟨rest, known, rfl⟩ := Option.map_eq_some_iff.mp others
      obtain ⟨length, written⟩ := ih known
      refine ⟨?_, .more digits marked written⟩
      rw [List.length_cons, length]
  | case3 => cases read
  | case4 => cases read

/-- A text with something behind it does not have as many octets. -/
theorem HexText.read_append (written : HexText mark octets text) {rest : List Char}
    (behind : rest ≠ []) : readOctets mark octets.length (text ++ rest) = none := by
  rw [Option.eq_none_iff_forall_ne_some]
  intro others read
  obtain ⟨length, longer⟩ := hexText_of_read read
  have long := longer.length_text
  have short := written.length_text
  have more := List.length_pos_of_ne_nil behind
  rw [List.length_append] at long
  omega

end Texts

/-! ## Writing -/

/-- The digits of a number, with zeros in front of them up to a width. -/
def hexDigits (width value : Nat) : List Char := (Nat.toDigits 16 value).leftpad width '0'

/-- The digit of a value has that value. -/
theorem hexValue_digitChar : ∀ value < 16, hexValue (Nat.digitChar value) = some value := by
  decide

/-- The two digits of an octet. -/
theorem hexDigits_two {value : Nat} (small : value < 256) :
    hexDigits 2 value = [Nat.digitChar (value / 16), Nat.digitChar (value % 16)] := by
  unfold hexDigits
  by_cases one : value < 16
  · rw [Nat.toDigits_of_lt_base one, Nat.div_eq_of_lt one, Nat.mod_eq_of_lt one]
    rfl
  · rw [Nat.toDigits_of_base_le (by decide) (Nat.le_of_not_lt one),
      Nat.toDigits_of_lt_base (by omega)]
    rfl

/-- The two digits of an octet stand for it. -/
theorem octetOf_hexDigits (octet : UInt8) :
    ∃ high low, hexDigits 2 octet.toNat = [high, low] ∧ octetOf high low = some octet := by
  have small := octet.toNat_lt
  refine ⟨_, _, hexDigits_two small, ?_⟩
  rw [octetOf, hexValue_digitChar _ (by omega), hexValue_digitChar _ (by omega), Option.bind_some,
    Option.map_some, Nat.div_add_mod]
  exact congrArg some UInt8.ofNat_toNat

/-- Octets with a mark behind each of them are a text, and a mark behind it. -/
theorem hexText_of_marked {mark : Char → Prop} {behind : Char} (marked : mark behind)
    {octets : List UInt8} (nonempty : octets ≠ []) :
    ∃ text, (octets.flatMap fun octet => hexDigits 2 octet.toNat ++ [behind]) = text ++ [behind] ∧
      HexText mark octets text := by
  induction octets with
  | nil => exact (nonempty rfl).elim
  | cons octet octets ih =>
      obtain ⟨high, low, digits, same⟩ := octetOf_hexDigits octet
      rw [List.flatMap_cons, digits]
      cases octets with
      | nil => exact ⟨[high, low], rfl, .last same⟩
      | cons next others =>
          obtain ⟨text, printed, written⟩ := ih (List.cons_ne_nil _ _)
          rw [printed]
          exact ⟨high :: low :: behind :: text, rfl, .more same marked written⟩

end Katran.Foundation
