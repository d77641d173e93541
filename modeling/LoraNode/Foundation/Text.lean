import Mathlib.Tactic.IntervalCases
import LoraNode.Foundation.Bytes
import LoraNode.Foundation.Numeral

/-!
# Numbers and bytes in ASCII

What is written is a list of characters, and a reader takes it off the front of its
input. Each reader undoes its writer, whatever follows. No character that is written
here is the one that ends a string.
-/

namespace LoraNode.Foundation.Text

open LoraNode.Foundation.Bytes LoraNode.Foundation.Numeral

def ascii (text : String) : List Byte := text.toList.map fun char => BitVec.ofNat 8 char.toNat

section Words

def readLiteral : List Byte → List Byte → Option (List Byte)
  | [], input => some input
  | expected :: literal, byte :: input =>
      if byte = expected then readLiteral literal input else none
  | _ :: _, [] => none

theorem read_literal_append (literal input : List Byte) :
    readLiteral literal (literal ++ input) = some input := by
  induction literal with
  | nil => rfl
  | cons byte literal induction =>
      rw [List.cons_append, readLiteral, if_pos rfl]
      exact induction

theorem split_while {kind : Byte → Bool} {word rest : List Byte}
    (all : ∀ byte ∈ word, kind byte = true) (stops : ∀ byte ∈ rest.head?, kind byte = false) :
    (word ++ rest).takeWhile kind = word ∧ (word ++ rest).dropWhile kind = rest := by
  rw [List.takeWhile_append_of_pos all, List.dropWhile_append_of_pos all]
  cases rest with
  | nil => exact ⟨List.append_nil word, rfl⟩
  | cons byte rest =>
      have stop : kind byte = false := stops byte rfl
      rw [List.takeWhile_cons_of_neg (by simp [stop]), List.dropWhile_cons_of_neg (by simp [stop]),
        List.append_nil]
      exact ⟨rfl, rfl⟩

/-- The word before the first `stop`, and the rest from there. -/
def readWord (stop : Byte) (input : List Byte) : List Byte × List Byte :=
  (input.takeWhile (· != stop), input.dropWhile (· != stop))

theorem read_word_append {stop : Byte} {word : List Byte} (clean : stop ∉ word)
    (rest : List Byte) : readWord stop (word ++ stop :: rest) = (word, stop :: rest) := by
  have all : ∀ byte ∈ word, (byte != stop) = true := by
    intro byte member
    rw [bne_iff_ne]
    exact fun same => clean (same ▸ member)
  have stops : ∀ byte ∈ (stop :: rest).head?, (byte != stop) = false := by simp
  obtain ⟨taken, dropped⟩ := split_while all stops
  rw [readWord, taken, dropped]

end Words

section Decimal

def isDigit (byte : Byte) : Bool := 48 ≤ byte.toNat && byte.toNat ≤ 57

def digitValue (byte : Byte) : Nat := byte.toNat - 48

def digitByte (digit : Nat) : Byte := BitVec.ofNat 8 (48 + digit)

def decimal (number : Nat) : List Byte := (numeral 10 number).map digitByte

def SpellsDecimal (text : List Byte) (number : Nat) : Prop :=
  (∀ byte ∈ text, isDigit byte = true) ∧ Spells 10 (text.map digitValue) number

theorem digit_byte_toNat {digit : Nat} (bound : digit < 10) :
    (digitByte digit).toNat = 48 + digit := by
  rw [digitByte, BitVec.toNat_ofNat]
  omega

theorem digit_byte_isDigit {digit : Nat} (bound : digit < 10) :
    isDigit (digitByte digit) = true := by
  rw [isDigit, digit_byte_toNat bound, Bool.and_eq_true, decide_eq_true_eq, decide_eq_true_eq]
  omega

theorem digit_byte_value {digit : Nat} (bound : digit < 10) :
    digitValue (digitByte digit) = digit := by
  rw [digitValue, digit_byte_toNat bound]
  omega

theorem digit_value_byte {byte : Byte} (digit : isDigit byte = true) :
    digitByte (digitValue byte) = byte := by
  rw [isDigit, Bool.and_eq_true, decide_eq_true_eq, decide_eq_true_eq] at digit
  apply BitVec.eq_of_toNat_eq
  rw [digitByte, digitValue, BitVec.toNat_ofNat]
  omega

theorem map_values_bytes {digits : List Nat} (below : ∀ digit ∈ digits, digit < 10) :
    (digits.map digitByte).map digitValue = digits := by
  rw [List.map_map]
  calc
    digits.map (digitValue ∘ digitByte) = digits.map id :=
      List.map_congr_left fun digit member => digit_byte_value (below digit member)
    _ = digits := List.map_id digits

theorem map_bytes_values {text : List Byte} (digits : ∀ byte ∈ text, isDigit byte = true) :
    (text.map digitValue).map digitByte = text := by
  rw [List.map_map]
  calc
    text.map (digitByte ∘ digitValue) = text.map id :=
      List.map_congr_left fun byte member => digit_value_byte (digits byte member)
    _ = text := List.map_id text

theorem decimal_digits (number : Nat) : ∀ byte ∈ decimal number, isDigit byte = true := by
  intro byte member
  obtain ⟨digit, written, same⟩ := List.mem_map.mp member
  subst same
  exact digit_byte_isDigit ((numeral_spells (by decide) number).below digit written)

theorem decimal_values (number : Nat) : (decimal number).map digitValue = numeral 10 number :=
  map_values_bytes (numeral_spells (by decide) number).below

theorem decimal_spells (number : Nat) : SpellsDecimal (decimal number) number := by
  refine ⟨decimal_digits number, ?_⟩
  rw [decimal_values]
  exact numeral_spells (by decide) number

theorem decimal_length_le {number length : Nat} (room : 0 < length) (bound : number < 10 ^ length) :
    (decimal number).length ≤ length := by
  rw [decimal, List.length_map]
  exact numeral_length_le (by decide) room bound

/-- Every other decimal representation of the number is longer. -/
theorem decimal_shortest {text : List Byte} {number : Nat} (spells : SpellsDecimal text number)
    (other : text ≠ decimal number) : (decimal number).length < text.length := by
  obtain ⟨digits, known⟩ := spells
  have different : text.map digitValue ≠ numeral 10 number := by
    intro same
    apply other
    rw [decimal, ← same, map_bytes_values digits]
  have longer := numeral_shortest (by decide) known different
  rw [decimal, List.length_map]
  rw [List.length_map] at longer
  exact longer

theorem decimal_low {number : Nat} (low : number < 10) : decimal number = [digitByte number] := by
  rw [decimal, numeral_low low]
  rfl

theorem decimal_next {number : Nat} (high : 10 ≤ number) :
    decimal number = decimal (number / 10) ++ [digitByte (number % 10)] := by
  rw [decimal, numeral_next (by decide) high, List.map_append]
  rfl

def readDecimal (input : List Byte) : Option (Nat × List Byte) :=
  let digits := input.takeWhile isDigit
  if digits = [] then none
  else some (numeralValue 10 (digits.map digitValue), input.dropWhile isDigit)

theorem read_decimal_append (number : Nat) {rest : List Byte}
    (stops : ∀ byte ∈ rest.head?, isDigit byte = false) :
    readDecimal (decimal number ++ rest) = some (number, rest) := by
  obtain ⟨taken, dropped⟩ := split_while (decimal_digits number) stops
  have known := decimal_spells number
  have written : decimal number ≠ [] := fun empty => known.2.nonempty (congrArg _ empty)
  rw [readDecimal, taken, dropped, if_neg written, known.2.value]

end Decimal

section Hexadecimal

def hexDigitByte (digit : Nat) : Byte :=
  if digit < 10 then BitVec.ofNat 8 (48 + digit) else BitVec.ofNat 8 (55 + digit)

def hexDigitValue (byte : Byte) : Option Nat :=
  if isDigit byte then some (byte.toNat - 48)
  else if 65 ≤ byte.toNat ∧ byte.toNat ≤ 70 then some (byte.toNat - 55)
  else none

theorem hex_digit_value {digit : Nat} (bound : digit < 16) :
    hexDigitValue (hexDigitByte digit) = some digit := by
  interval_cases digit <;> decide

def hexPair (byte : Byte) : List Byte :=
  [hexDigitByte (byte.toNat / 16), hexDigitByte (byte.toNat % 16)]

def readHexPair : List Byte → Option Byte
  | [high, low] => do
      let high ← hexDigitValue high
      let low ← hexDigitValue low
      some (BitVec.ofNat 8 (16 * high + low))
  | _ => none

theorem read_hex_pair (byte : Byte) : readHexPair (hexPair byte) = some byte := by
  have bound : byte.toNat < 256 := byte.isLt
  rw [hexPair, readHexPair, hex_digit_value (by omega), hex_digit_value (by omega)]
  have whole : 16 * (byte.toNat / 16) + byte.toNat % 16 = byte.toNat := Nat.div_add_mod _ _
  simp only [Option.bind_eq_bind, Option.bind_some, whole, BitVec.ofNat_toNat, BitVec.setWidth_eq]

def hexBytes (separator : Byte) (bytes : List Byte) : List Byte :=
  [separator].intercalate (bytes.map hexPair)

theorem hex_bytes_next (separator byte : Byte) {rest : List Byte} (more : rest ≠ []) :
    hexBytes separator (byte :: rest) = hexPair byte ++ separator :: hexBytes separator rest := by
  cases rest with
  | nil => exact absurd rfl more
  | cons next rest => exact List.intercalate_cons_cons

theorem hex_bytes_last (separator byte : Byte) : hexBytes separator [byte] = hexPair byte :=
  List.intercalate_singleton

theorem hex_bytes_written (separator : Byte) {bytes : List Byte} (some : bytes ≠ []) :
    hexBytes separator bytes ≠ [] := by
  cases bytes with
  | nil => exact absurd rfl some
  | cons byte rest =>
      by_cases more : rest = []
      · subst more
        rw [hex_bytes_last]
        exact List.cons_ne_nil _ _
      · rw [hex_bytes_next separator byte more]
        exact List.cons_ne_nil _ _

theorem hex_bytes_length_le (separator : Byte) (bytes : List Byte) :
    (hexBytes separator bytes).length ≤ 3 * bytes.length := by
  induction bytes with
  | nil => exact Nat.le_refl 0
  | cons byte rest induction =>
      by_cases more : rest = []
      · subst more
        rw [hex_bytes_last]
        exact Nat.le_succ 2
      · rw [hex_bytes_next separator byte more, List.length_append, List.length_cons,
          List.length_cons]
        have pair : (hexPair byte).length = 2 := rfl
        omega

theorem hex_digit_high {digit : Nat} (bound : digit < 16) : 48 ≤ (hexDigitByte digit).toNat := by
  interval_cases digit <;> decide

theorem hex_pair_high {byte char : Byte} (member : char ∈ hexPair byte) : 48 ≤ char.toNat := by
  have bound : byte.toNat < 256 := byte.isLt
  simp only [hexPair, List.mem_cons, List.not_mem_nil, or_false] at member
  rcases member with same | same
  · subst same
    exact hex_digit_high (by omega)
  · subst same
    exact hex_digit_high (by omega)

theorem hex_bytes_high {separator char : Byte} {bytes : List Byte}
    (member : char ∈ hexBytes separator bytes) : char = separator ∨ 48 ≤ char.toNat := by
  induction bytes with
  | nil => cases member
  | cons byte rest induction =>
      by_cases more : rest = []
      · subst more
        rw [hex_bytes_last] at member
        exact .inr (hex_pair_high member)
      · rw [hex_bytes_next separator byte more, List.mem_append, List.mem_cons] at member
        rcases member with first | between | later
        · exact .inr (hex_pair_high first)
        · exact .inl between
        · exact induction later

def readHexBytes (separator : Byte) (input : List Byte) : Option (List Byte) :=
  if input = [] then some [] else (input.splitOn separator).mapM readHexPair

theorem read_hex_pairs (bytes : List Byte) : (bytes.map hexPair).mapM readHexPair = some bytes := by
  induction bytes with
  | nil => rfl
  | cons byte rest induction =>
      rw [List.map_cons, List.mapM_cons, read_hex_pair, induction]
      rfl

theorem read_hex_bytes {separator : Byte} (low : separator.toNat < 48) (bytes : List Byte) :
    readHexBytes separator (hexBytes separator bytes) = some bytes := by
  by_cases empty : bytes = []
  · subst empty
    rfl
  · have apart : ∀ pair ∈ bytes.map hexPair, separator ∉ pair := by
      intro pair member inside
      obtain ⟨byte, _, same⟩ := List.mem_map.mp member
      have high := hex_pair_high (same ▸ inside)
      omega
    have pairs : bytes.map hexPair ≠ [] := by
      rw [Ne, List.map_eq_nil_iff]
      exact empty
    have split : (hexBytes separator bytes).splitOn separator = bytes.map hexPair :=
      List.splitOn_intercalate separator apart pairs
    rw [readHexBytes, if_neg (hex_bytes_written separator empty), split]
    exact read_hex_pairs bytes

end Hexadecimal

end LoraNode.Foundation.Text
