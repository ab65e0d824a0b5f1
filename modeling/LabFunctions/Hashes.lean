import Mathlib.Algebra.Order.Group.Nat
import Mathlib.Data.String.Basic
import LabFunctions.Database
import LabFunctions.Library.Numerals

/-!
`labfunctions.hashes`: the identifiers of 96 bits that `Hash96` makes of the clock and of random
bytes, as a number and as hexadecimal text.
-/

namespace LabFunctions

/-- `int.from_bytes(data, "big")`. -/
def from_bytes (data : List UInt8) : Nat := Numeral.value 256 (data.map UInt8.toNat)

/-- `number.to_bytes(length, "big")`. -/
def to_bytes (number length : Nat) : Except Exn (List UInt8) :=
  if number < 256 ^ length then .ok ((Numeral.written 256 length number).map UInt8.ofNat)
  else .error (.otherError "int too big to convert")

/-- `binascii.hexlify(data).decode()`. -/
def hexlify (data : List UInt8) : String :=
  String.ofList (data.flatMap fun byte =>
    [Nat.digitChar (byte.toNat / 16), Nat.digitChar (byte.toNat % 16)])

def hexDigit (character : Char) : Option Nat :=
  if '0' ≤ character ∧ character ≤ '9' then some (character.toNat - '0'.toNat)
  else if 'a' ≤ character ∧ character ≤ 'f' then some (character.toNat - 'a'.toNat + 10)
  else if 'A' ≤ character ∧ character ≤ 'F' then some (character.toNat - 'A'.toNat + 10)
  else none

/-- `int(text, 16)` for a text of digits alone: no sign, no `0x`, no blanks or underscores. -/
def int16 (text : String) : Option Nat :=
  if text = "" then none else (text.toList.mapM hexDigit).map (Numeral.value 16)

structure Hash96 where
  id_int : Nat
  id_hex : String
  deriving DecidableEq

/-- `ts` is what the clock reads, `int(time.time())`, and `urandom` what `os.urandom(90)` gives. -/
def Hash96.time_random_string (ts : Nat) (urandom : List UInt8) : Except Exn Hash96 := do
  let num := from_bytes urandom % 2 ^ 55
  let _int_id := ts <<< 55 ||| num <<< 0
  let _bytes ← to_bytes _int_id 12
  let _bytes_id := hexlify _bytes
  return { id_int := _int_id, id_hex := _bytes_id }

/-! Digits and their order. -/

theorem hexDigit_digitChar {digit : Nat} (small : digit < 16) :
    hexDigit (Nat.digitChar digit) = some digit := by
  have every : ∀ digit : Fin 16, hexDigit (Nat.digitChar digit) = some digit.val := by decide
  exact every ⟨digit, small⟩

theorem digitChar_lt {left right : Nat} (less : left < right) (small : right < 16) :
    Nat.digitChar left < Nat.digitChar right := by
  have every : ∀ right : Fin 16, ∀ left : Fin 16, left < right →
      Nat.digitChar left < Nat.digitChar right := by decide
  exact every ⟨right, small⟩ ⟨left, less.trans small⟩ less

theorem mapM_hexDigit {digits : List Nat} (small : ∀ digit ∈ digits, digit < 16) :
    (digits.map Nat.digitChar).mapM hexDigit = some digits := by
  induction digits with
  | nil => rfl
  | cons digit digits ih =>
      rw [List.forall_mem_cons] at small
      rw [List.map_cons, List.mapM_cons, hexDigit_digitChar small.1, ih small.2]
      rfl

/-- Hexadecimal texts of one width stand in the order of their numbers. -/
theorem digits_lt {left right : List Nat} (smallRight : ∀ digit ∈ right, digit < 16)
    (less : left < right) : left.map Nat.digitChar < right.map Nat.digitChar := by
  induction left generalizing right with
  | nil =>
      cases right with
      | nil => exact absurd less (lt_irrefl _)
      | cons second back => simp
  | cons first front ih =>
      cases right with
      | nil => simp at less
      | cons second back =>
          rw [List.forall_mem_cons] at smallRight
          rw [List.map_cons, List.map_cons, List.cons_lt_cons_iff]
          rcases List.cons_lt_cons_iff.mp less with lower | ⟨rfl, later⟩
          · exact .inl (digitChar_lt lower smallRight.1)
          · exact .inr ⟨rfl, ih smallRight.2 later⟩

/-! Twelve bytes as twenty-four digits. -/

theorem to_bytes_of_lt {number length : Nat} (fits : number < 256 ^ length) :
    to_bytes number length = .ok ((Numeral.written 256 length number).map UInt8.ofNat) :=
  if_pos fits

/-- The text of the bytes of a number is the number in hexadecimal, two digits for each byte. -/
theorem hexlify_written (length number : Nat) :
    hexlify ((Numeral.written 256 length number).map UInt8.ofNat) =
      String.ofList ((Numeral.written 16 (2 * length) number).map Nat.digitChar) := by
  rw [hexlify, Numeral.written_pairs, List.flatMap_map, List.map_flatMap]
  congr 1
  apply List.flatMap_congr
  intro digit member
  have small : digit < 256 := Numeral.lt_of_mem_written (by decide) member
  have same : (UInt8.ofNat digit).toNat = digit := UInt8.toNat_ofNat_of_lt small
  rw [same]
  rfl

theorem int16_digits {digits : List Nat} (some : digits ≠ [])
    (small : ∀ digit ∈ digits, digit < 16) :
    int16 (String.ofList (digits.map Nat.digitChar)) = Numeral.value 16 digits := by
  have written : String.ofList (digits.map Nat.digitChar) ≠ "" := by
    intro empty
    have texts := congrArg String.toList empty
    simp [some] at texts
  rw [int16, if_neg written, String.toList_ofList, mapM_hexDigit small]
  rfl

/-! The two fields of an identifier. -/

theorem packed_eq (ts : Nat) {num : Nat} (small : num < 2 ^ 55) :
    ts <<< 55 ||| num <<< 0 = ts * 2 ^ 55 + num := by
  rw [Nat.shiftLeft_zero, ← Nat.shiftLeft_add_eq_or_of_lt small, Nat.shiftLeft_eq]

theorem packed_lt {ts num : Nat} (early : ts < 2 ^ 41) (small : num < 2 ^ 55) :
    ts * 2 ^ 55 + num < 2 ^ 96 := by
  calc ts * 2 ^ 55 + num < (ts + 1) * 2 ^ 55 := by omega
    _ ≤ 2 ^ 41 * 2 ^ 55 := Nat.mul_le_mul_right _ early
    _ = 2 ^ 96 := by norm_num

theorem packed_shift {ts num : Nat} (small : num < 2 ^ 55) : (ts * 2 ^ 55 + num) >>> 55 = ts := by
  rw [Nat.shiftRight_eq_div_pow]
  omega

theorem random_lt (urandom : List UInt8) : from_bytes urandom % 2 ^ 55 < 2 ^ 55 :=
  Nat.mod_lt _ (by decide)

namespace Hash96

/-- A number below 2^96 written as an identifier. -/
def ofNumber (number : Nat) : Hash96 where
  id_int := number
  id_hex := String.ofList ((Numeral.written 16 24 number).map Nat.digitChar)

@[simp] theorem id_int_ofNumber (number : Nat) : (ofNumber number).id_int = number := rfl

/-- A reading of the clock that fits its 41 bits leaves nothing to raise. -/
theorem time_random_string_eq {ts : Nat} (early : ts < 2 ^ 41) (urandom : List UInt8) :
    time_random_string ts urandom =
      .ok (ofNumber (ts * 2 ^ 55 + from_bytes urandom % 2 ^ 55)) := by
  have small := random_lt urandom
  have fits : ts * 2 ^ 55 + from_bytes urandom % 2 ^ 55 < 256 ^ 12 :=
    (packed_lt early small).trans_eq (by norm_num)
  rw [time_random_string]
  dsimp only
  rw [packed_eq ts small, to_bytes_of_lt fits]
  change Except.ok (Hash96.mk _ (hexlify _)) = _
  rw [hexlify_written]
  rfl

theorem length_id_hex (number : Nat) : (ofNumber number).id_hex.length = 24 := by
  rw [ofNumber, String.length_ofList, List.length_map, Numeral.length_written]

theorem int16_id_hex {number : Nat} (fits : number < 2 ^ 96) :
    int16 (ofNumber number).id_hex = some number := by
  have some : Numeral.written 16 24 number ≠ [] := by
    intro empty
    have width := congrArg List.length empty
    simp at width
  have read := int16_digits some fun digit member => Numeral.lt_of_mem_written (by decide) member
  have wide : number < 16 ^ 24 := fits.trans_eq (by norm_num)
  rw [ofNumber, read, Numeral.value_written wide]

/-- The texts of identifiers stand in the order of their numbers. -/
theorem id_hex_lt {left right : Nat} (fits : right < 2 ^ 96) (less : left < right) :
    (ofNumber left).id_hex < (ofNumber right).id_hex := by
  have wide : right < 16 ^ 24 := fits.trans_eq (by norm_num)
  have digits : ∀ number, ∀ digit ∈ Numeral.written 16 24 number, digit < 16 :=
    fun number digit member => Numeral.lt_of_mem_written (by decide) member
  have written : Numeral.written 16 24 left < Numeral.written 16 24 right := by
    apply Numeral.lt_of_value_lt
    · rw [Numeral.length_written, Numeral.length_written]
    · exact digits left
    · exact digits right
    · rw [Numeral.value_written (less.trans wide), Numeral.value_written wide]
      exact less
  rw [String.lt_iff_toList_lt, ofNumber, ofNumber, String.toList_ofList, String.toList_ofList]
  exact digits_lt (digits right) written

/-- What an identifier says of the second and of the bytes it was made of. -/
structure Tells (id : Hash96) (ts : Nat) (urandom : List UInt8) : Prop where
  digits : id.id_hex.length = 24
  number : int16 id.id_hex = some id.id_int
  clock : id.id_int >>> 55 = ts
  random : id.id_int % 2 ^ 55 = from_bytes urandom % 2 ^ 55

theorem tells_ofNumber {ts : Nat} (early : ts < 2 ^ 41) (urandom : List UInt8) :
    Tells (ofNumber (ts * 2 ^ 55 + from_bytes urandom % 2 ^ 55)) ts urandom := by
  have small := random_lt urandom
  refine ⟨length_id_hex _, ?_, packed_shift small, ?_⟩
  · exact int16_id_hex (packed_lt early small)
  · change (ts * 2 ^ 55 + from_bytes urandom % 2 ^ 55) % 2 ^ 55 = _
    omega

/-- Identifiers of two seconds stand in the order of the seconds, as numbers and as texts. -/
theorem ordered_by_time {t₁ t₂ : Nat} (before : t₁ < t₂) (early : t₂ < 2 ^ 41)
    (random₁ random₂ : List UInt8) :
    ∃ id₁ id₂, time_random_string t₁ random₁ = .ok id₁ ∧ time_random_string t₂ random₂ = .ok id₂ ∧
      id₁.id_int < id₂.id_int ∧ id₁.id_hex < id₂.id_hex ∧
      Tells id₁ t₁ random₁ ∧ Tells id₂ t₂ random₂ := by
  have first : t₁ < 2 ^ 41 := before.trans early
  have small₁ := random_lt random₁
  have small₂ := random_lt random₂
  have less : t₁ * 2 ^ 55 + from_bytes random₁ % 2 ^ 55 <
      t₂ * 2 ^ 55 + from_bytes random₂ % 2 ^ 55 := by omega
  refine ⟨_, _, time_random_string_eq first random₁, time_random_string_eq early random₂, ?_, ?_,
    tells_ofNumber first random₁, tells_ofNumber early random₂⟩
  · rw [id_int_ofNumber, id_int_ofNumber]
    exact less
  · exact id_hex_lt (packed_lt early small₂) less

theorem ordered_by_time_one_two :
    ∃ id₁ id₂, time_random_string 1 [] = .ok id₁ ∧ time_random_string 2 [255] = .ok id₂ ∧
      id₁.id_int < id₂.id_int ∧ id₁.id_hex < id₂.id_hex ∧
      Tells id₁ 1 [] ∧ Tells id₂ 2 [255] :=
  ordered_by_time (by decide) (by decide) [] [255]

end Hash96

end LabFunctions
