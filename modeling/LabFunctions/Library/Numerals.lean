import Mathlib.Data.Nat.Digits.Defs

/-!
Numerals of a fixed width, the highest digit first: what they stand for, how a number is written
as one, and that their lexicographic order is that of the numbers.
-/

namespace Numeral

def value (base : Nat) (digits : List Nat) : Nat := Nat.ofDigits base digits.reverse

def written (base : Nat) : Nat → Nat → List Nat
  | 0, _ => []
  | width + 1, n => written base width (n / base) ++ [n % base]

variable {base : Nat}

@[simp] theorem value_nil : value base [] = 0 := rfl

theorem value_cons (digit : Nat) (digits : List Nat) :
    value base (digit :: digits) = digit * base ^ digits.length + value base digits := by
  rw [value, List.reverse_cons, Nat.ofDigits_append, Nat.ofDigits_singleton, List.length_reverse,
    value]
  ring

theorem value_append_singleton (digits : List Nat) (digit : Nat) :
    value base (digits ++ [digit]) = value base digits * base + digit := by
  rw [value, List.reverse_append, List.reverse_singleton, List.singleton_append, Nat.ofDigits_cons,
    value]
  ring

@[simp] theorem length_written (width n : Nat) : (written base width n).length = width := by
  induction width generalizing n with
  | zero => rfl
  | succ width ih => rw [written, List.length_append, ih, List.length_singleton]

theorem lt_of_mem_written (positive : 0 < base) {width n digit : Nat}
    (member : digit ∈ written base width n) : digit < base := by
  induction width generalizing n with
  | zero => simp [written] at member
  | succ width ih =>
      rw [written, List.mem_append, List.mem_singleton] at member
      rcases member with higher | rfl
      · exact ih higher
      · exact Nat.mod_lt _ positive

/-- A number that fits the width is read back. -/
theorem value_written {width n : Nat} (fits : n < base ^ width) :
    value base (written base width n) = n := by
  induction width generalizing n with
  | zero =>
      rw [Nat.pow_zero, Nat.lt_one_iff] at fits
      rw [fits]
      rfl
  | succ width ih =>
      have higher : n / base < base ^ width := by
        rw [Nat.pow_succ] at fits
        exact Nat.div_lt_of_lt_mul (by rwa [Nat.mul_comm])
      rw [written, value_append_singleton, ih higher, Nat.mul_comm]
      exact Nat.div_add_mod n base

theorem value_lt {digits : List Nat} (small : ∀ digit ∈ digits, digit < base) :
    value base digits < base ^ digits.length := by
  induction digits with
  | nil => simp
  | cons digit digits ih =>
      rw [List.forall_mem_cons] at small
      have lower := ih small.2
      have leading : (digit + 1) * base ^ digits.length ≤ base * base ^ digits.length :=
        Nat.mul_le_mul_right _ small.1
      rw [value_cons, List.length_cons, Nat.pow_succ, Nat.mul_comm (base ^ digits.length)]
      rw [Nat.add_mul, Nat.one_mul] at leading
      omega

/-- Of two numerals of one width the lesser comes first. -/
theorem lt_of_value_lt {left right : List Nat} (width : left.length = right.length)
    (smallLeft : ∀ digit ∈ left, digit < base)
    (smallRight : ∀ digit ∈ right, digit < base)
    (less : value base left < value base right) : left < right := by
  induction left generalizing right with
  | nil =>
      obtain rfl := List.length_eq_zero_iff.mp width.symm
      exact absurd less (lt_irrefl _)
  | cons first front ih =>
      cases right with
      | nil => simp at width
      | cons second back =>
          rw [List.length_cons, List.length_cons, Nat.add_right_cancel_iff] at width
          rw [List.forall_mem_cons] at smallLeft smallRight
          rw [value_cons, value_cons, width] at less
          have bound := value_lt smallRight.2
          rw [List.cons_lt_cons_iff]
          rcases lt_trichotomy first second with lower | rfl | higher
          · exact .inl lower
          · exact .inr ⟨rfl, ih width smallLeft.2 smallRight.2 (Nat.add_lt_add_iff_left.mp less)⟩
          · have leading : (second + 1) * base ^ back.length ≤ first * base ^ back.length :=
              Nat.mul_le_mul_right _ higher
            rw [Nat.add_mul, Nat.one_mul] at leading
            omega

/-- Two digits for each digit to the square of the base. -/
theorem written_pairs (width n : Nat) :
    written base (2 * width) n =
      (written (base * base) width n).flatMap fun digit => [digit / base, digit % base] := by
  induction width generalizing n with
  | zero => rfl
  | succ width ih =>
      rw [show 2 * (width + 1) = 2 * width + 1 + 1 from rfl, written, written, ih, written,
        List.flatMap_append, List.flatMap_singleton, Nat.div_div_eq_div_mul, List.append_assoc,
        Nat.mod_mul_right_div_self, Nat.mod_mul_right_mod]
      rfl

end Numeral
