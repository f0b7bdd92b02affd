import GatewayFlow.Number.Reading
import GatewayFlow.Number.Style
import GatewayFlow.Text.Quoted
import Mathlib

/-!
# Digits

The digits that a number is written in: they read back as the number, zeros in front of them do not
count, and zeros behind them multiply it by the base.
-/
namespace GatewayFlow

/-! ### The number of digits -/

@[simp] theorem natOfDigits_nil (base : Nat) : natOfDigits base [] = 0 := rfl

theorem foldl_digits (base n : Nat) (cs : List Char) :
    cs.foldl (fun n c => base * n + digitValue c) n =
      n * base ^ cs.length + natOfDigits base cs := by
  induction cs generalizing n with
  | nil => simp
  | cons c rest ih =>
    have front : natOfDigits base (c :: rest) =
        (base * 0 + digitValue c) * base ^ rest.length + natOfDigits base rest := ih _
    rw [List.foldl_cons, ih, front, List.length_cons, pow_succ]
    ring

theorem natOfDigits_append (base : Nat) (cs ds : List Char) :
    natOfDigits base (cs ++ ds) = natOfDigits base cs * base ^ ds.length + natOfDigits base ds := by
  rw [natOfDigits, List.foldl_append, foldl_digits]
  rfl

theorem natOfDigits_zeros (base k : Nat) : natOfDigits base (List.replicate k '0') = 0 := by
  induction k with
  | zero => rfl
  | succ k ih =>
    rw [List.replicate_succ', natOfDigits_append, ih]
    simp [natOfDigits, digitValue]

theorem natOfDigits_zeros_append (base k : Nat) (cs : List Char) :
    natOfDigits base (List.replicate k '0' ++ cs) = natOfDigits base cs := by
  rw [natOfDigits_append, natOfDigits_zeros, Nat.zero_mul, Nat.zero_add]

theorem natOfDigits_append_zeros (base k : Nat) (cs : List Char) :
    natOfDigits base (cs ++ List.replicate k '0') = natOfDigits base cs * base ^ k := by
  rw [natOfDigits_append, natOfDigits_zeros, List.length_replicate, Nat.add_zero]

/-- Digits of the same values make the same number. -/
theorem natOfDigits_map (base : Nat) (f : Char → Char) (cs : List Char)
    (same : ∀ c ∈ cs, digitValue (f c) = digitValue c) :
    natOfDigits base (cs.map f) = natOfDigits base cs := by
  rw [natOfDigits, List.foldl_map, natOfDigits]
  exact List.foldl_ext _ _ _ fun n c member => by rw [same c member]

/-! ### Written numbers -/

theorem digitValue_digitChar : ∀ n < 16, digitValue n.digitChar = n := by decide

/-- Every digit of a number is the character of a number below the base. -/
theorem mem_toDigits {base : Nat} (large : 1 < base) {n : Nat} {c : Char}
    (member : c ∈ Nat.toDigits base n) : ∃ d < base, c = d.digitChar := by
  induction n using Nat.strong_induction_on with
  | _ n ih =>
    rw [Nat.toDigits_eq_if large] at member
    split at member
    next small => exact ⟨n, small, List.mem_singleton.mp member⟩
    next big =>
      rcases List.mem_append.mp member with before | last
      · exact ih (n / base) (Nat.div_lt_self (by omega) large) before
      · exact ⟨n % base, Nat.mod_lt _ (by omega), List.mem_singleton.mp last⟩

theorem natOfDigits_toDigits {base : Nat} (large : 1 < base) (small : base ≤ 16) (n : Nat) :
    natOfDigits base (Nat.toDigits base n) = n := by
  have single (d : Nat) (below : d < base) : natOfDigits base [d.digitChar] = d := by
    simp [natOfDigits, digitValue_digitChar d (by omega)]
  induction n using Nat.strong_induction_on with
  | _ n ih =>
    rw [Nat.toDigits_eq_if large]
    split
    next below => exact single n below
    next above =>
      rw [natOfDigits_append, ih (n / base) (Nat.div_lt_self (by omega) large),
        single _ (Nat.mod_lt _ (by omega)), List.length_singleton, pow_one]
      exact Nat.div_add_mod' n base

/-- A number other than zero does not start with the digit zero. -/
theorem head?_toDigits_ne_zero {n : Nat} (positive : 0 < n) :
    (Nat.toDigits 10 n).head? ≠ some '0' := by
  induction n using Nat.strong_induction_on with
  | _ n ih =>
    rw [Nat.toDigits_eq_if (by decide)]
    split
    next below =>
      have nonzero : ∀ d < 10, 0 < d → [d.digitChar].head? ≠ some '0' := by decide
      exact nonzero n below positive
    next above =>
      rw [List.head?_append_of_ne_nil _ Nat.toDigits_ne_nil]
      exact ih (n / 10) (by omega) (by omega)

/-- Multiplying a number other than zero by powers of ten appends zeros. -/
theorem toDigits_mul_pow {n : Nat} (positive : 0 < n) (k : Nat) :
    Nat.toDigits 10 (n * 10 ^ k) = Nat.toDigits 10 n ++ List.replicate k '0' := by
  induction k with
  | zero => simp
  | succ k ih =>
    have last := Nat.toDigits_append_toDigits (b := 10) (n := n * 10 ^ k) (d := 0) (by decide)
      (by positivity) (by decide)
    rw [List.replicate_succ', ← List.append_assoc, ← ih, pow_succ,
      show n * (10 ^ k * 10) = 10 * (n * 10 ^ k) + 0 by ring, ← last]
    rfl

theorem isDigit_of_mem_natText {n : Nat} {c : Char} (member : c ∈ natText n) :
    c.isDigit = true :=
  Nat.isDigit_of_mem_toDigits (by decide) (by decide) member

theorem natOfDigits_natText (n : Nat) : natOfDigits 10 (natText n) = n :=
  natOfDigits_toDigits (by decide) (by decide) n

/-- A digit is no character that is none. -/
theorem ne_of_isDigit {c d : Char} (digit : c.isDigit = true) (other : d.isDigit = false) :
    c ≠ d := by
  rintro rfl
  exact absurd digit (by simp [other])

/-! ### Hexadecimal digits -/

namespace Text

theorem hexPadded_digits {width n : Nat} {c : Char} (member : c ∈ hexPadded width n) :
    ∃ d < 16, c = d.digitChar := by
  rcases List.mem_append.mp member with zeros | digits
  · exact ⟨0, by decide, List.eq_of_mem_replicate zeros⟩
  · exact mem_toDigits (by decide) digits

theorem natOfDigits_hexPadded (width n : Nat) : natOfDigits 16 (hexPadded width n) = n := by
  rw [hexPadded, natOfDigits_zeros_append, natOfDigits_toDigits (by decide) (by decide)]

theorem length_hexPadded {width n : Nat} (positive : 0 < width) (fits : n < 16 ^ width) :
    (hexPadded width n).length = width := by
  have short := (Nat.length_toDigits_le_iff (by decide) positive).mpr fits
  rw [hexPadded, List.length_append, List.length_replicate]
  omega

end Text
end GatewayFlow
