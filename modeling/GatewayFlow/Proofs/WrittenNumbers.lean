import GatewayFlow.Proofs.ShortestDoubles

/-!
# Written numbers

The text of a finite double has the form of a decimal: digits, a point with digits, an exponent. The
decimal that these parts make is read as the double, in whatever style it is written.
-/
namespace GatewayFlow

/-- The parts of a decimal in positional or exponent form. -/
structure DecimalParts where
  whole : List Char
  /-- The digits after the point, if there is one. -/
  decimals : Option (List Char)
  exponent : Option Int

namespace DecimalParts

def text (p : DecimalParts) : List Char :=
  p.whole ++ (p.decimals.elim [] fun ds => '.' :: ds) ++ p.exponent.elim [] exponentText

/-- The double that the parts are read as. -/
def value (negative : Bool) (p : DecimalParts) : Double :=
  .ofParts negative p.whole (p.decimals.getD []) (p.exponent.getD 0)

/-- Only digits stand on both sides of the point; a zero in front stands alone. -/
structure IsDecimal (p : DecimalParts) : Prop where
  whole_nonempty : p.whole ≠ []
  whole_digits : ∀ c ∈ p.whole, c.isDigit = true
  whole_head : p.whole.head? = some '0' → p.whole = ['0']
  decimals_digits : ∀ ds ∈ p.decimals, ∀ c ∈ ds, c.isDigit = true
  decimals_nonempty : ∀ ds ∈ p.decimals, ds ≠ []

end DecimalParts

/-! ### Digits without zeros at the end -/

theorem exists_zeros_at_end (cs : List Char) :
    ∃ k, cs = Text.dropEndWhile (· == '0') cs ++ List.replicate k '0' := by
  refine ⟨(cs.reverse.takeWhile (· == '0')).length, ?_⟩
  have zeros : cs.reverse.takeWhile (· == '0') =
      List.replicate (cs.reverse.takeWhile (· == '0')).length '0' := by
    refine List.eq_replicate_of_mem fun c member => ?_
    simpa using List.mem_takeWhile_imp member
  rw [Text.dropEndWhile, ← List.reverse_replicate, ← zeros, ← List.reverse_append,
    List.takeWhile_append_dropWhile, List.reverse_reverse]

/-- The digits of a decimal other than zero, and the zeros behind them. -/
theorem exists_leading_digits {n : Nat} (positive : 0 < n) :
    ∃ k, Nat.toDigits 10 n = Text.dropEndWhile (· == '0') (Nat.toDigits 10 n) ++
        List.replicate k '0' ∧
      natOfDigits 10 (Text.dropEndWhile (· == '0') (Nat.toDigits 10 n)) * 10 ^ k = n ∧
      Text.dropEndWhile (· == '0') (Nat.toDigits 10 n) ≠ [] ∧
      (Text.dropEndWhile (· == '0') (Nat.toDigits 10 n)).head? ≠ some '0' ∧
      ∀ c ∈ Text.dropEndWhile (· == '0') (Nat.toDigits 10 n), c.isDigit = true := by
  obtain ⟨k, split⟩ := exists_zeros_at_end (Nat.toDigits 10 n)
  generalize Text.dropEndWhile (· == '0') (Nat.toDigits 10 n) = ds at split ⊢
  have head := head?_toDigits_ne_zero positive
  -- The first digit is no zero, so not all digits are zeros at the end.
  have nonempty : ds ≠ [] := by
    rintro rfl
    cases k with
    | zero => exact Nat.toDigits_ne_nil split
    | succ k =>
      rw [split, List.replicate_succ] at head
      exact head rfl
  refine ⟨k, split, ?_, nonempty, ?_, ?_⟩
  · rw [← natOfDigits_append_zeros, ← split, natOfDigits_toDigits (by decide) (by decide)]
  · rwa [split, List.head?_append_of_ne_nil _ nonempty] at head
  · intro c member
    refine Nat.isDigit_of_mem_toDigits (b := 10) (n := n) (by decide) (by decide) ?_
    rw [split]
    exact List.mem_append_left _ member

/-! ### The parts of a written double -/

/-- Digits with the point after `point` of them are written in these parts, which are read as the
digits at that place. -/
structure WrittenIn (style : NumberStyle) (digits : List Char) (point : Int) (p : DecimalParts) :
    Prop where
  text : pointedText style digits point = p.text
  isDecimal : p.IsDecimal
  value : ∀ negative, p.value negative =
    .ofDecimal negative (natOfDigits 10 digits) (point - digits.length)
  marked : p.decimals.isSome ∨ p.exponent.isSome
  pointed : style.pointed → p.decimals.isSome

theorem isDigit_of_mem_zeros {n : Nat} {c : Char} (member : c ∈ List.replicate n '0') :
    c.isDigit = true := by
  rw [List.eq_of_mem_replicate member]
  rfl

section Pointed

variable (style : NumberStyle) {digits : List Char} {point : Int} (nonempty : digits ≠ [])
  (isDigits : ∀ c ∈ digits, c.isDigit = true) (head : digits.head? ≠ some '0')
include nonempty isDigits head

/-- All digits stand before the point, with zeros up to it. -/
theorem writtenIn_filled {k : Nat} (short : digits.length ≤ k) (small : k ≤ 16) :
    WrittenIn style digits k
      ⟨digits ++ List.replicate (k - digits.length) '0', some ['0'], none⟩ where
  text := by
    have positive : 0 < digits.length := List.length_pos_of_ne_nil nonempty
    rw [pointedText, if_pos (by omega), Int.toNat_natCast, List.take_of_length_le short,
      List.drop_of_length_le short]
    simp [DecimalParts.text]
  isDecimal := {
    whole_nonempty := by simp [nonempty]
    whole_digits := List.forall_mem_append.mpr ⟨isDigits, fun _ => isDigit_of_mem_zeros⟩
    whole_head := fun zero => by
      rw [List.head?_append_of_ne_nil _ nonempty] at zero
      exact absurd zero head
    decimals_digits := by simp
    decimals_nonempty := by simp }
  value negative := by
    have filled : digits ++ List.replicate (k - digits.length) '0' ++ ['0'] =
        digits ++ List.replicate (k - digits.length + 1) '0' := by
      rw [List.append_assoc, List.replicate_succ']
    simp only [DecimalParts.value, Option.getD_some, Option.getD_none, Double.ofParts, filled,
      natOfDigits_append_zeros, Double.ofDecimal_mul_pow]
    congr 1
    simp only [List.length_singleton]
    omega
  marked := by simp
  pointed := by simp

/-- The point stands between two digits. -/
theorem writtenIn_split {k : Nat} (positive : 0 < k) (long : k < digits.length) (small : k ≤ 16) :
    WrittenIn style digits k ⟨digits.take k, some (digits.drop k), none⟩ := by
  have decimals : digits.drop k ≠ [] := by
    rw [Ne, List.drop_eq_nil_iff]
    omega
  have whole : digits.take k ≠ [] := by
    rw [Ne, List.take_eq_nil_iff, not_or]
    exact ⟨by omega, nonempty⟩
  have width : (digits.take k).length = k := by
    rw [List.length_take]
    omega
  refine ⟨?_, ⟨whole, fun c member => isDigits c (List.mem_of_mem_take member), ?_, ?_, ?_⟩,
    fun negative => ?_, by simp, by simp⟩
  · rw [pointedText, if_pos (by omega), Int.toNat_natCast]
    simp [DecimalParts.text, width, decimals]
  · intro zero
    rw [List.head?_take, if_neg (by omega)] at zero
    exact absurd zero head
  · rintro ds ⟨⟩ c member
    exact isDigits c (List.mem_of_mem_drop member)
  · rintro ds ⟨⟩
    exact decimals
  · simp only [DecimalParts.value, Option.getD_some, Option.getD_none, Double.ofParts,
      List.take_append_drop]
    congr 1
    rw [List.length_drop]
    omega

omit head in
/-- Zeros fill the places between the point and the first digit. -/
theorem writtenIn_fraction (low : -4 < point) (high : point ≤ 0) :
    WrittenIn style digits point
      ⟨['0'], some (List.replicate point.natAbs '0' ++ digits), none⟩ where
  text := by
    rw [pointedText, if_neg (by omega), if_pos ⟨low, high⟩]
    simp [DecimalParts.text]
  isDecimal := {
    whole_nonempty := by simp
    whole_digits := by simp
    whole_head := fun _ => rfl
    decimals_digits := by
      rintro ds ⟨⟩
      exact List.forall_mem_append.mpr ⟨fun _ => isDigit_of_mem_zeros, isDigits⟩
    decimals_nonempty := by
      rintro ds ⟨⟩
      simp [nonempty] }
  value negative := by
    have filled : ['0'] ++ (List.replicate point.natAbs '0' ++ digits) =
        List.replicate (point.natAbs + 1) '0' ++ digits := by
      rw [← List.append_assoc, List.replicate_succ]
      rfl
    simp only [DecimalParts.value, Option.getD_some, Option.getD_none, Double.ofParts, filled,
      natOfDigits_zeros_append]
    congr 1
    rw [List.length_append, List.length_replicate]
    omega
  marked := by simp
  pointed := by simp

end Pointed

/-! An exponent says how far from behind the first digit the point belongs. -/

section Exponent

variable (style : NumberStyle) {first : Char} {rest : List Char} {point : Int}
  (isDigits : ∀ c ∈ first :: rest, c.isDigit = true) (head : first ≠ '0')
  (outside : ¬(0 < point ∧ point ≤ 16) ∧ ¬(-4 < point ∧ point ≤ 0))

theorem isDecimal_exponent (digit : first.isDigit = true) (nonzero : first ≠ '0')
    {decimals : Option (List Char)} (isDigits : ∀ ds ∈ decimals, ∀ c ∈ ds, c.isDigit = true)
    (nonempty : ∀ ds ∈ decimals, ds ≠ []) (e : Int) :
    (⟨[first], decimals, some e⟩ : DecimalParts).IsDecimal where
  whole_nonempty := by simp
  whole_digits := by simpa using digit
  whole_head zero := absurd (Option.some.inj zero) nonzero
  decimals_digits := isDigits
  decimals_nonempty := nonempty

include outside in
theorem pointedText_exponent : pointedText style (first :: rest) point = first ::
    ((if !rest.isEmpty then '.' :: rest else if style.pointed then ['.', '0'] else []) ++
      exponentText (point - 1)) := by
  rw [pointedText, if_neg outside.1, if_neg outside.2]
  rfl

include isDigits head outside

/-- All digits but the first stand behind the point. -/
theorem writtenIn_mantissa (several : rest ≠ []) :
    WrittenIn style (first :: rest) point ⟨[first], some rest, some (point - 1)⟩ where
  text := by
    rw [pointedText_exponent style outside]
    simp [DecimalParts.text, several]
  isDecimal := by
    obtain ⟨digit, digitsBehind⟩ := List.forall_mem_cons.mp isDigits
    refine isDecimal_exponent digit head ?_ ?_ _
    · rintro ds ⟨⟩
      exact digitsBehind
    · rintro ds ⟨⟩
      exact several
  value negative := by
    simp only [DecimalParts.value, Option.getD_some, Double.ofParts, List.singleton_append,
      List.length_cons]
    congr 1
    push_cast
    ring
  marked := by simp
  pointed := by simp

end Exponent

section SingleDigit

variable (style : NumberStyle) {first : Char} {point : Int} (digit : first.isDigit = true)
  (head : first ≠ '0') (outside : ¬(0 < point ∧ point ≤ 16) ∧ ¬(-4 < point ∧ point ≤ 0))
include digit head outside

/-- The zero behind the point of a single digit is one of its zeros. -/
theorem writtenIn_single_pointed (pointed : style.pointed = true) :
    WrittenIn style [first] point ⟨[first], some ['0'], some (point - 1)⟩ where
  text := by
    rw [pointedText_exponent style outside]
    simp [DecimalParts.text, pointed]
  isDecimal := isDecimal_exponent digit head (by simp) (by simp) _
  value negative := by
    have filled : [first] ++ ['0'] = [first] ++ List.replicate 1 '0' := rfl
    simp only [DecimalParts.value, Option.getD_some, Double.ofParts, filled,
      natOfDigits_append_zeros, Double.ofDecimal_mul_pow]
    congr 1
    simp only [List.length_singleton]
    omega
  marked := by simp
  pointed := by simp

theorem writtenIn_single (plain : style.pointed = false) :
    WrittenIn style [first] point ⟨[first], none, some (point - 1)⟩ where
  text := by
    rw [pointedText_exponent style outside]
    simp [DecimalParts.text, plain]
  isDecimal := isDecimal_exponent digit head (by simp) (by simp) _
  value negative := by simp [DecimalParts.value, Double.ofParts]
  marked := by simp
  pointed := by simp [plain]

end SingleDigit

/-- The point stands behind the first digit, or there is none where no other digit follows it. -/
theorem writtenIn_exponent (style : NumberStyle) {digits : List Char} {point : Int}
    (nonempty : digits ≠ []) (isDigits : ∀ c ∈ digits, c.isDigit = true)
    (head : digits.head? ≠ some '0')
    (outside : ¬(0 < point ∧ point ≤ 16) ∧ ¬(-4 < point ∧ point ≤ 0)) :
    ∃ p, WrittenIn style digits point p := by
  obtain ⟨first, rest, rfl⟩ := List.exists_cons_of_ne_nil nonempty
  have nonzero : first ≠ '0' := by simpa using head
  cases rest with
  | cons second rest =>
    exact ⟨_, writtenIn_mantissa style isDigits nonzero outside (List.cons_ne_nil second rest)⟩
  | nil =>
    have digit : first.isDigit = true := isDigits first List.mem_cons_self
    cases pointed : style.pointed with
    | true => exact ⟨_, writtenIn_single_pointed style digit nonzero outside pointed⟩
    | false => exact ⟨_, writtenIn_single style digit nonzero outside pointed⟩

/-- Digits with a point are a decimal, which is read as those digits at the place of the point. -/
theorem pointedText_parts (style : NumberStyle) (digits : List Char) (point : Int)
    (nonempty : digits ≠ []) (isDigits : ∀ c ∈ digits, c.isDigit = true)
    (head : digits.head? ≠ some '0') : ∃ p, WrittenIn style digits point p := by
  by_cases inside : 0 < point ∧ point ≤ 16
  · obtain ⟨k, rfl⟩ : ∃ k : Nat, point = k := ⟨point.toNat, by omega⟩
    by_cases short : digits.length ≤ k
    · exact ⟨_, writtenIn_filled style nonempty isDigits head short (by omega)⟩
    · exact ⟨_, writtenIn_split style nonempty isDigits head (by omega) (by omega) (by omega)⟩
  · by_cases before : -4 < point ∧ point ≤ 0
    · exact ⟨_, writtenIn_fraction style nonempty isDigits before.1 before.2⟩
    · exact writtenIn_exponent style nonempty isDigits head ⟨inside, before⟩

/-- A finite double is written as a decimal that is read as it, with a point wherever the style
asks for one. -/
theorem rankText_parts (style : NumberStyle) (rank : Fin Double.rankCount) :
    ∃ p : DecimalParts, rankText style rank = p.text ∧ p.IsDecimal ∧
      (∀ negative, p.value negative = .finite negative rank) ∧
      (p.decimals.isSome ∨ p.exponent.isSome) ∧ (style.pointed → p.decimals.isSome) := by
  rcases Nat.eq_zero_or_pos rank.val with zero | positive
  · refine ⟨⟨['0'], some ['0'], none⟩, by rw [rankText, if_pos zero]; rfl, ?_, ?_, by simp⟩
    · exact ⟨by simp, by simp, by simp, by simp, by simp⟩
    · intro negative
      have eq : rank = ⟨0, by decide⟩ := Fin.ext zero
      rw [eq]
      rfl
  · have read := Decimal.ofDecimal_shortest rank positive
    rw [rankText, if_neg (by omega)]
    generalize Decimal.shortest rank = d at read ⊢
    have nonzero : 0 < d.digits := by
      rw [Nat.pos_iff_ne_zero]
      intro noDigits
      have same := read false
      rw [noDigits] at same
      cases same
      exact absurd positive (by decide)
    obtain ⟨k, split, value, nonempty, head, isDigits⟩ := exists_leading_digits nonzero
    -- Without the zeros at their end the digits are the same number at the same place.
    obtain ⟨p, written⟩ := pointedText_parts style
      (Text.dropEndWhile (· == '0') d.digitChars) (d.size + d.exponent) nonempty isDigits head
    refine ⟨p, written.text, written.isDecimal, fun negative => ?_, written.marked,
      written.pointed⟩
    have size : (d.size : Int) =
        (Text.dropEndWhile (· == '0') d.digitChars).length + k := by
      have width := congrArg List.length split
      rw [List.length_append, List.length_replicate] at width
      exact_mod_cast width
    rw [written.value negative, ← read negative, ← value, Double.ofDecimal_mul_pow]
    congr 1
    omega

/-! ### Whole numbers and exponents -/

theorem DecimalParts.exists_digit (p : DecimalParts) (isDecimal : p.IsDecimal) :
    ∃ c cs, p.text = c :: cs ∧ c.isDigit = true := by
  obtain ⟨c, cs, eq⟩ := List.exists_cons_of_ne_nil isDecimal.whole_nonempty
  refine ⟨c, _, by rw [DecimalParts.text, eq]; rfl, isDecimal.whole_digits c ?_⟩
  rw [eq]
  exact List.mem_cons_self

/-- A written whole number has the form of a decimal without a point. -/
theorem natText_parts (n : Nat) : (DecimalParts.mk (natText n) none none).IsDecimal where
  whole_nonempty := Nat.toDigits_ne_nil
  whole_digits _ := isDigit_of_mem_natText
  whole_head head := by
    rcases Nat.eq_zero_or_pos n with rfl | positive
    · rfl
    · exact absurd head (head?_toDigits_ne_zero positive)
  decimals_digits := by simp
  decimals_nonempty := by simp

theorem intText_eq (i : Int) :
    intText i = (if decide (i < 0) then ['-'] else []) ++ natText i.natAbs := by
  by_cases below : i < 0 <;> simp [intText, below]

theorem padLeft_digits {width : Nat} {ds : List Char} (isDigits : ∀ c ∈ ds, c.isDigit = true) :
    ∀ c ∈ padLeft width ds, c.isDigit = true := by
  intro c member
  rcases List.mem_append.mp member with filled | own
  · rw [List.eq_of_mem_replicate filled]
    rfl
  · exact isDigits c own

theorem natOfDigits_padLeft (width : Nat) (ds : List Char) :
    natOfDigits 10 (padLeft width ds) = natOfDigits 10 ds :=
  natOfDigits_zeros_append ..

end GatewayFlow
