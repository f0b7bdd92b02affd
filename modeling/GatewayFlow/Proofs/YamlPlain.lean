import GatewayFlow.Proofs.YamlCharacters

/-!
# Reading plain scalars

A scalar that is written without quotes is read up to the colon or the line end behind it, and what
it looks like means what was written: a number its value, a text itself.
-/
namespace GatewayFlow.Yaml

/-! ### Where a plain scalar ends -/

/-- A plain scalar outside brackets, whose further lines need `least` blanks, ends here. -/
def EndsPlain (least : Nat) (rest : List Char) : Prop :=
  ∀ back, readPlainText false least .nothing back rest = ([], back)

/-- What can start a line behind its indentation. -/
def IsVisible (c : Char) : Prop :=
  c ≠ ' ' ∧ c ≠ '#' ∧ c ≠ '\ufeff' ∧ isLineEnd c = false

instance (c : Char) : Decidable (IsVisible c) :=
  inferInstanceAs (Decidable (_ ∧ _))

section Steps

variable {least : Nat} {spacing : Spacing} {back : List Char}

theorem readPlainText_blank (cs : List Char) :
    readPlainText false least spacing back (' ' :: cs) =
      readPlainText false least (spacing.addBlank ' ') back cs := by
  rw [readPlainText]
  · rfl
  · simp

theorem readPlainText_newline (cs : List Char) :
    readPlainText false least spacing back ('\n' :: cs) =
      readPlainText false least (spacing.addLineEnd '\n') back cs := by
  rw [readPlainText]
  · rfl
  · simp

theorem readPlainText_visible {c : Char} (noBlank : c ≠ ' ') (noEnd : isLineEnd c = false)
    (cs : List Char) :
    readPlainText false least spacing back (c :: cs) =
      if endsPlain false c cs || (c == '#' && !spacing.isEmpty) ||
          (spacing.startsLine && startsMarker (c :: cs)) || spacing.isBelow least then ([], back)
      else
        (spacing.text ++ c :: (readPlainText false least .nothing cs cs).1,
          (readPlainText false least .nothing cs cs).2) := by
  have noReturn : c ≠ '\r' := by
    rintro rfl
    exact absurd noEnd (by decide)
  rw [readPlainText]
  · cases endsPlain false c cs <;> simp [noBlank, noEnd]
  · exact fun cs eq => absurd eq noReturn

end Steps

theorem endsPlain_colon (least : Nat) {cs : List Char} (gap : startsWithGap cs = true) :
    EndsPlain least (':' :: cs) := by
  intro back
  rw [readPlainText_visible (by decide) (by decide)]
  simp [endsPlain, gap]

theorem endsPlain_end (least : Nat) : EndsPlain least ['\n'] := by
  intro back
  rw [readPlainText_newline]
  rfl

/-- Blanks at the start of a line are counted. -/
theorem readPlainText_indent (least n column : Nat) (first : Option Char) (more back : List Char)
    (cs : List Char) :
    readPlainText false least (.lines first more column) back (List.replicate n ' ' ++ cs) =
      readPlainText false least (.lines first more (column + n)) back cs := by
  induction n generalizing column with
  | zero => rfl
  | succ n ih =>
    rw [List.replicate_succ, List.cons_append, readPlainText_blank]
    exact (ih (column + 1)).trans (by rw [Nat.add_right_comm, Nat.add_assoc])

/-- A line with too little indentation is no part of the scalar. -/
theorem endsPlain_newline {least indent : Nat} (below : indent < least) {c : Char}
    (visible : IsVisible c) (cs : List Char) :
    EndsPlain least (newline indent ++ c :: cs) := by
  intro back
  obtain ⟨noBlank, -, -, noEnd⟩ := visible
  rw [newline, List.cons_append, readPlainText_newline]
  rw [show Spacing.addLineEnd '\n' .nothing = .lines (some '\n') [] 0 from rfl,
    readPlainText_indent, readPlainText_visible noBlank noEnd]
  simp [Spacing.isBelow, below]

/-! ### The text of a plain scalar -/

theorem startsWithGap_append {cs : List Char} (nonempty : cs ≠ []) (rest : List Char) :
    startsWithGap (cs ++ rest) = startsWithGap cs := by
  rw [startsWithGap, startsWithGap, List.head?_append_of_ne_nil _ nonempty]

theorem isGap_of_isSpecial {c : Char} (ordinary : isSpecial c = false) (noBreak : isBreak c = false)
    (noBlank : c ≠ ' ') : isGap c = false := by
  have apart : c ≠ '\x00' ∧ c ≠ '\t' ∧ c ≠ '\r' :=
    ⟨ne_of_isSpecial ordinary (by decide), ne_of_isSpecial ordinary (by decide),
      ne_of_isSpecial ordinary (by decide)⟩
  simp [isGap, noBreak, noBlank, apart]

theorem isLineEnd_of_isSpecial {c : Char} (ordinary : isSpecial c = false)
    (noBreak : isBreak c = false) : isLineEnd c = false := by
  simp [isLineEnd, noBreak, ne_of_isSpecial ordinary (show isSpecial '\r' = true by decide)]

/-- Behind the text, too, no colon stands in front of a gap: the writer looked for that. -/
theorem endsPlain_append {c : Char} {cs : List Char} (noGap : isGap c = false)
    (noColon : (c == ':' && startsWithGap cs) = false) (rest : List Char) :
    endsPlain false c (cs ++ rest) = false := by
  by_cases colon : c = ':'
  · subst colon
    have closed : startsWithGap cs = false := by simpa using noColon
    have nonempty : cs ≠ [] := by
      rintro rfl
      exact absurd closed (by decide)
    simp [endsPlain, noGap, startsWithGap_append nonempty, closed]
  · simp [endsPlain, noGap, colon]

/-- No hash stands behind a gap. -/
theorem noComment_of_noHash {before c : Char} {blanks : List Char}
    (noHash : (c == '#' && isGap before) = false) (gap : blanks ≠ [] → before = ' ') :
    (c == '#' && !(Spacing.blanks blanks).isEmpty) = false := by
  by_cases spaced : blanks = []
  · simp [spaced, Spacing.isEmpty]
  · have noHash : c ≠ '#' := by simpa [gap spaced, isGap] using noHash
    simp [noHash]

/-- The words of a plain text are read one after another, with the blanks between them. `before` is
the character in front. -/
theorem readPlainText_append {least : Nat} {cs rest back blanks : List Char} {before : Char}
    (ends : EndsPlain least rest)
    (ordinary : ∀ c ∈ cs, isSpecial c = false ∧ isBreak c = false)
    (noIndicator : hasInnerIndicator before cs = false) (last : cs.getLast? ≠ some ' ')
    (gap : blanks ≠ [] → before = ' ') (none : cs = [] → blanks = [] ∧ back = rest) :
    readPlainText false least (.blanks blanks) back (cs ++ rest) = (blanks ++ cs, rest) := by
  -- By induction on the characters that are left. The blanks read last wait for a character that
  -- shows that they belong to the text, and `back` is where the text ends if none follows.
  induction cs generalizing before blanks back with
  | nil =>
    obtain ⟨rfl, rfl⟩ := none rfl
    exact ends back
  | cons c cs ih =>
    obtain ⟨⟨special, noBreak⟩, ordinaries⟩ := List.forall_mem_cons.mp ordinary
    simp only [hasInnerIndicator, Bool.or_eq_false_iff] at noIndicator
    obtain ⟨⟨noColon, noHash⟩, inner⟩ := noIndicator
    have lastOf : cs.getLast? ≠ some ' ' := by
      cases cs with
      | nil => simp
      | cons d ds => exact last
    rw [List.cons_append]
    by_cases blank : c = ' '
    · -- A character follows, since no text without quotes ends in a blank.
      subst blank
      have nonempty : cs ≠ [] := by
        rintro rfl
        exact last rfl
      have step : readPlainText false least (.blanks (blanks ++ [' '])) back (cs ++ rest) =
          (blanks ++ [' '] ++ cs, rest) :=
        ih ordinaries inner lastOf (fun _ => rfl) fun empty => absurd empty nonempty
      rw [readPlainText_blank]
      simpa [Spacing.addBlank] using step
    · have noEnds := endsPlain_append (isGap_of_isSpecial special noBreak blank) noColon rest
      have noComment := noComment_of_noHash noHash gap
      have next : readPlainText false least (.blanks []) (cs ++ rest) (cs ++ rest) =
          ([] ++ cs, rest) :=
        ih ordinaries inner lastOf (by simp) (by rintro rfl; exact ⟨rfl, rfl⟩)
      rw [readPlainText_visible blank (isLineEnd_of_isSpecial special noBreak), noEnds, noComment,
        show Spacing.nothing = .blanks [] from rfl, next]
      rfl

/-! ### Words are plain -/

theorem ordinary_of_isWordChar {c : Char} (member : isWordChar c = true) :
    isSpecial c = false ∧ isBreak c = false ∧ isSpaceOrBreak c = false ∧ isGap c = false ∧
      c ≠ ':' ∧ c ≠ '#' := by
  have range := toNat_of_isWordChar member
  have special : isSpecial c = false := (isSpecial_iff c).mpr (by omega)
  have noBreak : isBreak c = false := by
    rw [← Bool.not_eq_true, isBreak_iff]
    omega
  have unlike : c ≠ ' ' ∧ c ≠ ':' ∧ c ≠ '#' := by
    refine ⟨?_, ?_, ?_⟩ <;> rintro rfl <;> exact absurd range (by decide)
  exact ⟨special, noBreak, by simp [isSpaceOrBreak, noBreak, unlike],
    isGap_of_isSpecial special noBreak unlike.1, unlike.2⟩

theorem hasInnerIndicator_word {cs : List Char} (chars : ∀ c ∈ cs, isWordChar c = true)
    (before : Char) : hasInnerIndicator before cs = false := by
  induction cs generalizing before with
  | nil => rfl
  | cons c cs ih =>
    obtain ⟨member, members⟩ := List.forall_mem_cons.mp chars
    obtain ⟨-, -, -, -, colon, hash⟩ := ordinary_of_isWordChar member
    simp [hasInnerIndicator, colon, hash, ih members]

/-- A letter or digit indicates nothing. -/
theorem unlike_of_isAlphanum {c : Char} (alnum : c.isAlphanum = true) :
    c ≠ '-' ∧ c ≠ '.' ∧ c ≠ '?' ∧ c ≠ ':' ∧
      "#,[]\x7b\x7d&*!|>'\"%@\x60".toList.contains c = false := by
  have list : "#,[]\x7b\x7d&*!|>'\"%@\x60".toList.all (fun d => !d.isAlphanum) = true := by decide
  rw [List.all_eq_true] at list
  refine ⟨?_, ?_, ?_, ?_, ?_⟩
  iterate 4
    · rintro rfl
      exact absurd alnum (by decide)
  · rw [← Bool.not_eq_true, List.contains_iff_mem]
    intro member
    simpa [alnum] using list c member

/-- Behind a minus comes a letter or a digit, so it is no indicator of an item. -/
theorem hasIndicator_word {cs : List Char} (word : IsWord cs) : hasIndicator cs = false := by
  obtain ⟨chars, negative, c, rest, rfl, alnum⟩ := word
  obtain ⟨hyphen, point, question, colon, listed⟩ := unlike_of_isAlphanum alnum
  have inner (before : Char) : hasInnerIndicator before rest = false := by
    refine hasInnerIndicator_word (fun d member => chars d ?_) before
    exact List.mem_append_right _ (List.mem_cons_of_mem c member)
  have noGap : isGap c = false :=
    (ordinary_of_isWordChar (chars c (List.mem_append_right _ List.mem_cons_self))).2.2.2.1
  cases negative with
  | true =>
    have unlisted : "#,[]\x7b\x7d&*!|>'\"%@\x60".toList.contains '-' = false := by decide
    simp only [if_true, List.singleton_append, hasIndicator, unlisted, hasInnerIndicator, inner]
    have noGapHere : isGap '-' = false := by decide
    simp [hyphen, colon, startsWithGap, noGap, noGapHere]
  | false =>
    simp only [Bool.false_eq_true, if_false, List.nil_append, hasIndicator, listed, inner]
    simp [hyphen, point, question, colon]

/-- A word needs no quotes. -/
theorem fitsPlain_of_isWord {cs : List Char} (word : IsWord cs) : fitsPlain cs = true := by
  have ordinary (c : Char) (member : c ∈ cs) := ordinary_of_isWordChar (word.chars c member)
  have special : cs.any isSpecial = false := by
    rw [List.any_eq_false]
    exact fun c member => by simp [ordinary c member]
  have noBreak : cs.any isBreak = false := by
    rw [List.any_eq_false]
    exact fun c member => by simp [ordinary c member]
  have outer (d? : Option Char) (member : ∀ d ∈ d?, d ∈ cs) :
      (d?.map isSpaceOrBreak).getD false = false := by
    cases d? with
    | none => rfl
    | some d => exact (ordinary d (member d rfl)).2.2.1
  simp only [fitsPlain, special, noBreak, outer _ fun d => List.mem_of_mem_head?,
    outer _ fun d => List.mem_of_mem_getLast?, hasIndicator_word word]
  rfl

/-! ### What plain scalars mean -/

/-- The digits of a number, behind its sign if there is one. -/
def signed (negative : Bool) (cs : List Char) : List Char :=
  (if negative then ['-'] else []) ++ cs

theorem splitSign_signed (negative : Bool) {c : Char} (digit : c.isDigit = true)
    (cs : List Char) : splitSign (signed negative (c :: cs)) = (negative, c :: cs) := by
  cases negative with
  | true => rfl
  | false =>
    have unlike : c ≠ '-' ∧ c ≠ '+' := ⟨ne_of_isDigit digit rfl, ne_of_isDigit digit rfl⟩
    simp only [signed, splitSign]
    split <;> simp_all

/-- Whether none of some words starts like a number. -/
def holdsNoNumber (words : List String) : Bool :=
  words.all fun word => (word.toList.head?.map fun c => c != '-' && !c.isDigit).getD true

/-- A number is none of such words. -/
theorem contains_number {words : List String} (noNumber : holdsNoNumber words = true)
    (negative : Bool) {c : Char} (digit : c.isDigit = true) (cs : List Char) :
    words.contains (String.ofList (signed negative (c :: cs))) = false := by
  rw [← Bool.not_eq_true, List.contains_iff_mem]
  intro member
  have start := List.all_eq_true.mp noNumber _ member
  rw [String.toList_ofList] at start
  cases negative with
  | true => simp [signed] at start
  | false => simp [signed, digit] at start

theorem withoutUnderscores_digits {cs : List Char} (digits : ∀ c ∈ cs, c.isDigit = true) :
    withoutUnderscores cs = cs := by
  rw [withoutUnderscores, List.filter_eq_self]
  exact fun c member => bne_iff_ne.mpr (ne_of_isDigit (digits c member) rfl)

theorem splitAtChar_of_not_mem {c : Char} {cs : List Char} (absent : c ∉ cs) :
    splitAtChar c cs = [cs] := by
  induction cs with
  | nil => rfl
  | cons d cs ih =>
    rw [List.mem_cons, not_or] at absent
    have rest := ih absent.2
    rw [splitAtChar] at rest ⊢
    rw [List.foldr_cons, rest, if_neg (Ne.symm absent.1)]

theorem splitAtColon_digits {cs : List Char} (digits : ∀ c ∈ cs, c.isDigit = true) :
    splitAtChar ':' cs = [cs] :=
  splitAtChar_of_not_mem fun member => absurd (digits _ member) (by decide)

theorem isGrouped_digits {cs : List Char} (nonempty : cs ≠ [])
    (digits : ∀ c ∈ cs, c.isDigit = true) : isGrouped Char.isDigit cs = true := by
  obtain ⟨c, rest, rfl⟩ := List.exists_cons_of_ne_nil nonempty
  obtain ⟨here, later⟩ := List.forall_mem_cons.mp digits
  simp only [isGrouped, here, Bool.true_and, List.all_eq_true, Bool.or_eq_true]
  exact fun d member => .inl (later d member)

theorem takeWhile_ne_point {cs rest : List Char} (digits : ∀ c ∈ cs, c.isDigit = true) :
    (cs ++ '.' :: rest).takeWhile (· != '.') = cs ∧
      (cs ++ '.' :: rest).dropWhile (· != '.') = '.' :: rest := by
  have apart : ∀ c ∈ cs, (c != '.') = true := fun c member =>
    bne_iff_ne.mpr (ne_of_isDigit (digits c member) rfl)
  rw [List.takeWhile_append_of_pos apart, List.dropWhile_append_of_pos apart]
  simp

theorem readExponent?_exponentText (e : Int) : readExponent? (exponentText e) = some e := by
  have digits : (padLeft 2 (natText e.natAbs)).all Char.isDigit = true := by
    rw [List.all_eq_true]
    exact padLeft_digits fun _ => isDigit_of_mem_natText
  have nonempty : padLeft 2 (natText e.natAbs) ≠ [] := by
    simp [padLeft, natText, Nat.toDigits_ne_nil]
  have value : natOfDigits 10 (padLeft 2 (natText e.natAbs)) = e.natAbs := by
    rw [natOfDigits_padLeft, natOfDigits_natText]
  by_cases below : e < 0
  · simp [exponentText, readExponent?, below, digits, nonempty, value, abs_of_neg below]
  · simp [exponentText, readExponent?, below, digits, nonempty, value,
      abs_of_nonneg (not_lt.mp below)]

theorem readPointed?_text (negative : Bool) {whole ds : List Char} (exponent : Option Int)
    (wholeDigits : ∀ c ∈ whole, c.isDigit = true) (decimalDigits : ∀ c ∈ ds, c.isDigit = true) :
    readPointed? negative whole (ds ++ exponent.elim [] exponentText) =
      some (.ofParts negative whole ds (exponent.getD 0)) := by
  have parts : ∀ c ∈ ds, isDecimalPart c = true := fun c member => by
    rw [isDecimalPart, decimalDigits c member]
    rfl
  have mark : isDecimalPart 'e' = false := by decide
  rw [readPointed?, List.takeWhile_append_of_pos parts, List.dropWhile_append_of_pos parts,
    withoutUnderscores_digits wholeDigits]
  cases exponent with
  | none => simp [withoutUnderscores_digits decimalDigits, readExponent?]
  | some e =>
    have split : (exponentText e).takeWhile isDecimalPart = [] ∧
        (exponentText e).dropWhile isDecimalPart = exponentText e := by
      simp [exponentText, mark]
    simp [split, withoutUnderscores_digits decimalDigits, readExponent?_exponentText]

/-- A decimal with a point is read as the double that its parts make. -/
theorem readDouble?_text (negative : Bool) {p : DecimalParts} (isDecimal : p.IsDecimal)
    (pointed : p.decimals.isSome) :
    readDouble? (signed negative p.text) = some (p.value negative) := by
  obtain ⟨whole, decimals, exponent⟩ := p
  obtain ⟨ds, rfl⟩ := Option.isSome_iff_exists.mp pointed
  obtain ⟨c, more, rfl⟩ := List.exists_cons_of_ne_nil isDecimal.whole_nonempty
  have digit : c.isDigit = true := isDecimal.whole_digits c List.mem_cons_self
  have text : (DecimalParts.mk (c :: more) (some ds) exponent).text =
      c :: (more ++ '.' :: (ds ++ exponent.elim [] exponentText)) := by
    simp [DecimalParts.text]
  generalize rest : ds ++ exponent.elim [] exponentText = tail at text
  have split : (c :: (more ++ '.' :: tail)).takeWhile (· != '.') = c :: more ∧
      (c :: (more ++ '.' :: tail)).dropWhile (· != '.') = '.' :: tail :=
    takeWhile_ne_point isDecimal.whole_digits
  have read := readPointed?_text negative exponent isDecimal.whole_digits
    (isDecimal.decimals_digits ds rfl)
  rw [rest] at read
  have noInfinity : [".inf", ".Inf", ".INF"].contains
      (String.ofList (c :: (more ++ '.' :: tail))) = false :=
    contains_number (by decide) false digit _
  have noNan : [".nan", ".NaN", ".NAN"].contains
      (String.ofList (signed negative (c :: (more ++ '.' :: tail)))) = false :=
    contains_number (by decide) negative digit _
  rw [text, readDouble?, splitSign_signed negative digit]
  dsimp only
  rw [noInfinity, noNan, split.1, split.2, splitAtColon_digits isDecimal.whole_digits]
  simp [isGrouped_digits isDecimal.whole_nonempty isDecimal.whole_digits, read,
    DecimalParts.value]

theorem readDouble?_digits (negative : Bool) {ds : List Char} (nonempty : ds ≠ [])
    (digits : ∀ c ∈ ds, c.isDigit = true) : readDouble? (signed negative ds) = none := by
  obtain ⟨c, more, rfl⟩ := List.exists_cons_of_ne_nil nonempty
  have digit : c.isDigit = true := digits c List.mem_cons_self
  have noPoint : (c :: more).dropWhile (· != '.') = [] := by
    rw [List.dropWhile_eq_nil_iff]
    exact fun d member => bne_iff_ne.mpr (ne_of_isDigit (digits d member) rfl)
  have noInfinity : [".inf", ".Inf", ".INF"].contains (String.ofList (c :: more)) = false :=
    contains_number (by decide) false digit _
  have noNan : [".nan", ".NaN", ".NAN"].contains
      (String.ofList (signed negative (c :: more))) = false :=
    contains_number (by decide) negative digit _
  rw [readDouble?, splitSign_signed negative digit]
  dsimp only
  rw [noInfinity, noNan, noPoint]
  rfl

/-- The digits of a number are read as it, with its sign. -/
theorem readInt?_natText (negative : Bool) (n : Nat) : readInt? (signed negative (natText n)) =
    some (.scalar (.int (if negative then -(n : Int) else n))) := by
  rcases Nat.eq_zero_or_pos n with rfl | positive
  · cases negative <;> rfl
  · have digits : ∀ c ∈ natText n, c.isDigit = true := fun _ => isDigit_of_mem_natText
    have value := natOfDigits_natText n
    have head : (natText n).head? ≠ some '0' := head?_toDigits_ne_zero positive
    have nonempty : natText n ≠ [] := Nat.toDigits_ne_nil
    generalize natText n = ds at digits value head nonempty
    obtain ⟨c, more, rfl⟩ := List.exists_cons_of_ne_nil nonempty
    have digit : c.isDigit = true := digits c List.mem_cons_self
    have noZero : c ≠ '0' := by simpa using head
    have nonZero : isNonZeroDigit c = true := by
      have apart : c.toNat ≠ 48 := fun same => noZero (Char.toNat_inj.mp same)
      simp only [Char.isDigit, Bool.and_eq_true, decide_eq_true_eq, UInt32.le_iff_toNat_le] at digit
      simp only [isNonZeroDigit, Bool.and_eq_true, decide_eq_true_eq, Char.le_def,
        UInt32.le_iff_toNat_le]
      change 48 ≤ c.toNat ∧ c.toNat ≤ 57 at digit
      change 49 ≤ c.toNat ∧ c.toNat ≤ 57
      omega
    rw [readInt?, splitSign_signed negative digit]
    dsimp only
    -- Zero and the forms to other bases start with the digit zero.
    split
    · simp_all
    · simp_all
    · simp_all
    · simp_all
    · rw [splitAtColon_digits digits]
      simp [nonZero, isGrouped_digits nonempty digits, withoutUnderscores_digits digits, value]

/-- A number is no word, so it is a double or else a whole number. -/
theorem readPlain?_signed (negative : Bool) {c : Char} (digit : c.isDigit = true)
    (cs : List Char) :
    (∀ x, readDouble? (signed negative (c :: cs)) = some x →
      readPlain? (signed negative (c :: cs)) = some (.scalar (.float x))) ∧
    (∀ n, readDouble? (signed negative (c :: cs)) = none →
      readInt? (signed negative (c :: cs)) = some n →
        readPlain? (signed negative (c :: cs)) = some n) := by
  have noNumber : holdsNoNumber nullWords = true ∧ holdsNoNumber trueWords = true ∧
      holdsNoNumber falseWords = true ∧ holdsNoNumber ["<<", "="] = true := by decide
  obtain ⟨noNull, noTrue, noFalse, noMark⟩ := noNumber
  have noNull := contains_number noNull negative digit cs
  have noTrue := contains_number noTrue negative digit cs
  have noFalse := contains_number noFalse negative digit cs
  have marks := contains_number noMark negative digit cs
  simp only [List.contains_cons, List.contains_nil, Bool.or_false, Bool.or_eq_false_iff] at marks
  -- Past the words, only the double and the whole number are tried in turn.
  constructor
  · intro x double
    simp only [readPlain?, noNull, noTrue, noFalse, marks, Bool.false_eq_true, if_false, double]
  · intro n noDouble whole
    simp only [readPlain?, noNull, noTrue, noFalse, marks, Bool.false_eq_true, if_false, noDouble,
      whole]

/-- What is written for a plain scalar other than a text means that scalar. -/
theorem readPlain?_scalarChars {s : Scalar} (isPlain : s.IsPlain) (noText : ∀ t, s ≠ .text t)
    (indent : Nat) : readPlain? (scalarChars indent s) = some (.scalar s) := by
  cases s with
  | null => rfl
  | bool b => cases b <;> rfl
  | int i =>
    have digits : ∀ c ∈ natText i.natAbs, c.isDigit = true := fun _ => isDigit_of_mem_natText
    have nonempty : natText i.natAbs ≠ [] := Nat.toDigits_ne_nil
    have noDouble := readDouble?_digits (decide (i < 0)) nonempty digits
    have whole := readInt?_natText (decide (i < 0)) i.natAbs
    have value : (if decide (i < 0) then -(i.natAbs : Int) else i.natAbs) = i := by
      simp only [decide_eq_true_eq]
      split <;> omega
    obtain ⟨c, more, eq⟩ := List.exists_cons_of_ne_nil nonempty
    have digit : c.isDigit = true := digits c (eq ▸ List.mem_cons_self)
    rw [value] at whole
    rw [eq] at noDouble whole
    rw [scalarChars, intText_eq, eq]
    exact (readPlain?_signed _ digit more).2 _ noDouble whole
  | float x =>
    obtain ⟨negative, rank, rfl⟩ := isPlain
    obtain ⟨p, text, isDecimal, value, -, pointed⟩ := rankText_parts .yaml rank
    have read := readDouble?_text negative isDecimal (pointed rfl)
    obtain ⟨c, more, eq, digit⟩ := p.exists_digit isDecimal
    rw [value, eq] at read
    rw [scalarChars, Double.text, text, eq]
    exact (readPlain?_signed negative digit more).1 _ read
  | text t => exact absurd rfl (noText t)
  | date d => cases isPlain
  | instant t => cases isPlain

end GatewayFlow.Yaml
