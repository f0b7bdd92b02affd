import GatewayFlow.Proofs.RenderedData
import GatewayFlow.Proofs.WrittenNumbers
import GatewayFlow.Yaml.Layout
import GatewayFlow.Yaml.Writer

/-!
# The characters of written scalars

A scalar without quotes that is no text is a word. A text without control characters is written with
characters that may stand in a YAML text, none of them the newline: only the breaks that it holds
itself, which are other characters, break its line.
-/
namespace GatewayFlow.Yaml

/-! ### Words -/

/-- Letters, digits and the marks of numbers. -/
def isWordChar (c : Char) : Bool :=
  c.isAlphanum || c == '-' || c == '+' || c == '.'

/-- Characters of words, the first of which is a letter or a digit, or such a one behind a minus. -/
structure IsWord (cs : List Char) : Prop where
  chars : ∀ c ∈ cs, isWordChar c = true
  start : ∃ (negative : Bool) (c : Char) (rest : List Char),
    cs = (if negative then ['-'] else []) ++ c :: rest ∧ c.isAlphanum = true

theorem isAlphanum_of_isDigit {c : Char} (digit : c.isDigit = true) : c.isAlphanum = true := by
  rw [Char.isAlphanum, digit, Bool.or_true]

theorem isWordChar_of_isDigit {c : Char} (digit : c.isDigit = true) : isWordChar c = true := by
  rw [isWordChar, isAlphanum_of_isDigit digit]
  rfl

theorem isWordChar_exponentText (e : Int) : ∀ c ∈ exponentText e, isWordChar c = true := by
  have digits : ∀ c ∈ padLeft 2 (natText e.natAbs), isWordChar c = true := fun c member =>
    isWordChar_of_isDigit (padLeft_digits (fun _ => isDigit_of_mem_natText) c member)
  rw [exponentText]
  refine List.forall_mem_cons.mpr ⟨rfl, List.forall_mem_cons.mpr ⟨?_, digits⟩⟩
  split <;> rfl

/-- A decimal is a word, behind a minus or not. -/
theorem isWord_decimal (negative : Bool) {p : DecimalParts} (isDecimal : p.IsDecimal) :
    IsWord ((if negative then ['-'] else []) ++ p.text) := by
  have whole : ∀ c ∈ p.whole, isWordChar c = true := fun c member =>
    isWordChar_of_isDigit (isDecimal.whole_digits c member)
  have decimals : ∀ c ∈ p.decimals.elim [] fun ds => '.' :: ds, isWordChar c = true := by
    cases given : p.decimals with
    | none => simp
    | some ds =>
      exact List.forall_mem_cons.mpr ⟨rfl, fun c member =>
        isWordChar_of_isDigit (isDecimal.decimals_digits ds given c member)⟩
  have exponent : ∀ c ∈ p.exponent.elim [] exponentText, isWordChar c = true := by
    cases p.exponent with
    | none => simp
    | some e => exact isWordChar_exponentText e
  refine ⟨List.forall_mem_append.mpr ⟨?_, List.forall_mem_append.mpr
    ⟨List.forall_mem_append.mpr ⟨whole, decimals⟩, exponent⟩⟩, negative, ?_⟩
  · cases negative <;> simp [isWordChar]
  · obtain ⟨c, rest, eq⟩ := List.exists_cons_of_ne_nil isDecimal.whole_nonempty
    refine ⟨c, _, by rw [DecimalParts.text, eq]; rfl, isAlphanum_of_isDigit ?_⟩
    exact isDecimal.whole_digits c (eq ▸ List.mem_cons_self)

theorem isWord_of_letters {cs : List Char} (letters : cs.all Char.isAlphanum = true)
    (nonempty : cs ≠ []) : IsWord cs := by
  rw [List.all_eq_true] at letters
  obtain ⟨c, rest, rfl⟩ := List.exists_cons_of_ne_nil nonempty
  refine ⟨fun c member => ?_, false, c, rest, rfl, letters c List.mem_cons_self⟩
  rw [isWordChar, letters c member]
  rfl

/-- A plain scalar other than a text is written as a word. -/
theorem isWord_scalarChars {s : Scalar} (isPlain : s.IsPlain) (noText : ∀ t, s ≠ .text t)
    (indent : Nat) : IsWord (scalarChars indent s) := by
  cases s with
  | null => exact show IsWord "null".toList from isWord_of_letters (by decide) (by decide)
  | bool b =>
    cases b
    · exact show IsWord "false".toList from isWord_of_letters (by decide) (by decide)
    · exact show IsWord "true".toList from isWord_of_letters (by decide) (by decide)
  | int i =>
    have word := isWord_decimal (decide (i < 0)) (natText_parts i.natAbs)
    have text : (DecimalParts.mk (natText i.natAbs) none none).text = natText i.natAbs := by
      simp [DecimalParts.text]
    rwa [text, ← intText_eq] at word
  | float x =>
    obtain ⟨negative, rank, rfl⟩ := isPlain
    obtain ⟨p, text, isDecimal, -⟩ := rankText_parts .yaml rank
    rw [scalarChars, Double.text, text]
    exact isWord_decimal negative isDecimal
  | text t => exact absurd rfl (noText t)
  | date d => cases isPlain
  | instant t => cases isPlain

/-! ### Characters by their numbers -/

theorem isBreak_iff (c : Char) : isBreak c = true ↔
    c.toNat = 10 ∨ c.toNat = 0x85 ∨ c.toNat = 0x2028 ∨ c.toNat = 0x2029 := by
  simp only [isBreak, Bool.or_eq_true, beq_iff_eq, ← Char.toNat_inj, Char.reduceToNat, or_assoc]

theorem isSpecial_iff (c : Char) : isSpecial c = false ↔
    c.toNat = 10 ∨ (0x20 ≤ c.toNat ∧ c.toNat ≤ 0x7E) ∨
      ((c.toNat = 0x85 ∨ (0xA0 ≤ c.toNat ∧ c.toNat ≤ 0xD7FF) ∨
        (0xE000 ≤ c.toNat ∧ c.toNat ≤ 0xFFFD) ∨ (0x10000 ≤ c.toNat ∧ c.toNat < 0x10FFFF)) ∧
          c.toNat ≠ 0xFEFF) := by
  simp only [isSpecial, isWideChar, Bool.not_eq_false', Bool.or_eq_true, Bool.and_eq_true,
    beq_iff_eq, bne_iff_ne, decide_eq_true_eq, ← Char.toNat_inj, Char.reduceToNat, or_assoc,
    Char.le_def, UInt32.le_iff_toNat_le]
  rfl

theorem isVerbatim_iff (c : Char) : isVerbatim c = true ↔
    c ≠ '"' ∧ c ≠ '\\' ∧ isBreak c = false ∧ c.toNat ≠ 0xFEFF ∧
      ((0x20 ≤ c.toNat ∧ c.toNat ≤ 0x7E) ∨ (0xA0 ≤ c.toNat ∧ c.toNat ≤ 0xD7FF) ∨
        (0xE000 ≤ c.toNat ∧ c.toNat ≤ 0xFFFD)) := by
  simp only [isVerbatim, Bool.and_eq_true, Bool.or_eq_true, bne_iff_ne, Bool.not_eq_true',
    decide_eq_true_eq, Char.le_def, UInt32.le_iff_toNat_le, and_assoc, or_assoc, ne_eq]
  rfl

theorem isReadable_iff (c : Char) : isReadable c = true ↔
    c.toNat = 9 ∨ c.toNat = 10 ∨ c.toNat = 13 ∨ (0x20 ≤ c.toNat ∧ c.toNat ≤ 0x7E) ∨
      c.toNat = 0x85 ∨ (0xA0 ≤ c.toNat ∧ c.toNat ≤ 0xD7FF) ∨
        (0xE000 ≤ c.toNat ∧ c.toNat ≤ 0xFFFD) ∨ 0x10000 ≤ c.toNat := by
  simp only [isReadable, Bool.or_eq_true, Bool.and_eq_true, beq_iff_eq, decide_eq_true_eq,
    or_assoc]

theorem toNat_of_isWordChar {c : Char} (member : isWordChar c = true) :
    c.toNat = 43 ∨ c.toNat = 45 ∨ c.toNat = 46 ∨ (48 ≤ c.toNat ∧ c.toNat ≤ 57) ∨
      (65 ≤ c.toNat ∧ c.toNat ≤ 90) ∨ (97 ≤ c.toNat ∧ c.toNat ≤ 122) := by
  simp only [isWordChar, Char.isAlphanum, Char.isAlpha, Char.isUpper, Char.isLower, Char.isDigit,
    Bool.or_eq_true, Bool.and_eq_true, decide_eq_true_eq, UInt32.le_iff_toNat_le,
    beq_iff_eq] at member
  rcases member with (((letter | digit) | rfl) | rfl) | rfl
  · rcases letter with upper | lower
    · exact .inr (.inr (.inr (.inr (.inl upper))))
    · exact .inr (.inr (.inr (.inr (.inr lower))))
  · exact .inr (.inr (.inr (.inl digit)))
  all_goals decide

theorem ne_of_isSpecial {c d : Char} (ordinary : isSpecial c = false)
    (special : isSpecial d = true) : c ≠ d := by
  rintro rfl
  exact absurd ordinary (by simp [special])

/-! ### Readable characters -/

/-- May stand in a YAML text, on one line of it as far as newlines go. -/
def IsInline (c : Char) : Prop :=
  isReadable c = true ∧ c ≠ '\n'

theorem isInline_of_ascii {c : Char} (low : 0x20 ≤ c.toNat) (high : c.toNat ≤ 0x7E) :
    IsInline c := by
  refine ⟨(isReadable_iff c).mpr (by omega), ?_⟩
  rintro rfl
  exact absurd low (by decide)

theorem isInline_of_isWordChar {c : Char} (member : isWordChar c = true) : IsInline c := by
  have range := toNat_of_isWordChar member
  exact isInline_of_ascii (by omega) (by omega)

/-- A text without control characters holds no newline. -/
theorem isInline_of_isSpecial {c : Char} (ordinary : isSpecial c = false)
    (clean : Sanitize.isControl c = false) : IsInline c := by
  have range := (isSpecial_iff c).mp ordinary
  simp only [Sanitize.isControl, Bool.or_eq_false_iff, decide_eq_false_iff_not,
    beq_eq_false_iff_ne] at clean
  refine ⟨(isReadable_iff c).mpr (by omega), ?_⟩
  rintro rfl
  exact clean.1 (by decide)

theorem isInline_of_isVerbatim {c : Char} (verbatim : isVerbatim c = true) : IsInline c := by
  obtain ⟨-, -, noBreak, -, range⟩ := (isVerbatim_iff c).mp verbatim
  refine ⟨(isReadable_iff c).mpr (by omega), ?_⟩
  rintro rfl
  exact absurd noBreak (by decide)

theorem mem_singleQuotedChars {n : Nat} {inBreaks : Bool} {cs : List Char} {d : Char}
    (member : d ∈ singleQuotedChars n inBreaks cs) : d ∈ cs ∨ d = ' ' ∨ d = '\'' := by
  -- Only blanks behind breaks, second newlines and second quotes are added.
  induction cs generalizing inBreaks with
  | nil =>
    rw [singleQuotedChars] at member
    split at member
    · exact .inr (.inl (List.eq_of_mem_replicate member))
    · cases member
  | cons c cs ih =>
    have later {inBreaks : Bool} (member : d ∈ singleQuotedChars n inBreaks cs) :
        d ∈ c :: cs ∨ d = ' ' ∨ d = '\'' :=
      (ih member).imp_left (List.mem_cons_of_mem c)
    rw [singleQuotedChars] at member
    split at member
    · rcases List.mem_append.mp member with here | there
      · have same : d = c := by
          split at here
          · next newline =>
            simp only [Bool.and_eq_true, beq_iff_eq] at newline
            simpa [newline.2] using here
          · exact List.mem_singleton.mp here
        exact .inl (same ▸ List.mem_cons_self)
      · exact later there
    · rcases List.mem_append.mp member with here | there
      · rcases List.mem_append.mp here with blank | here
        · split at blank
          · exact .inr (.inl (List.eq_of_mem_replicate blank))
          · cases blank
        · split at here
          · exact .inr (.inr (by simpa using here))
          · exact .inl (List.mem_singleton.mp here ▸ List.mem_cons_self)
      · exact later there

theorem shortEscape_isAscii {c letter : Char} (short : shortEscape? c = some letter) :
    0x20 ≤ letter.toNat ∧ letter.toNat ≤ 0x7E := by
  unfold shortEscape? at short
  split at short <;> cases short <;> decide

theorem hexCapitals_isAscii {width n : Nat} {d : Char} (member : d ∈ hexCapitals width n) :
    0x20 ≤ d.toNat ∧ d.toNat ≤ 0x7E := by
  obtain ⟨c, digit, rfl⟩ := List.mem_map.mp member
  obtain ⟨k, small, rfl⟩ := Text.hexPadded_digits digit
  exact (by decide : ∀ k < 16,
    0x20 ≤ k.digitChar.toUpper.toNat ∧ k.digitChar.toUpper.toNat ≤ 0x7E) k small

theorem mem_doubleQuotedChar {c d : Char} (member : d ∈ doubleQuotedChar c) :
    isVerbatim d = true ∨ 0x20 ≤ d.toNat ∧ d.toNat ≤ 0x7E := by
  unfold doubleQuotedChar at member
  split at member
  · next verbatim => exact .inl (List.mem_singleton.mp member ▸ verbatim)
  · refine .inr ?_
    split at member
    · next letter short =>
      rcases List.mem_pair.mp member with rfl | rfl
      · decide
      · exact shortEscape_isAscii short
    · dsimp only at member
      -- The three lengths of an escape differ in the letter and the number of digits.
      have escape {width : Nat} {mark : Char} (range : 0x20 ≤ mark.toNat ∧ mark.toNat ≤ 0x7E)
          (member : d ∈ '\\' :: mark :: hexCapitals width c.toNat) :
          0x20 ≤ d.toNat ∧ d.toNat ≤ 0x7E := by
        rcases List.mem_cons.mp member with rfl | member
        · decide
        · rcases List.mem_cons.mp member with rfl | member
          · exact range
          · exact hexCapitals_isAscii member
      split_ifs at member <;> exact escape (by decide) member

theorem isInline_doubleQuotedChar {c d : Char} (member : d ∈ doubleQuotedChar c) : IsInline d := by
  rcases mem_doubleQuotedChar member with verbatim | ⟨low, high⟩
  · exact isInline_of_isVerbatim verbatim
  · exact isInline_of_ascii low high

theorem styleOf_plain {cs : List Char} (style : styleOf cs = .plain) :
    isPlainText cs = true ∧ fitsPlain cs = true := by
  unfold styleOf at style
  split_ifs at style with fits
  simpa using fits

theorem styleOf_single {cs : List Char} (style : styleOf cs = .single) : fitsSingle cs = true := by
  unfold styleOf at style
  split_ifs at style with _ fits
  exact fits

theorem isSpecial_of_fitsPlain {cs : List Char} (fits : fitsPlain cs = true) {c : Char}
    (member : c ∈ cs) : isSpecial c = false ∧ isBreak c = false := by
  simp only [fitsPlain, Bool.and_eq_true, Bool.not_eq_true', List.any_eq_false] at fits
  exact ⟨Bool.eq_false_iff.mpr (fits.1.1.1.1 c member),
    Bool.eq_false_iff.mpr (fits.1.1.1.2 c member)⟩

theorem isSpecial_of_fitsSingle {cs : List Char} (fits : fitsSingle cs = true) {c : Char}
    (member : c ∈ cs) : isSpecial c = false := by
  simp only [fitsSingle, Bool.and_eq_true, Bool.not_eq_true', List.any_eq_false] at fits
  exact Bool.eq_false_iff.mpr (fits.1.1 c member)

theorem isInline_textChars {cs : List Char} (clean : ∀ c ∈ cs, Sanitize.isControl c = false)
    (indent : Nat) : ∀ c ∈ textChars indent cs, IsInline c := by
  have single : IsInline '\'' := ⟨rfl, by decide⟩
  have double : IsInline '"' := ⟨rfl, by decide⟩
  have blank : IsInline ' ' := ⟨rfl, by decide⟩
  -- In both styles without escapes the text was checked to have no special character.
  cases style : styleOf cs with
  | plain =>
    rw [textChars, style]
    intro c member
    exact isInline_of_isSpecial (isSpecial_of_fitsPlain (styleOf_plain style).2 member).1
      (clean c member)
  | single =>
    rw [textChars, style, List.cons_append]
    refine List.forall_mem_cons.mpr ⟨single, List.forall_mem_append.mpr ⟨?_, by simpa⟩⟩
    intro c member
    rcases mem_singleQuotedChars member with own | rfl | rfl
    · exact isInline_of_isSpecial (isSpecial_of_fitsSingle (styleOf_single style) own)
        (clean c own)
    · exact blank
    · exact single
  | double =>
    rw [textChars, style, List.cons_append]
    refine List.forall_mem_cons.mpr ⟨double, List.forall_mem_append.mpr ⟨?_, by simpa⟩⟩
    intro c member
    obtain ⟨d, -, there⟩ := List.mem_flatMap.mp member
    exact isInline_doubleQuotedChar there

/-- Every character of a written scalar may stand in a YAML text and is no newline. -/
theorem isInline_scalarChars {s : Scalar} (isPlain : s.IsPlain) (clean : Sanitize.IsClean s)
    (indent : Nat) : ∀ c ∈ scalarChars indent s, IsInline c := by
  rcases s.text_or with ⟨t, rfl⟩ | noText
  · exact isInline_textChars clean indent
  · have word := isWord_scalarChars isPlain noText indent
    exact fun c member => isInline_of_isWordChar (word.chars c member)

end GatewayFlow.Yaml
