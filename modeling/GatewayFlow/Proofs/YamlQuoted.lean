import GatewayFlow.Proofs.JsonRoundTrip
import GatewayFlow.Proofs.YamlCharacters

/-!
# Reading quoted scalars

A text between quotes is read as it was written, but for one character: between single quotes
U+0085 ends a line and stands for itself no more. Blanks and line ends are carried along as spacing
until the next character shows what they are.
-/
namespace GatewayFlow.Yaml

/-! ### Steps -/

theorem isLineEnd_of_isBreak {c : Char} (breaks : isBreak c = true) : isLineEnd c = true := by
  rw [isLineEnd, breaks, Bool.or_true]

theorem isTabOrSpace_of_isBreak {c : Char} (breaks : isBreak c = true) :
    isTabOrSpace c = false := by
  simp only [isBreak, Bool.or_eq_true, beq_iff_eq] at breaks
  rcases breaks with ((rfl | rfl) | rfl) | rfl <;> decide

/-- What is neither special nor a break nor a blank separates nothing. -/
theorem visible_of_isSpecial {c : Char} (ordinary : isSpecial c = false)
    (noBreak : isBreak c = false) (noBlank : c ≠ ' ') :
    isTabOrSpace c = false ∧ isLineEnd c = false := by
  have apart : c ≠ '\t' ∧ c ≠ '\r' :=
    ⟨ne_of_isSpecial ordinary (by decide), ne_of_isSpecial ordinary (by decide)⟩
  simp [isTabOrSpace, isLineEnd, noBreak, noBlank, apart]

section Steps

variable {double : Bool} {spacing : Spacing}

/-- Within a line, a character that is neither blank nor line end nor quote is the next one. -/
theorem readQuoted_char {c : Char} (visible : isTabOrSpace c = false ∧ isLineEnd c = false)
    (inLine : spacing.startsLine = false) (noQuote : c ≠ if double then '"' else '\'')
    (noEscape : double = true → c ≠ '\\') (cs : List Char) :
    readQuoted double spacing (c :: cs) =
      (readQuoted double .nothing cs).map fun out => (spacing.text ++ c :: out.1, out.2) := by
  have noReturn : c ≠ '\r' := by
    rintro rfl
    exact absurd visible.2 (by decide)
  have escape : (double && c == '\\') = false := by
    cases double <;> simp_all
  rw [readQuoted.eq_def]
  simp [visible, noReturn, inLine, noQuote, escape]

theorem readQuoted_blank (cs : List Char) :
    readQuoted double spacing (' ' :: cs) = readQuoted double (spacing.addBlank ' ') cs := by
  rw [readQuoted.eq_def]
  simp [isTabOrSpace]

theorem readQuoted_break {c : Char} (breaks : isBreak c = true) (cs : List Char) :
    readQuoted double spacing (c :: cs) = readQuoted double (spacing.addLineEnd c) cs := by
  have noReturn : c ≠ '\r' := by
    rintro rfl
    exact absurd breaks (by decide)
  rw [readQuoted.eq_def]
  simp [noReturn, isTabOrSpace_of_isBreak breaks, isLineEnd_of_isBreak breaks]

/-- A single quote that is written twice. -/
theorem readQuoted_twice (inLine : spacing.startsLine = false) (cs : List Char) :
    readQuoted false spacing ('\'' :: '\'' :: cs) =
      (readQuoted false .nothing cs).map fun out => (spacing.text ++ '\'' :: out.1, out.2) := by
  rw [readQuoted.eq_def]
  simp [inLine, isTabOrSpace, isLineEnd, isBreak]

theorem readQuoted_close (inLine : spacing.startsLine = false) (cs : List Char)
    (once : double = false → cs.head? ≠ some '\'') :
    readQuoted double spacing ((if double then '"' else '\'') :: cs) = some (spacing.text, cs) := by
  rw [readQuoted.eq_def]
  cases double with
  | true => simp [inLine, isTabOrSpace, isLineEnd, isBreak]
  | false =>
    simp only [inLine, isTabOrSpace, isLineEnd, isBreak]
    cases cs with
    | nil => simp
    | cons c cs =>
      have apart : c ≠ '\'' := by simpa using once
      simp [apart]

end Steps

/-! ### Single quotes -/

/-- Blanks at the start of a line are counted and mean nothing else. -/
theorem readQuoted_indent (first : Option Char) (more : List Char) (n column : Nat)
    (cs : List Char) :
    readQuoted false (.lines first more column) (List.replicate n ' ' ++ cs) =
      readQuoted false (.lines first more (column + n)) cs := by
  induction n generalizing column with
  | zero => rfl
  | succ n ih =>
    rw [List.replicate_succ, List.cons_append, readQuoted_blank]
    exact (ih (column + 1)).trans (by rw [Nat.add_right_comm, Nat.add_assoc])

/-- What is read between single quotes for a text, behind spacing: a run of breaks is folded, as the
spacing between two words is. -/
def foldedFrom (spacing : Spacing) : List Char → List Char
  | [] => spacing.text
  | c :: cs =>
    if isBreak c then foldedFrom (spacing.addLineEnd c) cs
    else if c = ' ' then foldedFrom (spacing.addBlank ' ') cs
    else spacing.text ++ c :: foldedFrom .nothing cs

section Folding

variable {spacing : Spacing} {c : Char}

theorem foldedFrom_break (breaks : isBreak c = true) (cs : List Char) :
    foldedFrom spacing (c :: cs) = foldedFrom (spacing.addLineEnd c) cs := by
  rw [foldedFrom, if_pos breaks]

theorem foldedFrom_blank (cs : List Char) :
    foldedFrom spacing (' ' :: cs) = foldedFrom (spacing.addBlank ' ') cs := by
  rw [foldedFrom, if_neg (by decide), if_pos rfl]

theorem foldedFrom_char (noBreak : isBreak c = false) (noBlank : c ≠ ' ') (cs : List Char) :
    foldedFrom spacing (c :: cs) = spacing.text ++ c :: foldedFrom (.blanks []) cs := by
  rw [foldedFrom, if_neg (by simp [noBreak]), if_neg noBlank]
  rfl

end Folding

/-- Blanks behind a line end mean nothing. -/
theorem Spacing.text_lines (first : Option Char) (more : List Char) (column : Nat) :
    (Spacing.lines first more column).text = (Spacing.lines first more 0).text := by
  cases first with
  | none => rfl
  | some c =>
    by_cases newline : c = '\n'
    · subst newline
      cases more <;> rfl
    · simp [Spacing.text, newline]

theorem hasPair_cons (p : Char → Char → Bool) (c d : Char) (cs : List Char) :
    hasPair p (c :: d :: cs) = (p c d || hasPair p (d :: cs)) := rfl

theorem hasPair_tail {p : Char → Char → Bool} {c : Char} {cs : List Char}
    (none : hasPair p (c :: cs) = false) :
    (∀ d ∈ cs.head?, p c d = false) ∧ hasPair p cs = false := by
  cases cs with
  | nil => exact ⟨by simp, rfl⟩
  | cons d cs =>
    rw [hasPair_cons, Bool.or_eq_false_iff] at none
    exact ⟨by simpa using none.1, none.2⟩

/-- No break is followed by a blank. -/
abbrev NoBlankAfterBreak (cs : List Char) : Prop :=
  hasPair (fun c d => isBreak c && d == ' ') cs = false

theorem head?_of_break {c : Char} {cs : List Char} (breaks : isBreak c = true)
    (noBlank : NoBlankAfterBreak (c :: cs)) : cs.head? ≠ some ' ' := by
  intro blank
  simpa [breaks] using (hasPair_tail noBlank).1 ' ' blank

theorem readQuoted_next {spacing : Spacing} {c : Char} (ordinary : isSpecial c = false)
    (noBreak : isBreak c = false) (noBlank : c ≠ ' ') (inLine : spacing.startsLine = false)
    (tail : List Char) :
    readQuoted false spacing ((if c = '\'' then ['\'', '\''] else [c]) ++ tail) =
      (readQuoted false .nothing tail).map fun out => (spacing.text ++ c :: out.1, out.2) := by
  split
  · next quote => exact quote ▸ readQuoted_twice inLine tail
  · next apart =>
    exact readQuoted_char (visible_of_isSpecial ordinary noBreak noBlank) inLine (by simpa)
      (fun isDouble => absurd isDouble Bool.false_ne_true) tail

/-- What is written between single quotes is read, folded, up to the closing one, behind blanks of
the same line or behind breaks, when the lines after a break are indented. -/
theorem readQuoted_single {n : Nat} (positive : 0 < n) {cs rest : List Char}
    (ordinary : ∀ c ∈ cs, isSpecial c = false) (oneLine : '\n' ∉ cs)
    (noBlank : NoBlankAfterBreak cs) (closed : rest.head? ≠ some '\'') :
    (∀ blanks, readQuoted false (.blanks blanks) (singleQuotedChars n false cs ++ '\'' :: rest) =
      some (foldedFrom (.blanks blanks) cs, rest)) ∧
    (∀ first more, cs.head? ≠ some ' ' →
      readQuoted false (.lines first more 0) (singleQuotedChars n true cs ++ '\'' :: rest) =
        some (foldedFrom (.lines first more 0) cs, rest)) := by
  have inLine (first : Option Char) (more : List Char) :
      (Spacing.lines first more (0 + n)).startsLine = false := by
    simp [Spacing.startsLine]
    omega
  have close {spacing : Spacing} (inLine : spacing.startsLine = false) :
      readQuoted false spacing ('\'' :: rest) = some (spacing.text, rest) :=
    readQuoted_close inLine rest fun _ => closed
  -- By induction on the text, within a line and behind breaks at once. Behind breaks the writer
  -- indents the next character or quote, and the reader skips the blanks there.
  induction cs with
  | nil =>
    refine ⟨fun blanks => ?_, fun first more _ => ?_⟩
    · rw [singleQuotedChars, if_neg Bool.false_ne_true, List.nil_append, close rfl]
      rfl
    · rw [singleQuotedChars, if_pos rfl, readQuoted_indent, close (inLine first more),
        Spacing.text_lines]
      rfl
  | cons c cs ih =>
    obtain ⟨ordinary, ordinaries⟩ := List.forall_mem_cons.mp ordinary
    rw [List.mem_cons, not_or] at oneLine
    obtain ⟨ih, ihBreak⟩ := ih ordinaries oneLine.2 (hasPair_tail noBlank).2
    cases breaks : isBreak c with
    | true =>
      have noNewline : (c == '\n') = false := beq_false_of_ne (Ne.symm oneLine.1)
      have written (inBreaks : Bool) :
          singleQuotedChars n inBreaks (c :: cs) = c :: singleQuotedChars n true cs := by
        simp [singleQuotedChars, breaks, noNewline]
      have next := head?_of_break breaks noBlank
      refine ⟨fun blanks => ?_, fun first more _ => ?_⟩ <;>
        rw [written, List.cons_append, readQuoted_break breaks, foldedFrom_break breaks]
      · exact ihBreak _ [] next
      · exact ihBreak first _ next
    | false =>
      refine ⟨fun blanks => ?_, fun first more visible => ?_⟩
      · rw [singleQuotedChars, if_neg (by simp [breaks])]
        by_cases blank : c = ' '
        · subst blank
          rw [foldedFrom_blank]
          simpa [readQuoted_blank, Spacing.addBlank] using ih (blanks ++ [' '])
        · rw [if_neg Bool.false_ne_true, List.nil_append, List.append_assoc,
            readQuoted_next ordinary breaks blank rfl, foldedFrom_char breaks blank]
          rw [show Spacing.nothing = .blanks [] from rfl, ih []]
          rfl
      · have visible : c ≠ ' ' := by simpa using visible
        rw [singleQuotedChars, if_neg (by simp [breaks]), if_pos rfl, List.append_assoc,
          List.append_assoc, readQuoted_indent, readQuoted_next ordinary breaks visible
          (inLine first more), show Spacing.nothing = .blanks [] from rfl, ih [],
          Spacing.text_lines, foldedFrom_char breaks visible]
        rfl

/-! ### Folding -/

/-- The characters that spacing holds. -/
def Spacing.chars : Spacing → List Char
  | .blanks cs => cs
  | .lines first more _ => first.toList ++ more

theorem Spacing.mem_of_mem_text {spacing : Spacing} {c : Char} (member : c ∈ spacing.text) :
    c ∈ spacing.chars ∨ c = ' ' := by
  unfold Spacing.text at member
  split at member <;> simp_all [Spacing.chars]

theorem lineEndText_ne (c : Char) : lineEndText c ≠ '\x85' := by
  unfold lineEndText
  split
  · next kept =>
    rintro rfl
    exact absurd kept (by decide)
  · decide

/-- Folding leaves no U+0085. -/
theorem not_mem_foldedFrom {spacing : Spacing} (before : '\x85' ∉ spacing.chars)
    (cs : List Char) : '\x85' ∉ foldedFrom spacing cs := by
  have text {spacing : Spacing} (before : '\x85' ∉ spacing.chars) : '\x85' ∉ spacing.text :=
    fun member => (Spacing.mem_of_mem_text member).elim before (by decide)
  -- U+0085 is a line end and enters the spacing as a newline; no other character becomes it.
  induction cs generalizing spacing with
  | nil => exact text before
  | cons c cs ih =>
    cases breaks : isBreak c with
    | true =>
      rw [foldedFrom_break breaks]
      refine ih ?_
      have apart := (lineEndText_ne c).symm
      cases spacing <;> simp_all [Spacing.addLineEnd, Spacing.chars]
    | false =>
      by_cases blank : c = ' '
      · subst blank
        rw [foldedFrom_blank]
        refine ih ?_
        cases spacing <;> simp_all [Spacing.addBlank, Spacing.chars]
      · have apart : '\x85' ≠ c := by
          rintro rfl
          exact absurd breaks (by decide)
        rw [foldedFrom_char breaks blank, List.mem_append, List.mem_cons, not_or, not_or]
        exact ⟨text before, apart, ih (by simp [Spacing.chars])⟩

/-- Without U+0085 and without blanks beside breaks a text is read as itself: the two other breaks
stand for themselves. -/
theorem foldedFrom_eq_self {cs : List Char} (kept : '\x85' ∉ cs) (oneLine : '\n' ∉ cs)
    (noBlankBefore : hasPair (fun c d => c == ' ' && isBreak d) cs = false)
    (noBlankAfter : NoBlankAfterBreak cs) :
    (∀ blanks, (blanks ≠ [] → ∀ c ∈ cs.head?, isBreak c = false) →
      foldedFrom (.blanks blanks) cs = blanks ++ cs) ∧
    (∀ b more, b = '\u2028' ∨ b = '\u2029' → cs.head? ≠ some ' ' →
      foldedFrom (.lines (some b) more 0) cs = b :: more ++ cs) := by
  have text (b : Char) (more : List Char) (isKept : b = '\u2028' ∨ b = '\u2029') :
      (Spacing.lines (some b) more 0).text = b :: more := by
    rcases isKept with rfl | rfl <;> rfl
  -- By induction on the text, with blanks or with a run of breaks in front of it. Blanks in front
  -- of a break would be dropped, as would those behind it, and there are none.
  induction cs with
  | nil =>
    refine ⟨fun blanks _ => by rw [List.append_nil]; rfl, fun b more isKept _ => ?_⟩
    rw [foldedFrom, text b more isKept, List.append_nil]
  | cons c cs ih =>
    rw [List.mem_cons, not_or] at kept oneLine
    obtain ⟨before, noBlankBefore⟩ := hasPair_tail noBlankBefore
    obtain ⟨ih, ihBreak⟩ := ih kept.2 oneLine.2 noBlankBefore (hasPair_tail noBlankAfter).2
    cases breaks : isBreak c with
    | true =>
      have isKept : c = '\u2028' ∨ c = '\u2029' := by
        simp only [isBreak, Bool.or_eq_true, beq_iff_eq] at breaks
        rcases breaks with ((rfl | rfl) | rfl) | rfl
        · exact absurd rfl oneLine.1
        · exact absurd rfl kept.1
        · exact .inl rfl
        · exact .inr rfl
      have same : lineEndText c = c := by
        rcases isKept with rfl | rfl <;> rfl
      have next := head?_of_break breaks noBlankAfter
      refine ⟨fun blanks free => ?_, fun b more isKeptBefore _ => ?_⟩ <;>
        rw [foldedFrom_break breaks, Spacing.addLineEnd, same]
      · have empty : blanks = [] := by
          by_contra some
          exact absurd breaks (by simp [free some c rfl])
        rw [ihBreak c [] isKept next, empty]
        rfl
      · rw [ihBreak b (more ++ [c]) isKeptBefore next]
        simp
    | false =>
      refine ⟨fun blanks _ => ?_, fun b more isKept visible => ?_⟩
      · by_cases blank : c = ' '
        · subst blank
          have free : ∀ d ∈ cs.head?, isBreak d = false := by simpa using before
          rw [foldedFrom_blank, Spacing.addBlank, ih (blanks ++ [' ']) fun _ => free]
          simp
        · rw [foldedFrom_char breaks blank, ih [] (by simp)]
          rfl
      · rw [foldedFrom_char breaks (by simpa using visible), ih [] (by simp), text b more isKept]
        simp

/-! ### Double quotes -/

theorem readEscape?_short {c letter : Char} (short : shortEscape? c = some letter)
    (cs : List Char) : readEscape? (letter :: cs) = some (some c, cs) := by
  unfold shortEscape? at short
  split at short <;> cases short <;> rename_i number
  all_goals
    rw [← Char.ofNat_toNat c, number]
    rfl

theorem charOfHex?_hexCapitals (width : Nat) (c : Char) :
    charOfHex? (hexCapitals width c.toNat) = some c := by
  have digits : ∀ d ∈ Text.hexPadded width c.toNat,
      isHexDigit d.toUpper = true ∧ digitValue d.toUpper = digitValue d := by
    intro d member
    obtain ⟨k, small, rfl⟩ := Text.hexPadded_digits member
    exact (by decide : ∀ k < 16, isHexDigit k.digitChar.toUpper = true ∧
      digitValue k.digitChar.toUpper = digitValue k.digitChar) k small
  have hex : (hexCapitals width c.toNat).all isHexDigit = true := by
    rw [hexCapitals, List.all_map, List.all_eq_true]
    exact fun d member => (digits d member).1
  have value : natOfDigits 16 (hexCapitals width c.toNat) = c.toNat := by
    rw [hexCapitals, natOfDigits_map _ _ _ fun d member => (digits d member).2,
      Text.natOfDigits_hexPadded]
  have valid := Json.toNat_valid c
  have below : c.toNat < 0x110000 := by omega
  simp [charOfHex?, hex, value, Json.charOfUnit_toNat, below]

theorem length_hexCapitals {width n : Nat} (positive : 0 < width) (fits : n < 16 ^ width) :
    (hexCapitals width n).length = width := by
  rw [hexCapitals, List.length_map, Text.length_hexPadded positive fits]

/-- A character in hexadecimal digits, two, four or eight of them by its size. -/
theorem readEscape?_hex (c : Char) (cs : List Char) :
    (c.toNat ≤ 0xFF → readEscape? ('x' :: (hexCapitals 2 c.toNat ++ cs)) = some (some c, cs)) ∧
    (c.toNat ≤ 0xFFFF → readEscape? ('u' :: (hexCapitals 4 c.toNat ++ cs)) = some (some c, cs)) ∧
    readEscape? ('U' :: (hexCapitals 8 c.toNat ++ cs)) = some (some c, cs) := by
  have meaning (width : Nat) := charOfHex?_hexCapitals width c
  have valid := Json.toNat_valid c
  -- As many digits as the letter announces are matched one by one.
  refine ⟨fun small => ?_, fun small => ?_, ?_⟩
  · have length := length_hexCapitals (show 0 < 2 by decide) (show c.toNat < 16 ^ 2 by omega)
    have meaning := meaning 2
    generalize hexCapitals 2 c.toNat = digits at length meaning ⊢
    match digits, length with
    | [a, b], _ => simp [readEscape?, meaning]
  · have length := length_hexCapitals (show 0 < 4 by decide) (show c.toNat < 16 ^ 4 by omega)
    have meaning := meaning 4
    generalize hexCapitals 4 c.toNat = digits at length meaning ⊢
    match digits, length with
    | [a, b, c, d], _ => simp [readEscape?, meaning]
  · have length := length_hexCapitals (show 0 < 8 by decide) (show c.toNat < 16 ^ 8 by omega)
    have meaning := meaning 8
    generalize hexCapitals 8 c.toNat = digits at length meaning ⊢
    match digits, length with
    | [a, b, c, d, e, f, g, h], _ => simp [readEscape?, meaning]

theorem readQuoted_escape {spacing : Spacing} (inLine : spacing.startsLine = false) {c : Char}
    {cs rest : List Char} (escape : readEscape? cs = some (some c, rest)) :
    readQuoted true spacing ('\\' :: cs) =
      (readQuoted true .nothing rest).map fun out => (spacing.text ++ c :: out.1, out.2) := by
  rw [readQuoted.eq_def]
  simp only [Char.isValue, Char.reduceEq, imp_false, IsEmpty.forall_iff, implies_true,
    isTabOrSpace, Char.reduceBEq, Bool.or_self, Bool.false_eq_true, if_false, if_true, isLineEnd,
    isBreak, inLine, Bool.false_and, BEq.rfl, Bool.and_self]
  split
  · next d more read =>
    cases escape.symm.trans read
    rfl
  · next more read => cases escape.symm.trans read
  · next read => cases escape.symm.trans read

/-- A written character between double quotes is read as itself. -/
theorem readQuoted_doubleQuotedChar {spacing : Spacing} (inLine : spacing.startsLine = false)
    {c : Char} (noBlank : c ≠ ' ') (tail : List Char) :
    readQuoted true spacing (doubleQuotedChar c ++ tail) =
      (readQuoted true .nothing tail).map fun out => (spacing.text ++ c :: out.1, out.2) := by
  unfold doubleQuotedChar
  split
  · next verbatim =>
    obtain ⟨noQuote, noEscape, noBreak, -, range⟩ := (isVerbatim_iff c).mp verbatim
    have visible : isTabOrSpace c = false ∧ isLineEnd c = false := by
      have noTab : c ≠ '\t' := by
        rintro rfl
        exact absurd verbatim (by decide)
      have noReturn : c ≠ '\r' := by
        rintro rfl
        exact absurd verbatim (by decide)
      simp [isTabOrSpace, isLineEnd, noBreak, noBlank, noTab, noReturn]
    exact readQuoted_char visible inLine (by simpa) (fun _ => noEscape) tail
  · split
    · next letter short => exact readQuoted_escape inLine (readEscape?_short short tail)
    · obtain ⟨two, four, eight⟩ := readEscape?_hex c tail
      dsimp only
      split_ifs with small medium
      · exact readQuoted_escape inLine (two small)
      · exact readQuoted_escape inLine (four medium)
      · exact readQuoted_escape inLine eight

/-- What is written between double quotes is read up to the closing one. -/
theorem readQuoted_double (cs rest : List Char) (blanks : List Char) :
    readQuoted true (.blanks blanks) (cs.flatMap doubleQuotedChar ++ '"' :: rest) =
      some (blanks ++ cs, rest) := by
  induction cs generalizing blanks with
  | nil =>
    have close : readQuoted true (.blanks blanks) ('"' :: rest) = _ :=
      readQuoted_close rfl rest fun single => absurd single.symm Bool.false_ne_true
    rw [List.flatMap_nil, List.nil_append, close, List.append_nil]
    rfl
  | cons c cs ih =>
    rw [List.flatMap_cons, List.append_assoc]
    by_cases blank : c = ' '
    · -- A blank is spacing until the next character or the closing quote.
      subst blank
      have step := ih (blanks ++ [' '])
      rw [List.append_assoc] at step
      exact (readQuoted_blank _).trans step
    · rw [readQuoted_doubleQuotedChar rfl blank, show Spacing.nothing = .blanks [] from rfl, ih []]
      rfl

/-! ### Texts read back -/

/-- What a written text is read back as: it is folded between single quotes. -/
def rereadText (t : String) : String :=
  if styleOf t.toList = .single then String.ofList (foldedFrom .nothing t.toList) else t

/-- Between single quotes stands no U+0085, which would be folded. -/
def Unfolded : Scalar → Prop
  | .text t => styleOf t.toList = .single → '\x85' ∉ t.toList
  | _ => True

instance : DecidablePred Unfolded
  | .text _ => inferInstanceAs (Decidable (_ → _))
  | .null | .bool _ | .int _ | .float _ | .date _ | .instant _ => .isTrue trivial

theorem newline_not_mem {t : String} (clean : Sanitize.IsClean (.text t)) : '\n' ∉ t.toList :=
  fun member => absurd (clean _ member) (by decide)

/-- Where nothing is folded, and only there, a text is read back as itself. -/
theorem rereadText_eq_self_iff {t : String} (clean : Sanitize.IsClean (.text t)) :
    rereadText t = t ↔ Unfolded (.text t) := by
  by_cases style : styleOf t.toList = .single
  · have absent : '\x85' ∉ foldedFrom .nothing t.toList :=
      not_mem_foldedFrom (by simp [Spacing.nothing, Spacing.chars]) t.toList
    have fits := styleOf_single style
    simp only [fitsSingle, Bool.and_eq_true, Bool.not_eq_true'] at fits
    rw [rereadText, if_pos style]
    constructor
    · intro same _
      rwa [← same, String.toList_ofList]
    · intro unfolded
      have self := (foldedFrom_eq_self (unfolded style) (newline_not_mem clean) fits.1.2 fits.2).1
        [] (by simp)
      rw [show Spacing.nothing = .blanks [] from rfl, self, List.nil_append, String.ofList_toList]
  · rw [rereadText, if_neg style]
    exact iff_of_true rfl fun single => absurd single style

/-- What is read back is read back as itself. -/
theorem unfolded_rereadText (t : String) : Unfolded (.text (rereadText t)) := by
  rw [rereadText]
  split
  · intro _
    rw [String.toList_ofList]
    exact not_mem_foldedFrom (by simp [Spacing.nothing, Spacing.chars]) t.toList
  · next other => exact fun single => absurd single other

end GatewayFlow.Yaml
