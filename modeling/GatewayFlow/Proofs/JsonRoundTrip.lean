import GatewayFlow.Json.Reader
import GatewayFlow.Json.Writer
import GatewayFlow.Proofs.RenderedData
import GatewayFlow.Proofs.WrittenNumbers

/-!
# Reading back JSON

What is written for plain data is read as the same data, with its keys in their order. A text is
read character by character; numbers end at whatever follows a value, which is a comma or a line
end; and a value needs no more steps than it has characters.
-/
namespace GatewayFlow.Json

/-! ### Texts -/

theorem readString_char {c : Char} (start rest : List Char) (quote : c ≠ '"') (escape : c ≠ '\\')
    (visible : 0x20 ≤ c.toNat) :
    readString start (c :: rest) =
      (readString start rest).map fun out => (c :: out.1, out.2) := by
  rw [readString]
  · rw [if_neg (by omega)]
  all_goals simp_all

theorem readString_escape {c d : Char} (start rest : List Char) (unit : c ≠ 'u')
    (meaning : simpleEscape? c = some d) :
    readString start ('\\' :: c :: rest) =
      (readString start rest).map fun out => (d :: out.1, out.2) := by
  rw [readString]
  · rw [meaning]
  all_goals simp_all

/-- An escaped code unit is its character when it is no part of a pair; a further character has to
follow. -/
theorem readString_unit {a b c d : Char} (start : List Char) (e : Char) (rest : List Char)
    (hex : [a, b, c, d].all isHexDigit = true)
    (alone : isHighSurrogate (natOfDigits 16 [a, b, c, d]) = false) :
    readString start ('\\' :: 'u' :: a :: b :: c :: d :: e :: rest) =
      (readString start (e :: rest)).map fun out =>
        (charOfUnit (natOfDigits 16 [a, b, c, d]) :: out.1, out.2) := by
  rw [readString, if_pos hex]
  split
  · dsimp only
    rw [alone, if_neg Bool.false_ne_true]
  · rfl

theorem exists_four {cs : List Char} (length : cs.length = 4) :
    ∃ a b c d, cs = [a, b, c, d] := by
  match cs, length with
  | [a, b, c, d], _ => exact ⟨a, b, c, d, rfl⟩

theorem isHexDigit_hexPadded (width n : Nat) : (Text.hexPadded width n).all isHexDigit = true := by
  rw [List.all_eq_true]
  intro c member
  obtain ⟨d, small, rfl⟩ := Text.hexPadded_digits member
  exact (by decide : ∀ d < 16, isHexDigit d.digitChar = true) d small

theorem toNat_valid (c : Char) : c.toNat < 0xD800 ∨ (0xDFFF < c.toNat ∧ c.toNat < 0x110000) :=
  c.valid

/-- No character is half of a pair of code units. -/
theorem isSurrogate_toNat (c : Char) :
    isHighSurrogate c.toNat = false ∧ isLowSurrogate c.toNat = false := by
  have valid := toNat_valid c
  simp only [isHighSurrogate, isLowSurrogate, Bool.and_eq_false_iff, decide_eq_false_iff_not]
  omega

theorem charOfUnit_toNat (c : Char) : charOfUnit c.toNat = c := by
  simp [charOfUnit, isSurrogate_toNat c, Char.ofNat_toNat]

theorem readString_escapedChar (start : List Char) (c e : Char) (rest : List Char) :
    readString start (escapedChar c ++ e :: rest) =
      (readString start (e :: rest)).map fun out => (c :: out.1, out.2) := by
  rw [escapedChar]
  split_ifs with quoted lineEnd back tab eight twelve control
  · rcases quoted with rfl | rfl <;> exact readString_escape _ _ (by decide) rfl
  · exact lineEnd ▸ readString_escape _ _ (by decide) rfl
  · exact back ▸ readString_escape _ _ (by decide) rfl
  · exact tab ▸ readString_escape _ _ (by decide) rfl
  · have eq : c = '\x08' := Char.toNat_inj.mp eight
    exact eq ▸ readString_escape _ _ (by decide) rfl
  · have eq : c = '\x0c' := Char.toNat_inj.mp twelve
    exact eq ▸ readString_escape _ _ (by decide) rfl
  · -- Control characters are written as code units, of which none is half of a pair.
    have value := Text.natOfDigits_hexPadded 4 c.toNat
    have hex := isHexDigit_hexPadded 4 c.toNat
    have four : (Text.hexPadded 4 c.toNat).length = 4 :=
      Text.length_hexPadded (by decide) (by omega)
    obtain ⟨a, b, c', d, digits⟩ := exists_four four
    rw [digits] at value hex ⊢
    have alone : isHighSurrogate (natOfDigits 16 [a, b, c', d]) = false := by
      rw [value]
      exact (isSurrogate_toNat c).1
    have same : charOfUnit (natOfDigits 16 [a, b, c', d]) = c := by
      rw [value, charOfUnit_toNat]
    rw [List.cons_append, List.cons_append, List.cons_append, List.cons_append, List.cons_append,
      List.cons_append, List.nil_append, readString_unit start e rest hex alone, same]
  · rw [not_or] at quoted
    exact readString_char _ _ quoted.1 quoted.2 (by omega)

/-- A written text is read up to its closing quote. -/
theorem readString_chars (start cs rest : List Char) :
    readString start (cs.flatMap escapedChar ++ '"' :: rest) = .ok (cs, rest) := by
  induction cs with
  | nil =>
    rw [List.flatMap_nil, List.nil_append, readString]
  | cons c more ih =>
    -- Something follows every character: the next one or the closing quote.
    obtain ⟨e, tail, next⟩ : ∃ e tail, more.flatMap escapedChar ++ '"' :: rest = e :: tail := by
      cases more.flatMap escapedChar with
      | nil => exact ⟨_, _, rfl⟩
      | cons e tail => exact ⟨_, _, rfl⟩
    rw [List.flatMap_cons, List.append_assoc, next, readString_escapedChar, ← next, ih]
    rfl

/-! ### Numbers -/

/-- What follows cannot be a part of a number. -/
def EndsNumber (rest : List Char) : Prop :=
  ∀ c ∈ rest.head?, c.isDigit = false ∧ c ≠ '.' ∧ c ≠ 'e' ∧ c ≠ 'E'

theorem spanDigits_append {ds rest : List Char} (digits : ∀ c ∈ ds, c.isDigit = true)
    (stop : ∀ c ∈ rest.head?, c.isDigit = false) : spanDigits (ds ++ rest) = (ds, rest) := by
  rw [spanDigits, List.takeWhile_append_of_pos digits, List.dropWhile_append_of_pos digits]
  cases rest with
  | nil => simp
  | cons c cs => simp [stop c rfl]

theorem readWhole_append {ds rest : List Char} (nonempty : ds ≠ [])
    (digits : ∀ c ∈ ds, c.isDigit = true) (zero : ds.head? = some '0' → ds = ['0'])
    (stop : ∀ c ∈ rest.head?, c.isDigit = false) : readWhole (ds ++ rest) = some (ds, rest) := by
  obtain ⟨d, more, rfl⟩ := List.exists_cons_of_ne_nil nonempty
  by_cases leading : d = '0'
  · obtain ⟨rfl, rfl⟩ : d = '0' ∧ more = [] := by simpa [leading] using zero
    rfl
  · rw [List.cons_append, readWhole, ← List.cons_append, spanDigits_append digits stop]
    · rfl
    · simpa using leading

theorem readDecimals_append {ds rest : List Char} (nonempty : ds ≠ [])
    (digits : ∀ c ∈ ds, c.isDigit = true) (stop : ∀ c ∈ rest.head?, c.isDigit = false) :
    readDecimals ('.' :: ds ++ rest) = some (ds, rest) := by
  rw [List.cons_append, readDecimals, spanDigits_append digits stop]
  simp [nonempty]

theorem readDecimals_eq_none {rest : List Char} (stop : ∀ c ∈ rest.head?, c ≠ '.') :
    readDecimals rest = none := by
  rw [readDecimals.eq_def]
  split
  · exact absurd rfl (stop '.' rfl)
  · rfl

theorem readExponent_append (e : Int) {rest : List Char}
    (stop : ∀ c ∈ rest.head?, c.isDigit = false) :
    readExponent (exponentText e ++ rest) = some (e, rest) := by
  have span : spanDigits (padLeft 2 (natText e.natAbs) ++ rest) =
      (padLeft 2 (natText e.natAbs), rest) :=
    spanDigits_append (padLeft_digits fun c member => isDigit_of_mem_natText member) stop
  have nonempty : padLeft 2 (natText e.natAbs) ≠ [] := by
    simp [padLeft, natText, Nat.toDigits_ne_nil]
  have value : natOfDigits 10 (padLeft 2 (natText e.natAbs)) = e.natAbs := by
    rw [natOfDigits_padLeft, natOfDigits_natText]
  by_cases below : e < 0
  · simp [exponentText, readExponent, below, span, nonempty, value, abs_of_neg below]
  · simp [exponentText, readExponent, below, span, nonempty, value, abs_of_nonneg (not_lt.mp below)]

theorem readExponent_eq_none {rest : List Char} (stop : ∀ c ∈ rest.head?, c ≠ 'e' ∧ c ≠ 'E') :
    readExponent rest = none := by
  cases rest with
  | nil => rfl
  | cons c cs =>
    obtain ⟨small, capital⟩ := stop c rfl
    simp [readExponent, small, capital]

/-- A decimal is read by its parts: a double when it has a point or an exponent, else a whole
number. -/
theorem readUnsigned_text {p : DecimalParts} (isDecimal : p.IsDecimal) (negative : Bool)
    {rest : List Char} (ends : EndsNumber rest) :
    readUnsigned negative (p.text ++ rest) =
      some (if p.decimals.isSome ∨ p.exponent.isSome then .float (p.value negative)
        else .int (if negative then -(natOfDigits 10 p.whole : Int) else natOfDigits 10 p.whole),
        rest) := by
  obtain ⟨whole, decimals, exponent⟩ := p
  have stop : ∀ c ∈ rest.head?, c.isDigit = false := fun c first => (ends c first).1
  have noPoint : ∀ c ∈ rest.head?, c ≠ '.' := fun c first => (ends c first).2.1
  have noMark : ∀ c ∈ rest.head?, c ≠ 'e' ∧ c ≠ 'E' := fun c first => (ends c first).2.2
  have readsWhole (tail : List Char) (stop : ∀ c ∈ tail.head?, c.isDigit = false) :
      readWhole (whole ++ tail) = some (whole, tail) :=
    readWhole_append isDecimal.whole_nonempty isDecimal.whole_digits isDecimal.whole_head stop
  -- A part ends where the next one that is there starts, and the last one where `rest` does.
  cases exponent with
  | none =>
    cases decimals with
    | none =>
      simp [DecimalParts.text, readUnsigned, readsWhole rest stop, readDecimals_eq_none noPoint,
        readExponent_eq_none noMark]
    | some ds =>
      have readsDecimals := readDecimals_append (isDecimal.decimals_nonempty ds rfl)
        (isDecimal.decimals_digits ds rfl) stop
      rw [List.cons_append] at readsDecimals
      simp [DecimalParts.text, readUnsigned, readsWhole ('.' :: (ds ++ rest)) (by simp),
        readsDecimals, readExponent_eq_none noMark, DecimalParts.value]
  | some e =>
    have exponentStop : ∀ c ∈ (exponentText e ++ rest).head?, c.isDigit = false ∧ c ≠ '.' := by
      simp [exponentText]
    have readsExponent := readExponent_append e stop
    cases decimals with
    | none =>
      simp [DecimalParts.text, readUnsigned,
        readsWhole (exponentText e ++ rest) fun c first => (exponentStop c first).1,
        readDecimals_eq_none fun c first => (exponentStop c first).2, readsExponent,
        DecimalParts.value]
    | some ds =>
      have readsDecimals := readDecimals_append (isDecimal.decimals_nonempty ds rfl)
        (isDecimal.decimals_digits ds rfl) fun c first => (exponentStop c first).1
      rw [List.cons_append] at readsDecimals
      simp [DecimalParts.text, readUnsigned,
        readsWhole ('.' :: (ds ++ (exponentText e ++ rest))) (by simp), readsDecimals,
        readsExponent, DecimalParts.value]

/-! ### Scalars without quotes -/

/-- The characters that a scalar other than a text starts with. -/
def StartsAtom (c : Char) : Prop :=
  c.isDigit = true ∨ c = '-' ∨ c = 'n' ∨ c = 't' ∨ c = 'f'

theorem StartsAtom.unlike {c : Char} (start : StartsAtom c) :
    isLayout c = false ∧ c ≠ ']' ∧ c ≠ '\ufeff' ∧ c ≠ '"' ∧ c ≠ '[' ∧ c ≠ '\x7b' := by
  rcases start with digit | rfl | rfl | rfl | rfl
  · have layout : isLayout c = false := by
      rw [← Bool.not_eq_true]
      simp only [isLayout, Bool.or_eq_true, beq_iff_eq]
      rintro (((rfl | rfl) | rfl) | rfl) <;> exact absurd digit (by decide)
    refine ⟨layout, ?_, ?_, ?_, ?_, ?_⟩ <;> rintro rfl <;> exact absurd digit (by decide)
  all_goals decide

theorem readWord_eq_none {c : Char} (digit : c.isDigit = true) (cs : List Char) :
    readWord (c :: cs) = none ∧ readWord ('-' :: c :: cs) = none := by
  have unlike : 'n' ≠ c ∧ 't' ≠ c ∧ 'f' ≠ c ∧ 'N' ≠ c ∧ 'I' ≠ c ∧ '-' ≠ c := by
    refine ⟨?_, ?_, ?_, ?_, ?_, ?_⟩ <;> rintro rfl <;> exact absurd digit (by decide)
  simp [readWord, wordScalars, afterWord?, unlike]

/-- The digits of a number, behind its sign if there is one. -/
theorem readAtom_digits (negative : Bool) {c : Char} (digit : c.isDigit = true) (cs : List Char) :
    readAtom ((if negative then ['-'] else []) ++ c :: cs) = readUnsigned negative (c :: cs) := by
  obtain ⟨noWord, noSignedWord⟩ := readWord_eq_none digit cs
  cases negative with
  | true => simp [readAtom, noSignedWord]
  | false =>
    simp only [readAtom, Bool.false_eq_true, if_false, List.nil_append, noWord]
    split
    · next eq =>
      cases eq
      cases digit
    · rfl

/-- A plain scalar other than a text starts unlike any other value and is read as itself. -/
theorem readAtom_scalarText {s : Scalar} (isPlain : s.IsPlain) (noText : ∀ t, s ≠ .text t)
    {rest : List Char} (ends : EndsNumber rest) :
    readAtom (scalarText s ++ rest) = some (s, rest) ∧
      ∃ c cs, scalarText s = c :: cs ∧ StartsAtom c := by
  -- Behind their signs both kinds of numbers are decimals.
  have number (negative : Bool) {p : DecimalParts} (isDecimal : p.IsDecimal) :
      readAtom ((if negative then ['-'] else []) ++ p.text ++ rest) =
          readUnsigned negative (p.text ++ rest) ∧
        ∃ c cs, (if negative then ['-'] else []) ++ p.text = c :: cs ∧ StartsAtom c := by
    obtain ⟨c, cs, eq, digit⟩ := p.exists_digit isDecimal
    rw [eq, List.append_assoc, List.cons_append]
    refine ⟨readAtom_digits negative digit _, ?_⟩
    cases negative with
    | true => exact ⟨_, _, rfl, .inr (by simp)⟩
    | false => exact ⟨_, _, rfl, .inl digit⟩
  cases s with
  | null => exact ⟨rfl, 'n', "ull".toList, rfl, .inr (by simp)⟩
  | bool b =>
    cases b
    · exact ⟨rfl, 'f', "alse".toList, rfl, .inr (by simp)⟩
    · exact ⟨rfl, 't', "rue".toList, rfl, .inr (by simp)⟩
  | int i =>
    obtain ⟨read, start⟩ := number (decide (i < 0)) (natText_parts i.natAbs)
    have text : (DecimalParts.mk (natText i.natAbs) none none).text = natText i.natAbs := by
      simp [DecimalParts.text]
    rw [text] at read start
    rw [scalarText, intText_eq]
    refine ⟨?_, start⟩
    rw [read, ← text, readUnsigned_text (natText_parts _) _ ends]
    simp only [Option.isSome_none, Bool.false_eq_true, or_self, if_false, natOfDigits_natText,
      decide_eq_true_eq]
    congr 3
    split <;> omega
  | float x =>
    obtain ⟨negative, rank, rfl⟩ := isPlain
    obtain ⟨p, text, isDecimal, value, form, -⟩ := rankText_parts .json rank
    obtain ⟨read, start⟩ := number negative isDecimal
    rw [scalarText, Double.text, text]
    exact ⟨by rw [read, readUnsigned_text isDecimal _ ends, if_pos form, value], start⟩
  | text t => exact absurd rfl (noText t)
  | date d => cases isPlain
  | instant t => cases isPlain

/-! ### Values -/

/-- A value is read from its text at a level, whatever follows that is no part of a number. -/
def ReadsAt (level : Nat) (v : Value) : Prop :=
  ∀ fuel rest, EndsNumber rest → (valueText level v).length ≤ fuel →
    readValue fuel (valueText level v ++ rest) = .ok (v, rest)

theorem skipLayout_visible {c : Char} (visible : isLayout c = false) (cs : List Char) :
    skipLayout (c :: cs) = c :: cs := by
  rw [skipLayout, List.dropWhile_cons_of_neg]
  simp [visible]

theorem skipLayout_newline (level : Nat) {c : Char} (visible : isLayout c = false)
    (cs : List Char) : skipLayout (newline level ++ c :: cs) = c :: cs := by
  have blanks : ∀ d ∈ newline level, isLayout d = true := by
    intro d member
    rcases List.mem_cons.mp member with rfl | member
    · rfl
    · rw [List.eq_of_mem_replicate member]
      rfl
  rw [skipLayout, List.dropWhile_append_of_pos blanks]
  exact skipLayout_visible visible cs

theorem endsNumber_newline (level : Nat) (cs : List Char) : EndsNumber (newline level ++ cs) := by
  rintro c ⟨⟩
  decide

theorem endsNumber_comma (cs : List Char) : EndsNumber (',' :: cs) := by
  rintro c ⟨⟩
  decide

/-- A value starts with a character that is no layout, closes nothing and marks no byte order. -/
theorem exists_start {v : Value} (isPlain : v.IsPlain) (level : Nat) :
    ∃ c cs, valueText level v = c :: cs ∧ isLayout c = false ∧ c ≠ ']' ∧ c ≠ '\ufeff' := by
  cases isPlain with
  | @scalar s isPlain =>
    rcases s.text_or with ⟨t, rfl⟩ | noText
    · exact ⟨_, _, rfl, rfl, by decide⟩
    · have ends : EndsNumber [] := by simp [EndsNumber]
      obtain ⟨-, c, cs, eq, start⟩ := readAtom_scalarText isPlain noText ends
      exact ⟨c, cs, eq, start.unlike.1, start.unlike.2.1, start.unlike.2.2.1⟩
  | @list vs items => cases vs <;> exact ⟨_, _, rfl, rfl, by decide⟩
  | @mapping es labelled values => cases es <;> exact ⟨_, _, rfl, rfl, by decide⟩

theorem exists_fuel {v : Value} (isPlain : v.IsPlain) {level fuel : Nat}
    (enough : (valueText level v).length ≤ fuel) : ∃ n, fuel = n + 1 := by
  obtain ⟨c, cs, eq, -⟩ := exists_start isPlain level
  rw [eq, List.length_cons] at enough
  exact ⟨fuel - 1, by omega⟩

/-- Behind the indentation of its line a value is where the layout ends. -/
theorem skipLayout_valueText {v : Value} (isPlain : v.IsPlain) (level : Nat) (cs : List Char) :
    skipLayout (newline level ++ (valueText level v ++ cs)) = valueText level v ++ cs := by
  obtain ⟨c, more, eq, visible, -⟩ := exists_start isPlain level
  rw [eq, List.cons_append, skipLayout_newline level visible]

theorem skipLayout_blank {v : Value} (isPlain : v.IsPlain) (level : Nat) (cs : List Char) :
    skipLayout (' ' :: (valueText level v ++ cs)) = valueText level v ++ cs := by
  obtain ⟨c, more, eq, visible, -⟩ := exists_start isPlain level
  rw [eq, List.cons_append]
  exact skipLayout_visible visible _

section Items

variable {level fuel : Nat} {v : Value} (reads : ReadsAt level v)
  (enough : (valueText level v).length ≤ fuel) {tail rest : List Char} (ends : EndsNumber tail)
include reads enough ends

theorem readItems_last (closed : skipLayout tail = ']' :: rest) :
    readItems (fuel + 1) (valueText level v ++ tail) = .ok ([v], rest) := by
  simp [readItems, reads fuel tail ends enough, bind, Except.bind, closed, pure, Except.pure]

theorem readItems_comma (comma : skipLayout tail = ',' :: rest) :
    readItems (fuel + 1) (valueText level v ++ tail) =
      (readItems fuel (skipLayout rest)).map fun out => (v :: out.1, out.2) := by
  simp only [readItems, reads fuel tail ends enough, bind, Except.bind, comma]
  rfl

end Items

theorem readItems_itemsText (level outer : Nat) {v : Value} {vs : List Value}
    (first : ReadsAt level v) (further : ∀ w ∈ vs, w.IsPlain ∧ ReadsAt level w) (fuel : Nat)
    (enough : (valueText level v).length + (itemsText level vs).length ≤ fuel) (rest : List Char) :
    readItems (fuel + 1)
        (valueText level v ++ (itemsText level vs ++ (newline outer ++ ']' :: rest))) =
      .ok (v :: vs, rest) := by
  -- By induction on the items behind `v`; each takes a step, which its comma pays for.
  induction vs generalizing v fuel with
  | nil =>
    exact readItems_last first (by omega) (endsNumber_newline outer _)
      (skipLayout_newline outer rfl rest)
  | cons w ws ih =>
    obtain ⟨⟨isPlain, second⟩, later⟩ := List.forall_mem_cons.mp further
    rw [itemsText] at enough ⊢
    simp only [List.length_append, List.length_cons] at enough
    obtain ⟨fuel, rfl⟩ : ∃ n, fuel = n + 1 := ⟨fuel - 1, by omega⟩
    simp only [List.append_assoc, List.cons_append]
    rw [readItems_comma first (by omega) (endsNumber_comma _) (skipLayout_visible rfl _),
      skipLayout_valueText isPlain, ih second later fuel (by omega)]
    rfl

section Entries

variable {level fuel : Nat} {s : String} {v : Value} {done : Entries} (isPlain : v.IsPlain)
  (reads : ReadsAt level v) (enough : (valueText level v).length ≤ fuel) {tail rest : List Char}
  (ends : EndsNumber tail)
include isPlain reads enough ends

theorem readEntries_last (closed : skipLayout tail = '\x7d' :: rest) :
    readEntries (fuel + 1) done (stringText s ++ ':' :: ' ' :: (valueText level v ++ tail)) =
      .ok (done.put (.text s) v, rest) := by
  have colon (cs : List Char) : skipLayout (':' :: cs) = ':' :: cs := skipLayout_visible rfl cs
  simp [stringText, readEntries, readString_chars, bind, Except.bind, colon,
    skipLayout_blank isPlain, reads fuel tail ends enough, closed, pure, Except.pure]

theorem readEntries_comma (comma : skipLayout tail = ',' :: rest) :
    readEntries (fuel + 1) done (stringText s ++ ':' :: ' ' :: (valueText level v ++ tail)) =
      readEntries fuel (done.put (.text s) v) (skipLayout rest) := by
  have colon (cs : List Char) : skipLayout (':' :: cs) = ':' :: cs := skipLayout_visible rfl cs
  simp [stringText, readEntries, readString_chars, bind, Except.bind, colon,
    skipLayout_blank isPlain, reads fuel tail ends enough, comma]

end Entries

theorem readEntries_entriesText (level outer : Nat) (done : Entries) (s : String) {v : Value}
    {es : Entries} (isPlain : v.IsPlain) (first : ReadsAt level v)
    (further : ∀ e ∈ es, (∃ t, e.1 = .text t) ∧ e.2.IsPlain ∧ ReadsAt level e.2) (fuel : Nat)
    (enough : (valueText level v).length + (entriesText level es).length ≤ fuel)
    (rest : List Char) :
    readEntries (fuel + 1) done
        (stringText s ++ ':' :: ' ' :: (valueText level v ++
          (entriesText level es ++ (newline outer ++ '\x7d' :: rest)))) =
      .ok (done.merge ((.text s, v) :: es), rest) := by
  -- By induction on the entries behind this one; those in front of it have been written to `done`.
  induction es generalizing done s v fuel with
  | nil =>
    exact readEntries_last isPlain first (by omega) (endsNumber_newline outer _)
      (skipLayout_newline outer rfl rest)
  | cons e es ih =>
    obtain ⟨k, w⟩ := e
    obtain ⟨⟨⟨t, rfl⟩, isPlain', second⟩, later⟩ := List.forall_mem_cons.mp further
    dsimp only at isPlain' second
    rw [entriesText, Value.keyText_text] at enough ⊢
    simp only [List.length_append, List.length_cons] at enough
    obtain ⟨fuel, rfl⟩ : ∃ n, fuel = n + 1 := ⟨fuel - 1, by omega⟩
    have skipped (cs : List Char) :
        skipLayout (newline level ++ (stringText t ++ cs)) = stringText t ++ cs :=
      skipLayout_newline level rfl _
    simp only [List.append_assoc, List.cons_append]
    rw [readEntries_comma isPlain first (by omega) (endsNumber_comma _) (skipLayout_visible rfl _),
      skipped, ih _ t isPlain' second later fuel (by omega)]
    rfl

theorem readValue_atom (fuel : Nat) {c : Char} (start : StartsAtom c) {cs rest : List Char}
    {s : Scalar} (reads : readAtom (c :: cs) = some (s, rest)) :
    readValue (fuel + 1) (c :: cs) = .ok (.scalar s, rest) := by
  obtain ⟨-, -, -, quote, bracket, brace⟩ := start.unlike
  simp [readValue, quote, bracket, brace, reads]

theorem readsAt_scalar {s : Scalar} (isPlain : s.IsPlain) (level : Nat) :
    ReadsAt level (.scalar s) := by
  intro fuel rest ends enough
  obtain ⟨fuel, rfl⟩ := exists_fuel (.scalar isPlain) enough
  rw [valueText]
  rcases s.text_or with ⟨t, rfl⟩ | noText
  · simp [scalarText, stringText, readValue, readString_chars, Except.map]
  · obtain ⟨reads, c, cs, eq, start⟩ := readAtom_scalarText isPlain noText ends
    rw [eq] at reads ⊢
    exact readValue_atom fuel start reads

theorem readsAt_list {vs : List Value} (isPlains : ∀ v ∈ vs, v.IsPlain) (level : Nat)
    (items : ∀ v ∈ vs, ReadsAt (level + 1) v) : ReadsAt level (.list vs) := by
  intro fuel rest ends enough
  obtain ⟨fuel, rfl⟩ := exists_fuel (.list isPlains) enough
  cases vs with
  | nil => rfl
  | cons v vs =>
    obtain ⟨isPlain, isPlains⟩ := List.forall_mem_cons.mp isPlains
    obtain ⟨first, later⟩ := List.forall_mem_cons.mp items
    rw [valueText] at enough ⊢
    simp only [List.length_append, List.length_cons, newline] at enough
    -- One step is for the bracket; the newline behind it leaves another one over for the items.
    obtain ⟨fuel, rfl⟩ : ∃ n, fuel = n + 1 := ⟨fuel - 1, by omega⟩
    have reads := readItems_itemsText (level + 1) level first
      (fun w member => ⟨isPlains w member, later w member⟩) fuel (by omega) rest
    obtain ⟨c, cs, eq, visible, unclosed, -⟩ := exists_start isPlain (level + 1)
    rw [eq, List.cons_append] at reads
    simp [readValue, skipLayout_newline, eq, visible, unclosed, reads, Except.map]

theorem readsAt_mapping {es : Entries} (labelled : Entries.Labelled es)
    (isPlains : ∀ e ∈ es, e.2.IsPlain) (level : Nat)
    (values : ∀ e ∈ es, ReadsAt (level + 1) e.2) : ReadsAt level (.mapping es) := by
  intro fuel rest ends enough
  obtain ⟨fuel, rfl⟩ := exists_fuel (.mapping labelled isPlains) enough
  cases es with
  | nil => rfl
  | cons e es =>
    obtain ⟨k, v⟩ := e
    obtain ⟨s, rfl⟩ := labelled.texts k List.mem_cons_self
    obtain ⟨isPlain, isPlains⟩ := List.forall_mem_cons.mp isPlains
    obtain ⟨first, later⟩ := List.forall_mem_cons.mp values
    dsimp only at isPlain first
    rw [valueText, Value.keyText_text] at enough ⊢
    simp only [List.length_append, List.length_cons, newline] at enough
    obtain ⟨fuel, rfl⟩ : ∃ n, fuel = n + 1 := ⟨fuel - 1, by omega⟩
    have further : ∀ e ∈ es, (∃ t, e.1 = .text t) ∧ e.2.IsPlain ∧ ReadsAt (level + 1) e.2 :=
      fun e member => ⟨labelled.texts e.1 (List.mem_cons_of_mem _ (List.mem_map_of_mem member)),
        isPlains e member, later e member⟩
    have reads := readEntries_entriesText (level + 1) level [] s isPlain first further fuel
      (by omega) rest
    -- Different keys are written one behind another, none over one that is there.
    rw [labelled.merge_nil, stringText] at reads
    simp only [stringText, List.cons_append, List.append_assoc, List.nil_append] at reads ⊢
    simp [readValue, skipLayout_newline, isLayout, reads, Except.map]

/-- A plain value is read from its text. -/
theorem readsAt_of_isPlain {v : Value} (isPlain : v.IsPlain) (level : Nat) : ReadsAt level v := by
  induction isPlain generalizing level with
  | scalar isPlain => exact readsAt_scalar isPlain level
  | list isPlains items =>
    exact readsAt_list isPlains level fun v member => items v member (level + 1)
  | mapping labelled isPlains values =>
    exact readsAt_mapping labelled isPlains level fun e member => values e member (level + 1)

/-- Plain data is read from its text. -/
theorem read_render {v : Value} (isPlain : v.IsPlain) : read (render v) = .ok v := by
  obtain ⟨c, cs, eq, visible, -, unmarked⟩ := exists_start isPlain 0
  have reads := readsAt_of_isPlain isPlain 0 (2 * (valueText 0 v ++ ['\n']).length + 1) ['\n']
    (endsNumber_newline 0 []) (by simp only [List.length_append]; omega)
  have skipped : skipLayout (valueText 0 v ++ ['\n']) = valueText 0 v ++ ['\n'] := by
    rw [eq]
    exact skipLayout_visible visible _
  have start : (valueText 0 v ++ ['\n']).head? ≠ some '\ufeff' := by
    rw [eq]
    simpa using unmarked
  rw [read, render, String.toList_ofList, readChars, if_neg start, skipped, reads]
  rfl

end GatewayFlow.Json

namespace GatewayFlow

/-- The JSON text of a document is read as its data, sanitized, with the keys in their order. It
ends in one line end, behind a character that is none. -/
theorem Document.json_reads_back (d : Document) :
    Json.read (d.serialize .json) = .ok (Sanitize.value d.toValue) ∧
      ∃ body, (d.serialize .json).toList = body ++ ['\n'] ∧ body.getLast? ≠ some '\n' := by
  refine ⟨Json.read_render d.isPlain_rendered, Json.valueText 0 d.rendered, ?_, ?_⟩
  · exact String.toList_ofList
  · rw [rendered_eq, Json.valueText, List.getLast?_append]
    simp

end GatewayFlow
