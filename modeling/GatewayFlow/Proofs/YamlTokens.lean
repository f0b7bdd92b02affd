import GatewayFlow.Proofs.YamlLayout

/-!
# The tokens of a written value

A written value is read as the tokens that it stands for: its scalars, the indicators of its parts
and the starts and ends of its blocks, which only the indentation shows.
-/
namespace GatewayFlow.Yaml

/-! ### Scalars -/

/-- The token of a written scalar. -/
def scalarToken : Scalar → Token
  | .text t => .scalar (styleOf t.toList = .plain) (rereadText t)
  | s => .scalar true (String.ofList (scalarChars 0 s))

/-- A scalar that can be written and read. -/
structure Legible (s : Scalar) : Prop where
  isPlain : s.IsPlain
  clean : Sanitize.IsClean s

/-- In front of its colon, a key is not longer than one that is recognised there. -/
def Recognised (k : Scalar) : Prop :=
  isSimpleKey k = true → (scalarChars 0 k).length ≤ Layout.keyLimit

instance (k : Scalar) : Decidable (Recognised k) :=
  inferInstanceAs (Decidable (_ → _))

/-- A key of plain data, which is a text. -/
structure TextKey (k : Scalar) : Prop extends Legible k where
  text : ∃ t, k = .text t

/-- A key that can be written and is recognised when it is read. -/
structure LegibleKey (k : Scalar) : Prop extends TextKey k where
  recognised : Recognised k

/-- What stands behind a scalar: the colon of its key or the end of the line. -/
def Bounded (rest : List Char) : Prop :=
  rest.head? = some ':' ∨ rest.head? = some '\n'

theorem Bounded.apart {rest : List Char} (bounded : Bounded rest) {c : Char} (noColon : c ≠ ':')
    (noEnd : c ≠ '\n') : rest.head? ≠ some c := by
  rcases bounded with head | head <;> rw [head] <;> simp [noColon.symm, noEnd.symm]

/-! ### Texts on one line -/

theorem advances_of_range {c : Char} (noBreak : isBreak c = false) (low : 0x20 ≤ c.toNat)
    (noMark : c.toNat ≠ 0xFEFF) : Spot.Advances c := by
  refine ⟨noBreak, ?_, ?_⟩ <;> rintro rfl
  · exact absurd low (by decide)
  · exact noMark rfl

theorem advances_of_ascii {c : Char} (low : 0x20 ≤ c.toNat) (high : c.toNat ≤ 0x7E) :
    Spot.Advances c := by
  refine advances_of_range ?_ low (by omega)
  rw [← Bool.not_eq_true, isBreak_iff]
  omega

theorem advances_of_isSpecial {c : Char} (ordinary : isSpecial c = false)
    (noBreak : isBreak c = false) : Spot.Advances c := by
  have range := (isSpecial_iff c).mp ordinary
  have apart : ¬c.toNat = 10 := fun newline => by
    rw [← Bool.not_eq_true, isBreak_iff] at noBreak
    exact noBreak (.inl newline)
  exact advances_of_range noBreak (by omega) (by omega)

theorem advances_of_isVerbatim {c : Char} (verbatim : isVerbatim c = true) : Spot.Advances c := by
  obtain ⟨-, -, noBreak, noMark, range⟩ := (isVerbatim_iff c).mp verbatim
  exact advances_of_range noBreak (by omega) noMark

theorem singleQuotedChars_of_unbroken {cs : List Char} (unbroken : ∀ c ∈ cs, isBreak c = false)
    (n : Nat) : singleQuotedChars n false cs =
      cs.flatMap fun c => if c = '\'' then ['\'', '\''] else [c] := by
  induction cs with
  | nil => rfl
  | cons c cs ih =>
    obtain ⟨here, later⟩ := List.forall_mem_cons.mp unbroken
    simp [singleQuotedChars, here, ih later]

/-- A text without breaks is written on one line, wherever it stands. -/
theorem textChars_unbroken {cs : List Char} (unbroken : ∀ c ∈ cs, isBreak c = false) (n : Nat) :
    textChars n cs = textChars 0 cs ∧ ∀ c ∈ textChars n cs, Spot.Advances c := by
  have quote : Spot.Advances '\'' ∧ Spot.Advances '"' := by decide
  cases style : styleOf cs with
  | plain =>
    simp only [textChars, style]
    refine ⟨trivial, fun c member => ?_⟩
    obtain ⟨special, noBreak⟩ := isSpecial_of_fitsPlain (styleOf_plain style).2 member
    exact advances_of_isSpecial special noBreak
  | single =>
    simp only [textChars, style, singleQuotedChars_of_unbroken unbroken]
    refine ⟨trivial, ?_⟩
    rw [List.cons_append, List.forall_mem_cons, List.forall_mem_append]
    refine ⟨quote.1, fun d member => ?_, by simp [quote]⟩
    obtain ⟨c, there, here⟩ := List.mem_flatMap.mp member
    split at here
    · have same : d = '\'' := by simpa using here
      exact same ▸ quote.1
    · exact List.mem_singleton.mp here ▸ advances_of_isSpecial
        (isSpecial_of_fitsSingle (styleOf_single style) there) (unbroken c there)
  | double =>
    simp only [textChars, style]
    refine ⟨trivial, ?_⟩
    rw [List.cons_append, List.forall_mem_cons, List.forall_mem_append]
    refine ⟨quote.2, fun d member => ?_, by simp [quote]⟩
    obtain ⟨c, -, here⟩ := List.mem_flatMap.mp member
    rcases mem_doubleQuotedChar here with verbatim | ⟨low, high⟩
    · exact advances_of_isVerbatim verbatim
    · exact advances_of_ascii low high

/-! ### Reading scalars -/

namespace Layout

/-- How far a further line of a plain scalar has to be indented here. -/
def leastIndent (l : Layout) : Nat :=
  match l.indents with
  | [] => 0
  | indent :: _ => indent + 1

theorem plainToken_eq (l : Layout) : l.plainToken =
    (.scalar true (String.ofList (readPlainText l.inFlow l.leastIndent .nothing l.spot.rest
      l.spot.rest).1), (readPlainText l.inFlow l.leastIndent .nothing l.spot.rest l.spot.rest).2) :=
  rfl

theorem readToken_plain {l : Layout} {c : Char} {cs : List Char} (inFlow : l.inFlow = false)
    (noGap : isGap c = false)
    (unlisted : "#,[]\x7b\x7d&*!|>'\"%@\x60".toList.contains c = false)
    (leads : c = '-' ∨ c = '?' ∨ c = ':' → startsWithGap cs = false)
    (noMarker : startsMarker (c :: cs) = false) :
    l.readToken c cs = l.readMark (some l.plainToken) := by
  have apart : c ≠ '#' ∧ c ≠ ',' ∧ c ≠ '[' ∧ c ≠ ']' ∧ c ≠ '\x7b' ∧ c ≠ '\x7d' ∧ c ≠ '&' ∧ c ≠ '*' ∧
      c ≠ '!' ∧ c ≠ '|' ∧ c ≠ '>' ∧ c ≠ '\'' ∧ c ≠ '"' ∧ c ≠ '%' ∧ c ≠ '@' ∧ c ≠ '\x60' := by
    simpa using unlisted
  -- No other token starts here: of the characters that start one, three do so in front of a gap.
  have starts : startsPlain false c cs = true := by
    by_cases indicates : c = '-' ∨ c = '?' ∨ c = ':'
    · simp [startsPlain, leads indicates, indicates]
    · rw [not_or, not_or] at indicates
      simp [startsPlain, noGap, apart, indicates]
  have entry (d : Char) (indicates : d = '-' ∨ d = '?' ∨ d = ':') :
      (c == d && startsWithGap cs) = false := by
    by_cases same : c = d
    · simp [leads (same ▸ indicates)]
    · simp [same]
  simp [readToken, apart, inFlow, noMarker, starts, entry]

/-- What stands behind a scalar makes no document marker of it. -/
theorem startsMarker_append {text rest : List Char} (bounded : Bounded rest)
    (noMarker : (text.take 3 == ['-', '-', '-'] || text.take 3 == ['.', '.', '.']) = false) :
    startsMarker (text ++ rest) = false := by
  obtain ⟨d, more, rfl, apart⟩ : ∃ d more, rest = d :: more ∧ d ≠ '-' ∧ d ≠ '.' := by
    rcases bounded with head | head <;> obtain ⟨more, rfl⟩ := List.head?_eq_some_iff.mp head <;>
      exact ⟨_, more, rfl, by decide, by decide⟩
  match text with
  | [] => simp [startsMarker, apart]
  | [a] => simp [startsMarker, apart]
  | [a, b] => simp [startsMarker, apart]
  | a :: b :: c :: _ => simp_all [startsMarker]

/-- A scalar without quotes is read up to its end. -/
theorem readToken_fitsPlain {l : Layout} {c : Char} {cs rest : List Char}
    (inFlow : l.inFlow = false) (fits : fitsPlain (c :: cs) = true)
    (place : l.spot.rest = c :: cs ++ rest) (bounded : Bounded rest)
    (ends : EndsPlain l.leastIndent rest) :
    l.readToken c (cs ++ rest) =
      l.readMark (some (.scalar true (String.ofList (c :: cs)), rest)) := by
  -- What the writer checked of the text is what the reader looks at in it.
  have ordinary (d : Char) (member : d ∈ c :: cs) := isSpecial_of_fitsPlain fits member
  simp only [fitsPlain, Bool.and_eq_true, Bool.not_eq_true', hasIndicator,
    Bool.or_eq_false_iff, List.head?_cons, Option.map_some, Option.getD_some] at fits
  obtain ⟨⟨⟨-, first⟩, last⟩, ⟨⟨⟨noMarker, unlisted⟩, noEntry⟩, inner⟩⟩ := fits
  obtain ⟨special, noBreak⟩ := ordinary c List.mem_cons_self
  have noBlank : c ≠ ' ' := by
    rintro rfl
    cases first
  have leads (indicates : c = '-' ∨ c = '?' ∨ c = ':') : startsWithGap cs = false := by
    rcases indicates with rfl | rfl | rfl <;> simpa using noEntry
  have leadsBehind (indicates : c = '-' ∨ c = '?' ∨ c = ':') :
      startsWithGap (cs ++ rest) = false := by
    have nonempty : cs ≠ [] := by
      rintro rfl
      exact absurd (leads indicates) (by decide)
    rw [startsWithGap_append nonempty, leads indicates]
  have marker := startsMarker_append bounded (Bool.or_eq_false_iff.mpr noMarker)
  have read : readPlainText false l.leastIndent .nothing (c :: cs ++ rest) (c :: cs ++ rest) =
      ([] ++ c :: cs, rest) := by
    have inner : hasInnerIndicator 'a' (c :: cs) = false := by
      have colon : (c == ':' && startsWithGap cs) = false := by
        by_cases same : c = ':'
        · simp [leads (.inr (.inr same))]
        · simp [same]
      have hash : isGap 'a' = false := by decide
      simp [hasInnerIndicator, colon, hash, inner]
    refine readPlainText_append ends ordinary inner (fun blank => ?_) (by simp) (by simp)
    simp [blank, isSpaceOrBreak] at last
  rw [readToken_plain inFlow (isGap_of_isSpecial special noBreak noBlank) unlisted leadsBehind
    marker, plainToken_eq, inFlow, place, read]
  rfl

theorem isVisible_of_fitsPlain {c : Char} {cs : List Char} (fits : fitsPlain (c :: cs) = true) :
    IsVisible c := by
  obtain ⟨special, noBreak⟩ := isSpecial_of_fitsPlain fits List.mem_cons_self
  refine ⟨?_, ?_, ?_, isLineEnd_of_isSpecial special noBreak⟩ <;> rintro rfl
  · simp [fitsPlain, isSpaceOrBreak] at fits
  · simp [fitsPlain, hasIndicator] at fits
  · exact absurd special (by decide)

/-- A text between single quotes is read, folded, up to the closing one. -/
theorem quotedToken?_single {n : Nat} (positive : 0 < n) {t : String} {rest : List Char}
    (style : styleOf t.toList = .single) (clean : Sanitize.IsClean (.text t))
    (bounded : Bounded rest) :
    quotedToken? false (singleQuotedChars n false t.toList ++ '\'' :: rest) =
      some (.scalar false (rereadText t), rest) := by
  have fits := styleOf_single style
  have ordinary (c : Char) (member : c ∈ t.toList) := isSpecial_of_fitsSingle fits member
  simp only [fitsSingle, Bool.and_eq_true, Bool.not_eq_true'] at fits
  have read := (readQuoted_single positive ordinary (newline_not_mem clean) fits.2
    (bounded.apart (by decide) (by decide))).1 []
  rw [quotedToken?, show Spacing.nothing = .blanks [] from rfl, read, rereadText, if_pos style]
  rfl

theorem quotedToken?_double (t : String) (rest : List Char) :
    quotedToken? true (t.toList.flatMap doubleQuotedChar ++ '"' :: rest) =
      some (.scalar false t, rest) := by
  rw [quotedToken?, show Spacing.nothing = .blanks [] from rfl, readQuoted_double]
  simp

/-- Outside brackets a text is read as a token, whatever ends it. -/
def ReadAs (text : List Char) (token : Token) : Prop :=
  ∃ c cs, text = c :: cs ∧ IsVisible c ∧ ∀ (l : Layout) (rest : List Char),
    l.inFlow = false → l.spot.rest = c :: cs ++ rest → Bounded rest →
      EndsPlain l.leastIndent rest →
        l.readToken c (cs ++ rest) = l.readMark (some (token, rest))

theorem readAs_fitsPlain {text : List Char} (nonempty : text ≠ []) (fits : fitsPlain text = true) :
    ReadAs text (.scalar true (String.ofList text)) := by
  obtain ⟨c, cs, rfl⟩ := List.exists_cons_of_ne_nil nonempty
  exact ⟨c, cs, rfl, isVisible_of_fitsPlain fits, fun l rest inFlow place bounded ends =>
    readToken_fitsPlain inFlow fits place bounded ends⟩

theorem readAs_text {t : String} (clean : Sanitize.IsClean (.text t)) {n : Nat} (positive : 0 < n) :
    ReadAs (textChars n t.toList) (scalarToken (.text t)) := by
  have noMarker (d : Char) (cs : List Char) (quote : d = '\'' ∨ d = '"') :
      startsMarker (d :: cs) = false := by
    rcases quote with rfl | rfl <;> simp [startsMarker]
  cases style : styleOf t.toList with
  | plain =>
    obtain ⟨isPlainText, fits⟩ := styleOf_plain style
    have nonempty : t.toList ≠ [] := by
      intro empty
      rw [empty] at isPlainText
      exact absurd isPlainText (by decide)
    simpa [textChars, style, scalarToken, rereadText] using readAs_fitsPlain nonempty fits
  | single =>
    refine ⟨'\'', singleQuotedChars n false t.toList ++ ['\''], ?_, by decide, ?_⟩
    · simp [textChars, style]
    · intro l rest inFlow place bounded ends
      have token := quotedToken?_single positive style clean bounded
      simp [readToken, noMarker, token, scalarToken, style]
  | double =>
    refine ⟨'"', t.toList.flatMap doubleQuotedChar ++ ['"'], ?_, by decide, ?_⟩
    · simp [textChars, style]
    · intro l rest inFlow place bounded ends
      simp [readToken, noMarker, quotedToken?_double, scalarToken, rereadText, style]

/-- A written scalar is read as its token, whatever the indentation of its further lines. What is
written without quotes, be it a text or not, is read in the same way. -/
theorem readAs_scalar {s : Scalar} (legible : Legible s) {n : Nat} (positive : 0 < n) :
    ReadAs (scalarChars n s) (scalarToken s) := by
  rcases s.text_or with ⟨t, rfl⟩ | noText
  · exact readAs_text legible.clean positive
  · have word := isWord_scalarChars legible.isPlain noText 0
    have same : scalarChars n s = scalarChars 0 s ∧
        scalarToken s = .scalar true (String.ofList (scalarChars 0 s)) := by
      cases s with
      | text t => exact absurd rfl (noText t)
      | bool b => cases b <;> exact ⟨rfl, rfl⟩
      | _ => exact ⟨rfl, rfl⟩
    have nonempty : scalarChars 0 s ≠ [] := by
      obtain ⟨-, negative, c, more, eq, -⟩ := word
      rw [eq]
      simp
    rw [same.1, same.2]
    exact readAs_fitsPlain nonempty (fitsPlain_of_isWord word)

theorem Follows.bounded {indent : Nat} {rest : List Char} (follows : Follows indent rest) :
    Bounded rest := by
  rcases follows with rfl | ⟨n, c, cs, rfl, -⟩ <;> exact .inr rfl

theorem Follows.endsPlain {indent : Nat} {rest : List Char} (follows : Follows indent rest) :
    EndsPlain (indent + 1) rest := by
  rcases follows with rfl | ⟨n, c, cs, rfl, left, visible⟩
  · exact endsPlain_end _
  · exact endsPlain_newline (Nat.lt_succ_of_le left) visible cs

/-- A key may start with what stands further right than the block's keys, but none has to. -/
theorem saveKey_inside {m : Layout} {indent : Nat} {outer : List Nat} (keys : m.keys = [none])
    (open_ : m.indents = indent :: outer) (inside : indent < m.spot.column) :
    ∃ place?, m.saveKey = some { m with keys := [place?] } ∧ ∀ place ∈ place?,
      place.required = false ∧ place.index = m.spot.index ∧ place.line = m.spot.line := by
  by_cases allowed : m.keyAllowed = true
  · have optional : (m.indents.head? == some m.spot.column) = false := by
      simp [open_, inside.ne]
    exact ⟨some ⟨m.count, false, m.spot.index, m.spot.line, m.spot.column⟩,
      by simp [saveKey, allowed, optional, dropKey, keys], by simp⟩
  · exact ⟨none, by rw [saveKey, if_neg allowed, ← keys], by simp⟩

theorem readMark_inside {m : Layout} {cs rest : List Char} {ts : List Token} {token : Token}
    {indent : Nat} {outer : List Nat} (between : m.Between (cs ++ rest) ts (indent :: outer))
    (keys : m.keys = [none]) (inside : indent < m.spot.column) :
    ∃ l, m.readMark (some (token, rest)) = some l ∧
      l.Reached rest (ts ++ [token]) indent (indent :: outer) := by
  obtain ⟨place?, save, loose⟩ := saveKey_inside keys between.indents inside
  obtain ⟨place, tokens, count, open_⟩ := between
  obtain ⟨left, later⟩ := m.spot.skipTo_append place
  have mark : m.readMark (some (token, rest)) = some ⟨m.spot.skipTo rest, token :: m.tokens,
      m.count + 1, m.indents, [place?], false⟩ := by
    simp [readMark, save, allowKey, advanceTo, emit]
  refine ⟨_, mark, ts ++ [token], [], ⟨left, ?_, ?_, open_⟩, by simp, by simp, place?, rfl, ?_⟩
  · simp [tokens]
  · simp [count]
  · intro place member
    obtain ⟨optional, -, line⟩ := loose place member
    exact ⟨optional, line ▸ later⟩

/-- A scalar behind an indicator. -/
theorem leads_scalar {s : Scalar} (legible : Legible s) {l : Layout} {rest : List Char}
    {ts : List Token} {indent : Nat} {outer : List Nat} {alone : Bool}
    (follows : Follows indent rest)
    (behind : l.Behind (' ' :: scalarChars (indent + 2) s ++ rest) ts indent outer alone) :
    ∃ l', Leads l l' ∧ l'.Reached rest (ts ++ [scalarToken s]) indent (indent :: outer) := by
  obtain ⟨c, cs, eq, visible, read⟩ := readAs_scalar legible (Nat.succ_pos (indent + 1))
  rw [eq] at behind
  obtain ⟨m, arrives, between, keys, -, column⟩ := prepare_blank visible behind
  rw [List.append_eq, ← List.cons_append] at between
  have inside : indent < m.spot.column := by
    rw [column]
    exact Nat.lt_succ_of_lt behind.inside
  obtain ⟨l', mark, reached⟩ := readMark_inside between keys inside
  have ends : EndsPlain m.leastIndent rest := by
    rw [leastIndent, between.indents]
    exact follows.endsPlain
  rw [← read m rest (inFlow_of_keys keys) between.rest follows.bounded ends] at mark
  have left : l'.spot.rest = rest := by
    obtain ⟨_, _, between, -⟩ := reached
    exact between.rest
  refine ⟨l', arrives.leads (.of_readToken between.rest mark ?_), reached⟩
  rw [between.rest, left]
  simp

/-- The brackets around nothing, and their tokens. -/
inductive Encloses : Char → Char → Token → Token → Prop
  | list : Encloses '[' ']' .flowSequenceStart .flowSequenceEnd
  | mapping : Encloses '\x7b' '\x7d' .flowMappingStart .flowMappingEnd

theorem Encloses.chars {first last : Char} {start finish : Token}
    (encloses : Encloses first last start finish) :
    (Spot.Advances first ∧ IsVisible first) ∧ Spot.Advances last ∧ IsVisible last := by
  cases encloses <;> decide

/-- Behind the bracket that opens, with the key that may have started with it. -/
def opened (m : Layout) (place? : Option KeyPlace) (start : Token) : Layout :=
  ⟨m.spot.skip 1, start :: m.tokens, m.count + 1, m.indents, [none, place?], true⟩

/-- Behind the bracket that closes. -/
def closed (m : Layout) (place? : Option KeyPlace) (finish : Token) : Layout :=
  ⟨m.spot.skip 1, finish :: m.tokens, m.count + 1, m.indents, [place?], false⟩

section Brackets

variable {first last : Char} {start finish : Token} (encloses : Encloses first last start finish)
  {m : Layout} {place? : Option KeyPlace}
include encloses

theorem readToken_first (save : m.saveKey = some { m with keys := [place?] }) (cs : List Char) :
    m.readToken first cs = some (m.opened place? start) := by
  cases encloses <;>
    simp [readToken, startsMarker, openFlow, save, allowKey, advance, emit, opened]

theorem readToken_last (keys : m.keys = [none, place?]) (cs : List Char) :
    m.readToken last cs = some (m.closed place? finish) := by
  cases encloses <;>
    simp [readToken, startsMarker, closeFlow, dropKey, keys, inFlow, allowKey, advance, emit,
      closed]

/-- Between the brackets no key is given up and no block ends: the key that may have started with
the first one is on this line and one character back. -/
theorem opened_arrives {rest : List Char} (left : m.spot.rest = first :: last :: rest)
    (loose : ∀ place ∈ place?, place.index = m.spot.index ∧ place.line = m.spot.line) :
    (m.opened place? start).Arrives (m.opened place? start) := by
  obtain ⟨⟨advances, -⟩, -, visibleLast⟩ := encloses.chars
  have next := Spot.skip_advances advances left
  refine prepare_visible visibleLast (congrArg Spot.rest next) (fun place member => ?_) (.inl rfl)
  have there : some place = place? := by simpa [opened] using member
  obtain ⟨index, line⟩ := loose place there.symm
  simp only [opened, next, index, line]
  exact ⟨trivial, by simp [keyLimit]⟩

/-- An empty list or mapping behind an indicator. -/
theorem leads_empty {l : Layout} {rest : List Char} {ts : List Token} {indent : Nat}
    {outer : List Nat} {alone : Bool}
    (behind : l.Behind (' ' :: first :: last :: rest) ts indent outer alone) :
    ∃ l', Leads l l' ∧ l'.Reached rest (ts ++ [start, finish]) indent (indent :: outer) := by
  obtain ⟨⟨advances, visible⟩, advancesLast, -⟩ := encloses.chars
  obtain ⟨m, arrives, ⟨place, tokens, count, open_⟩, keys, -, column⟩ :=
    prepare_blank visible behind
  have inside : indent < m.spot.column := by
    rw [column]
    exact Nat.lt_succ_of_lt behind.inside
  obtain ⟨place?, save, loose⟩ := saveKey_inside keys open_ inside
  have next : (m.opened place? start).spot = _ := Spot.skip_advances advances place
  have between : (m.opened place? start).spot.rest = last :: rest := congrArg Spot.rest next
  have behindLast : ((m.opened place? start).closed place? finish).spot = _ :=
    Spot.skip_advances advancesLast between
  have openLeads : Leads l (m.opened place? start) := by
    refine arrives.leads (.of_readToken place (readToken_first encloses save _) ?_)
    simp [between, place]
  have closeLeads :
      Leads (m.opened place? start) ((m.opened place? start).closed place? finish) := by
    refine (opened_arrives encloses place fun place member => (loose place member).2).leads
      (.of_readToken between (readToken_last encloses rfl rest) ?_)
    simp [behindLast, between]
  refine ⟨_, openLeads.trans closeLeads, ts ++ [start, finish], [], ⟨?_, ?_, ?_, open_⟩, by simp,
    by simp, place?, rfl, fun place member => ?_⟩
  · simp [behindLast]
  · simp [closed, opened, tokens]
  · simp [closed, opened, count]
  · obtain ⟨optional, -, line⟩ := loose place member
    exact ⟨optional, by simp only [line, behindLast, next, le_refl]⟩

end Brackets

/-! ### Reading keys -/

theorem scalarChars_simpleKey {k : Scalar} (written : TextKey k) (simple : isSimpleKey k = true)
    (n : Nat) : (∀ c ∈ scalarChars n k, Spot.Advances c) ∧ scalarChars n k = scalarChars 0 k := by
  obtain ⟨t, rfl⟩ := written.text
  have unbroken : ∀ c ∈ t.toList, isBreak c = false := by
    simp only [isSimpleKey, Value.keyText_text, Bool.and_eq_true, Bool.not_eq_true',
      List.any_eq_false] at simple
    exact fun c member => Bool.eq_false_iff.mpr (simple.2 c member)
  exact (textChars_unbroken unbroken n).symm

/-- At the colon behind a token of the given length that a key may have started with. -/
structure Marked (l : Layout) (place : KeyPlace) (rest : List Char) (ts : List Token)
    (token : Token) (indents : List Nat) (column length : Nat) : Prop
    extends l.Between (':' :: rest) (ts ++ [token]) indents where
  keys : l.keys = [some place]
  keyAllowed : l.keyAllowed = false
  before : place.tokens = ts.length
  start : place.column = column
  line : place.line = l.spot.line
  index : l.spot.index = place.index + length
  column : l.spot.column = column + length

theorem leads_marked {k : Scalar} (written : TextKey k) (simple : isSimpleKey k = true)
    {m : Layout} {rest : List Char} {ts : List Token} {column : Nat} {indents : List Nat}
    (gap : startsWithGap rest = true)
    (ready : m.Ready (scalarChars (column + 2) k ++ ':' :: rest) ts indents column) :
    ∃ l place, LeadsAt m l ∧
      l.Marked place rest ts (scalarToken k) indents column (scalarChars 0 k).length := by
  obtain ⟨c, cs, eq, visible, read⟩ :=
    readAs_scalar written.toLegible (Nat.succ_pos (column + 1))
  obtain ⟨advances, same⟩ := scalarChars_simpleKey written simple (column + 2)
  obtain ⟨⟨place, tokens, count, open_⟩, keys, allowed, rfl⟩ := ready
  have next := m.spot.skipTo_inline place advances
  have mark : m.readMark (some (scalarToken k, ':' :: rest)) =
      some ⟨m.spot.skipTo (':' :: rest), scalarToken k :: m.tokens, m.count + 1, m.indents,
        [some ⟨m.count, m.indents.head? == some m.spot.column, m.spot.index, m.spot.line,
          m.spot.column⟩], false⟩ := by
    simp [readMark, saveKey, allowed, dropKey, keys, inFlow, allowKey, advanceTo, emit]
  have ends := endsPlain_colon m.leastIndent gap
  rw [next] at mark
  rw [eq] at place
  rw [← read m (':' :: rest) (inFlow_of_keys keys) place (.inl rfl) ends] at mark
  refine ⟨_, _, .of_readToken place mark (by simp [place]), ⟨rfl, ?_, ?_, open_⟩, rfl, rfl, count,
    rfl, rfl, ?_, ?_⟩
  · simp [tokens]
  · simp [count]
  · rw [same]
  · rw [same]

/-- The colon behind the token that a key may have started with: the key was one. -/
theorem readValue_key {l : Layout} {place : KeyPlace} {token : Token} {before : List Token}
    (keys : l.keys = [some place]) (tokens : l.tokens = token :: before)
    (count : l.count = place.tokens + 1) : l.readValue = some (
      if l.isDeeper place.column then
        ⟨l.spot.skip 1, .value :: token :: .key :: .blockMappingStart :: before, l.count + 3,
          place.column :: l.indents, [none], false⟩
      else ⟨l.spot.skip 1, .value :: token :: .key :: before, l.count + 2, l.indents, [none],
        false⟩) := by
  have newer : place.tokens + 1 - place.tokens = 1 := by omega
  have deeper : ({ l with keys := [none] } : Layout).isDeeper place.column =
      l.isDeeper place.column := rfl
  simp only [readValue, keys, deeper]
  cases l.isDeeper place.column <;>
    simp [inFlow, insert, tokens, count, newer, allowKey, advance, emit]

theorem readToken_colon (l : Layout) {rest : List Char} (gap : startsWithGap rest = true) :
    l.readToken ':' rest = l.readValue := by
  simp [readToken, startsMarker_of_gap gap, gap]

/-- A key that is not too long is recognised at its colon. -/
theorem Marked.leads {l : Layout} {place : KeyPlace} {rest : List Char} {ts opening : List Token}
    {token : Token} {outer indents : List Nat} {column length : Nat}
    (marked : l.Marked place rest ts token indents column length) (short : length ≤ keyLimit)
    (gap : startsWithGap rest = true)
    (opens : Opens column outer indents .blockMappingStart opening) :
    ∃ l', Leads l l' ∧ l'.Behind rest (ts ++ opening ++ [.key, token, .value]) column outer
      false := by
  obtain ⟨⟨left, tokens, count, open_⟩, keys, allowed, before, rfl, line, index, here⟩ := marked
  -- The key is on this line and near, and its block stands no further right than the colon.
  have arrives : l.Arrives l := by
    refine prepare_visible (by decide) left ?_ (.inr ?_)
    · intro other member
      cases List.mem_singleton.mp (keys ▸ member)
      exact ⟨line, by omega⟩
    · intro i head
      rw [open_] at head
      rcases opens with ⟨rfl, inner, -⟩ | ⟨rfl, -⟩
      · have below := inner i head
        omega
      · cases head
        omega
  have next := Spot.skip_advances (by decide) left
  have leads {l' : Layout} (read : l.readValue = some l') (spot : l'.spot = l.spot.skip 1) :
      Leads l l' := by
    refine arrives.leads (.of_readToken left ((l.readToken_colon gap).trans read) ?_)
    simp [spot, next, left]
  have top : l.tokens = token :: ts.reverse := by simp [tokens]
  have value := readValue_key keys top (by simp [count, before])
  have after {l' : Layout} (spot : l'.spot = l.spot.skip 1) :
      l'.spot.rest = rest ∧ place.column < l'.spot.column := by
    rw [spot, next]
    exact ⟨rfl, by dsimp only; omega⟩
  rcases opens.isDeeper open_ with ⟨deeper, same, rfl⟩ | ⟨level, rfl, rfl⟩
  · rw [if_pos deeper] at value
    refine ⟨_, leads value rfl, ⟨(after rfl).1, ?_, ?_, open_ ▸ same⟩, rfl, rfl, (after rfl).2, ?_⟩
    · simp
    · simp [count]
    · simp
  · rw [if_neg (by simpa using level)] at value
    refine ⟨_, leads value rfl, ⟨(after rfl).1, ?_, ?_, open_⟩, rfl, rfl, (after rfl).2, ?_⟩
    · simp
    · simp [count]
    · simp

/-- A key in front of its colon. -/
theorem leads_simpleKey {k : Scalar} (legible : LegibleKey k) (simple : isSimpleKey k = true)
    {m : Layout} {rest : List Char} {ts opening : List Token} {column : Nat}
    {outer indents : List Nat} (gap : startsWithGap rest = true)
    (ready : m.Ready (scalarChars (column + 2) k ++ ':' :: rest) ts indents column)
    (opens : Opens column outer indents .blockMappingStart opening) :
    ∃ l, LeadsAt m l ∧
      l.Behind rest (ts ++ opening ++ [.key, scalarToken k, .value]) column outer false := by
  obtain ⟨l, place, first, marked⟩ := leads_marked legible.toTextKey simple gap ready
  obtain ⟨l', further, behind⟩ := marked.leads (legible.recognised simple) gap opens
  exact ⟨l', first.trans further, behind⟩

/-- A key with its indicators. -/
theorem leads_key {k : Scalar} (legible : LegibleKey k) {m : Layout} {rest : List Char}
    {ts opening : List Token} {column : Nat} {outer indents : List Nat}
    (gap : startsWithGap rest = true)
    (ready : m.Ready (keyChars column k ++ rest) ts indents column)
    (opens : Opens column outer indents .blockMappingStart opening) :
    ∃ l, LeadsAt m l ∧ l.Behind rest (ts ++ opening ++ [.key, scalarToken k, .value]) column outer
      (!isSimpleKey k) := by
  cases simple : isSimpleKey k with
  | true =>
    rw [keyChars, if_pos simple, List.append_assoc] at ready
    exact leads_simpleKey legible simple gap ready opens
  | false =>
    -- An indicator, the key on its line, and the colon at the column of the block on the next one.
    have text : keyChars column k ++ rest =
        '?' :: (' ' :: scalarChars (column + 2) k ++ (newline column ++ ':' :: rest)) := by
      simp [keyChars, simple]
    rw [text] at ready
    obtain ⟨l, leads, behind⟩ := ready.indicator .key rfl opens
    have visible : IsVisible ':' := by decide
    obtain ⟨l', further, reached⟩ :=
      leads_scalar legible.toLegible (.inr ⟨column, ':', rest, rfl, le_rfl, visible⟩) behind
    obtain ⟨m', arrives, ready'⟩ := reached.arrives (skipGaps_visible visible rest) le_rfl (by simp)
    obtain ⟨l'', value, behind'⟩ := ready'.indicator .value gap (.inr ⟨rfl, rfl⟩)
    exact ⟨l'', leads.trans (further.trans (arrives.leads value)), by simpa using behind'⟩

end Layout
end GatewayFlow.Yaml
