import GatewayFlow.Proofs.YamlPlain
import GatewayFlow.Proofs.YamlQuoted

/-!
# Reading the layout

What one token of a written text does to the state of the layout. Between two tokens the state is
known but for keys that may still be recognised and blocks whose end shows only at the next line:
`Reached` counts their ends as read. The indicator of a block part is read at the column of its
block, and opens the block where it is the first.
-/
namespace GatewayFlow.Yaml

/-! ### Places -/

namespace Spot

theorem skip_append (s : Spot) {cs rest : List Char} (eq : s.rest = cs ++ rest) :
    (s.skip cs.length).rest = rest ∧ s.line ≤ (s.skip cs.length).line := by
  induction cs generalizing s with
  | nil => exact ⟨eq, le_rfl⟩
  | cons c cs ih =>
    have next : s.skip (c :: cs).length = (s.after c (cs ++ rest)).skip cs.length := by
      rw [List.length_cons, skip, eq]
      rfl
    have line : s.line ≤ (s.after c (cs ++ rest)).line := by
      rw [after]
      split <;> simp
    obtain ⟨left, later⟩ := ih (s.after c (cs ++ rest)) (by rw [after]; split <;> rfl)
    rw [next]
    exact ⟨left, line.trans later⟩

theorem skipTo_append (s : Spot) {cs rest : List Char} (eq : s.rest = cs ++ rest) :
    (s.skipTo rest).rest = rest ∧ s.line ≤ (s.skipTo rest).line := by
  have length : s.rest.length - rest.length = cs.length := by
    rw [eq, List.length_append]
    omega
  rw [skipTo, length]
  exact s.skip_append eq

/-- Characters that move on within a line, one column each. -/
def Advances (c : Char) : Prop :=
  isBreak c = false ∧ c ≠ '\r' ∧ c ≠ '\ufeff'

instance (c : Char) : Decidable (Advances c) :=
  inferInstanceAs (Decidable (_ ∧ _))

theorem skip_advances {s : Spot} {c : Char} {cs : List Char} (advances : Advances c)
    (rest : s.rest = c :: cs) : s.skip 1 = ⟨cs, s.index + 1, s.line, s.column + 1⟩ := by
  obtain ⟨noBreak, noReturn, noMark⟩ := advances
  simp [skip, rest, after, noBreak, noReturn, noMark]

theorem skipTo_inline (s : Spot) {cs rest : List Char} (eq : s.rest = cs ++ rest)
    (inline : ∀ c ∈ cs, Advances c) :
    s.skipTo rest = ⟨rest, s.index + cs.length, s.line, s.column + cs.length⟩ := by
  have length : s.rest.length - rest.length = cs.length := by
    rw [eq, List.length_append]
    omega
  rw [skipTo, length]
  -- By induction on the characters, each of which is one column.
  clear length
  induction cs generalizing s with
  | nil =>
    obtain ⟨left, index, line, column⟩ := s
    cases eq
    rfl
  | cons c cs ih =>
    obtain ⟨⟨noBreak, noReturn, noMark⟩, later⟩ := List.forall_mem_cons.mp inline
    have next : s.after c (cs ++ rest) = ⟨cs ++ rest, s.index + 1, s.line, s.column + 1⟩ := by
      simp [after, noBreak, noReturn, noMark]
    rw [List.length_cons, skip, eq]
    dsimp only [List.cons_append]
    rw [next, ih _ rfl later]
    simp [Nat.add_assoc, Nat.add_comm 1]

/-- A newline and the indentation behind it. -/
theorem skipTo_newline (s : Spot) {n : Nat} {rest : List Char} (eq : s.rest = newline n ++ rest) :
    s.skipTo rest = ⟨rest, s.index + 1 + n, s.line + 1, n⟩ := by
  have blanks : ∀ c ∈ List.replicate n ' ', Advances c := fun c member => by
    rw [List.eq_of_mem_replicate member]
    exact ⟨rfl, by decide, by decide⟩
  have next := skipTo_inline ⟨List.replicate n ' ' ++ rest, s.index + 1, s.line + 1, 0⟩ rfl blanks
  have length : s.rest.length - rest.length = n + 1 := by
    rw [eq, newline, List.length_append, List.length_cons, List.length_replicate]
    omega
  have behind : (List.replicate n ' ' ++ rest).length - rest.length = n := by simp
  rw [skipTo, behind] at next
  rw [skipTo, length, skip, eq, newline]
  dsimp only [List.cons_append]
  rw [show s.after '\n' (List.replicate n ' ' ++ rest) =
    ⟨List.replicate n ' ' ++ rest, s.index + 1, s.line + 1, 0⟩ from rfl, next]
  simp

end Spot

/-! ### States -/

namespace Layout

/-- What of the text and its tokens is behind a place. -/
structure Between (l : Layout) (rest : List Char) (done : List Token) (indents : List Nat) :
    Prop where
  rest : l.spot.rest = rest
  tokens : l.tokens = done.reverse
  count : l.count = done.length
  indents : l.indents = indents

/-- A key may have started on this line or before, but none has to. -/
def Loose (l : Layout) : Prop :=
  ∃ place?, l.keys = [place?] ∧ ∀ place ∈ place?, place.required = false ∧ place.line ≤ l.spot.line

/-- The tokens `ts` are read, counting the ends of the blocks that stand further right than
`indent` and are still open. -/
def Reached (l : Layout) (rest : List Char) (ts : List Token) (indent : Nat)
    (indents : List Nat) : Prop :=
  ∃ done columns, l.Between rest done (columns ++ indents) ∧ (∀ i ∈ columns, indent < i) ∧
    ts = done ++ List.replicate columns.length .blockEnd ∧ l.Loose

/-- At the first character of a part of a block, where a key may start. -/
structure Ready (l : Layout) (rest : List Char) (ts : List Token) (indents : List Nat)
    (column : Nat) : Prop extends l.Between rest ts indents where
  keys : l.keys = [none]
  keyAllowed : l.keyAllowed = true
  column : l.spot.column = column

/-- Behind an indicator of the block at `indent`: alone on its line so far, or behind a key on the
same line. -/
structure Behind (l : Layout) (rest : List Char) (ts : List Token) (indent : Nat)
    (outer : List Nat) (alone : Bool) : Prop extends l.Between rest ts (indent :: outer) where
  keys : l.keys = [none]
  keyAllowed : l.keyAllowed = alone
  inside : indent < l.spot.column
  next : alone = true → l.spot.column = indent + 1

/-- What follows a value in the block at `indent`: the end, or a line that stands no further
right. -/
def Follows (indent : Nat) (rest : List Char) : Prop :=
  rest = ['\n'] ∨ ∃ n c cs, rest = newline n ++ c :: cs ∧ n ≤ indent ∧ IsVisible c

theorem Follows.mono {indent deeper : Nat} {rest : List Char} (follows : Follows indent rest)
    (le : indent ≤ deeper) : Follows deeper rest := by
  rcases follows with last | ⟨n, c, cs, eq, left, visible⟩
  · exact .inl last
  · exact .inr ⟨n, c, cs, eq, left.trans le, visible⟩

/-- The end of a block that nothing further belongs to. -/
theorem Reached.close {l : Layout} {rest : List Char} {ts : List Token} {column indent : Nat}
    {outer : List Nat} (reached : l.Reached rest ts column (column :: outer))
    (deeper : indent < column) : l.Reached rest (ts ++ [.blockEnd]) indent outer := by
  obtain ⟨done, columns, between, deep, rfl, loose⟩ := reached
  refine ⟨done, columns ++ [column], by simpa using between, ?_, ?_, loose⟩
  · intro i member
    rcases List.mem_append.mp member with inner | here
    · exact deeper.trans (deep i inner)
    · exact List.mem_singleton.mp here ▸ deeper
  · simp [List.replicate_add]

/-! ### Steps -/

/-- The state at the next token. -/
def prepare (l : Layout) : Option Layout :=
  l.toNext.dropStaleKeys.map unwind

/-- Going on to the next token changes the state so. -/
def Arrives (l m : Layout) : Prop :=
  l.prepare = some m ∧ m.spot.rest.length ≤ l.spot.rest.length

/-- The tokens from a state that stands at the next one. -/
def runAt (fuel : Nat) (l : Layout) : Option (List Token) :=
  match l.spot.rest with
  | [] => (l.unwindAll.dropKey).map fun l => l.tokens.reverse
  | c :: cs => (l.readToken c cs).bind (run fuel)

theorem run_succ (fuel : Nat) (l : Layout) :
    run (fuel + 1) l = l.prepare.bind (runAt fuel) := by
  rw [run, prepare]
  cases l.toNext.dropStaleKeys with
  | none => rfl
  | some l =>
    simp only [Option.bind_eq_bind, Option.bind_some, Option.map_some, runAt]
    cases l.unwind.spot.rest with
    | nil => exact Option.map_eq_bind.symm
    | cons c cs => rfl

/-- The tokens from one state on are those from another, which some steps lead to. -/
def Leads (l l' : Layout) : Prop :=
  ∃ n, n + l'.spot.rest.length ≤ l.spot.rest.length ∧ ∀ fuel, run (fuel + n) l = run fuel l'

/-- The same from a state that stands at a token. -/
def LeadsAt (l l' : Layout) : Prop :=
  ∃ n, n + 1 + l'.spot.rest.length ≤ l.spot.rest.length ∧
    ∀ fuel, runAt (fuel + n) l = run fuel l'

theorem Leads.refl (l : Layout) : Leads l l :=
  ⟨0, by omega, fun _ => rfl⟩

theorem Leads.trans {l l' l'' : Layout} (first : Leads l l') (second : Leads l' l'') :
    Leads l l'' := by
  obtain ⟨n, enough, run⟩ := first
  obtain ⟨k, further, run'⟩ := second
  refine ⟨k + n, by omega, fun fuel => ?_⟩
  rw [← Nat.add_assoc, run, run']

theorem LeadsAt.trans {l l' l'' : Layout} (first : LeadsAt l l') (second : Leads l' l'') :
    LeadsAt l l'' := by
  obtain ⟨n, enough, run⟩ := first
  obtain ⟨k, further, run'⟩ := second
  refine ⟨k + n, by omega, fun fuel => ?_⟩
  rw [← Nat.add_assoc, run, run']

theorem LeadsAt.of_readToken {l l' : Layout} {c : Char} {cs : List Char}
    (rest : l.spot.rest = c :: cs) (read : l.readToken c cs = some l')
    (shorter : l'.spot.rest.length < l.spot.rest.length) : LeadsAt l l' := by
  refine ⟨0, by omega, fun fuel => ?_⟩
  rw [runAt, rest]
  dsimp only
  rw [read]
  rfl

theorem Arrives.leads {l m l' : Layout} (arrives : l.Arrives m) (leads : LeadsAt m l') :
    Leads l l' := by
  obtain ⟨prepare, shorter⟩ := arrives
  obtain ⟨n, enough, run⟩ := leads
  refine ⟨n + 1, by omega, fun fuel => ?_⟩
  rw [← Nat.add_assoc, run_succ, prepare, Option.bind_some, run]

/-! ### Going on to the next token -/

theorem inFlow_of_keys {l : Layout} {place? : Option KeyPlace} (keys : l.keys = [place?]) :
    l.inFlow = false := by
  simp [inFlow, keys]

theorem closing_append {column : Nat} {columns indents : List Nat}
    (deep : ∀ i ∈ columns, column < i) (outer : ∀ i ∈ indents.head?, i ≤ column) :
    closing column (columns ++ indents) = (indents, columns.length) := by
  -- The columns in front close one by one, until `indents` starts, where none does.
  induction columns with
  | nil =>
    cases indents with
    | nil => rfl
    | cons i rest =>
      have le : i ≤ column := outer i rfl
      simp [closing, not_lt.mpr le]
  | cons i columns ih =>
    obtain ⟨here, later⟩ := List.forall_mem_cons.mp deep
    simp [closing, here, ih later]

theorem skipGaps_visible {c : Char} (visible : IsVisible c) (cs : List Char) :
    skipGaps false (c :: cs) = (false, c :: cs) := by
  obtain ⟨noBlank, noComment, -, noEnd⟩ := visible
  simp [skipGaps, noBlank, noComment, noEnd]

theorem skipGaps_blank (cs : List Char) : skipGaps false (' ' :: cs) = skipGaps false cs := by
  simp [skipGaps, isLineEnd, isBreak]

/-- The next token or the end stands in front of these characters. -/
def NoGap (rest : List Char) : Prop :=
  skipGaps false rest = (false, rest)

theorem skipGaps_newline (n : Nat) {rest : List Char} (noGap : NoGap rest) :
    skipGaps false (newline n ++ rest) = (true, rest) := by
  have blanks (n : Nat) : skipGaps false (List.replicate n ' ' ++ rest) = (false, rest) := by
    induction n with
    | zero => exact noGap
    | succ n ih => rw [List.replicate_succ, List.cons_append, skipGaps_blank, ih]
  rw [newline, List.cons_append, skipGaps, blanks]
  rfl

/-- On a new line loose keys are given up. -/
theorem dropStaleKeys_loose {l : Layout} {place? : Option KeyPlace} (keys : l.keys = [place?])
    (loose : ∀ place ∈ place?, place.required = false ∧ place.line < l.spot.line) :
    l.dropStaleKeys = some { l with keys := [none] } := by
  cases place? with
  | none => simp [dropStaleKeys, keys]
  | some place =>
    obtain ⟨optional, before⟩ := loose place rfl
    have stale : place.line ≠ l.spot.line := by omega
    simp [dropStaleKeys, keys, stale, optional]

/-- At the next line, whose column decides which blocks have ended. -/
theorem prepare_newline {l : Layout} {n : Nat} {rest : List Char} {done : List Token}
    {columns indents : List Nat} (noGap : NoGap rest)
    (between : l.Between (newline n ++ rest) done (columns ++ indents)) (loose : l.Loose)
    (deep : ∀ i ∈ columns, n < i) (outer : ∀ i ∈ indents.head?, i ≤ n) :
    ∃ m, l.Arrives m ∧
      m.Ready rest (done ++ List.replicate columns.length .blockEnd) indents n := by
  obtain ⟨place, tokens, count, open_⟩ := between
  obtain ⟨place?, keys, loose⟩ := loose
  -- First the place moves to the next line, where a key may start.
  have toNext : l.toNext = { l with
      spot := ⟨rest, l.spot.index + 1 + n, l.spot.line + 1, n⟩
      keyAllowed := true } := by
    simp [Layout.toNext, place, skipGaps_newline n noGap, advanceTo, l.spot.skipTo_newline place,
      inFlow_of_keys keys]
  -- Then the key that may have started before is given up, and last the blocks further right end.
  have drop : l.toNext.dropStaleKeys = some { l.toNext with keys := [none] } := by
    have same : l.toNext.keys = [place?] := by rw [toNext, keys]
    refine dropStaleKeys_loose same fun place member => ?_
    rw [toNext]
    exact ⟨(loose place member).1, Nat.lt_succ_of_le (loose place member).2⟩
  have closed := closing_append deep outer
  have unwind : ({ l.toNext with keys := [none] } : Layout).unwind =
      ({ l.toNext with keys := [none] } : Layout).closeBlocks (indents, columns.length) := by
    rw [Layout.unwind, inFlow_of_keys rfl, if_neg Bool.false_ne_true, toNext, open_]
    exact congrArg _ closed
  have prepared : l.prepare = some ⟨⟨rest, l.spot.index + 1 + n, l.spot.line + 1, n⟩,
      List.replicate columns.length .blockEnd ++ l.tokens, l.count + columns.length, indents,
      [none], true⟩ := by
    rw [prepare, drop, Option.map_some, unwind, toNext]
    rfl
  exact ⟨_, ⟨prepared, by simp [place]⟩, ⟨rfl, by simp [tokens], by simp [count], rfl⟩, rfl, rfl,
    rfl⟩

theorem toNext_visible {l : Layout} {c : Char} {cs : List Char} (visible : IsVisible c)
    (rest : l.spot.rest = c :: cs) : l.toNext = l := by
  simp [Layout.toNext, rest, skipGaps_visible visible, advanceTo, Spot.skipTo, Spot.skip]

/-- Where no key is given up and no block ends, a state at a token is the one it prepares. -/
theorem prepare_visible {l : Layout} {c : Char} {cs : List Char} (visible : IsVisible c)
    (rest : l.spot.rest = c :: cs)
    (fresh : ∀ place, some place ∈ l.keys →
      place.line = l.spot.line ∧ l.spot.index - place.index ≤ keyLimit)
    (stays : l.inFlow = true ∨ ∀ i ∈ l.indents.head?, i ≤ l.spot.column) : l.Arrives l := by
  have notStale : ∀ place, some place ∈ l.keys →
      (place.line != l.spot.line || keyLimit < l.spot.index - place.index) = false := by
    intro place member
    obtain ⟨line, near⟩ := fresh place member
    simp [line, not_lt.mpr near]
  have drop : l.dropStaleKeys = some l := by
    have stale : (l.keys.filterMap id).filter (fun place =>
        place.line != l.spot.line || keyLimit < l.spot.index - place.index) = [] := by
      rw [List.filter_eq_nil_iff]
      intro place member
      rw [List.mem_filterMap] at member
      obtain ⟨_, there, rfl⟩ := member
      simp [notStale place there]
    have kept : l.keys.map (fun place? => place?.filter fun place =>
        !(place.line != l.spot.line || keyLimit < l.spot.index - place.index)) = l.keys := by
      rw [List.map_congr_left (g := id), List.map_id]
      intro place? member
      cases place? with
      | none => rfl
      | some place => simp [Option.filter, notStale place member]
    rw [dropStaleKeys, stale, kept]
    rfl
  have unwind : l.unwind = l := by
    rcases stays with inFlow | above
    · rw [Layout.unwind, if_pos inFlow]
    · rw [Layout.unwind]
      split
      · rfl
      · have closed : closing l.spot.column ([] ++ l.indents) = _ := closing_append (by simp) above
        rw [List.nil_append] at closed
        rw [closed]
        rfl
  exact ⟨by rw [prepare, toNext_visible visible rest, drop, Option.map_some, unwind], le_rfl⟩

/-- At a token one blank further on the line. -/
theorem prepare_blank {l : Layout} {c : Char} {cs : List Char} {ts : List Token} {indent : Nat}
    {outer : List Nat} {alone : Bool} (visible : IsVisible c)
    (behind : l.Behind (' ' :: c :: cs) ts indent outer alone) :
    ∃ m, l.Arrives m ∧ m.Between (c :: cs) ts (indent :: outer) ∧ m.keys = [none] ∧
      m.keyAllowed = alone ∧ m.spot.column = l.spot.column + 1 := by
  obtain ⟨⟨rest, tokens, count, open_⟩, keys, allowed, inside, -⟩ := behind
  have blank : ∀ d ∈ [' '], Spot.Advances d := by
    simp only [List.mem_singleton, forall_eq]
    decide
  have next : l.spot.skipTo (c :: cs) = _ :=
    l.spot.skipTo_inline (show _ = [' '] ++ _ from rest) blank
  have toNext : l.toNext = { l with
      spot := ⟨c :: cs, l.spot.index + 1, l.spot.line, l.spot.column + 1⟩ } := by
    simp [Layout.toNext, rest, skipGaps_blank, skipGaps_visible visible, advanceTo, next]
  -- Past the blank the state is one at a token, where nothing more is prepared.
  have arrives : l.toNext.Arrives l.toNext := by
    rw [toNext]
    refine prepare_visible visible rfl (by simp [keys]) (.inr ?_)
    simp [open_]
    omega
  have again : l.toNext.toNext = l.toNext := toNext_visible visible (by rw [toNext])
  refine ⟨l.toNext, ⟨?_, ?_⟩, ?_⟩
  · rw [← arrives.1, prepare, prepare, again]
  · simp [toNext, rest]
  · rw [toNext]
    exact ⟨⟨rfl, tokens, count, open_⟩, keys, allowed, rfl⟩

theorem Reached.arrives {l : Layout} {n : Nat} {rest : List Char} {ts : List Token}
    {indent : Nat} {indents : List Nat} (noGap : NoGap rest)
    (reached : l.Reached (newline n ++ rest) ts indent indents) (le : n ≤ indent)
    (outer : ∀ i ∈ indents.head?, i ≤ n) : ∃ m, l.Arrives m ∧ m.Ready rest ts indents n := by
  obtain ⟨done, columns, between, deep, rfl, loose⟩ := reached
  exact prepare_newline noGap between loose (fun i member => le.trans_lt (deep i member)) outer

/-- What stands between an indicator and the first part of a block. -/
def blockGap (indent : Nat) (compact : Bool) : List Char :=
  if compact then [' '] else newline (indent + 2)

/-- The first part of a block stands two columns further right than what it belongs to. -/
theorem Behind.arrives {l : Layout} {c : Char} {cs : List Char} {ts : List Token} {indent : Nat}
    {outer : List Nat} {compact : Bool} (visible : IsVisible c)
    (behind : l.Behind (blockGap indent compact ++ c :: cs) ts indent outer compact) :
    ∃ m, l.Arrives m ∧ m.Ready (c :: cs) ts (indent :: outer) (indent + 2) := by
  cases compact with
  | true =>
    obtain ⟨m, arrives, between, keys, allowed, column⟩ := prepare_blank visible behind
    exact ⟨m, arrives, between, keys, allowed, by rw [column, behind.next rfl]⟩
  | false =>
    have between : l.Between (newline (indent + 2) ++ c :: cs) ts ([] ++ indent :: outer) :=
      behind.toBetween
    have loose : l.Loose := ⟨none, behind.keys, by simp⟩
    obtain ⟨m, arrives, ready⟩ :=
      prepare_newline (skipGaps_visible visible cs) between loose (by simp) (by simp)
    exact ⟨m, arrives, by simpa using ready⟩

/-! ### Indicators -/

/-- A part of a block at `column`: the first one opens the block, inside those at `outer`. -/
def Opens (column : Nat) (outer indents : List Nat) (start : Token) (opening : List Token) : Prop :=
  (indents = outer ∧ (∀ i ∈ outer.head?, i < column) ∧ opening = [start]) ∨
    (indents = column :: outer ∧ opening = [])

theorem Opens.isDeeper {l : Layout} {column : Nat} {outer indents : List Nat} {start : Token}
    {opening : List Token} (opens : Opens column outer indents start opening)
    (open_ : l.indents = indents) :
    (l.isDeeper column = true ∧ column :: indents = column :: outer ∧ opening = [start]) ∨
      (l.isDeeper column = false ∧ indents = column :: outer ∧ opening = []) := by
  rcases opens with ⟨rfl, inner, rfl⟩ | ⟨rfl, rfl⟩
  · refine .inl ⟨?_, rfl, rfl⟩
    rw [Layout.isDeeper, open_]
    cases indents with
    | nil => rfl
    | cons i more => simpa using inner
  · refine .inr ⟨?_, rfl, rfl⟩
    simp [Layout.isDeeper, open_]

/-- An indicator at the place of a block part. -/
theorem readEntry_ready {m : Layout} {c : Char} {cs : List Char} {ts opening : List Token}
    {column : Nat} {outer indents : List Nat} {start entry : Token} (advances : Spot.Advances c)
    (ready : m.Ready (c :: cs) ts indents column)
    (opens : Opens column outer indents start opening) :
    ∃ l, m.readEntry start entry true = some l ∧
      l.Behind cs (ts ++ opening ++ [entry]) column outer true := by
  obtain ⟨⟨rest, tokens, count, open_⟩, keys, allowed, rfl⟩ := ready
  have next := Spot.skip_advances advances rest
  -- The first part of a block stands further right than the blocks around it and opens one.
  rcases opens.isDeeper open_ with ⟨deeper, same, rfl⟩ | ⟨level, rfl, rfl⟩
  · have read : m.readEntry start entry true =
        some ⟨m.spot.skip 1, entry :: start :: m.tokens, m.count + 1 + 1,
          m.spot.column :: m.indents, [none], true⟩ := by
      simp [readEntry, inFlow_of_keys keys, allowed, openBlock, deeper, dropKey, emit, keys,
        advance, allowKey]
    refine ⟨_, read, ⟨by rw [next], by simp [tokens], by simp [count], open_ ▸ same⟩, rfl, rfl,
      ?_, ?_⟩ <;> simp [next]
  · have read : m.readEntry start entry true =
        some ⟨m.spot.skip 1, entry :: m.tokens, m.count + 1, m.indents, [none], true⟩ := by
      simp [readEntry, inFlow_of_keys keys, allowed, openBlock, level, dropKey, emit, keys,
        advance, allowKey]
    refine ⟨_, read, ⟨by rw [next], by simp [tokens], by simp [count], open_⟩, rfl, rfl,
      ?_, ?_⟩ <;> simp [next]

theorem startsMarker_of_gap {c : Char} {cs : List Char} (gap : startsWithGap cs = true) :
    startsMarker (c :: cs) = false := by
  have hyphen : isGap '-' = false := by decide
  have point : isGap '.' = false := by decide
  cases cs with
  | nil => simp [startsMarker]
  | cons d cs =>
    have isGap : isGap d = true := gap
    have apart : d ≠ '-' ∧ d ≠ '.' := by
      refine ⟨?_, ?_⟩ <;> rintro rfl <;> simp_all
    simp [startsMarker, apart]

/-- The indicators of block parts. -/
inductive Indicates : Char → Token → Token → Prop
  | item : Indicates '-' .blockSequenceStart .blockEntry
  | key : Indicates '?' .blockMappingStart .key
  | value : Indicates ':' .blockMappingStart .value

theorem Ready.indicator {m : Layout} {c : Char} {cs : List Char} {ts opening : List Token}
    {column : Nat} {outer indents : List Nat} {start entry : Token}
    (indicates : Indicates c start entry) (gap : startsWithGap cs = true)
    (ready : m.Ready (c :: cs) ts indents column)
    (opens : Opens column outer indents start opening) :
    ∃ l, LeadsAt m l ∧ l.Behind cs (ts ++ opening ++ [entry]) column outer true := by
  have advances : Spot.Advances c := by
    cases indicates <;> decide
  obtain ⟨l, read, behind⟩ : ∃ l, m.readEntry start entry true = some l ∧ _ :=
    readEntry_ready advances ready opens
  have inFlow := inFlow_of_keys ready.keys
  have token : m.readToken c cs = some l := by
    rw [← read]
    cases indicates <;>
      simp [readToken, startsMarker_of_gap gap, gap, inFlow, readValue, ready.keys]
  refine ⟨l, .of_readToken ready.rest token ?_, behind⟩
  rw [behind.rest, ready.rest]
  exact Nat.lt_succ_self _

end Layout
end GatewayFlow.Yaml
