import GatewayFlow.Proofs.YamlLines
import GatewayFlow.Proofs.YamlTokens

/-!
# The tokens of a written value

A written value is read as the tokens of its scalars, the indicators of its parts, and the starts
and ends of its blocks, which only the indentation shows.
-/
namespace GatewayFlow.Yaml

mutual

def valueTokens : Value → List Token
  | .scalar s => [scalarToken s]
  | .list [] => [.flowSequenceStart, .flowSequenceEnd]
  | .list (v :: rest) => .blockSequenceStart :: itemsTokens (v :: rest) ++ [.blockEnd]
  | .mapping [] => [.flowMappingStart, .flowMappingEnd]
  | .mapping (e :: rest) => .blockMappingStart :: entriesTokens (e :: rest) ++ [.blockEnd]

def itemsTokens : List Value → List Token
  | [] => []
  | v :: rest => .blockEntry :: valueTokens v ++ itemsTokens rest

def entriesTokens : List (Scalar × Value) → List Token
  | [] => []
  | (k, v) :: rest => .key :: scalarToken k :: .value :: valueTokens v ++ entriesTokens rest

end

namespace Layout

/-! ### What follows an indicator -/

theorem startsWithGap_nodeChars (indent : Nat) (compact : Bool) (v : Value) (rest : List Char) :
    startsWithGap (nodeChars indent compact v ++ rest) = true := by
  cases v with
  | scalar s => rfl
  | list vs => cases vs <;> cases compact <;> rfl
  | mapping es => cases es <;> cases compact <;> rfl

theorem keyChars_visible {k : Scalar} (legible : Legible k) (column : Nat) :
    ∃ c cs, keyChars column k = c :: cs ∧ IsVisible c := by
  rw [keyChars]
  split
  · obtain ⟨c, cs, eq, visible, -⟩ := readAs_scalar legible (Nat.succ_pos (column + 1))
    exact ⟨c, cs ++ [':'], by rw [eq]; rfl, visible⟩
  · exact ⟨'?', _, rfl, by decide⟩

theorem Follows.items {column : Nat} {rest : List Char} (follows : Follows column rest)
    (vs : List Value) : Follows column (itemsChars column vs ++ rest) := by
  cases vs with
  | nil => exact follows
  | cons v vs =>
    rw [itemsChars, List.append_assoc, List.append_assoc]
    exact .inr ⟨column, '-', _, rfl, le_rfl, by decide⟩

theorem Follows.entries {column : Nat} {rest : List Char} (follows : Follows column rest)
    {es : Entries} (legible : ∀ e ∈ es, Legible e.1) :
    Follows column (entriesChars column es ++ rest) := by
  cases es with
  | nil => exact follows
  | cons e es =>
    obtain ⟨k, v⟩ := e
    obtain ⟨c, cs, eq, visible⟩ := keyChars_visible (legible _ List.mem_cons_self) column
    rw [entriesChars, eq, List.append_assoc, List.append_assoc, List.append_assoc]
    exact .inr ⟨column, c, _, rfl, le_rfl, visible⟩

/-- Behind an indicator, a value is read as its tokens. -/
def ReadsAs (v : Value) : Prop :=
  ∀ (l : Layout) (rest : List Char) (ts : List Token) (indent : Nat) (outer : List Nat)
    (compact : Bool), Follows indent rest →
      l.Behind (nodeChars indent compact v ++ rest) ts indent outer compact →
        ∃ l', Leads l l' ∧ l'.Reached rest (ts ++ valueTokens v) indent (indent :: outer)

/-! ### Parts of blocks -/

theorem Reached.arrives_item {l : Layout} {v : Value} {vs : List Value} {rest : List Char}
    {ts : List Token} {column : Nat} {outer : List Nat}
    (reached : l.Reached (itemsChars column (v :: vs) ++ rest) ts column (column :: outer)) :
    ∃ m, l.Arrives m ∧ m.Ready ('-' :: (nodeChars column true v ++ (itemsChars column vs ++ rest)))
      ts (column :: outer) column := by
  rw [itemsChars, List.append_assoc, List.append_assoc] at reached
  exact reached.arrives (skipGaps_visible (by decide) _) le_rfl (by simp)

theorem Behind.arrives_list {l : Layout} {v : Value} {vs : List Value} {rest : List Char}
    {ts : List Token} {indent : Nat} {outer : List Nat} {compact : Bool}
    (behind : l.Behind (nodeChars indent compact (.list (v :: vs)) ++ rest) ts indent outer
      compact) :
    ∃ m, l.Arrives m ∧ m.Ready
      ('-' :: (nodeChars (indent + 2) true v ++ (itemsChars (indent + 2) vs ++ rest))) ts
      (indent :: outer) (indent + 2) := by
  have text : nodeChars indent compact (.list (v :: vs)) ++ rest = blockGap indent compact ++
      '-' :: (nodeChars (indent + 2) true v ++ (itemsChars (indent + 2) vs ++ rest)) := by
    simp [nodeChars, blockGap]
  rw [text] at behind
  exact behind.arrives (by decide)

theorem Reached.arrives_entry {l : Layout} {k : Scalar} (legible : Legible k) {v : Value}
    {es : Entries} {rest : List Char} {ts : List Token} {column : Nat} {outer : List Nat}
    (reached : l.Reached (entriesChars column ((k, v) :: es) ++ rest) ts column
      (column :: outer)) :
    ∃ m, l.Arrives m ∧ m.Ready (keyChars column k ++ (nodeChars column (!isSimpleKey k) v ++
      (entriesChars column es ++ rest))) ts (column :: outer) column := by
  obtain ⟨c, cs, eq, visible⟩ := keyChars_visible legible column
  rw [entriesChars, List.append_assoc, List.append_assoc, List.append_assoc, eq] at reached
  rw [eq]
  exact reached.arrives (skipGaps_visible visible _) le_rfl (by simp)

theorem Behind.arrives_mapping {l : Layout} {k : Scalar} (legible : Legible k) {v : Value}
    {es : Entries} {rest : List Char} {ts : List Token} {indent : Nat} {outer : List Nat}
    {compact : Bool}
    (behind : l.Behind (nodeChars indent compact (.mapping ((k, v) :: es)) ++ rest) ts indent outer
      compact) :
    ∃ m, l.Arrives m ∧ m.Ready (keyChars (indent + 2) k ++
      (nodeChars (indent + 2) (!isSimpleKey k) v ++ (entriesChars (indent + 2) es ++ rest))) ts
      (indent :: outer) (indent + 2) := by
  obtain ⟨c, cs, eq, visible⟩ := keyChars_visible legible (indent + 2)
  have text : nodeChars indent compact (.mapping ((k, v) :: es)) ++ rest =
      blockGap indent compact ++ (keyChars (indent + 2) k ++
        (nodeChars (indent + 2) (!isSimpleKey k) v ++ (entriesChars (indent + 2) es ++ rest))) := by
    simp [nodeChars, blockGap]
  rw [text, eq] at behind
  rw [eq]
  exact behind.arrives visible

theorem leads_item {v : Value} (reads : ReadsAs v) {m : Layout} {rest : List Char}
    {ts opening : List Token} {column : Nat} {outer indents : List Nat}
    (follows : Follows column rest)
    (ready : m.Ready ('-' :: (nodeChars column true v ++ rest)) ts indents column)
    (opens : Opens column outer indents .blockSequenceStart opening) :
    ∃ l, LeadsAt m l ∧
      l.Reached rest (ts ++ opening ++ .blockEntry :: valueTokens v) column (column :: outer) := by
  obtain ⟨l, leads, behind⟩ := ready.indicator .item (startsWithGap_nodeChars column true v _) opens
  obtain ⟨l', further, reached⟩ := reads l rest _ column outer true follows behind
  exact ⟨l', leads.trans further, by simpa using reached⟩

theorem leads_items {vs : List Value} (each : ∀ v ∈ vs, ReadsAs v) {l : Layout}
    {rest : List Char} {ts : List Token} {column : Nat} {outer : List Nat}
    (follows : Follows column rest)
    (reached : l.Reached (itemsChars column vs ++ rest) ts column (column :: outer)) :
    ∃ l', Leads l l' ∧ l'.Reached rest (ts ++ itemsTokens vs) column (column :: outer) := by
  -- Between two items the block stands open, and only the blocks inside the first one have ended.
  induction vs generalizing l ts with
  | nil => exact ⟨l, .refl l, by simpa [itemsTokens, itemsChars] using reached⟩
  | cons v vs ih =>
    obtain ⟨here, later⟩ := List.forall_mem_cons.mp each
    obtain ⟨m, arrives, ready⟩ := reached.arrives_item
    obtain ⟨l', leads, reached⟩ := leads_item here (follows.items vs) ready (.inr ⟨rfl, rfl⟩)
    obtain ⟨l'', further, reached⟩ := ih later reached
    exact ⟨l'', (arrives.leads leads).trans further, by simpa [itemsTokens] using reached⟩

theorem leads_entry {k : Scalar} (legible : LegibleKey k) {v : Value} (reads : ReadsAs v)
    {m : Layout} {rest : List Char} {ts opening : List Token} {column : Nat}
    {outer indents : List Nat} (follows : Follows column rest)
    (ready : m.Ready (keyChars column k ++ (nodeChars column (!isSimpleKey k) v ++ rest)) ts
      indents column)
    (opens : Opens column outer indents .blockMappingStart opening) :
    ∃ l, LeadsAt m l ∧ l.Reached rest
      (ts ++ opening ++ .key :: scalarToken k :: .value :: valueTokens v) column
      (column :: outer) := by
  obtain ⟨l, leads, behind⟩ := leads_key legible (startsWithGap_nodeChars column _ v _) ready opens
  obtain ⟨l', further, reached⟩ := reads l rest _ column outer _ follows behind
  exact ⟨l', leads.trans further, by simpa using reached⟩

theorem leads_entries {es : Entries} (legible : ∀ e ∈ es, LegibleKey e.1)
    (each : ∀ e ∈ es, ReadsAs e.2) {l : Layout} {rest : List Char} {ts : List Token}
    {column : Nat} {outer : List Nat} (follows : Follows column rest)
    (reached : l.Reached (entriesChars column es ++ rest) ts column (column :: outer)) :
    ∃ l', Leads l l' ∧ l'.Reached rest (ts ++ entriesTokens es) column (column :: outer) := by
  induction es generalizing l ts with
  | nil => exact ⟨l, .refl l, by simpa [entriesTokens, entriesChars] using reached⟩
  | cons e es ih =>
    obtain ⟨k, v⟩ := e
    obtain ⟨key, keys⟩ := List.forall_mem_cons.mp legible
    obtain ⟨here, later⟩ := List.forall_mem_cons.mp each
    obtain ⟨m, arrives, ready⟩ := reached.arrives_entry key.toLegible
    have behind := follows.entries fun e member => (keys e member).toLegible
    obtain ⟨l', leads, reached⟩ := leads_entry key here behind ready (.inr ⟨rfl, rfl⟩)
    obtain ⟨l'', further, reached⟩ := ih keys later reached
    exact ⟨l'', (arrives.leads leads).trans further, by simpa [entriesTokens] using reached⟩

/-! ### Values -/

theorem readsAs_list {v : Value} {vs : List Value} (each : ∀ w ∈ v :: vs, ReadsAs w) :
    ReadsAs (.list (v :: vs)) := by
  intro l rest ts indent outer compact follows behind
  obtain ⟨here, later⟩ := List.forall_mem_cons.mp each
  have deeper := follows.mono (Nat.le_add_right indent 2)
  obtain ⟨m, arrives, ready⟩ := behind.arrives_list
  obtain ⟨l', leads, reached⟩ :=
    leads_item here (deeper.items vs) ready (.inl ⟨rfl, by simp, rfl⟩)
  obtain ⟨l'', further, reached⟩ := leads_items later deeper reached
  refine ⟨l'', (arrives.leads leads).trans further, ?_⟩
  simpa [valueTokens, itemsTokens] using reached.close (show indent < indent + 2 by omega)

theorem readsAs_mapping {k : Scalar} {v : Value} {es : Entries}
    (legible : ∀ e ∈ (k, v) :: es, LegibleKey e.1) (each : ∀ e ∈ (k, v) :: es, ReadsAs e.2) :
    ReadsAs (.mapping ((k, v) :: es)) := by
  intro l rest ts indent outer compact follows behind
  obtain ⟨key, keys⟩ := List.forall_mem_cons.mp legible
  obtain ⟨here, later⟩ := List.forall_mem_cons.mp each
  have deeper := follows.mono (Nat.le_add_right indent 2)
  obtain ⟨m, arrives, ready⟩ := behind.arrives_mapping key.toLegible
  obtain ⟨l', leads, reached⟩ := leads_entry key here
    (deeper.entries fun e member => (keys e member).toLegible) ready (.inl ⟨rfl, by simp, rfl⟩)
  obtain ⟨l'', further, reached⟩ := leads_entries keys later deeper reached
  refine ⟨l'', (arrives.leads leads).trans further, ?_⟩
  simpa [valueTokens, entriesTokens] using reached.close (show indent < indent + 2 by omega)

/-- Behind an indicator, legible data is read as its tokens. -/
theorem readsAs {v : Value} (legible : v.Throughout LegibleKey Legible) : ReadsAs v := by
  -- By induction on the data, whose parts stand behind indicators of their own.
  induction legible with
  | scalar here =>
    intro l rest ts indent outer compact follows behind
    exact leads_scalar here follows behind
  | @list vs items ih =>
    cases vs with
    | nil =>
      intro l rest ts indent outer compact follows behind
      exact leads_empty .list behind
    | cons v vs => exact readsAs_list ih
  | @mapping es keys values ih =>
    cases es with
    | nil =>
      intro l rest ts indent outer compact follows behind
      exact leads_empty .mapping behind
    | cons e es => exact readsAs_mapping keys ih

/-! ### Whole texts -/

/-- At the end of a text the outermost block ends. -/
theorem Reached.run {l : Layout} {ts : List Token} (reached : l.Reached ['\n'] ts 0 [0])
    (fuel : Nat) : Layout.run (fuel + 1) l = some (ts ++ [.blockEnd]) := by
  have text : ['\n'] = newline 0 ++ [] := rfl
  rw [text] at reached
  obtain ⟨m, ⟨prepared, -⟩, ⟨place, tokens, count, open_⟩, keys, -, -⟩ :=
    reached.arrives (show NoGap [] from rfl) le_rfl (by simp)
  rw [run_succ, prepared, Option.bind_some, runAt, place]
  simp [unwindAll, inFlow_of_keys keys, dropKey, closeBlocks, keys, tokens, open_]

/-- At the start of a text stands the first key of its outermost block. -/
theorem start_ready {k : Scalar} (legible : Legible k) {rest cs : List Char}
    (text : cs = keyChars 0 k ++ rest) : (Layout.start cs).Arrives (Layout.start cs) ∧
      (Layout.start cs).Ready (keyChars 0 k ++ rest) [] [] 0 := by
  obtain ⟨c, more, eq, visible⟩ := keyChars_visible legible 0
  have start : (Layout.start cs).spot = ⟨cs, 0, 0, 0⟩ := by
    have noMark : cs.head? ≠ some '\ufeff' := by
      rw [text, eq]
      simpa using visible.2.2.1
    simp [Layout.start, noMark]
  have place : (Layout.start cs).spot.rest = c :: (more ++ rest) := by
    rw [start, text, eq, List.cons_append]
  constructor
  · refine prepare_visible visible place ?_ (.inr ?_)
    · simp [Layout.start]
    · simp [Layout.start]
  · exact ⟨⟨by rw [start, ← text], rfl, rfl, rfl⟩, rfl, rfl, by rw [start]⟩

theorem documentChars_mapping (k : Scalar) (v : Value) (es : Entries) :
    documentChars (.mapping ((k, v) :: es)) ++ ['\n'] = keyChars 0 k ++
      (nodeChars 0 (!isSimpleKey k) v ++ (entriesChars 0 es ++ ['\n'])) := by
  simp [documentChars]

theorem run_documentChars {k : Scalar} {v : Value} {es : Entries}
    (legible : ∀ e ∈ (k, v) :: es, LegibleKey e.1)
    (values : ∀ e ∈ (k, v) :: es, e.2.Throughout LegibleKey Legible) {cs : List Char}
    (text : cs = documentChars (.mapping ((k, v) :: es)) ++ ['\n']) :
    Layout.run (cs.length + 2) (.start cs) = some (valueTokens (.mapping ((k, v) :: es))) := by
  obtain ⟨key, keys⟩ := List.forall_mem_cons.mp legible
  obtain ⟨here, later⟩ := List.forall_mem_cons.mp values
  have follows : Follows 0 ['\n'] := .inl rfl
  rw [documentChars_mapping] at text
  obtain ⟨arrives, ready⟩ := start_ready key.toLegible text
  obtain ⟨l, first, reached⟩ := leads_entry key (readsAs here)
    (follows.entries fun e member => (keys e member).toLegible) ready (.inl ⟨rfl, by simp, rfl⟩)
  obtain ⟨l', further, reached⟩ :=
    leads_entries keys (fun e member => readsAs (later e member)) follows reached
  obtain ⟨n, enough, run⟩ := (arrives.leads first).trans further
  -- What is left of the steps at the end are those for the last newline.
  have last : l'.spot.rest.length = 1 := by
    obtain ⟨_, _, between, -⟩ := id reached
    rw [between.rest, List.length_singleton]
  have length : (Layout.start cs).spot.rest.length = cs.length := by
    rw [ready.rest, ← text]
  have fuel : cs.length + 2 = cs.length + 1 - n + 1 + n := by omega
  rw [fuel, run, reached.run]
  simp [valueTokens, entriesTokens]

end Layout

/-! ### Characters of whole texts -/

theorem isReadable_newline (n : Nat) : ∀ c ∈ newline n, isReadable c = true := by
  refine List.forall_mem_cons.mpr ⟨rfl, fun c member => ?_⟩
  rw [List.eq_of_mem_replicate member]
  rfl

/-- A scalar that is written with characters which may stand in a YAML text. -/
def Readable (s : Scalar) : Prop :=
  ∀ n, ∀ c ∈ scalarChars n s, isReadable c = true

theorem isReadable_keyChars {k : Scalar} (readable : Readable k) (column : Nat) :
    ∀ c ∈ keyChars column k, isReadable c = true := by
  have colon : isReadable ':' = true := rfl
  have mark : isReadable '?' = true ∧ isReadable ' ' = true := ⟨rfl, rfl⟩
  rw [keyChars]
  split
  · exact List.forall_mem_append.mpr ⟨readable _, by simpa using colon⟩
  · simp only [List.cons_append, List.forall_mem_cons, List.forall_mem_append]
    exact ⟨mark.1, mark.2, ⟨readable _, isReadable_newline column⟩, by simpa using colon⟩

theorem isReadable_entriesChars {es : Entries} {column : Nat}
    (each : ∀ e ∈ es, ∀ c ∈ keyChars column e.1 ++ nodeChars column (!isSimpleKey e.1) e.2,
      isReadable c = true) : ∀ c ∈ entriesChars column es, isReadable c = true := by
  rw [entriesChars_eq]
  exact List.forall_mem_flatMap.mpr fun e member =>
    List.forall_mem_append.mpr ⟨isReadable_newline _, each e member⟩

theorem isReadable_nodeChars {v : Value} (readable : v.Throughout Readable Readable)
    (indent : Nat) (compact : Bool) : ∀ c ∈ nodeChars indent compact v, isReadable c = true := by
  have gap (indent : Nat) (compact : Bool) :
      ∀ c ∈ if compact then [' '] else newline (indent + 2), isReadable c = true := by
    split
    · simpa using show isReadable ' ' = true from rfl
    · exact isReadable_newline _
  -- By induction on the data: the layout adds only blanks, newlines and indicators.
  induction readable generalizing indent compact with
  | scalar here => exact List.forall_mem_cons.mpr ⟨rfl, here _⟩
  | @list vs items ih =>
    have item (v : Value) (member : v ∈ vs) :
        ∀ c ∈ '-' :: nodeChars (indent + 2) true v, isReadable c = true :=
      List.forall_mem_cons.mpr ⟨rfl, ih v member _ _⟩
    cases vs with
    | nil => simp [nodeChars, isReadable]
    | cons v rest =>
      obtain ⟨first, later⟩ := List.forall_mem_cons.mp item
      rw [nodeChars, itemsChars_eq]
      refine List.forall_mem_append.mpr ⟨List.forall_mem_append.mpr ⟨gap _ _, first⟩, ?_⟩
      exact List.forall_mem_flatMap.mpr fun w member =>
        List.forall_mem_append.mpr ⟨isReadable_newline _, later w member⟩
  | @mapping es keys values ih =>
    have entry (e : Scalar × Value) (member : e ∈ es) :
        ∀ c ∈ keyChars (indent + 2) e.1 ++ nodeChars (indent + 2) (!isSimpleKey e.1) e.2,
          isReadable c = true :=
      List.forall_mem_append.mpr ⟨isReadable_keyChars (keys e member) _, ih e member _ _⟩
    cases es with
    | nil => simp [nodeChars, isReadable]
    | cons e rest =>
      obtain ⟨k, v⟩ := e
      obtain ⟨first, later⟩ := List.forall_mem_cons.mp entry
      rw [nodeChars, List.append_assoc (ite _ _ _)]
      exact List.forall_mem_append.mpr ⟨List.forall_mem_append.mpr ⟨gap _ _, first⟩,
        isReadable_entriesChars later⟩

theorem Legible.readable {s : Scalar} (legible : Legible s) : Readable s :=
  fun n c member => (isInline_scalarChars legible.isPlain legible.clean n c member).1

/-- The tokens of the text of a mapping that is legible throughout. -/
theorem tokens?_render {k : Scalar} {v : Value} {es : Entries}
    (legible : (Value.mapping ((k, v) :: es)).Throughout LegibleKey Legible) :
    tokens? (render (.mapping ((k, v) :: es))).toList =
      some (valueTokens (.mapping ((k, v) :: es))) := by
  obtain ⟨keys, values⟩ := (Value.throughout_mapping _).mp legible
  have entry : ∀ e ∈ (k, v) :: es,
      ∀ c ∈ keyChars 0 e.1 ++ nodeChars 0 (!isSimpleKey e.1) e.2, isReadable c = true := by
    intro e member
    have value : e.2.Throughout Readable Readable :=
      (values e member).imp (fun k key => key.toLegible.readable) fun s here => here.readable
    exact List.forall_mem_append.mpr ⟨isReadable_keyChars (keys e member).toLegible.readable 0,
      isReadable_nodeChars value 0 _⟩
  obtain ⟨first, later⟩ := List.forall_mem_cons.mp entry
  have readable : (documentChars (.mapping ((k, v) :: es)) ++ ['\n']).all isReadable = true := by
    rw [List.all_eq_true, documentChars, List.forall_mem_append]
    refine ⟨List.forall_mem_append.mpr ⟨first, isReadable_entriesChars later⟩, ?_⟩
    simp [isReadable]
  rw [render, String.toList_ofList, tokens?, if_pos readable]
  exact Layout.run_documentChars keys values rfl

end GatewayFlow.Yaml
