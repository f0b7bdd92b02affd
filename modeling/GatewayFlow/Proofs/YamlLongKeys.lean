import GatewayFlow.Proofs.YamlValues

/-!
# Keys that are not recognised

A key in front of its colon that is written with more characters than the reader looks back for is
given up, and then its colon is out of place: no tokens come from the text, whatever stands around
the key. So a written value is read as its tokens exactly when its keys are recognised.
-/
namespace GatewayFlow.Yaml

/-- Data whose keys are all recognised where they are read. -/
def KeysRecognised (v : Value) : Prop :=
  v.Throughout Recognised fun _ => True

instance (v : Value) : Decidable (KeysRecognised v) :=
  inferInstanceAs (Decidable (v.Throughout _ _))

namespace Layout

/-! ### States without tokens -/

/-- However many steps are taken, no tokens come from this state. -/
def Stuck (l : Layout) : Prop :=
  ∀ fuel, run fuel l = none

/-- More steps change nothing about tokens that are there. -/
theorem run_add {fuel : Nat} {l : Layout} {ts : List Token} (tokens : run fuel l = some ts)
    (n : Nat) : run (fuel + n) l = some ts := by
  induction fuel generalizing l with
  | zero => cases tokens
  | succ fuel ih =>
    rw [run_succ] at tokens
    obtain ⟨m, prepared, tokens⟩ := Option.bind_eq_some_iff.mp tokens
    rw [Nat.add_right_comm, run_succ, prepared, Option.bind_some]
    rw [runAt] at tokens ⊢
    cases place : m.spot.rest with
    | nil => simpa only [place] using tokens
    | cons c cs =>
      rw [place] at tokens
      obtain ⟨l', read, tokens⟩ := Option.bind_eq_some_iff.mp tokens
      simp only [read, Option.bind_some]
      exact ih tokens

theorem Leads.stuck {l l' : Layout} (leads : Leads l l') (stuck : Stuck l') : Stuck l := by
  obtain ⟨n, -, run⟩ := leads
  intro fuel
  by_contra tokens
  obtain ⟨ts, tokens⟩ := Option.ne_none_iff_exists'.mp tokens
  -- With `n` steps more the same tokens would come from `l'`.
  have more := run_add tokens n
  rw [run, stuck fuel] at more
  cases more

/-- A key that is too long is given up, and its colon is out of place. -/
theorem Marked.stuck {l : Layout} {place : KeyPlace} {rest : List Char} {ts : List Token}
    {token : Token} {indents : List Nat} {column length : Nat}
    (marked : l.Marked place rest ts token indents column length) (tooLong : keyLimit < length)
    (gap : startsWithGap rest = true) : Stuck l := by
  intro fuel
  obtain ⟨⟨left, -, -, -⟩, keys, allowed, -, -, line, index, -⟩ := marked
  cases fuel with
  | zero => rfl
  | succ fuel =>
    have far : keyLimit + place.index < l.spot.index := by omega
    rw [run_succ, prepare, toNext_visible (by decide) left]
    -- A key that had to stand here fails when it is given up; else the colon is left without one.
    cases required : place.required with
    | true =>
      have near : keyLimit < l.spot.index - place.index := by omega
      have drop : l.dropStaleKeys = none := by
        simp [dropStaleKeys, keys, near, required]
      rw [drop]
      rfl
    | false =>
      have drop : l.dropStaleKeys = some { l with keys := [none] } := by
        simp [dropStaleKeys, keys, far, required]
      have given : ({ l with keys := [none] } : Layout).unwind.readToken ':' rest = none := by
        rw [readToken_colon _ gap]
        simp [readValue, readEntry, unwind, inFlow, closeBlocks, allowed]
      have place : ({ l with keys := [none] } : Layout).unwind.spot.rest = ':' :: rest := by
        simp [unwind, inFlow, closeBlocks, left]
      rw [drop, Option.map_some, Option.bind_some, runAt, place]
      dsimp only
      rw [given]
      rfl

theorem stuck_key {k : Scalar} (written : TextKey k) (unrecognised : ¬Recognised k) {l m : Layout}
    {rest : List Char} {ts : List Token} {column : Nat} {indents : List Nat}
    (gap : startsWithGap rest = true) (arrives : l.Arrives m)
    (ready : m.Ready (keyChars column k ++ rest) ts indents column) : Stuck l := by
  rw [Recognised, Classical.not_imp, not_le] at unrecognised
  obtain ⟨simple, tooLong⟩ := unrecognised
  rw [keyChars, if_pos simple, List.append_assoc] at ready
  obtain ⟨l', place, leads, marked⟩ := leads_marked written simple gap ready
  exact (arrives.leads leads).stuck (marked.stuck tooLong gap)

/-! ### Blocks with such keys -/

/-- Behind an indicator, no tokens come from a value. -/
def Sticks (v : Value) : Prop :=
  ∀ (l : Layout) (rest : List Char) (ts : List Token) (indent : Nat) (outer : List Nat)
    (compact : Bool), Follows indent rest →
      l.Behind (nodeChars indent compact v ++ rest) ts indent outer compact → Stuck l

theorem stuck_item {v : Value} (sticks : Sticks v) {l m : Layout} {rest : List Char}
    {ts opening : List Token} {column : Nat} {outer indents : List Nat}
    (follows : Follows column rest) (arrives : l.Arrives m)
    (ready : m.Ready ('-' :: (nodeChars column true v ++ rest)) ts indents column)
    (opens : Opens column outer indents .blockSequenceStart opening) : Stuck l := by
  have gap := startsWithGap_nodeChars column true v rest
  obtain ⟨l', leads, behind⟩ := ready.indicator .item gap opens
  exact (arrives.leads leads).stuck (sticks l' rest _ column outer true follows behind)

theorem stuck_items {vs : List Value} (each : ∀ v ∈ vs, ReadsAs v ∨ Sticks v)
    (sticks : ∃ v ∈ vs, Sticks v) {l : Layout} {rest : List Char} {ts : List Token}
    {column : Nat} {outer : List Nat} (follows : Follows column rest)
    (reached : l.Reached (itemsChars column vs ++ rest) ts column (column :: outer)) :
    Stuck l := by
  -- By induction on the items: those in front of the first one that sticks are read.
  induction vs generalizing l ts with
  | nil => simp at sticks
  | cons v vs ih =>
    obtain ⟨here, later⟩ := List.forall_mem_cons.mp each
    obtain ⟨m, arrives, ready⟩ := reached.arrives_item
    by_cases first : Sticks v
    · exact stuck_item first (follows.items vs) arrives ready (.inr ⟨rfl, rfl⟩)
    · obtain ⟨l', leads, reached⟩ :=
        leads_item (here.resolve_right first) (follows.items vs) ready (.inr ⟨rfl, rfl⟩)
      exact (arrives.leads leads).stuck
        (ih later (((List.exists_mem_cons_iff _ _ _).mp sticks).resolve_left first) reached)

/-- No tokens come from an entry, because of its key or of what stands behind it. -/
def EntrySticks (e : Scalar × Value) : Prop :=
  ¬Recognised e.1 ∨ Sticks e.2

theorem stuck_entry {k : Scalar} {v : Value} (written : TextKey k) (sticks : EntrySticks (k, v))
    {l m : Layout} {rest : List Char} {ts opening : List Token} {column : Nat}
    {outer indents : List Nat} (follows : Follows column rest) (arrives : l.Arrives m)
    (ready : m.Ready (keyChars column k ++ (nodeChars column (!isSimpleKey k) v ++ rest)) ts
      indents column)
    (opens : Opens column outer indents .blockMappingStart opening) : Stuck l := by
  have gap := startsWithGap_nodeChars column (!isSimpleKey k) v rest
  by_cases recognised : Recognised k
  · obtain ⟨l', leads, behind⟩ := leads_key ⟨written, recognised⟩ gap ready opens
    have stuck := sticks.resolve_left (not_not_intro recognised)
    exact (arrives.leads leads).stuck (stuck l' rest _ column outer _ follows behind)
  · exact stuck_key written recognised gap arrives ready

theorem stuck_entries {es : Entries} (written : ∀ e ∈ es, TextKey e.1)
    (each : ∀ e ∈ es, ReadsAs e.2 ∨ Sticks e.2) (sticks : ∃ e ∈ es, EntrySticks e) {l : Layout}
    {rest : List Char} {ts : List Token} {column : Nat} {outer : List Nat}
    (follows : Follows column rest)
    (reached : l.Reached (entriesChars column es ++ rest) ts column (column :: outer)) :
    Stuck l := by
  induction es generalizing l ts with
  | nil => simp at sticks
  | cons e es ih =>
    obtain ⟨k, v⟩ := e
    obtain ⟨key, keys⟩ := List.forall_mem_cons.mp written
    obtain ⟨here, later⟩ := List.forall_mem_cons.mp each
    obtain ⟨m, arrives, ready⟩ := reached.arrives_entry key.toLegible
    have behind := follows.entries fun e member => (keys e member).toLegible
    by_cases first : EntrySticks (k, v)
    · exact stuck_entry key first behind arrives ready (.inr ⟨rfl, rfl⟩)
    · obtain ⟨recognised, reads⟩ := not_or.mp first
      obtain ⟨l', leads, reached⟩ := leads_entry ⟨key, not_not.mp recognised⟩
        (here.resolve_right reads) behind ready (.inr ⟨rfl, rfl⟩)
      exact (arrives.leads leads).stuck
        (ih keys later (((List.exists_mem_cons_iff _ _ _).mp sticks).resolve_left first) reached)

theorem sticks_list {v : Value} {vs : List Value} (each : ∀ w ∈ v :: vs, ReadsAs w ∨ Sticks w)
    (sticks : ∃ w ∈ v :: vs, Sticks w) : Sticks (.list (v :: vs)) := by
  intro l rest ts indent outer compact follows behind
  obtain ⟨here, later⟩ := List.forall_mem_cons.mp each
  have deeper := follows.mono (Nat.le_add_right indent 2)
  have opens : Opens (indent + 2) (indent :: outer) (indent :: outer) .blockSequenceStart _ :=
    .inl ⟨rfl, by simp, rfl⟩
  obtain ⟨m, arrives, ready⟩ := behind.arrives_list
  by_cases first : Sticks v
  · exact stuck_item first (deeper.items vs) arrives ready opens
  · obtain ⟨l', leads, reached⟩ :=
      leads_item (here.resolve_right first) (deeper.items vs) ready opens
    exact (arrives.leads leads).stuck (stuck_items later
      (((List.exists_mem_cons_iff _ _ _).mp sticks).resolve_left first) deeper reached)

/-- The entries of a block from its first one on, wherever it stands. -/
theorem stuck_block {k : Scalar} {v : Value} {es : Entries}
    (written : ∀ e ∈ (k, v) :: es, TextKey e.1)
    (each : ∀ e ∈ (k, v) :: es, ReadsAs e.2 ∨ Sticks e.2)
    (sticks : ∃ e ∈ (k, v) :: es, EntrySticks e) {l m : Layout} {rest : List Char}
    {ts : List Token} {column : Nat} {outer : List Nat} (follows : Follows column rest)
    (inner : ∀ i ∈ outer.head?, i < column) (arrives : l.Arrives m)
    (ready : m.Ready (keyChars column k ++ (nodeChars column (!isSimpleKey k) v ++
      (entriesChars column es ++ rest))) ts outer column) : Stuck l := by
  obtain ⟨key, keys⟩ := List.forall_mem_cons.mp written
  obtain ⟨here, later⟩ := List.forall_mem_cons.mp each
  have behind := follows.entries fun e member => (keys e member).toLegible
  have opens : Opens column outer outer .blockMappingStart _ := .inl ⟨rfl, inner, rfl⟩
  by_cases first : EntrySticks (k, v)
  · exact stuck_entry key first behind arrives ready opens
  · obtain ⟨recognised, reads⟩ := not_or.mp first
    obtain ⟨l', leads, reached⟩ :=
      leads_entry ⟨key, not_not.mp recognised⟩ (here.resolve_right reads) behind ready opens
    exact (arrives.leads leads).stuck (stuck_entries keys later
      (((List.exists_mem_cons_iff _ _ _).mp sticks).resolve_left first) follows reached)

theorem sticks_mapping {k : Scalar} {v : Value} {es : Entries}
    (written : ∀ e ∈ (k, v) :: es, TextKey e.1)
    (each : ∀ e ∈ (k, v) :: es, ReadsAs e.2 ∨ Sticks e.2)
    (sticks : ∃ e ∈ (k, v) :: es, EntrySticks e) : Sticks (.mapping ((k, v) :: es)) := by
  intro l rest ts indent outer compact follows behind
  obtain ⟨key, -⟩ := List.forall_mem_cons.mp written
  obtain ⟨m, arrives, ready⟩ := behind.arrives_mapping key.toLegible
  exact stuck_block written each sticks (follows.mono (Nat.le_add_right indent 2)) (by simp)
    arrives ready

theorem readsAs_of_recognised {v : Value} (written : v.Throughout TextKey Legible)
    (recognised : KeysRecognised v) : ReadsAs v :=
  readsAs <| (written.and recognised).imp (fun _ ⟨written, here⟩ => ⟨written, here⟩)
    fun _ => And.left

theorem readsAs_or_sticks {v : Value} (written : v.Throughout TextKey Legible)
    (sticks : ¬KeysRecognised v → Sticks v) : ReadsAs v ∨ Sticks v :=
  (em (KeysRecognised v)).imp (readsAs_of_recognised written) sticks

theorem exists_entrySticks {es : Entries} (values : ∀ e ∈ es, ¬KeysRecognised e.2 → Sticks e.2)
    (unrecognised : ¬KeysRecognised (.mapping es)) : ∃ e ∈ es, EntrySticks e := by
  by_contra none
  push Not at none
  refine unrecognised (.mapping (fun e member => ?_) fun e member => ?_)
  · exact not_not.mp (not_or.mp (none e member)).1
  · by_contra unrecognised
    exact (not_or.mp (none e member)).2 (values e member unrecognised)

/-- Where a key is not recognised, no tokens come from the data that it stands in. -/
theorem sticks {v : Value} (written : v.Throughout TextKey Legible)
    (unrecognised : ¬KeysRecognised v) : Sticks v := by
  -- By induction on the data: the other parts of a block are read or stick as well.
  induction written with
  | scalar _ => exact absurd (.scalar trivial) unrecognised
  | @list vs items ih =>
    rw [KeysRecognised, Value.throughout_list] at unrecognised
    push Not at unrecognised
    obtain ⟨w, member, unrecognised⟩ := unrecognised
    obtain ⟨v, vs, rfl⟩ := List.exists_cons_of_ne_nil (List.ne_nil_of_mem member)
    exact sticks_list (fun v member => readsAs_or_sticks (items v member) (ih v member))
      ⟨w, member, ih w member unrecognised⟩
  | @mapping es keys values ih =>
    have sticks := exists_entrySticks ih unrecognised
    obtain ⟨e, member, -⟩ := id sticks
    obtain ⟨⟨k, v⟩, es, rfl⟩ := List.exists_cons_of_ne_nil (List.ne_nil_of_mem member)
    exact sticks_mapping keys (fun e member => readsAs_or_sticks (values e member) (ih e member))
      sticks

end Layout

/-! ### Whole texts -/

theorem tokens?_unrecognised {k : Scalar} {v : Value} {es : Entries}
    (written : (Value.mapping ((k, v) :: es)).Throughout TextKey Legible)
    (unrecognised : ¬KeysRecognised (.mapping ((k, v) :: es))) :
    tokens? (render (.mapping ((k, v) :: es))).toList = none := by
  obtain ⟨keys, values⟩ := (Value.throughout_mapping _).mp written
  have key := keys _ List.mem_cons_self
  have later (e : Scalar × Value) (member : e ∈ (k, v) :: es) := Layout.sticks (values e member)
  have stuck {cs : List Char} (text : cs = documentChars (.mapping ((k, v) :: es)) ++ ['\n']) :
      (Layout.start cs).Stuck := by
    rw [Layout.documentChars_mapping] at text
    obtain ⟨arrives, ready⟩ := Layout.start_ready key.toLegible text
    exact Layout.stuck_block keys
      (fun e member => Layout.readsAs_or_sticks (values e member) (later e member))
      (Layout.exists_entrySticks later unrecognised) (.inl rfl) (by simp) arrives ready
  rw [render, String.toList_ofList, tokens?]
  split
  · exact stuck rfl _
  · rfl

end GatewayFlow.Yaml
