import GatewayFlow.Proofs.Digits
import GatewayFlow.Proofs.EditorRuns
import GatewayFlow.Proofs.WrittenAttributes

/-!
# Fresh ids

The search for the id of a new node gives the first of the next draws that is not taken, of one more
draw than there are nodes, or raises what that draw raises. A counter never draws an id twice, so it
always finds a free one: that of the least number from its next one on that no node uses.
-/
namespace GatewayFlow

/-! ### Draws -/

namespace IdSource

variable {σ : Type}

/-- What the next draws of a source for a kind give, as many as asked for. -/
def draws (source : IdSource σ) (kind : Kind) : Nat → σ → List (Except Raised String)
  | 0, _ => []
  | count + 1, s => (source.draw kind s).1 :: source.draws kind count (source.draw kind s).2

/-- The state of a source after a draw. -/
def advance (source : IdSource σ) (kind : Kind) (s : σ) : σ :=
  (source.draw kind s).2

/-- Whether a draw gives an id that is in use; one that raises gives none. -/
def isTaken (taken : List String) : Except Raised String → Bool
  | .ok id => taken.contains id
  | .error _ => false

theorem isTaken_iff (taken : List String) (drawn : Except Raised String) :
    isTaken taken drawn = true ↔ ∃ id ∈ taken, drawn = .ok id := by
  cases drawn <;> simp [isTaken]

theorem drawFree_eq_find? (source : IdSource σ) (taken : List String) (kind : Kind) (count : Nat)
    (s : σ) :
    (source.drawFree taken kind count s).1 =
      match (source.draws kind count s).find? fun drawn => !isTaken taken drawn with
      | some drawn => drawn.map some
      | none => .ok none := by
  induction count generalizing s with
  | zero => rfl
  | succ count ih =>
    rw [drawFree, draws]
    rcases source.draw kind s with ⟨exception | id, after⟩
    · rfl
    · by_cases member : id ∈ taken <;> simp [isTaken, member, ih, Except.map]

/-- However the search ends, the source has made some of the draws that it may make. -/
theorem drawFree_advances (source : IdSource σ) (taken : List String) (kind : Kind) (count : Nat)
    (s : σ) : ∃ made ≤ count,
      (source.drawFree taken kind count s).2 = (source.advance kind)^[made] s := by
  induction count generalizing s with
  | zero => exact ⟨0, le_rfl, rfl⟩
  | succ count ih =>
    have first : source.advance kind s = (source.draw kind s).2 := rfl
    rw [drawFree]
    rcases drawn : source.draw kind s with ⟨exception | id, after⟩ <;> rw [drawn] at first
    · exact ⟨1, by omega, first.symm⟩
    · by_cases member : id ∈ taken
      · obtain ⟨made, bound, last⟩ := ih after
        refine ⟨made + 1, by omega, ?_⟩
        rw [Function.iterate_succ_apply, first, ← last]
        simp [member]
      · exact ⟨1, by omega, by simp [member, first]⟩

end IdSource

/-! ### The search of an editor -/

theorem eraseDups_of_nodup {ids : List String} (distinct : ids.Nodup) : ids.eraseDups = ids := by
  induction ids with
  | nil => rfl
  | cons id rest ih =>
    obtain ⟨fresh, distinct⟩ := List.nodup_cons.mp distinct
    have others : (rest.filter fun other => !other == id) = rest := by
      rw [List.filter_eq_self]
      intro other member
      have apart : other ≠ id := fun same => fresh (same ▸ member)
      simpa using apart
    rw [List.eraseDups_cons, others, ih distinct]

namespace Editor

variable {σ : Type}

theorem drawLimit_of_distinct (e : Editor σ) (distinct : (e.nodes.map Node.id).Nodup) :
    e.drawLimit = e.nodes.length + 1 := by
  rw [drawLimit, takenIds, eraseDups_of_nodup distinct, List.length_map]

/-- The first of the next draws that gives no id of a node: a free id, or an exception. -/
def firstUntaken? (source : IdSource σ) (e : Editor σ) (kind : Kind) (count : Nat) :
    Option (Except Raised String) :=
  (source.draws kind count e.ids).find? fun drawn =>
    !IdSource.isTaken (e.nodes.map Node.id) drawn

theorem newId_result (source : IdSource σ) (e : Editor σ) (kind : Kind) :
    (e.newId source kind).1 = match e.firstUntaken? source kind e.drawLimit with
      | some drawn => drawn.mapError .raised
      | none => .error (.idsExhausted kind e.drawLimit) := by
  have same (drawn : Except Raised String) :
      IdSource.isTaken e.takenIds drawn = IdSource.isTaken (e.nodes.map Node.id) drawn := by
    rw [Bool.eq_iff_iff, IdSource.isTaken_iff, IdSource.isTaken_iff]
    simp only [takenIds, List.mem_eraseDups]
  have search := source.drawFree_eq_find? e.takenIds kind e.drawLimit e.ids
  simp only [same] at search
  rw [newId, firstUntaken?]
  -- The search and its result go through the same three cases.
  generalize (source.draws kind e.drawLimit e.ids).find? _ = first at search ⊢
  generalize source.drawFree e.takenIds kind e.drawLimit e.ids = found at search ⊢
  obtain ⟨result, ids⟩ := found
  subst search
  rcases first with _ | _ | _ <;> rfl

theorem newId_ids (source : IdSource σ) (e : Editor σ) (kind : Kind) :
    ∃ made ≤ e.drawLimit, (e.newId source kind).2.ids = (source.advance kind)^[made] e.ids := by
  obtain ⟨made, bound, after⟩ := source.drawFree_advances e.takenIds kind e.drawLimit e.ids
  refine ⟨made, bound, ?_⟩
  rw [newId, ← after]
  split <;> simp_all

theorem firstUntaken?_eq_none (source : IdSource σ) (e : Editor σ) (kind : Kind) (count : Nat) :
    e.firstUntaken? source kind count = none ↔
      ∀ drawn ∈ source.draws kind count e.ids, ∃ id ∈ e.nodes.map Node.id, drawn = .ok id := by
  simp [firstUntaken?, IdSource.isTaken_iff]

end Editor

/-! ### Adding a node -/

theorem Kind.read_name (kind : Kind) : Kind.read (.text kind.name) = .ok kind := by
  cases kind <;> rfl

namespace Editor

variable {σ : Type}

/-- Adding a node comes to the search for an id and then to building the node under it. -/
theorem add_result (source : IdSource σ) (e : Editor σ) (kind : Kind) (attributes : Entries)
    (withDefaults : Bool) (pluginName : Value) :
    (e.add source (.text kind.name) attributes withDefaults pluginName).1.result =
      (e.newId source kind).1 >>= fun id => (Node.build kind (.text id)
        (.mapping (startingAttributes kind attributes withDefaults pluginName))).orFail := by
  rw [add, kind.read_name]
  dsimp only
  rcases e.newId source kind with ⟨failure | id, after⟩
  · rfl
  · dsimp only
    rw [ok_bind]
    cases (Node.build kind (.text id) (.mapping
      (startingAttributes kind attributes withDefaults pluginName))).orFail <;> rfl

end Editor

/-! ### Counters -/

theorem minus_not_mem_natText (n : Nat) : '-' ∉ natText n :=
  fun member => absurd (isDigit_of_mem_natText member) (by decide)

/-- Different whole numbers are written differently: the sign shows, and the digits read back. -/
theorem intText_injective {m n : Int} (same : intText m = intText n) : m = n := by
  have magnitude : natText m.natAbs = natText n.natAbs → m.natAbs = n.natAbs := fun digits => by
    rw [← natOfDigits_natText m.natAbs, digits, natOfDigits_natText]
  rw [intText, intText] at same
  split at same <;> split at same
  · have := magnitude (List.cons.inj same).2
    omega
  · exact absurd (same ▸ List.mem_cons_self) (minus_not_mem_natText _)
  · exact absurd (same ▸ List.mem_cons_self) (minus_not_mem_natText _)
  · have := magnitude same
    omega

namespace IdCounter

theorem idOf_injective (kind : Kind) {m n : Int} (same : idOf kind m = idOf kind n) : m = n := by
  rw [idOf, idOf, String.append_right_inj] at same
  exact intText_injective (String.ofList_injective same)

theorem idOf_ne_empty (kind : Kind) (n : Int) : idOf kind n ≠ "" := by
  cases kind <;> simp [idOf, Kind.name]

/-- A counter draws the ids of the numbers from its next one on. -/
theorem draws_counter (kind : Kind) (count : Nat) (c : IdCounter) :
    IdSource.counter.draws kind count c =
      (List.range count).map fun i : Nat => .ok (idOf kind (c.next + i)) := by
  induction count generalizing c with
  | zero => rfl
  | succ count ih =>
    rw [IdSource.draws, ih, List.range_succ_eq_map, List.map_cons, List.map_map]
    refine congrArg₂ List.cons (by simp [IdSource.counter]) (List.map_congr_left fun i _ => ?_)
    simp only [IdSource.counter, Function.comp_apply, Nat.succ_eq_add_one]
    congr 2
    omega

end IdCounter

namespace Catalog

/-- A plugin starts with its name, enabled and with the configuration that the catalog lists. -/
theorem defaults_plugin (pluginName : Option String) :
    let name := givenOr pluginName defaultPlugin
    defaults .plugin (.textOrNull pluginName) =
      (Attributes.plugin ⟨some name, some true, some (configOf name)⟩).entries := by
  cases pluginName with
  | none => rfl
  | some s =>
    by_cases empty : s.isEmpty = true <;>
      simp [defaults, Value.textOrNull, Value.isVoid, Scalar.isVoid, empty, givenOr, given?,
        Attributes.entries, Attributes.entry]

/-- The defaults of every kind are attributes of it, under every name of a plugin. -/
theorem read_defaults (kind : Kind) (pluginName : Option String) :
    ∃ a, Attributes.read kind (.mapping (defaults kind (.textOrNull pluginName))) = .value a ∧
      a.kind = kind := by
  cases kind with
  | plugin =>
    rw [defaults_plugin]
    exact ⟨_, Attributes.read_entries (.plugin _), rfl⟩
  | _ => exact ⟨_, rfl, rfl⟩

end Catalog

namespace Editor

/-- A counter has drawn more different ids than there are nodes before it gives up, so one of them
is free; the first is that of the least number that no node uses. -/
theorem firstUntaken?_counter (e : Editor IdCounter) (distinct : (e.nodes.map Node.id).Nodup)
    (kind : Kind) :
    ∃ m, e.firstUntaken? .counter kind e.drawLimit = some (.ok (IdCounter.idOf kind m)) ∧
      e.ids.next ≤ m ∧ IdCounter.idOf kind m ∉ e.nodes.map Node.id ∧
      ∀ j, e.ids.next ≤ j → j < m → IdCounter.idOf kind j ∈ e.nodes.map Node.id := by
  have numbers : Function.Injective fun i : Nat => IdCounter.idOf kind (e.ids.next + i) := by
    intro i j same
    have := IdCounter.idOf_injective kind same
    omega
  cases free : e.firstUntaken? .counter kind e.drawLimit with
  | none =>
    have taken := (e.firstUntaken?_eq_none .counter kind e.drawLimit).mp free
    rw [IdCounter.draws_counter] at taken
    have among : (List.range e.drawLimit).map (fun i : Nat => IdCounter.idOf kind (e.ids.next + i))
        ⊆ e.nodes.map Node.id := by
      intro id member
      obtain ⟨i, there, rfl⟩ := List.mem_map.mp member
      obtain ⟨_, here, same⟩ := taken _ (List.mem_map_of_mem there)
      exact Except.ok.inj same ▸ here
    -- All draws would be among the ids of fewer nodes.
    have few := (List.nodup_range.map numbers).length_le_of_subset among
    rw [List.length_map, List.length_map, List.length_range,
      e.drawLimit_of_distinct distinct] at few
    omega
  | some drawn =>
    rw [firstUntaken?, IdCounter.draws_counter, List.find?_map, Option.map_eq_some_iff] at free
    obtain ⟨i, first, rfl⟩ := free
    obtain ⟨fresh, -, before⟩ := List.find?_range_eq_some.mp first
    refine ⟨e.ids.next + i, rfl, by omega, ?_, fun j low high => ?_⟩
    · simpa [IdSource.isTaken] using fresh
    · have taken := before (j - e.ids.next).toNat (by omega)
      have number : e.ids.next + ((j - e.ids.next).toNat : Int) = j := by omega
      simp only [Function.comp_apply, number] at taken
      simpa [IdSource.isTaken] using taken

/-- A node that was added stands behind the others, and the edges stay. -/
theorem add_of_ok {σ : Type} (source : IdSource σ) (e : Editor σ) (kind : Value)
    (attributes : Entries) (withDefaults : Bool) (pluginName : Value) (n : Node)
    (added : (e.add source kind attributes withDefaults pluginName).1.result = .ok n) :
    (e.add source kind attributes withDefaults pluginName).2.nodes = e.nodes ++ [n] ∧
      (e.add source kind attributes withDefaults pluginName).2.edges = e.edges := by
  have outcome := e.add_added source kind attributes withDefaults pluginName
  generalize e.add source kind attributes withDefaults pluginName = result at outcome added ⊢
  cases outcome with
  | unread | exhausted | unbuilt => cases added
  | placed =>
    cases added
    exact ⟨rfl, rfl⟩

/-- The search of an editor whose nodes have different ids makes one more draw than there are
nodes. -/
theorem newId_of_distinct {σ : Type} (source : IdSource σ) (e : Editor σ) (kind : Kind)
    (distinct : (e.nodes.map Node.id).Nodup) :
    let limit := e.nodes.length + 1
    let first := e.firstUntaken? source kind limit
    (e.newId source kind).1 = (match first with
      | some drawn => drawn.mapError .raised
      | none => .error (.idsExhausted kind limit)) ∧
    ((e.newId source kind).1 = .error (.idsExhausted kind limit) ↔
      ∀ drawn ∈ source.draws kind limit e.ids, ∃ id ∈ e.nodes.map Node.id, drawn = .ok id) ∧
    ∀ exception, (e.newId source kind).1 = .error (.raised exception) ↔
      first = some (.error exception) := by
  intro limit first
  have search := e.newId_result source kind
  rw [e.drawLimit_of_distinct distinct] at search
  refine ⟨search, ?_, fun exception => ?_⟩
  · rw [search, ← e.firstUntaken?_eq_none source kind limit]
    rcases e.firstUntaken? source kind limit with _ | _ | _ <;> simp [limit, Except.mapError]
  · rw [search]
    rcases untaken : e.firstUntaken? source kind limit with _ | _ | _ <;>
      simp [first, limit, untaken, Except.mapError]

/-- Adding a node fails for want of an id exactly when all draws are taken, and raises what a draw
raises exactly when that draw comes first; the node that is added has the id that was found. -/
theorem add_of_distinct {σ : Type} (source : IdSource σ) (e : Editor σ) (kind : Kind)
    (distinct : (e.nodes.map Node.id).Nodup) (attributes : Entries) (withDefaults : Bool)
    (pluginName : Value) :
    let limit := e.nodes.length + 1
    let first := e.firstUntaken? source kind limit
    let added := (e.add source (.text kind.name) attributes withDefaults pluginName).1.result
    ((∃ kind' attempts, added = .error (.idsExhausted kind' attempts)) ↔
      ∀ drawn ∈ source.draws kind limit e.ids, ∃ id ∈ e.nodes.map Node.id, drawn = .ok id) ∧
    (∀ exception, added = .error (.raised exception) ↔ first = some (.error exception)) ∧
    ∀ n, added = .ok n → first = some (.ok n.id) := by
  intro limit first added
  have outcome : added = _ := e.add_result source kind attributes withDefaults pluginName
  rw [(e.newId_of_distinct source kind distinct).1] at outcome
  rw [outcome, ← e.firstUntaken?_eq_none source kind limit]
  rcases untaken : e.firstUntaken? source kind limit with _ | exception | id
  · simp [first, untaken]
  · simp [first, untaken, Except.mapError]
  · -- Building a node fails with issues, never for want of an id or with an exception.
    simp only [first, untaken, mapError_ok, ok_bind]
    refine ⟨iff_of_false ?_ nofun, fun exception => iff_of_false ?_ nofun, fun n built => ?_⟩
    · rintro ⟨kind', attempts, failed⟩
      obtain ⟨found, -, other⟩ := (Reading.orFail_eq_error ..).mp failed
      cases other
    · intro failed
      obtain ⟨found, -, other⟩ := (Reading.orFail_eq_error ..).mp failed
      cases other
    · rw [Reading.orFail_eq_ok, Node.build_mapping_eq_value] at built
      rw [built.1]

/-- With a counter a node can always be added from the defaults of its kind. -/
theorem add_from_defaults (e : Editor IdCounter) (distinct : (e.nodes.map Node.id).Nodup)
    (kind : Kind) (pluginName : Option String) :
    let added := e.add .counter (.text kind.name) [] true (.textOrNull pluginName)
    ∃ n m, added.1.result = .ok n ∧ n.kind = kind ∧ n.id = IdCounter.idOf kind m ∧
      added.2.nodes = e.nodes ++ [n] ∧ added.2.edges = e.edges ∧
      e.ids.next ≤ m ∧ n.id ∉ e.nodes.map Node.id ∧
      ∀ j, e.ids.next ≤ j → j < m → IdCounter.idOf kind j ∈ e.nodes.map Node.id := by
  intro added
  obtain ⟨m, free, low, fresh, least⟩ := e.firstUntaken?_counter distinct kind
  obtain ⟨a, read, kindOf⟩ := Catalog.read_defaults kind pluginName
  let n : Node := ⟨IdCounter.idOf kind m, a, IdCounter.idOf_ne_empty kind m⟩
  have built : Node.build kind (.text n.id) (.mapping
      (startingAttributes kind [] true (.textOrNull pluginName))) = .value n :=
    (Node.build_mapping_eq_value ..).mpr ⟨rfl, read⟩
  have done : added.1.result = .ok n := by
    rw [e.add_result .counter kind, e.newId_result, free]
    exact (Reading.orFail_eq_ok ..).mpr built
  obtain ⟨nodes, edges⟩ := e.add_of_ok .counter _ _ _ _ n done
  exact ⟨n, m, done, kindOf, rfl, nodes, edges, low, fresh, least⟩

/-- In every state that an editor can come to, the search for an id gives the first of the next
draws that is no id of a node, of one draw more than there are nodes. It is exhausted exactly when
all of them are ids of nodes, and raises an exception exactly when that first draw does. Adding a
node fails for want of an id and raises such an exception exactly then, and otherwise its node has
that id. With a counter, whatever it started from, a node of every kind and of every plugin can be
added from the defaults alone, under the id of the least number from the counter's next one on that
is free. -/
theorem ids_are_first_free :
    (∀ {σ : Type} (source : IdSource σ) (ids : σ) (initial : Option Flow) (edits : List Edit)
      (kind : Kind),
      let e := (start ids initial).run source edits
      let limit := e.nodes.length + 1
      let next := source.draws kind limit e.ids
      let first := e.firstUntaken? source kind limit
      let allTaken := ∀ drawn ∈ next, ∃ id ∈ e.nodes.map Node.id, drawn = .ok id
      (e.newId source kind).1 = (match first with
        | some drawn => drawn.mapError .raised
        | none => .error (.idsExhausted kind limit)) ∧
      first = next.find? (fun drawn => !IdSource.isTaken (e.nodes.map Node.id) drawn) ∧
      ((e.newId source kind).1 = .error (.idsExhausted kind limit) ↔ allTaken) ∧
      (∀ exception, (e.newId source kind).1 = .error (.raised exception) ↔
        first = some (.error exception)) ∧
      ∀ attributes withDefaults pluginName,
        let added := (e.add source (.text kind.name) attributes withDefaults pluginName).1.result
        ((∃ kind' attempts, added = .error (.idsExhausted kind' attempts)) ↔ allTaken) ∧
        (∀ exception, added = .error (.raised exception) ↔ first = some (.error exception)) ∧
        ∀ n, added = .ok n → first = some (.ok n.id)) ∧
    ∀ (first : Int) (initial : Option Flow) (edits : List Edit) (kind : Kind)
      (pluginName : Option String),
      let e := (start (.startingAt first) initial).run .counter edits
      let added := e.add .counter (.text kind.name) [] true (.textOrNull pluginName)
      ∃ n m, added.1.result = .ok n ∧ n.kind = kind ∧ n.id = IdCounter.idOf kind m ∧
        added.2.nodes = e.nodes ++ [n] ∧ added.2.edges = e.edges ∧
        e.ids.next ≤ m ∧ n.id ∉ e.nodes.map Node.id ∧
        ∀ j, e.ids.next ≤ j → j < m → IdCounter.idOf kind j ∈ e.nodes.map Node.id := by
  constructor
  · intro σ source ids initial edits kind e limit next first allTaken
    have distinct : (e.nodes.map Node.id).Nodup :=
      run_distinct source edits _ (start_distinct ids initial)
    obtain ⟨search, exhausted, raised⟩ := e.newId_of_distinct source kind distinct
    exact ⟨search, rfl, exhausted, raised, e.add_of_distinct source kind distinct⟩
  · intro first initial edits kind pluginName e added
    have distinct : (e.nodes.map Node.id).Nodup :=
      run_distinct .counter edits _ (start_distinct _ initial)
    exact e.add_from_defaults distinct kind pluginName

/-- Over a flow with a node `service-3`, a counter at 3 gives the next service the number 4. -/
theorem ids_are_first_free_over_routedFlow :
    ∃ n, (((start (.startingAt 3) (some routedFlow)).run .counter []).add .counter
        (.text Kind.service.name) [] true (.textOrNull none)).1.result = .ok n ∧
      n.id = "service-4" ∧ n.id ∉ routedFlow.nodes.map Node.id := by
  obtain ⟨n, m, added, -, named, -, -, low, fresh, least⟩ :=
    ids_are_first_free.2 3 (some routedFlow) [] .service none
  -- The number 3 is taken in the flow, and 4 is free.
  have number : m = 4 := by
    by_contra other
    rcases Int.lt_or_gt_of_ne other with below | above
    · have third : m = 3 := by
        change (3 : Int) ≤ m at low
        omega
      rw [named, third] at fresh
      exact fresh (by decide)
    · exact absurd (least 4 (by decide) above) (by decide)
  exact ⟨n, added, by rw [named, number]; rfl, fresh⟩

end Editor

end GatewayFlow
