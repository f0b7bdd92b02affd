import GatewayFlow.Proofs.FreshIds

/-!
# Counted ids

A counter that is not cleared only moves on, and a node that is added leaves its number behind. So
the numbers of added nodes rise over a whole session, and no id is handed out twice, whatever
becomes of the nodes in between.
-/
namespace GatewayFlow

/-! ### Numbers in ids -/

/-- The id of a node is made of its kind and a number. -/
def Node.Numbered (n : Node) (number : Int) : Prop :=
  n.id = IdCounter.idOf n.kind number

/-- The number of one node is below that of another. -/
def Node.Before (a b : Node) : Prop :=
  ∃ i j, a.Numbered i ∧ b.Numbered j ∧ i < j

theorem Kind.minus_not_mem_name (kind : Kind) : '-' ∉ kind.name.toList := by
  cases kind <;> decide

/-- The first hyphen of an id ends its kind, so the number shows whatever the kind is. -/
theorem IdCounter.number_eq {kind kind' : Kind} {m n : Int}
    (same : idOf kind m = idOf kind' n) : m = n := by
  have name_of (kind : Kind) (digits : List Char) :
      (kind.name.toList ++ '-' :: digits).takeWhile (· ≠ '-') = kind.name.toList := by
    rw [List.takeWhile_append_of_pos, List.takeWhile_cons_of_neg (by simp), List.append_nil]
    intro c member
    have other : c ≠ '-' := fun eq => kind.minus_not_mem_name (eq ▸ member)
    simpa using other
  have chars := congrArg String.toList same
  simp only [idOf, String.toList_append, String.toList_ofList, List.append_assoc,
    List.singleton_append, show "-".toList = ['-'] from rfl] at chars
  -- Up to its first hyphen an id is the name of its kind, so both kinds have one name.
  have names : kind.name.toList = kind'.name.toList := by
    rw [← name_of kind (intText m), chars, name_of]
  rw [names, List.append_cancel_left_eq, List.cons.injEq] at chars
  exact intText_injective chars.2

theorem Node.Before.id_ne {a b : Node} (before : a.Before b) : a.id ≠ b.id := by
  obtain ⟨i, j, left, right, lower⟩ := before
  intro same
  rw [left, right] at same
  exact lower.ne (IdCounter.number_eq same)

/-! ### What an edit does to a counter -/

/-- The search moves a counter past the number of the id that it finds. -/
theorem IdSource.drawFree_counter (taken : List String) (kind : Kind) (count : Nat)
    (c : IdCounter) :
    c.next ≤ (counter.drawFree taken kind count c).2.next ∧
      ∀ id, (counter.drawFree taken kind count c).1 = .ok (some id) →
        ∃ m, id = IdCounter.idOf kind m ∧ c.next ≤ m ∧
          m < (counter.drawFree taken kind count c).2.next := by
  -- By induction on the draws that are left: each moves the counter by one, found or not.
  induction count generalizing c with
  | zero => exact ⟨le_rfl, nofun⟩
  | succ count ih =>
    have drawn : counter.draw kind c =
      (.ok (IdCounter.idOf kind c.next), { c with next := c.next + 1 }) := rfl
    rw [drawFree, drawn]
    dsimp only
    split
    next =>
      obtain ⟨moved, found⟩ := ih { c with next := c.next + 1 }
      dsimp only at moved found
      refine ⟨by omega, fun id there => ?_⟩
      obtain ⟨m, same, low, high⟩ := found id there
      exact ⟨m, same, by omega, high⟩
    next =>
      refine ⟨by simp, ?_⟩
      rintro id ⟨⟩
      exact ⟨c.next, rfl, le_rfl, by simp⟩

namespace Editor

theorem newId_counter (e : Editor IdCounter) (kind : Kind) :
    e.ids.next ≤ (e.newId .counter kind).2.ids.next ∧
      ∀ id, (e.newId .counter kind).1 = .ok id →
        ∃ m, id = IdCounter.idOf kind m ∧ e.ids.next ≤ m ∧
          m < (e.newId .counter kind).2.ids.next := by
  obtain ⟨moved, found⟩ := IdSource.drawFree_counter e.takenIds kind e.drawLimit e.ids
  unfold newId
  split
  next id after eq =>
    rw [eq] at moved found
    refine ⟨moved, ?_⟩
    rintro _ ⟨⟩
    exact found id rfl
  next after eq =>
    rw [eq] at moved
    exact ⟨moved, nofun⟩
  next exception after eq =>
    rw [eq] at moved
    exact ⟨moved, nofun⟩

/-- The node that an edit adds, if it is an addition that succeeds. -/
def added? {σ : Type} (source : IdSource σ) (e : Editor σ) : Edit → Option Node
  | .add kind attributes withDefaults pluginName =>
    (e.add source kind attributes withDefaults pluginName).1.result.toOption
  | _ => none

/-- The nodes that edits in turn add. -/
def addedNodes {σ : Type} (source : IdSource σ) (e : Editor σ) : List Edit → List Node
  | [] => []
  | edit :: rest =>
    (e.added? source edit).toList ++ (e.perform source edit).2.addedNodes source rest

theorem add_counter (e : Editor IdCounter) (kind : Value) (attributes : Entries)
    (withDefaults : Bool) (pluginName : Value) :
    let added := e.add .counter kind attributes withDefaults pluginName
    e.ids.next ≤ added.2.ids.next ∧
      ∀ n, added.1.result = .ok n →
        ∃ m, n.Numbered m ∧ e.ids.next ≤ m ∧ m < added.2.ids.next := by
  intro added
  have outcome : Added .counter e kind attributes withDefaults pluginName added :=
    e.add_added .counter kind attributes withDefaults pluginName
  generalize added = result at outcome ⊢
  cases outcome with
  | unread => exact ⟨le_rfl, by simp⟩
  | @exhausted named _ _ _ drawn | @unbuilt named _ _ _ _ drawn =>
    have moved := (e.newId_counter named).1
    rw [drawn] at moved
    exact ⟨moved, by simp⟩
  | @placed named n line ids _ drawn built =>
    obtain ⟨moved, found⟩ := e.newId_counter named
    rw [drawn] at moved found
    refine ⟨moved, fun n' told => ?_⟩
    obtain rfl : n = n' := Except.ok.inj told
    -- The node has the id that was drawn for its kind.
    rw [Reading.orFail_eq_ok, Node.build_mapping_eq_value] at built
    obtain ⟨m, same, low, high⟩ := found n.id rfl
    exact ⟨m, by rw [Node.Numbered, same, Node.kind, Attributes.kind_of_read built.2], low, high⟩

/-- Only additions draw ids, and only clearing starts the source of ids again. -/
theorem perform_ids {σ : Type} (source : IdSource σ) (e : Editor σ) (edit : Edit)
    (drawless : ∀ kind attributes withDefaults pluginName,
      edit ≠ .add kind attributes withDefaults pluginName)
    (uncleared : edit ≠ .clear) : (e.perform source edit).2.ids = e.ids := by
  cases edit with
  | add kind attributes withDefaults pluginName => exact (drawless _ _ _ _ rfl).elim
  | clear => exact absurd rfl uncleared
  | update id attributes =>
    simp only [perform, update]
    split
    · rfl
    · split <;> rfl
  | delete id =>
    simp only [perform, delete]
    split <;> rfl
  | connect source target sourceAnchor targetAnchor =>
    simp only [perform, connect]
    split
    · rfl
    · split <;> rfl
  | get | disconnect | load => rfl

/-- One edit leaves a counter behind the number of the node that it adds. -/
theorem perform_counter (e : Editor IdCounter) (edit : Edit) (uncleared : edit ≠ .clear) :
    e.ids.next ≤ (e.perform .counter edit).2.ids.next ∧
      ∀ n ∈ e.added? .counter edit,
        ∃ m, n.Numbered m ∧ e.ids.next ≤ m ∧ m < (e.perform .counter edit).2.ids.next := by
  cases edit with
  | add kind attributes withDefaults pluginName =>
    obtain ⟨moved, numbered⟩ := e.add_counter kind attributes withDefaults pluginName
    refine ⟨moved, fun n added => numbered n ?_⟩
    rw [added?, Option.mem_def] at added
    cases told : (e.add .counter kind attributes withDefaults pluginName).1.result with
    | error _ =>
      rw [told] at added
      cases added
    | ok node =>
      rw [told] at added
      rw [Option.some.inj added]
  | _ =>
    rw [perform_ids .counter e _ (by simp) uncleared]
    exact ⟨le_rfl, by simp [added?]⟩

/-- By induction on the edits: the nodes that are added later have the higher numbers, as the
counter has passed the earlier ones by then. -/
theorem addedNodes_counter (e : Editor IdCounter) (edits : List Edit)
    (uncleared : Edit.clear ∉ edits) :
    (∀ n ∈ e.addedNodes .counter edits, ∃ m, n.Numbered m ∧ e.ids.next ≤ m) ∧
      (e.addedNodes .counter edits).Pairwise Node.Before := by
  induction edits generalizing e with
  | nil => exact ⟨by simp [addedNodes], .nil⟩
  | cons edit rest ih =>
    obtain ⟨first, others⟩ := not_or.mp (List.mem_cons.not.mp uncleared)
    obtain ⟨moved, numbered⟩ := e.perform_counter edit (Ne.symm first)
    obtain ⟨later, rising⟩ := ih (e.perform .counter edit).2 others
    rw [addedNodes]
    constructor
    · intro n member
      rcases List.mem_append.mp member with now | after
      · obtain ⟨m, number, low, -⟩ := numbered n (Option.mem_toList.mp now)
        exact ⟨m, number, low⟩
      · obtain ⟨m, number, low⟩ := later n after
        exact ⟨m, number, moved.trans low⟩
    · -- The number of this node is below the counter, and those of later ones are not.
      refine List.pairwise_append.mpr ⟨?_, rising, fun a now b after => ?_⟩
      · cases e.added? .counter edit with
        | none => exact .nil
        | some n => exact List.pairwise_singleton _ n
      · obtain ⟨i, left, -, passed⟩ := numbered a (Option.mem_toList.mp now)
        obtain ⟨j, right, low⟩ := later b after
        exact ⟨i, j, left, right, passed.trans_le low⟩

/-- In a session with a counter, whatever it counts from, that is never cleared, all nodes that are
added have different ids, of whatever kinds they are and even when earlier ones were deleted or a
flow was loaded in their place. Their ids are made of their kinds and of numbers that rise in the
order of the additions. -/
theorem added_ids_distinct (first : Int) (initial : Option Flow) (edits : List Edit)
    (uncleared : Edit.clear ∉ edits) :
    let added := (start (.startingAt first) initial).addedNodes .counter edits
    (added.map Node.id).Nodup ∧ added.Pairwise Node.Before ∧
      ∀ n ∈ added, ∃ m, n.Numbered m ∧ first ≤ m := by
  intro added
  obtain ⟨numbered, rising⟩ :=
    (start (IdCounter.startingAt first) initial).addedNodes_counter edits uncleared
  have started : (start (IdCounter.startingAt first) initial).ids.next = first := by
    cases initial <;> rfl
  rw [started] at numbered
  exact ⟨List.pairwise_map.mpr (rising.imp Node.Before.id_ne), rising, numbered⟩

/-- A session in which a node is deleted, a flow with `service-3` and `route-1` is loaded, and an
addition fails after its draw. -/
theorem added_ids_distinct_over_routedFlow :
    let edits := [Edit.add (.text "service") [] true .null, .delete (.text "service-1"),
      .load routedFlow, .add (.text "route") [] true .null, .add (.text "service") [] true .null,
      .add (.text "sni") [(.text "port", .int 1)] true .null, .delete (.text "service-4"),
      .add (.text "service") [] true .null]
    Edit.clear ∉ edits ∧
    let added := (start (.startingAt 1) none).addedNodes .counter edits
    added.map Node.id = ["service-1", "route-2", "service-4", "service-6"] ∧
      (added.map Node.id).Nodup ∧ added.Pairwise Node.Before ∧
      ∀ n ∈ added, ∃ m, n.Numbered m ∧ 1 ≤ m := by
  intro edits
  have uncleared : Edit.clear ∉ edits := by simp [edits]
  exact ⟨uncleared, by decide +kernel, added_ids_distinct 1 none edits uncleared⟩

end Editor
end GatewayFlow
