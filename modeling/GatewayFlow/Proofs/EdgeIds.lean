import GatewayFlow.Proofs.FailedEdits
import GatewayFlow.Proofs.LoadedConnections

/-!
# Ids of edges

The id of an edge joins its ends and anchors by hyphens, and these texts may have hyphens of their
own. So two edges have one id exactly when their texts, broken at all hyphens, give the same words
one after the other. An editor that removes an id removes all edges with these words.
-/
namespace GatewayFlow

/-- Joined lists are split into what each of them is split into. -/
theorem splitOn_intercalate_eq_flatMap {α : Type} [BEq α] [LawfulBEq α] (x : α)
    (xs : List (List α)) (nonempty : xs ≠ []) :
    ([x].intercalate xs).splitOn x = xs.flatMap fun part => part.splitOn x := by
  induction xs with
  | nil => exact absurd rfl nonempty
  | cons first rest ih =>
    cases rest with
    | nil => simp
    | cons second rest =>
      -- The separator between the first two lists ends a piece, whatever these two hold.
      rw [List.intercalate_cons_cons, List.append_assoc, List.singleton_append,
        List.splitOn_append_cons_self, ih (List.cons_ne_nil _ _), ← List.flatMap_cons]

namespace Edge

/-- The texts that the id of an edge joins. -/
def parts (e : Edge) : List String :=
  [e.source, givenOr e.sourceAnchor "default", e.target, givenOr e.targetAnchor "default"]

/-- The words of a text, which hyphens separate. -/
def wordsOf (s : String) : List (List Char) :=
  s.toList.splitOn '-'

/-- The words of the ends and anchors of an edge, one text after the other. -/
def words (e : Edge) : List (List Char) :=
  e.parts.flatMap wordsOf

/-- How many words each of these texts has. -/
def wordCounts (e : Edge) : List Nat :=
  e.parts.map fun part => (wordsOf part).length

theorem wordsOf_inj {s t : String} : wordsOf s = wordsOf t ↔ s = t := by
  refine ⟨fun same => ?_, congrArg wordsOf⟩
  have joined := congrArg (['-'].intercalate ·) same
  simp only [wordsOf, List.intercalate_splitOn] at joined
  exact String.toList_inj.mp joined

theorem wordsOf_derivedId (e : Edge) : wordsOf e.derivedId = e.words := by
  have joined : e.derivedId.toList = ['-'].intercalate (e.parts.map String.toList) := by
    simp [derivedId, idOf, parts, List.intercalate_cons_cons]
  rw [wordsOf, joined, splitOn_intercalate_eq_flatMap _ _ (by simp [parts]), List.flatMap_map]
  rfl

/-- Where texts and anchors are broken into words does not show in an id, but nothing else gets
lost. -/
theorem derivedId_eq_iff (a b : Edge) : a.derivedId = b.derivedId ↔ a.words = b.words := by
  rw [← wordsOf_derivedId, ← wordsOf_derivedId, wordsOf_inj]

/-- The words and how many of them each text has determine the texts. -/
theorem parts_eq_of_words {a b : Edge} (words : a.words = b.words)
    (counts : a.wordCounts = b.wordCounts) : a.parts = b.parts := by
  -- Lists of words are known from the words in a row and the length of each list.
  have broken : a.parts.map wordsOf = b.parts.map wordsOf := by
    rw [List.eq_iff_flatten_eq, ← List.flatMap_def, ← List.flatMap_def, List.map_map, List.map_map]
    exact ⟨words, counts⟩
  exact List.map_injective_iff.mpr (fun _ _ => wordsOf_inj.mp) broken

end Edge

/-! ### Edges under derived ids -/

namespace Loadable

variable {edges : List Edge}

theorem nil : Loadable [] :=
  ⟨by simp, List.nodup_nil⟩

theorem sublist (loadable : Loadable edges) {fewer : List Edge} (sub : fewer.Sublist edges) :
    Loadable fewer where
  derived e member := loadable.derived e (sub.subset member)
  simple := loadable.simple.sublist (sub.map Edge.ends)

theorem concat (loadable : Loadable edges) {e : Edge} (unjoined : e.ends ∉ edges.map Edge.ends)
    (derived : e.id = e.derivedId) : Loadable (edges ++ [e]) where
  derived := List.forall_mem_append.mpr
    ⟨loadable.derived, List.forall_mem_singleton.mpr derived⟩
  simple := nodup_map_append_singleton loadable.simple unjoined

theorem id_eq_iff (loadable : Loadable edges) {a b : Edge} (left : a ∈ edges) (right : b ∈ edges) :
    a.id = b.id ↔ a.words = b.words := by
  rw [loadable.derived a left, loadable.derived b right, Edge.derivedId_eq_iff]

/-- Edges of one id are the same when their texts have as many words each. -/
theorem eq_of_id (loadable : Loadable edges) {a b : Edge} (left : a ∈ edges) (right : b ∈ edges)
    (id : a.id = b.id) (counts : a.wordCounts = b.wordCounts) : a = b := by
  have parts := Edge.parts_eq_of_words ((loadable.id_eq_iff left right).mp id) counts
  simp only [Edge.parts, List.cons.injEq] at parts
  -- The ends alone tell the edges of a list apart, whatever their anchors are.
  obtain ⟨source, -, target, -⟩ := parts
  refine List.inj_on_of_nodup_map loadable.simple left right ?_
  rw [Edge.ends, Edge.ends, source, target]

end Loadable

/-- What an edit leaves of edges under derived ids is such edges again. -/
theorem Edit.Effect.loadable {nodes nodes' : List Node} {edges edges' : List Edge} {edit : Edit}
    (effect : edit.Effect nodes edges nodes' edges')
    (loads : ∀ f, edit = .load f → Loadable f.edges) (loadable : Loadable edges) :
    Loadable edges' := by
  cases effect with
  | idle | placed | rewritten => exact loadable
  | deleted | disconnected => exact loadable.sublist List.filter_sublist
  | connected e anchored unjoined derived => exact loadable.concat unjoined derived
  | cleared => exact .nil
  | loaded f => exact loads f rfl

/-! ### Removing edges by id -/

namespace Editor

variable {σ : Type}

theorem run_loadable (source : IdSource σ) (edits : List Edit)
    (loads : ∀ f, Edit.load f ∈ edits → ∃ saved, (SavedFlow.load saved).result = .ok f)
    (e : Editor σ) (initially : Loadable e.edges) : Loadable (e.run source edits).edges := by
  refine run_invariant source (P := fun e => Loadable e.edges) edits ?_ e initially
  intro edit member e loadable
  refine (e.perform_effect source edit).loadable ?_ loadable
  rintro f rfl
  obtain ⟨saved, loaded⟩ := loads f member
  exact SavedFlow.loadable_of_load loaded

theorem disconnect_of_mem (e : Editor σ) (loadable : Loadable e.edges) {a : Edge}
    (member : a ∈ e.edges) :
    e.disconnect (.text a.id) =
      (true, { e with edges := e.edges.filter fun b => b.words ≠ a.words }) := by
  have there : e.edges.any (isIdOf (.text a.id)) = true :=
    List.any_eq_true.mpr ⟨a, member, by simp [isIdOf]⟩
  have left : (e.edges.filter fun b => !isIdOf (.text a.id) b) =
      e.edges.filter fun b => b.words ≠ a.words := by
    -- Any other edge at hand has this id exactly when it has these words.
    refine List.filter_congr fun b other => ?_
    rw [isIdOf, Bool.eq_iff_iff, Bool.not_eq_true', beq_eq_false_iff_ne, decide_eq_true_eq, Ne,
      loadable.id_eq_iff other member]
  rw [disconnect, there, left]

theorem disconnect_of_not_mem (e : Editor σ) {id : Value}
    (absent : ∀ a ∈ e.edges, id ≠ .text a.id) : e.disconnect id = (false, e) := by
  have foreign : ∀ a ∈ e.edges, isIdOf id a = false := by
    intro a member
    have apart := absent a member
    unfold isIdOf
    split
    next s => exact beq_eq_false_iff_ne.mpr fun same => apart (by rw [same])
    next => rfl
  have none : (e.disconnect id).1 = false := by simpa [disconnect] using foreign
  exact Prod.ext none (e.disconnect_of_absent id none)

/-- A single edge goes when it is the only one with its words. -/
theorem filter_words_eq_erase_iff {edges : List Edge} (loadable : Loadable edges) (a : Edge) :
    (edges.filter fun b => b.words ≠ a.words) = edges.erase a ↔
      ∀ b ∈ edges, b.words = a.words → b = a := by
  -- No edge is there twice, so erasing one drops all edges equal to it.
  have distinct : edges.Nodup := loadable.simple.of_map
  rw [distinct.erase_eq_filter]
  constructor
  · intro same b member words
    by_contra apart
    have stays : b ∈ edges.filter fun b => b != a := List.mem_filter.mpr ⟨member, by simpa⟩
    rw [← same] at stays
    simp [words] at stays
  · intro single
    refine List.filter_congr fun b member => ?_
    rw [Bool.eq_iff_iff, decide_eq_true_eq, bne_iff_ne, not_iff_not]
    exact ⟨single b member, congrArg Edge.words⟩

/-- After any run in which only loaded flows come into an empty editor, edges have one id exactly
when they have the same words, and those whose texts have as many words each have different ids. So
removing an id that is in use removes the edges of these words; it removes one edge, and leaves the
others in their order, exactly when no other edge has the same words. An id that is not in use
changes nothing. -/
theorem edges_by_words (source : IdSource σ) (ids : σ) (edits : List Edit)
    (loads : ∀ f, Edit.load f ∈ edits → ∃ saved, (SavedFlow.load saved).result = .ok f) :
    let e := (empty ids).run source edits
    (∀ a ∈ e.edges, ∀ b ∈ e.edges, a.id = b.id ↔ a.words = b.words) ∧
      (∀ a ∈ e.edges, ∀ b ∈ e.edges, a.id = b.id → a.wordCounts = b.wordCounts → a = b) ∧
      (∀ a ∈ e.edges, e.disconnect (.text a.id) =
        (true, { e with edges := e.edges.filter fun b => b.words ≠ a.words })) ∧
      (∀ a ∈ e.edges, (e.disconnect (.text a.id)).2.edges = e.edges.erase a ↔
        ∀ b ∈ e.edges, b.words = a.words → b = a) ∧
      ∀ id, (∀ a ∈ e.edges, id ≠ .text a.id) → e.disconnect id = (false, e) := by
  intro e
  have loadable : Loadable e.edges := run_loadable source edits loads _ .nil
  refine ⟨fun a left b right => loadable.id_eq_iff left right,
    fun a left b right => loadable.eq_of_id left right, fun a => e.disconnect_of_mem loadable,
    fun a member => ?_, fun id => e.disconnect_of_not_mem⟩
  rw [e.disconnect_of_mem loadable member]
  exact filter_words_eq_erase_iff loadable a

theorem edges_by_words_over_sketch :
    let edits := [Edit.load sketchFlow, .add (.text "route") [] true .null,
      .connect (.text "route-1") (.text "s") (.text "a-b") .null]
    (∀ f, Edit.load f ∈ edits → ∃ saved, (SavedFlow.load saved).result = .ok f) ∧
    let e := (empty IdCounter.initial).run .counter edits
    e.edges.map Edge.id = ["p-out-s-default", "s-default-p-default", "route-1-a-b-s-default"] ∧
      (∀ a ∈ e.edges, ∀ b ∈ e.edges, a.id = b.id ↔ a.words = b.words) ∧
      (∀ a ∈ e.edges, ∀ b ∈ e.edges, a.id = b.id → a.wordCounts = b.wordCounts → a = b) ∧
      (∀ a ∈ e.edges, e.disconnect (.text a.id) =
        (true, { e with edges := e.edges.filter fun b => b.words ≠ a.words })) ∧
      (∀ a ∈ e.edges, (e.disconnect (.text a.id)).2.edges = e.edges.erase a ↔
        ∀ b ∈ e.edges, b.words = a.words → b = a) ∧
      ∀ id, (∀ a ∈ e.edges, id ≠ .text a.id) → e.disconnect id = (false, e) := by
  intro edits
  have loads : ∀ f, Edit.load f ∈ edits → ∃ saved, (SavedFlow.load saved).result = .ok f := by
    intro f member
    have same : f = sketchFlow := by simpa [edits] using member
    exact ⟨sketch, same ▸ rfl⟩
  exact ⟨loads, by decide, edges_by_words .counter IdCounter.initial edits loads⟩

/-- A route with two services, the anchors of each connection repeating parts of the other. -/
def crossedEdits : List Edit :=
  [.add (.text "route") [] true .null, .add (.text "service") [] true .null,
    .add (.text "service") [] true .null,
    .connect (.text "route-1") (.text "service-2") (.text "out") (.text "in-service-3-in"),
    .connect (.text "route-1") (.text "service-3") (.text "out-service-2-in") (.text "in")]

/-- Two edges with different ends have one id, and removing it removes both. -/
theorem crossed_edges_share_id :
    (∀ f, Edit.load f ∉ crossedEdits) ∧
    let e := (empty IdCounter.initial).run .counter crossedEdits
    e.edges.map Edge.ends = [("route-1", "service-2"), ("route-1", "service-3")] ∧
      e.edges.map Edge.id = ["route-1-out-service-2-in-service-3-in",
        "route-1-out-service-2-in-service-3-in"] ∧
      (e.disconnect (.text "route-1-out-service-2-in-service-3-in")).2.edges = [] := by
  refine ⟨by simp [crossedEdits], by decide, by decide, by decide⟩

end Editor
end GatewayFlow
