import GatewayFlow.Proofs.FreshIds
import GatewayFlow.SavedFlow

/-!
# Failed edits

An operation of an editor that fails, refuses a connection or finds no edge to remove leaves the
nodes and the edges as they were. Only a failed addition may cost something: draws from the source
of ids. Two operations end with a step that is not the editor's own and break off when it fails:
clearing with the reset of the source of ids, and loading an object that has nodes but no edges. One
lemma for each operation says what its failure leaves behind; the statements about every request and
about every run of failing requests follow from them.
-/
namespace GatewayFlow

/-- What is asked of an editor: an edit, or that a saved flow or what any object gives for one takes
the place of its own. -/
inductive Request
  | edit (edit : Edit)
  | loadSaved (saved : Value)
  | loadFrom (given : FlowLike)

/-- An answer that nothing was done: a failure, a refused connection, or no edge of an id. -/
inductive Failed : Except Failure Reply → Prop
  | raised (failure : Failure) : Failed (.error failure)
  | refused (v : Verdict) (invalid : v.valid = false) : Failed (.ok (.verdict v))
  | absent : Failed (.ok (.removed false))

instance : DecidablePred Failed
  | .error failure => isTrue (.raised failure)
  | .ok (.verdict v) =>
    if invalid : v.valid = false then isTrue (.refused v invalid)
    else isFalse fun | .refused _ valid => invalid valid
  | .ok (.removed false) => isTrue .absent
  | .ok (.removed true) => isFalse nofun
  | .ok (.node _) => isFalse nofun
  | .ok .done => isFalse nofun

theorem Failed.of_map {α : Type} {f : α → Reply} {r : Except Failure α} (failed : Failed (r.map f))
    (succeeds : ∀ a, ¬ Failed (.ok (f a))) : ∃ failure, r = .error failure := by
  cases r with
  | error failure => exact ⟨failure, rfl⟩
  | ok a => exact absurd failed (succeeds a)

theorem not_failed_node (n : Node) : ¬ Failed (.ok (.node n)) := nofun

theorem not_failed_done : ¬ Failed (.ok .done) := nofun

namespace Editor

variable {σ : Type}

/-- Answers a request. A saved flow has to load before it gets to the editor. -/
def answer (source : IdSource σ) (e : Editor σ) : Request → Logged Failure Reply × Editor σ
  | .edit edit => e.perform source edit
  | .loadSaved saved =>
    let loaded := SavedFlow.load saved
    match loaded.result with
    | .ok f => (⟨loaded.lines, .ok .done⟩, e.load f)
    | .error failure => (⟨loaded.lines, .error failure⟩, e)
  | .loadFrom given =>
    let (result, e) := e.loadFrom given
    (.quiet (result.map fun _ => .done), e)

/-- The exception of a request that breaks off, and the editor that it leaves: everything is gone
when the reset of the source fails, and the nodes of an object are in place when it has no edges. -/
def brokenOff? (source : IdSource σ) (e : Editor σ) : Request → Option (Raised × Editor σ)
  | .edit .clear =>
    match source.reset e.ids with
    | (.error exception, ids) => some (exception, empty ids)
    | (.ok (), _) => none
  | .loadFrom ⟨.ok nodes, .error exception⟩ => some (exception, { e with nodes })
  | _ => none

/-- The editor after requests in turn, whether they fail or not. -/
def serve (source : IdSource σ) (e : Editor σ) (requests : List Request) : Editor σ :=
  requests.foldl (fun e request => (e.answer source request).2) e

/-- Each of the requests fails, without breaking off, in the state that those before it lead to. -/
def FailInTurn (source : IdSource σ) (e : Editor σ) : List Request → Prop
  | [] => True
  | request :: rest =>
    (Failed (e.answer source request).1.result ∧ e.brokenOff? source request = none) ∧
      (e.answer source request).2.FailInTurn source rest

instance decidableFailInTurn (source : IdSource σ) :
    (e : Editor σ) → (requests : List Request) → Decidable (e.FailInTurn source requests)
  | _, [] => isTrue trivial
  | e, request :: rest =>
    have := decidableFailInTurn source (e.answer source request).2 rest
    inferInstanceAs (Decidable ((_ ∧ _) ∧ _))

/-- What a failed request can cost: nothing, or draws of an id for the node to be added, the last of
which may have raised. -/
inductive Costs (source : IdSource σ) (e : Editor σ) : Request → σ → Prop
  | nothing (request : Request) : Costs source e request e.ids
  | draws {kind attributes withDefaults pluginName} (named : Kind)
      (read : Kind.read kind = .ok named) (made : Nat) (bound : made ≤ e.drawLimit) :
      Costs source e (.edit (.add kind attributes withDefaults pluginName))
        ((source.advance named)^[made] e.ids)

/-! ### What the failure of each operation leaves behind -/

theorem add_of_error (source : IdSource σ) (e : Editor σ) (kind : Value) (attributes : Entries)
    (withDefaults : Bool) (pluginName : Value) (failure : Failure)
    (failed : (e.add source kind attributes withDefaults pluginName).1.result = .error failure) :
    ∃ ids, (e.add source kind attributes withDefaults pluginName).2 = { e with ids } ∧
      Costs source e (.edit (.add kind attributes withDefaults pluginName)) ids := by
  have added := e.add_added source kind attributes withDefaults pluginName
  generalize e.add source kind attributes withDefaults pluginName = result at added failed ⊢
  -- An unread kind costs nothing; from the search on, the draws are what is lost.
  cases added with
  | unread => exact ⟨e.ids, rfl, .nothing _⟩
  | @exhausted named _ ids read drawn | @unbuilt named _ _ ids read drawn =>
    obtain ⟨made, bound, advanced⟩ := e.newId_ids source named
    obtain rfl : ids = (source.advance named)^[made] e.ids := by rwa [drawn] at advanced
    exact ⟨_, rfl, .draws named read made bound⟩
  | placed => cases failed

theorem update_of_error (e : Editor σ) (id : Value) (attributes : Entries) (failure : Failure)
    (failed : (e.update id attributes).1 = .error failure) : (e.update id attributes).2 = e := by
  unfold update at failed ⊢
  cases found : e.get id with
  | error _ => rfl
  | ok current =>
    rw [found] at failed
    dsimp only at failed ⊢
    cases built : updated current attributes with
    | error _ => rfl
    | ok n =>
      rw [built] at failed
      cases failed

theorem delete_of_error (e : Editor σ) (id : Value) (failure : Failure)
    (failed : (e.delete id).1.result = .error failure) : (e.delete id).2 = e := by
  unfold delete at failed ⊢
  cases found : e.get id with
  | error _ => rfl
  | ok n =>
    rw [found] at failed
    cases failed

/-- A connection is made only with a verdict that is valid. -/
theorem connect_of_not_valid (e : Editor σ) (source target sourceAnchor targetAnchor : Value)
    (failed : ∀ v, (e.connect source target sourceAnchor targetAnchor).1.result = .ok v →
      v.valid = false) :
    (e.connect source target sourceAnchor targetAnchor).2 = e := by
  unfold connect at failed ⊢
  dsimp only at failed ⊢
  cases check : refusal? (e.find? source) (e.find? target) e.edges with
  | some r => rw [checkConnection, check]; rfl
  | none =>
    rw [checkConnection, check] at failed ⊢
    dsimp only [Verdict.passed] at failed ⊢
    -- The verdict is valid, so what failed is the edge that was to be drawn.
    cases built : (Edge.build source target sourceAnchor targetAnchor).orFail with
    | error _ => rfl
    | ok edge =>
      rw [built] at failed
      exact absurd (failed _ rfl) (by simp [Verdict.valid])

theorem disconnect_of_absent (e : Editor σ) (id : Value) (absent : (e.disconnect id).1 = false) :
    (e.disconnect id).2 = e := by
  have others : (e.edges.filter fun edge => !isIdOf id edge) = e.edges := by
    rw [List.filter_eq_self]
    intro edge member
    have other : isIdOf id edge = false := by simpa using List.any_eq_false.mp absent edge member
    rw [other]
    rfl
  rw [disconnect, others]

/-- Clearing fails with the reset of the source alone. -/
theorem failed_clear_iff (source : IdSource σ) (e : Editor σ) :
    Failed (e.perform source .clear).1.result ↔
      ∃ exception, (source.reset e.ids).1 = .error exception := by
  have told : (e.perform source .clear).1.result =
      ((source.reset e.ids).1.mapError .raised).map fun _ => .done := rfl
  rw [told]
  cases (source.reset e.ids).1 with
  | error exception => exact iff_of_true (.raised _) ⟨exception, rfl⟩
  | ok => exact iff_of_false not_failed_done nofun

theorem loadFrom_of_error (e : Editor σ) (given : FlowLike) (failure : Failure)
    (failed : (e.loadFrom given).1 = .error failure) :
    (e.loadFrom given).2 = e ∨
      ∃ nodes exception, given = ⟨.ok nodes, .error exception⟩ := by
  obtain ⟨_ | nodes, _ | edges⟩ := given
  · exact .inl rfl
  · exact .inl rfl
  · exact .inr ⟨_, _, rfl⟩
  · cases failed

/-! ### Requests and runs of them -/

section

variable (source : IdSource σ) (e : Editor σ)

/-- A verdict that is told counts as a failure only when it is not valid. -/
theorem perform_connect_of_failed (s t sourceAnchor targetAnchor : Value)
    (failed : Failed (e.perform source (.connect s t sourceAnchor targetAnchor)).1.result) :
    (e.perform source (.connect s t sourceAnchor targetAnchor)).2 = e := by
  apply e.connect_of_not_valid
  intro v decided
  have told : (e.perform source (.connect s t sourceAnchor targetAnchor)).1.result =
      .ok (.verdict v) := by
    rw [perform, Logged.result_map, decided]
    rfl
  rw [told] at failed
  cases failed
  assumption

theorem perform_disconnect_of_failed (id : Value)
    (failed : Failed (e.perform source (.disconnect id)).1.result) :
    (e.perform source (.disconnect id)).2 = e := by
  apply e.disconnect_of_absent
  cases any : (e.disconnect id).1 with
  | false => rfl
  | true =>
    have told : (e.perform source (.disconnect id)).1.result = .ok (.removed true) := by
      rw [perform, ← any]
      rfl
    rw [told] at failed
    cases failed

theorem perform_of_failed (edit : Edit) (failed : Failed (e.perform source edit).1.result)
    (unbroken : e.brokenOff? source (.edit edit) = none) :
    ∃ ids, (e.perform source edit).2 = { e with ids } ∧ Costs source e (.edit edit) ids := by
  -- All edits but an addition leave the whole editor as it was, its source of ids included.
  have unmoved (same : (e.perform source edit).2 = e) :
      ∃ ids, (e.perform source edit).2 = { e with ids } ∧ Costs source e (.edit edit) ids :=
    ⟨e.ids, same, .nothing _⟩
  cases edit with
  | add kind attributes withDefaults pluginName =>
    obtain ⟨failure, raised⟩ := (Logged.result_map .. ▸ failed).of_map not_failed_node
    exact e.add_of_error source kind attributes withDefaults pluginName failure raised
  | update id attributes =>
    obtain ⟨failure, raised⟩ := failed.of_map not_failed_node
    exact unmoved (e.update_of_error id attributes failure raised)
  | delete id =>
    obtain ⟨failure, raised⟩ := (Logged.result_map .. ▸ failed).of_map fun _ => not_failed_done
    exact unmoved (e.delete_of_error id failure raised)
  | get id => exact unmoved rfl
  | connect s t sourceAnchor targetAnchor =>
    exact unmoved (e.perform_connect_of_failed source s t sourceAnchor targetAnchor failed)
  | disconnect id => exact unmoved (e.perform_disconnect_of_failed source id failed)
  | clear =>
    obtain ⟨exception, unreset⟩ := (e.failed_clear_iff source).mp failed
    rw [brokenOff?] at unbroken
    split at unbroken
    · cases unbroken
    next reset =>
      rw [reset] at unreset
      cases unreset
  | load f => cases failed

end

theorem answer_of_failed (source : IdSource σ) (e : Editor σ) (request : Request)
    (failed : Failed (e.answer source request).1.result)
    (unbroken : e.brokenOff? source request = none) :
    ∃ ids, (e.answer source request).2 = { e with ids } ∧ Costs source e request ids := by
  cases request with
  | edit edit => exact e.perform_of_failed source edit failed unbroken
  | loadSaved saved =>
    refine ⟨e.ids, ?_, .nothing _⟩
    rw [answer] at failed ⊢
    cases loaded : (SavedFlow.load saved).result with
    | error _ => rfl
    | ok f =>
      rw [loaded] at failed
      cases failed
  | loadFrom given =>
    obtain ⟨failure, raised⟩ := failed.of_map fun _ => not_failed_done
    rcases e.loadFrom_of_error given failure raised with same | ⟨nodes, exception, rfl⟩
    · exact ⟨e.ids, same, .nothing _⟩
    · cases unbroken

/-- What breaks off raises its exception, and leaves what `brokenOff?` says. -/
theorem answer_of_brokenOff (source : IdSource σ) (e : Editor σ) (request : Request)
    {exception : Raised} {left : Editor σ}
    (broken : e.brokenOff? source request = some (exception, left)) :
    e.answer source request = (.fail (.raised exception), left) := by
  unfold brokenOff? at broken
  split at broken
  next =>
    split at broken
    next reset =>
      cases broken
      simp only [answer, perform, clear, reset]
      rfl
    next => cases broken
  next =>
    cases broken
    rfl
  next => cases broken

/-- By induction on the requests, for the state in which each of them is made. -/
theorem serve_of_failInTurn (source : IdSource σ) (e : Editor σ) (requests : List Request)
    (failed : e.FailInTurn source requests) :
    ∃ ids, e.serve source requests = { e with ids } := by
  induction requests generalizing e with
  | nil => exact ⟨e.ids, rfl⟩
  | cons request rest ih =>
    obtain ⟨⟨first, unbroken⟩, others⟩ := failed
    obtain ⟨ids, after, -⟩ := e.answer_of_failed source request first unbroken
    obtain ⟨last, done⟩ := ih _ others
    refine ⟨last, ?_⟩
    rw [serve, List.foldl_cons, ← serve, done, after]

/-- Whatever state an editor is in and wherever its ids come from, a request that fails and does not
break off leaves the nodes and the edges exactly as they were, and so does a run of such requests.
What it can cost is that the source of ids has moved on, by draws for a node that was not added. A
request that breaks off raises, and leaves no node and no edge when it is a clearing. Clearing
removes everything in any case, and fails exactly when the reset of the source does. -/
theorem failed_requests_keep_flow (source : IdSource σ) (e : Editor σ) :
    (∀ request, Failed (e.answer source request).1.result → e.brokenOff? source request = none →
      (e.answer source request).2.nodes = e.nodes ∧ (e.answer source request).2.edges = e.edges ∧
      Costs source e request (e.answer source request).2.ids) ∧
    (∀ request exception left, e.brokenOff? source request = some (exception, left) →
      e.answer source request = (.fail (.raised exception), left)) ∧
    ((Failed (e.answer source (.edit .clear)).1.result ↔
        ∃ exception, (source.reset e.ids).1 = .error exception) ∧
      (e.answer source (.edit .clear)).2.nodes = [] ∧
      (e.answer source (.edit .clear)).2.edges = []) ∧
    ∀ requests, e.FailInTurn source requests →
      (e.serve source requests).nodes = e.nodes ∧ (e.serve source requests).edges = e.edges := by
  refine ⟨fun request failed unbroken => ?_, fun request exception left broken => ?_,
    ⟨e.failed_clear_iff source, rfl, rfl⟩, fun requests failed => ?_⟩
  · obtain ⟨ids, after, cost⟩ := e.answer_of_failed source request failed unbroken
    rw [after]
    exact ⟨rfl, rfl, cost⟩
  · exact e.answer_of_brokenOff source request broken
  · obtain ⟨ids, after⟩ := e.serve_of_failInTurn source requests failed
    rw [after]
    exact ⟨rfl, rfl⟩

/-- A source that never gets past one id, gives up after some draws and cannot be started again. -/
def stuckSource : IdSource Nat where
  draw _ drawn :=
    (if drawn < 3 then .ok "route-1" else .error ⟨"StopIteration", ""⟩, drawn + 1)
  reset drawn :=
    (.error ⟨"TypeError", "reset() missing 1 required positional argument: 'seed'"⟩, drawn)

/-- A request for every way of failing: no kind, no id, a draw that raises, no such node, attributes
that do not fit, ends that may not be joined, an anchor that is no text, no such edge, flows that do
not load, and what is no flow. -/
def failingRequests : List Request :=
  [.edit (.add (.text "gateway") [] true .null), .edit (.add (.text "service") [] true .null),
    .edit (.add (.text "service") [] true .null), .edit (.update (.text "absent") []),
    .edit (.update (.text "route-1") [(.text "port", .int 1)]),
    .edit (.update (.text "service-3") [(.text "port", .list [])]), .edit (.delete (.int 3)),
    .edit (.get .null), .edit (.connect (.text "route-1") (.text "route-1") .null .null),
    .edit (.connect (.text "route-1") (.text "service-3") (.text "other") .null),
    .edit (.connect (.text "route-1") (.text "absent") .null .null),
    .edit (.connect (.text "service-3") (.text "route-1") (.int 5) .null),
    .edit (.disconnect (.text "absent")), .loadSaved (.text "nodes"),
    .loadSaved (.record [("nodes", .int 5)]),
    .loadFrom ⟨.error ⟨"AttributeError", "'dict' object has no attribute 'nodes'"⟩, .ok []⟩]

theorem failed_requests_keep_routedFlow :
    let e := start 0 (some routedFlow)
    e.FailInTurn stuckSource failingRequests ∧
      (e.serve stuckSource failingRequests).nodes = routedFlow.nodes ∧
      (e.serve stuckSource failingRequests).edges = routedFlow.edges ∧
      (e.serve stuckSource failingRequests).ids = 4 := by
  intro e
  have failed : e.FailInTurn stuckSource failingRequests := by decide +kernel
  obtain ⟨nodes, edges⟩ :=
    (failed_requests_keep_flow stuckSource e).2.2.2 failingRequests failed
  have drawn : (e.serve stuckSource failingRequests).ids = 4 := by decide +kernel
  exact ⟨failed, nodes, edges, drawn⟩

/-- An object that has nodes, none at all, and no edges to ask for. -/
def nodesAlone : FlowLike :=
  ⟨.ok [], .error ⟨"AttributeError", "'NodeList' object has no attribute 'edges'"⟩⟩

/-- A clearing and the loading of what is no flow may fail after a change: the first when the source
of ids cannot be started again, the second when there are nodes to put in place, but no edges. -/
theorem requests_broken_off_change_routedFlow :
    let e := start 0 (some routedFlow)
    let cleared := e.answer stuckSource (.edit .clear)
    let loaded := e.answer stuckSource (.loadFrom nodesAlone)
    (e.nodes.map Node.id = ["service-3", "route-1"] ∧ e.edges.length = 1) ∧
      (Failed cleared.1.result ∧ cleared.2.nodes = [] ∧ cleared.2.edges = []) ∧
      (Failed loaded.1.result ∧ loaded.2.nodes = [] ∧ loaded.2.edges = e.edges) ∧
      ¬∀ request, Failed (e.answer stuckSource request).1.result →
        (e.answer stuckSource request).2.nodes = e.nodes ∧
          (e.answer stuckSource request).2.edges = e.edges := by
  intro e cleared loaded
  have gone : Failed cleared.1.result ∧ cleared.2.nodes = [] ∧ cleared.2.edges = [] :=
    ⟨.raised _, rfl, rfl⟩
  have replaced : Failed loaded.1.result ∧ loaded.2.nodes = [] ∧ loaded.2.edges = e.edges :=
    ⟨.raised _, rfl, rfl⟩
  refine ⟨by decide, gone, replaced, fun kept => ?_⟩
  have emptied := (kept (.edit .clear) gone.1).1
  exact absurd (emptied.symm.trans gone.2.1) nofun

end Editor
end GatewayFlow
