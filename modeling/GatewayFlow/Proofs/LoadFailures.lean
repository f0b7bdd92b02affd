import GatewayFlow.CommandLine
import GatewayFlow.Proofs.LoadedFlows
import GatewayFlow.Proofs.OneLineMessages

/-!
# Failures of loading

What keeps a flow that was saved as JSON from being loaded is a cause that the command line reports:
on one line, unless the cause brings the report of issues, which takes several. Two kinds of failure
escape: `nodes` or `edges` that are a scalar without members, and bytes that are no text.
-/
namespace GatewayFlow

namespace SavedFlow

/-! ### Keys -/

/-- Texts can be compared, so a text finds its place among texts. -/
theorem insertKey_texts (fuel : Nat) {k : Scalar} {before between after : List Scalar}
    (key : ∃ s, k = .text s) (texts : ∀ t ∈ before ++ between ++ after, ∃ s, t = .text s) :
    ∃ keys, insertKey fuel k before between after = .ok keys ∧ ∀ t ∈ keys, ∃ s, t = .text s := by
  induction fuel generalizing before between after with
  | zero =>
    refine ⟨_, rfl, fun t member => ?_⟩
    simp only [List.mem_append, List.mem_cons] at member texts
    rcases member with old | rfl | old | old
    · exact texts t (.inl (.inl old))
    · exact key
    · exact texts t (.inl (.inr old))
    · exact texts t (.inr old)
  | succ fuel ih =>
    rw [insertKey]
    have halves := List.take_append_drop (between.length / 2) between
    rw [← halves] at texts
    cases upper : between.drop (between.length / 2) with
    | nil =>
      refine ⟨_, rfl, fun t member => ?_⟩
      rcases List.mem_append.mp member with old | new
      · exact texts t (by simp [old])
      · rcases List.mem_cons.mp new with rfl | old
        · exact key
        · exact texts t (by simp [old])
    | cons middle rest =>
      rw [upper] at texts
      obtain ⟨s, rfl⟩ := key
      obtain ⟨m, rfl⟩ := texts middle (by simp)
      -- The search goes on in one of the two halves; the other one joins the keys around it.
      dsimp only [keyBelow, ok_bind]
      simp only [List.mem_append, List.mem_cons] at texts
      split
      · refine ih fun t member => texts t ?_
        simp only [List.mem_append, List.mem_cons] at member
        tauto
      · refine ih fun t member => texts t ?_
        simp only [List.mem_append, List.mem_cons, List.not_mem_nil] at member
        tauto

theorem sortKeys_texts {keys : List Scalar} (texts : ∀ t ∈ keys, ∃ s, t = .text s) :
    ∃ sorted, sortKeys keys = .ok sorted ∧ ∀ t ∈ sorted, ∃ s, t = .text s := by
  have from_done (done : List Scalar) (texts_done : ∀ t ∈ done, ∃ s, t = .text s) :
      ∃ sorted, keys.foldlM (fun done k => insertKey (done.length + 1) k [] done []) done =
        .ok sorted ∧ ∀ t ∈ sorted, ∃ s, t = .text s := by
    -- By induction on the keys that are left, over what is sorted so far.
    induction keys generalizing done with
    | nil => exact ⟨done, rfl, texts_done⟩
    | cons k rest ih =>
      obtain ⟨key, others⟩ := List.forall_mem_cons.mp texts
      obtain ⟨longer, inserted, texts_longer⟩ :=
        @insertKey_texts (done.length + 1) k [] done [] key (by simpa using texts_done)
      rw [List.foldlM_cons, inserted, ok_bind]
      exact ih others longer texts_longer
  exact from_done [] nofun

/-- By induction on the keys, for every position of the first one. -/
theorem joinKeys_texts {keys : List Scalar} (texts : ∀ t ∈ keys, ∃ s, t = .text s) :
    ∃ text, joinKeys keys = .ok text := by
  have named (i : Nat) : ∃ names, joinKeys.names i keys = .ok names := by
    induction keys generalizing i with
    | nil => exact ⟨[], rfl⟩
    | cons k rest ih =>
      obtain ⟨⟨s, rfl⟩, others⟩ := List.forall_mem_cons.mp texts
      obtain ⟨names, eq⟩ := ih others (i + 1)
      exact ⟨s :: names, by rw [joinKeys.names, eq]; rfl⟩
  obtain ⟨names, eq⟩ := named 0
  exact ⟨_, by rw [joinKeys, eq]; rfl⟩

/-- The warning about dropped attributes never fails where the keys are texts. -/
theorem dropLines_texts (kind : Kind) (raw : RawNode)
    (texts : ∀ e ∈ raw.attributes, ∃ s, e.1 = .text s) :
    ∃ lines, dropLines kind raw = .ok lines := by
  have unknown : ∀ t ∈ (raw.attributes.map Prod.fst).filter fun k => !isKnown kind k,
      ∃ s, t = .text s := by
    intro t member
    obtain ⟨e, there, rfl⟩ := List.mem_map.mp (List.mem_of_mem_filter member)
    exact texts e there
  -- Keys are sorted and then joined; either could fail for keys that are no texts.
  obtain ⟨dropped, sorted, texts_dropped⟩ := sortKeys_texts unknown
  obtain ⟨names, joined⟩ := joinKeys_texts texts_dropped
  rw [dropLines, sorted, ok_bind]
  split
  · exact ⟨[], rfl⟩
  · rw [joined]
    exact ⟨_, rfl⟩

/-! ### Parts of a saved flow -/

theorem firstOf_isJson (name other : String) {entries others : Entries}
    (isJson : (Value.mapping entries).IsJson) (othersJson : (Value.mapping others).IsJson) :
    (firstOf name other entries others).IsJson := by
  refine Value.isJson_getD fun v found => ?_
  rcases Option.or_eq_some_iff.mp found with here | ⟨-, there⟩
  · exact isJson.of_get? here
  · exact othersJson.of_get? there

theorem kindAndAttributes_isJson {entries : Entries} (isJson : (Value.mapping entries).IsJson) :
    (kindAndAttributes entries).1.IsJson ∧ (kindAndAttributes entries).2.IsJson := by
  unfold kindAndAttributes
  split
  next data found =>
    have dataJson : (Value.mapping data).IsJson := isJson.of_get? found
    exact ⟨firstOf_isJson _ _ dataJson isJson,
      Value.isJson_getD fun v found => dataJson.of_get? found⟩
  next =>
    exact ⟨firstOf_isJson _ _ isJson isJson, Value.isJson_getD fun v found => isJson.of_get? found⟩

/-- The kind and the attributes of a raw node come from the node itself, wherever they stand. -/
theorem split_isJson {position : Int} {raw : Value} {parts : RawNode} (isJson : raw.IsJson)
    (parted : split position raw = .ok parts) :
    parts.kind.IsJson ∧ ∀ e ∈ parts.attributes, ∃ s, e.1 = .text s := by
  obtain ⟨entries, rfl, -, -, kind, own⟩ := (split_eq_ok ..).mp parted
  obtain ⟨kindJson, attributesJson⟩ := kindAndAttributes_isJson isJson
  refine ⟨kind ▸ kindJson, ?_⟩
  split at own
  next =>
    have none : parts.attributes = [] := (Value.mapping.inj own).symm
    rw [none]
    exact nofun
  next =>
    rw [own] at attributesJson
    exact ((Value.throughout_mapping _).mp attributesJson).1

/-- A failure of loading proper; what its cause says of its own fits on one line. -/
def Caused (failure : Failure) : Prop :=
  ∃ cause, failure = .load cause ∧ cause.FitsLine

/-- The node of the parts of a raw one. -/
def nodeOf (parts : RawNode) : Except Failure Node :=
  match Kind.ofValue? parts.kind with
  | none => .error (.load (.unknownKind parts.kind parts.id))
  | some kind =>
    (Node.build kind (.text parts.id) (.mapping (kept kind parts.attributes))).toExcept.mapError
      fun issues => .load (.node parts.id issues)

/-- Where keys are texts, the warning about dropped attributes does not fail, and has no say in the
result. -/
theorem result_loadNode {raw : Value} {position : Int}
    (texts : ∀ parts, split position raw = .ok parts → ∀ e ∈ parts.attributes, ∃ s, e.1 = .text s) :
    (loadNode raw position).result = (split position raw).mapError Failure.load >>= nodeOf := by
  rw [loadNode, Logged.result_bind, Logged.result_quiet]
  cases parted : split position raw with
  | error cause => rfl
  | ok parts =>
    rw [mapError_ok, ok_bind, ok_bind, nodeOf]
    cases Kind.ofValue? parts.kind with
    | none => rfl
    | some kind =>
      obtain ⟨lines, dropped⟩ := dropLines_texts kind parts (texts parts parted)
      dsimp only
      rw [Logged.result_bind, Logged.result_quiet, dropped, ok_bind]

/-- A raw node fails at its shape, at its kind or at its attributes. -/
theorem loadNode_caused {raw : Value} (isJson : raw.IsJson) {position : Int} {failure : Failure}
    (failed : (loadNode raw position).result = .error failure) : Caused failure := by
  rw [result_loadNode fun _ parted => (split_isJson isJson parted).2, bind_eq_error,
    mapError_eq_error] at failed
  rcases failed with ⟨cause, notSplit, rfl⟩ | ⟨parts, parted, failed⟩
  · refine ⟨cause, rfl, ?_⟩
    rcases split_eq_error notSplit with rfl | rfl | ⟨id, rfl⟩ <;> trivial
  · rw [mapError_eq_ok] at parted
    unfold nodeOf at failed
    split at failed
    next =>
      cases failed
      exact ⟨_, rfl, (split_isJson isJson parted).1⟩
    next =>
      obtain ⟨issues, -, rfl⟩ := (mapError_eq_error ..).mp failed
      exact ⟨_, rfl, trivial⟩

/-- Raw nodes fail where one of them does. -/
theorem loadNodes_eq_error {raws : List Value} {i : Nat} {failure : Failure}
    (failed : (loadNodes i raws).result = .error failure) :
    ∃ raw ∈ raws, ∃ position, (loadNode raw position).result = .error failure := by
  induction raws generalizing i with
  | nil => cases failed
  | cons raw rest ih =>
    rw [loadNodes, Logged.result_bind, bind_eq_error] at failed
    rcases failed with here | ⟨n, -, failed⟩
    · exact ⟨raw, List.mem_cons_self, i, here⟩
    · rw [Logged.result_bind, bind_eq_error] at failed
      rcases failed with later | ⟨nodes, -, done⟩
      · obtain ⟨other, member, at_other⟩ := ih later
        exact ⟨other, List.mem_cons_of_mem _ member, at_other⟩
      · cases done

theorem loadEdge_caused {raw : Value} {position : Int} {failure : Failure}
    (failed : loadEdge raw position = .error failure) : Caused failure := by
  unfold loadEdge at failed
  split at failed
  next entries =>
    obtain ⟨issues, -, rfl⟩ := (mapError_eq_error ..).mp failed
    exact ⟨_, rfl, trivial⟩
  next =>
    cases failed
    exact ⟨_, rfl, trivial⟩

/-- Raw edges fail where one of them does, whichever pairs were seen before them. -/
theorem loadEdges_eq_error {raws : List Value} {seen : List (String × String)} {i : Nat}
    {failure : Failure} (failed : (loadEdges seen i raws).result = .error failure) :
    ∃ raw ∈ raws, ∃ position, loadEdge raw position = .error failure := by
  induction raws generalizing seen i with
  | nil => cases failed
  | cons raw rest ih =>
    rw [loadEdges_cons, bind_eq_error] at failed
    rcases failed with here | ⟨e, -, failed⟩
    · exact ⟨raw, List.mem_cons_self, i, here⟩
    · -- A pair that was seen is dropped with a warning, which does not fail.
      have later : ∃ seen, (loadEdges seen (i + 1) rest).result = .error failure := by
        split at failed
        · exact ⟨_, failed⟩
        · exact ⟨_, (map_eq_error ..).mp failed⟩
      obtain ⟨_, later⟩ := later
      obtain ⟨other, member, at_other⟩ := ih later
      exact ⟨other, List.mem_cons_of_mem _ member, at_other⟩

/-! ### Lists of parts -/

/-- A scalar that stands for no members: it says something and is no text. -/
def Memberless (s : Scalar) : Prop :=
  s.isVoid = false ∧ ∀ t, s ≠ .text t

/-- Asking for members fails exactly for a scalar that has none. -/
theorem members_eq_error (v : Value) (failure : Failure) :
    members v = .error failure ↔
      ∃ s, v = .scalar s ∧ Memberless s ∧ failure = .notIterable (scalarType s) := by
  unfold members
  constructor
  · intro failed
    split at failed
    next => cases failed
    next solid =>
      split at failed
      next => cases failed
      next => cases failed
      next => cases failed
      next s other =>
        cases failed
        have something : s.isVoid = false := by simpa [Value.isVoid] using solid
        exact ⟨s, rfl, ⟨something, fun t same => other t (same ▸ rfl)⟩, rfl⟩
  · rintro ⟨s, rfl, ⟨solid, other⟩, rfl⟩
    rw [if_neg (by simp [Value.isVoid, solid])]
    cases s with
    | text t => exact absurd rfl (other t)
    | _ => rfl

/-- The keys of a mapping and the characters of a text count as members, and are texts. -/
theorem members_isJson {v : Value} (isJson : v.IsJson) {raws : List Value}
    (listed : members v = .ok raws) : ∀ raw ∈ raws, raw.IsJson := by
  unfold members at listed
  -- As `members` goes through a value: void, a list, a mapping, a text or another scalar.
  split at listed
  next =>
    cases listed
    exact nofun
  next =>
    split at listed
    next items =>
      cases listed
      exact (Value.throughout_list _).mp isJson
    next entries =>
      cases listed
      intro raw member
      obtain ⟨e, there, rfl⟩ := List.mem_map.mp member
      obtain ⟨s, key⟩ := ((Value.throughout_mapping _).mp isJson).1 e there
      rw [key]
      exact .scalar trivial
    next =>
      cases listed
      intro raw member
      obtain ⟨c, -, rfl⟩ := List.mem_map.mp member
      exact .scalar trivial
    next => cases listed

/-- The nodes of a saved flow are a scalar without members, or its nodes load and its edges are
one. -/
inductive Unlisted (saved : Value) : Scalar → Prop
  | nodes {s : Scalar} (given : saved.field? "nodes" = some (.scalar s))
    (memberless : Memberless s) : Unlisted saved s
  | edges {s : Scalar} {raws : List Value} {nodes : List Node}
    (listed : members ((saved.field? "nodes").getD .null) = .ok raws)
    (loaded : (loadNodes 0 raws).result = .ok nodes)
    (given : saved.field? "edges" = some (.scalar s)) (memberless : Memberless s) :
    Unlisted saved s

theorem Unlisted.load_fails {saved : Value} {s : Scalar} (unlisted : Unlisted saved s) :
    (load saved).result = .error (.notIterable (scalarType s)) := by
  cases saved with
  | mapping entries =>
    simp only [load, Logged.result_bind, Logged.result_quiet]
    cases unlisted with
    | nodes given memberless =>
      have found : Entries.get? "nodes" entries = some (.scalar s) := given
      have failed := (members_eq_error ..).mpr ⟨s, rfl, memberless, rfl⟩
      rw [found, Option.getD_some, failed, error_bind]
    | edges listed loaded given memberless =>
      have found : Entries.get? "edges" entries = some (.scalar s) := given
      have failed := (members_eq_error ..).mpr ⟨s, rfl, memberless, rfl⟩
      have nodes : members ((Entries.get? "nodes" entries).getD .null) = .ok _ := listed
      rw [nodes, ok_bind, loaded, ok_bind, found, Option.getD_some, failed, error_bind]
  | _ =>
    cases unlisted with
    | nodes given => cases given
    | edges _ _ given => cases given

/-- Where loading fails, by its steps: at the flow, at the list of nodes, at a node, at the list of
edges, at an edge, or at ids that are used twice. -/
inductive StopsAt (saved : Value) (failure : Failure) : Prop
  | shape (same : failure = .load .flowNotMapping)
  | nodeList (unlisted : members ((saved.field? "nodes").getD .null) = .error failure)
  | node {raws : List Value} {raw : Value} {position : Int}
    (listed : members ((saved.field? "nodes").getD .null) = .ok raws) (member : raw ∈ raws)
    (failed : (loadNode raw position).result = .error failure)
  | edgeList {raws : List Value} {nodes : List Node}
    (listed : members ((saved.field? "nodes").getD .null) = .ok raws)
    (loaded : (loadNodes 0 raws).result = .ok nodes)
    (unlisted : members ((saved.field? "edges").getD .null) = .error failure)
  | edge {raw : Value} {position : Int} (failed : loadEdge raw position = .error failure)
  | ids {nodes : List Node} {edges : List Edge} {issues : List Issue}
    (repeated : Flow.ofParts nodes edges = .issues issues) (same : failure = .load (.flow issues))

theorem load_stopsAt {saved : Value} {failure : Failure}
    (failed : (load saved).result = .error failure) : StopsAt saved failure := by
  cases saved with
  | mapping entries =>
    -- Step by step: a step fails only where those before it succeeded.
    simp only [load, Logged.result_bind, Logged.result_quiet, bind_eq_error] at failed
    rcases failed with unlisted | ⟨rawNodes, listed, failed | ⟨nodes, loaded, failed⟩⟩
    · exact .nodeList unlisted
    · obtain ⟨raw, member, position, failed⟩ := loadNodes_eq_error failed
      exact .node listed member failed
    rcases failed with unlisted | ⟨rawEdges, -, failed | ⟨edges, -, failed⟩⟩
    · exact .edgeList listed loaded unlisted
    · obtain ⟨raw, -, position, failed⟩ := loadEdges_eq_error failed
      exact .edge failed
    rcases failed with repeated | ⟨f, -, done⟩
    · obtain ⟨issues, refused, rfl⟩ := (mapError_eq_error ..).mp repeated
      exact .ids ((Reading.toExcept_eq_error ..).mp refused) rfl
    · rcases done with done | ⟨_, -, done⟩ <;> cases done
  | _ =>
    cases failed
    exact .shape rfl

/-- An absent part counts as void, so a part without members is there. -/
theorem Memberless.present {part? : Option Value} {s : Scalar} (memberless : Memberless s)
    (found : part?.getD .null = .scalar s) : part? = some (.scalar s) := by
  cases part? with
  | none =>
    cases found
    exact absurd memberless.1 (by decide)
  | some v => exact congrArg some found

/-- Only the steps that ask for the members of a part fail without a cause. -/
theorem load_fails {saved : Value} (isJson : saved.IsJson) {failure : Failure}
    (failed : (load saved).result = .error failure) :
    Caused failure ∨ ∃ s, Unlisted saved s ∧ failure = .notIterable (scalarType s) := by
  cases load_stopsAt failed with
  | shape same => exact .inl ⟨_, same, trivial⟩
  | nodeList unlisted =>
    obtain ⟨s, found, memberless, rfl⟩ := (members_eq_error ..).mp unlisted
    exact .inr ⟨s, .nodes (memberless.present found) memberless, rfl⟩
  | node listed member failed =>
    have nodesJson : ((saved.field? "nodes").getD .null).IsJson :=
      Value.isJson_getD fun v found => isJson.of_field? found
    exact .inl (loadNode_caused (members_isJson nodesJson listed _ member) failed)
  | edgeList listed loaded unlisted =>
    obtain ⟨s, found, memberless, rfl⟩ := (members_eq_error ..).mp unlisted
    exact .inr ⟨s, .edges listed loaded (memberless.present found) memberless, rfl⟩
  | edge failed => exact .inl (loadEdge_caused failed)
  | ids _ same => exact .inl ⟨_, same, trivial⟩

theorem loads_or_caused_iff {saved : Value} (isJson : saved.IsJson) :
    ((∃ f, (load saved).result = .ok f) ∨ ∃ cause, (load saved).result = .error (.load cause)) ↔
      ∀ s, ¬ Unlisted saved s := by
  constructor
  · rintro (⟨f, loaded⟩ | ⟨cause, failed⟩) s given
    · exact absurd (given.load_fails.symm.trans loaded) nofun
    · exact absurd (given.load_fails.symm.trans failed) nofun
  · intro listed
    -- Without such a scalar no failure is left that lacks a cause.
    cases result : (load saved).result with
    | ok f => exact .inl ⟨f, rfl⟩
    | error failure =>
      rcases load_fails isJson result with ⟨cause, rfl, -⟩ | ⟨s, given, -⟩
      · exact .inr ⟨cause, rfl⟩
      · exact absurd given (listed s)

theorem fitsLine_of_load_fails {saved : Value} (isJson : saved.IsJson) {cause : LoadFailure}
    (failed : (load saved).result = .error (.load cause)) : cause.FitsLine := by
  rcases load_fails isJson failed with ⟨_, ⟨⟩, fits⟩ | ⟨s, -, other⟩
  · exact fits
  · cases other

end SavedFlow

/-! ### Flow files -/

namespace FlowFile

/-- The failures of loading a file that are not reported: bytes that are no text, and a part of the
flow without members. -/
inductive Escapes (path : Path) (bytes : Except FileError (List Nat)) : Failure → Prop
  | noText {stored : List Nat} {e : Text.EncodingError} (given : bytes = .ok stored)
    (faulty : Text.Utf8.decode stored = .error e) : Escapes path bytes (.encoding e)
  | unlisted {saved : Value} {s : Scalar} (given : read path bytes = .ok saved)
    (part : SavedFlow.Unlisted saved s) :
    Escapes path bytes (.notIterable (SavedFlow.scalarType s))

theorem Escapes.load_fails {path : Path} {bytes : Except FileError (List Nat)} {failure : Failure}
    (escapes : Escapes path bytes failure) : (load path bytes).result = .error failure := by
  rw [load, Logged.result_bind, Logged.result_quiet]
  cases escapes with
  | @noText stored e given faulty =>
    have unread : read path bytes = .error (.encoding e) := by
      rw [read, given, mapError_ok, ok_bind, faulty]
      rfl
    rw [unread, error_bind]
  | unlisted given part => rw [given, ok_bind, part.load_fails]

variable {path : Path} (json : path.isYaml = false)

include json

theorem read_isJson {bytes : Except FileError (List Nat)} {saved : Value}
    (given : read path bytes = .ok saved) : saved.IsJson := by
  simp only [read, bind_eq_ok, dataOf, json, Bool.false_eq_true, if_false, mapError_eq_ok] at given
  obtain ⟨stored, -, chars, -, text⟩ := given
  exact Json.isJson_of_read text

theorem read_of_text {stored : List Nat} (text : String) {saved : Value}
    (decoded : Text.Utf8.decode stored = .ok text.toList)
    (lines : withLineFeeds text.toList = text.toList) (given : Json.read text = .ok saved) :
    read path (.ok stored) = .ok saved := by
  simp only [read, bind_eq_ok, dataOf, json, Bool.false_eq_true, if_false, mapError_eq_ok]
  exact ⟨stored, rfl, text.toList, decoded, by rw [lines, String.ofList_toList, given]⟩

theorem read_fails {bytes : Except FileError (List Nat)} {failure : Failure}
    (failed : read path bytes = .error failure) :
    (∃ cause, failure = .load cause ∧ (path.FitsLine → cause.FitsLine)) ∨
      Escapes path bytes failure := by
  simp only [read, bind_eq_error, dataOf, json, Bool.false_eq_true, if_false, mapError_eq_error,
    mapError_eq_ok] at failed
  rcases failed with ⟨e, -, rfl⟩ | ⟨stored, given, ⟨e, faulty, rfl⟩ | ⟨chars, -, e, -, rfl⟩⟩
  · exact .inl ⟨_, rfl, fun names => ⟨names.newline_not_mem_text, e.newline_not_mem_reason⟩⟩
  · exact .inr (.noText given faulty)
  · exact .inl ⟨_, rfl, fun names => names.newline_not_mem_name⟩

/-- A JSON file fails to load with a cause, unless the failure is one that escapes. -/
theorem load_fails {bytes : Except FileError (List Nat)} {failure : Failure}
    (failed : (load path bytes).result = .error failure) :
    (∃ cause, failure = .load cause ∧ (path.FitsLine → cause.FitsLine)) ∨
      Escapes path bytes failure := by
  rw [load, Logged.result_bind, Logged.result_quiet, bind_eq_error] at failed
  rcases failed with unread | ⟨saved, given, failed⟩
  · exact read_fails json unread
  · rcases SavedFlow.load_fails (read_isJson json given) failed with
      ⟨cause, rfl, fits⟩ | ⟨s, part, rfl⟩
    · exact .inl ⟨cause, rfl, fun _ => fits⟩
    · exact .inr (.unlisted given part)

end FlowFile

/-! ### The command line -/

namespace CommandLine

/-- The rank from which on an invocation shows lines. -/
def shownFrom (s : Surroundings) (i : Invocation) : Except Failure Nat :=
  if i.verbose then pure Level.debug.rank else do thresholdOf (← s.settings)

/-- Both ways to the rank go on with the same steps. -/
theorem shownFrom_bind (s : Surroundings) (i : Invocation) {α : Type}
    (f : Nat → Except Failure α) :
    (if i.verbose = true then do
      let t ← pure Level.debug.rank
      f t
    else do
      let settings ← s.settings
      let t ← thresholdOf settings
      f t) = shownFrom s i >>= f := by
  rw [shownFrom]
  split
  · rfl
  · cases s.settings <;> rfl

theorem execute_of_load_failure (s : Surroundings) (i : Invocation)
    {bytes : Except FileError (List Nat)} {threshold : Nat} {failure : Failure}
    (shown : shownFrom s i = .ok threshold)
    (there : bytes ≠ .error .missing ∧ bytes ≠ .error .notFolder)
    (fails : (FlowFile.load (Path.ofText i.flowFile) bytes).result = .error failure) :
    execute s i bytes = failed s.libraries threshold
      (FlowFile.load (Path.ofText i.flowFile) bytes).lines failure := by
  rw [execute]
  refine (shownFrom_bind s i _).trans ?_
  rw [shown, ok_bind]
  dsimp only
  split
  · exact absurd rfl there.1
  · exact absurd rfl there.2
  · rw [fails]

/-- Neither kind of failure that escapes is one that the command line reports. -/
theorem execute_of_escape (s : Surroundings) (i : Invocation)
    {bytes : Except FileError (List Nat)} {threshold : Nat} {failure : Failure}
    (shown : shownFrom s i = .ok threshold)
    (there : bytes ≠ .error .missing ∧ bytes ≠ .error .notFolder)
    (escapes : FlowFile.Escapes (Path.ofText i.flowFile) bytes failure) :
    execute s i bytes = .error failure := by
  rw [execute_of_load_failure s i shown there escapes.load_fails]
  cases escapes <;> rfl

theorem execute_of_cause (s : Surroundings) (i : Invocation)
    {bytes : Except FileError (List Nat)} {threshold : Nat} {cause : LoadFailure}
    (shown : shownFrom s i = .ok threshold)
    (there : bytes ≠ .error .missing ∧ bytes ≠ .error .notFolder)
    (fails : (FlowFile.load (Path.ofText i.flowFile) bytes).result = .error (.load cause)) :
    execute s i bytes = .ok {
      exit := 1
      output := ""
      errorOutput := logText threshold (FlowFile.load (Path.ofText i.flowFile) bytes).lines ++
        ("ERROR: " ++ cause.message s.libraries ++ "\n")
      written := none } := by
  rw [execute_of_load_failure s i shown there fails]
  rfl

end CommandLine

open SavedFlow CommandLine in
/-- JSON data loads, or fails with a cause, exactly when neither its nodes nor its edges are a
scalar without members; when they are, it fails for that. The message of a cause takes several lines
exactly when the cause brings a report that does, so where every report has several lines, exactly
the causes with issues do. On the command line, whatever a JSON file holds, a cause is reported by
its whole message with exit status 1, behind the lines that were noted, and nothing is written; what
ends the run without a report are the scalars without members and bytes that are no text. -/
theorem json_load_failures (s : Surroundings) (saved : Value) (isJson : saved.IsJson) :
    (((∃ f, (load saved).result = .ok f) ∨ ∃ cause, (load saved).result = .error (.load cause)) ↔
      ∀ part, ¬ Unlisted saved part) ∧
    (∀ part, Unlisted saved part →
      (load saved).result = .error (.notIterable (scalarType part))) ∧
    (∀ cause, (load saved).result = .error (.load cause) →
      ('\n' ∈ (cause.message s.libraries).toList ↔ cause.BringsLines s.libraries) ∧
      ((∀ found, '\n' ∈ (s.libraries.report found).toList) →
        ('\n' ∈ (cause.message s.libraries).toList ↔ cause.issues?.isSome = true))) ∧
    ∀ (i : Invocation) (bytes : Except FileError (List Nat)) (threshold : Nat),
      let path := Path.ofText i.flowFile
      let loaded := FlowFile.load path bytes
      path.isYaml = false → shownFrom s i = .ok threshold →
      bytes ≠ .error .missing ∧ bytes ≠ .error .notFolder →
      (∀ failure, FlowFile.Escapes path bytes failure → execute s i bytes = .error failure) ∧
      ∀ failure, loaded.result = .error failure →
        FlowFile.Escapes path bytes failure ∨
        ∃ cause, failure = .load cause ∧
          (path.FitsLine →
            ('\n' ∈ (cause.message s.libraries).toList ↔ cause.BringsLines s.libraries)) ∧
          execute s i bytes = .ok {
            exit := 1
            output := ""
            errorOutput := logText threshold loaded.lines ++
              ("ERROR: " ++ cause.message s.libraries ++ "\n")
            written := none } := by
  refine ⟨loads_or_caused_iff isJson, fun part given => given.load_fails,
    fun cause failed => ?_, ?_⟩
  · have several := (fitsLine_of_load_fails isJson failed).newline_mem_message_iff s.libraries
    exact ⟨several, fun lines => several.trans (cause.bringsLines_iff_of_lines lines)⟩
  · intro i bytes threshold path loaded json shown there
    refine ⟨fun failure escapes => execute_of_escape s i shown there escapes,
      fun failure failed => ?_⟩
    rcases FlowFile.load_fails json failed with ⟨cause, rfl, fits⟩ | escapes
    · exact .inr ⟨cause, rfl, fun names => (fits names).newline_mem_message_iff _,
        execute_of_cause s i shown there failed⟩
    · exact .inl escapes

theorem ofText_flowJson : Path.ofText "flow.json" = ⟨"", ["flow.json"]⟩ := by
  have unsplit : "flow.json".splitOn "/" = ["flow.json"] := by
    rw [String.splitOn, if_neg (by decide)]
    -- None of the nine characters is the separator.
    iterate 9
      unfold String.splitOnAux
      rw [if_neg (by decide), if_neg (by decide)]
    unfold String.splitOnAux
    rw [if_pos (by decide)]
    decide +kernel
  rw [Path.ofText, unsplit]
  decide +kernel

theorem isYaml_flowJson : (Path.ofText "flow.json").isYaml = false := by
  rw [ofText_flowJson]
  decide +kernel

/-- A flow with a service whose port is no number. -/
def portFlow : Value :=
  .record [("nodes", .list [.record [("id", .text "s"), ("kind", .text "service"),
    ("attributes", .record [("port", .text "x")])]])]

/-- The text of that flow in a file. -/
def portText : String :=
  "\x7b\"nodes\":[\x7b\"id\":\"s\",\"kind\":\"service\",\"attributes\":" ++
    "\x7b\"port\":\"x\"\x7d\x7d]\x7d"

/-- The first line of a report on a node, with the kinds of nodes that were tried. -/
def portTitle : String :=
  "1 validation error for tagged-union[ServiceNode,RouteNode,PluginNode,ConsumerNode," ++
    "UpstreamNode,TargetNode,CertificateNode,SniNode]"

/-- What validation reports of the port, up to a last line that tells where to read on. -/
def portReport : String :=
  portTitle ++ ("\n" ++ ("service.attributes.port\n" ++
    "  Input should be a valid integer, unable to parse string as an integer " ++
    "[type=int_parsing, input_value='x', input_type=str]"))

theorem portReport_lines : '\n' ∈ portReport.toList := by
  rw [portReport, String.toList_append, String.toList_append]
  exact List.mem_append_right _ (List.mem_append_left _ (by decide))

/-- A place without variables and settings file, where validation reports as above. -/
def portSurroundings : CommandLine.Surroundings :=
  ⟨{ Libraries.plain with report := fun _ => portReport }, [], .error .missing⟩

def portFailure : LoadFailure :=
  .node "s" [⟨.unreadableInteger, [.field "service", .field "attributes", .field "port"]⟩]

theorem message_portFailure : portFailure.message portSurroundings.libraries =
    "Cannot load flow: " ++ ("node 's': " ++ portReport) := by
  have opening : portFailure.opening = "node 's': " := by decide +kernel
  have report : portFailure.report? portSurroundings.libraries = some portReport := rfl
  unfold LoadFailure.message LoadFailure.detail
  rw [opening, report]
  rfl

open SavedFlow CommandLine in
/-- The port is reported, with exit status 1, but on several lines. -/
theorem json_load_failures_of_port :
    let i : Invocation := ⟨true, .validate, "flow.json"⟩
    let bytes := portText.toList.map Char.toNat
    portFlow.IsJson ∧ FlowFile.read (Path.ofText "flow.json") (.ok bytes) = .ok portFlow ∧
      (load portFlow).result = .error (.load portFailure) ∧
      '\n' ∈ (portFailure.message portSurroundings.libraries).toList ∧
      execute portSurroundings i (.ok bytes) = .ok {
        exit := 1
        output := ""
        errorOutput := "ERROR: " ++ ("Cannot load flow: " ++ ("node 's': " ++ portReport)) ++ "\n"
        written := none } := by
  intro i bytes
  have isJson : portFlow.IsJson := by
    simp [portFlow, Value.record, Value.IsJson, Scalar.IsJson]
  have given : FlowFile.read (Path.ofText "flow.json") (.ok bytes) = .ok portFlow :=
    FlowFile.read_of_text isYaml_flowJson portText rfl (by decide +kernel) (by cbv)
  have fails : (load portFlow).result = .error (.load portFailure) := by rfl
  have loaded : FlowFile.load (Path.ofText "flow.json") (.ok bytes) =
      ⟨[], .error (.load portFailure)⟩ := by
    rw [FlowFile.load, given]
    rfl
  obtain ⟨-, -, messages, runs⟩ := json_load_failures portSurroundings portFlow isJson
  have several := ((messages _ fails).2 fun _ => portReport_lines).mpr rfl
  refine ⟨isJson, given, fails, several, ?_⟩
  rcases (runs i (.ok bytes) Level.debug.rank isYaml_flowJson rfl ⟨by simp, by simp⟩).2 _
    (by rw [loaded]) with escapes | ⟨cause, same, -, outcome⟩
  · cases escapes
  · have noted : logText Level.debug.rank [] = "" := rfl
    cases same
    rw [outcome, loaded, message_portFailure, noted, String.empty_append]

/-- The bytes of a flow file with a number in place of the nodes. -/
def countedNodes : List Nat :=
  "\x7b\"nodes\": 5\x7d".toList.map Char.toNat

open SavedFlow CommandLine in
/-- A number in place of the nodes is not reported: it ends the run. -/
theorem number_of_nodes_escapes :
    let saved := Value.record [("nodes", .int 5)]
    saved.IsJson ∧ FlowFile.read (Path.ofText "flow.json") (.ok countedNodes) = .ok saved ∧
      (load saved).result = .error (.notIterable "int") ∧
      (∀ f, (load saved).result ≠ .ok f) ∧
      (∀ cause, (load saved).result ≠ .error (.load cause)) ∧
      ∀ s, execute s ⟨true, .validate, "flow.json"⟩ (.ok countedNodes) =
        .error (.notIterable "int") := by
  intro saved
  have isJson : saved.IsJson := by
    simp [saved, Value.record, Value.IsJson, Scalar.IsJson]
  have fails : (load saved).result = .error (.notIterable "int") := rfl
  have given : FlowFile.read (Path.ofText "flow.json") (.ok countedNodes) = .ok saved :=
    FlowFile.read_of_text isYaml_flowJson "\x7b\"nodes\": 5\x7d" rfl (by decide +kernel)
      (by cbv)
  have loaded : (FlowFile.load (Path.ofText "flow.json") (.ok countedNodes)).result =
      .error (.notIterable "int") := by
    rw [FlowFile.load, given, Logged.result_bind, Logged.result_quiet, ok_bind, fails]
  refine ⟨isJson, given, fails, by simp [fails], by simp [fails], fun s => ?_⟩
  have shown : shownFrom s ⟨true, .validate, "flow.json"⟩ = .ok Level.debug.rank := rfl
  have ends := execute_of_load_failure s ⟨true, .validate, "flow.json"⟩ shown ⟨by simp, by simp⟩
    loaded
  rw [ends, failed, if_neg (by decide)]

end GatewayFlow
