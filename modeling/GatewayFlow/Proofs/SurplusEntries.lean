import GatewayFlow.Proofs.AttributeUpdates
import GatewayFlow.Proofs.LoadFailures

/-!
# Surplus entries

Attributes are read from a mapping in which every entry is expected: what the kind of a node does
not define is dropped before. No other part of a saved flow refuses further entries. So a flow may
fail to load for many causes, but never because an entry was not expected.
-/
namespace GatewayFlow

/-! ### Readings without a cause -/

namespace Reading

variable {α β : Type} {cause : Cause}

/-- No issue of a reading has the cause. -/
def Avoids (cause : Cause) : Reading α → Prop
  | .value _ => True
  | .issues found => ∀ issue ∈ found, issue.cause ≠ cause

@[simp] theorem avoids_value (a : α) : (Reading.value a).Avoids cause := trivial

@[simp] theorem avoids_issues (found : List Issue) :
    (Reading.issues found : Reading α).Avoids cause ↔ ∀ issue ∈ found, issue.cause ≠ cause :=
  Iff.rfl

@[simp] theorem avoids_fail (other : Cause) :
    (fail other : Reading α).Avoids cause ↔ other ≠ cause := by
  simp [fail, Avoids]

@[simp] theorem avoids_map (f : α → β) (r : Reading α) :
    (r.map f).Avoids cause ↔ r.Avoids cause := by
  cases r <;> simp [map, Avoids]

@[simp] theorem avoids_within (step : Step) (r : Reading α) :
    (r.within step).Avoids cause ↔ r.Avoids cause := by
  cases r <;> simp [within, Avoids, Issue.within]

@[simp] theorem avoids_apply (f : Reading (α → β)) (r : Reading α) :
    (f.apply r).Avoids cause ↔ f.Avoids cause ∧ r.Avoids cause := by
  cases f <;> cases r <;> simp [apply, Avoids, or_imp, forall_and]

@[simp] theorem avoids_seq (f : Reading (α → β)) (r : Reading α) :
    (f <*> r).Avoids cause ↔ f.Avoids cause ∧ r.Avoids cause :=
  avoids_apply f r

@[simp] theorem avoids_fmap (f : α → β) (r : Reading α) :
    (f <$> r).Avoids cause ↔ r.Avoids cause := by
  change (apply (.value f) r).Avoids cause ↔ _
  simp

theorem Avoids.ite {p : Prop} [Decidable p] {r s : Reading α} (yes : r.Avoids cause)
    (no : s.Avoids cause) : (if p then r else s).Avoids cause := by
  split
  · exact yes
  · exact no

theorem Avoids.andThen {r : Reading α} {f : α → Reading β} (first : r.Avoids cause)
    (second : ∀ a, (f a).Avoids cause) : (r.andThen f).Avoids cause := by
  cases r with
  | value a => exact second a
  | issues found => exact first

theorem avoids_atPositions {read : β → Reading α} (each : ∀ b, (read b).Avoids cause) (i : Nat)
    (bs : List β) : (atPositions read i bs).Avoids cause := by
  induction bs generalizing i with
  | nil => trivial
  | cons b rest ih =>
    rw [atPositions, avoids_apply, avoids_map, avoids_within]
    exact ⟨each b, ih (i + 1)⟩

end Reading

/-! ### Fields -/

namespace Field

variable {α : Type} {read : Value → Reading α} {cause : Cause}

theorem avoids_optional (avoids : ∀ v, (read v).Avoids cause) (es : Entries) (name : String) :
    (Field.optional es name read).Avoids cause := by
  unfold Field.optional nullable
  split
  · trivial
  · rw [Reading.avoids_within]
    split
    · trivial
    · exact (Reading.avoids_map ..).mpr (avoids _)

theorem avoids_required {es : Entries} {name : String} (present : .missing ≠ cause)
    (avoids : ∀ v, es.get? name = some v → (read v).Avoids cause) :
    (required es name read).Avoids cause := by
  unfold required
  split
  next => simpa using present
  next v found => exact (Reading.avoids_within ..).mpr (avoids v found)

theorem avoids_readText (v : Value) : (readText v).Avoids .unexpected := by
  unfold readText
  split <;> simp

theorem avoids_readInteger (v : Value) : (readInteger v).Avoids .unexpected := by
  unfold readInteger
  split
  · trivial
  · trivial
  · unfold readIntegerDouble
    split
    · simp
    · simp
    · split
      · simp
      · exact .ite trivial (by simp)
  · exact .ite (by simp) (.ite trivial (by simp))
  · simp

theorem avoids_readBoolean (v : Value) : (readBoolean v).Avoids .unexpected := by
  unfold readBoolean
  split
  · trivial
  · exact .ite trivial (.ite trivial (.ite (by simp) (by simp)))
  · exact .ite trivial (.ite trivial (by simp))
  · exact .ite trivial (.ite trivial (by simp))
  · simp

theorem avoids_readTexts (v : Value) : (readTexts v).Avoids .unexpected := by
  unfold readTexts
  split
  · exact Reading.avoids_atPositions avoids_readText ..
  · simp

theorem avoids_readConfig (v : Value) : (readConfig v).Avoids .unexpected := by
  have named (es : Entries) : (readNamed es).Avoids .unexpected := by
    induction es with
    | nil => trivial
    | cons e rest ih =>
      obtain ⟨k, v⟩ := e
      cases k <;> simp [readNamed, ih]
  unfold readConfig
  split
  · exact named _
  · simp

theorem avoids_readName (v : Value) : (readName v).Avoids .unexpected := by
  unfold readName
  split
  · split <;> simp
  · simp

end Field

/-! ### Nodes, edges and flows -/

open GatewayFlow.Field

theorem Attributes.avoids_readFields (kind : Kind) (es : Entries) :
    (readFields kind es).Avoids .unexpected := by
  cases kind <;>
    simp [readFields, avoids_optional avoids_readText, avoids_optional avoids_readInteger,
      avoids_optional avoids_readBoolean, avoids_optional avoids_readTexts,
      avoids_optional avoids_readConfig]

/-- Attributes are read without surplus entries when the kind defines all of them. -/
theorem Attributes.avoids_read {kind : Kind} {es : Entries}
    (defined : Defined kind.attributeNames es) :
    (read kind (.mapping es)).Avoids .unexpected := by
  rw [read, (onlyFields_eq_value ..).mpr defined]
  simpa using avoids_readFields kind es

theorem Node.avoids_build {kind : Kind} {es : Entries} (id : Value)
    (defined : Defined kind.attributeNames es) :
    (build kind id (.mapping es)).Avoids .unexpected := by
  have attributes : (if (Value.mapping es).isVoid then .mapping [] else Value.mapping es) =
      .mapping es := by
    cases es <;> rfl
  rw [build, attributes, readKnown, Reading.avoids_within, Reading.avoids_seq, Reading.avoids_fmap]
  refine ⟨avoids_required (by simp) fun v _ => avoids_readName v,
    avoids_required (by simp) fun v found => ?_⟩
  have own : .mapping es = v := by simpa using found
  exact own ▸ Attributes.avoids_read defined

theorem Edge.avoids_ofFields (f : Fields) : (ofFields f).Avoids .unexpected := by
  unfold ofFields
  split <;> simp

theorem Edge.avoids_read (v : Value) : (read v).Avoids .unexpected := by
  unfold read
  split
  · refine Reading.Avoids.andThen ?_ avoids_ofFields
    have ends (name : String) (es : Entries) : (required es name readName).Avoids .unexpected :=
      avoids_required (by simp) fun v _ => avoids_readName v
    simp [avoids_readText, avoids_optional avoids_readText, ends]
  · simp

theorem Flow.avoids_ofParts (nodes : List Node) (edges : List Edge) :
    (ofParts nodes edges).Avoids .unexpected := by
  unfold ofParts distinctNodes
  split <;> simp

namespace SavedFlow

/-- None of the issues of a failure is that an entry was not expected. -/
def NoSurplus (cause : LoadFailure) : Prop :=
  ∀ found ∈ cause.issues?, ∀ issue ∈ found, issue.cause ≠ .unexpected

theorem noSurplus_of_none {cause : LoadFailure} (none : cause.issues? = none) :
    NoSurplus cause := by
  simp [NoSurplus, none]

/-! ### Results without a cause -/

section

variable {α β : Type}

/-- A result that is no failure of loading proper. -/
def Causeless (r : Except Failure α) : Prop :=
  ∀ cause, r ≠ .error (.load cause)

theorem causeless_ok (a : α) : Causeless (.ok a) := by
  simp [Causeless]

theorem Causeless.map {r : Except Failure α} (causeless : Causeless r) (f : α → β) :
    Causeless (r.map f) :=
  fun cause failed => causeless cause ((map_eq_error ..).mp failed)

theorem Causeless.bind {r : Except Failure α} {f : α → Except Failure β} (first : Causeless r)
    (second : ∀ a, Causeless (f a)) : Causeless (r >>= f) := by
  intro cause failed
  rcases (bind_eq_error ..).mp failed with here | ⟨a, -, later⟩
  · exact first cause here
  · exact second a cause later

end

theorem keyBelow_causeless (s t : Scalar) : Causeless (keyBelow s t) := by
  unfold keyBelow
  split
  · exact causeless_ok _
  · split <;> simp [Causeless]

theorem insertKey_causeless (fuel : Nat) (k : Scalar) (before between after : List Scalar) :
    Causeless (insertKey fuel k before between after) := by
  induction fuel generalizing before between after with
  | zero => exact causeless_ok _
  | succ fuel ih =>
    rw [insertKey]
    split
    next => exact causeless_ok _
    next middle rest _ =>
      refine (keyBelow_causeless k middle).bind fun below => ?_
      split
      · exact ih _ _ _
      · exact ih _ _ _

theorem sortKeys_causeless (keys : List Scalar) : Causeless (sortKeys keys) := by
  have from_done (done : List Scalar) : Causeless
      (keys.foldlM (fun done k => insertKey (done.length + 1) k [] done []) done) := by
    induction keys generalizing done with
    | nil => exact causeless_ok _
    | cons k rest ih =>
      rw [List.foldlM_cons]
      exact (insertKey_causeless _ _ _ _ _).bind ih
  exact from_done []

theorem joinKeys_causeless (keys : List Scalar) : Causeless (joinKeys keys) := by
  have named (i : Nat) : Causeless (joinKeys.names i keys) := by
    induction keys generalizing i with
    | nil => exact causeless_ok _
    | cons k rest ih =>
      cases k with
      | text s => exact (ih (i + 1)).map _
      | _ => simp [joinKeys.names, Causeless]
  exact (named 0).map _

/-- The warning about dropped attributes may fail where keys are no texts, but not with a cause. -/
theorem dropLines_causeless (kind : Kind) (raw : RawNode) : Causeless (dropLines kind raw) := by
  refine (sortKeys_causeless _).bind fun dropped => ?_
  split
  · exact causeless_ok _
  · exact (joinKeys_causeless dropped).bind fun names => causeless_ok _

theorem members_causeless (v : Value) : Causeless (members v) := by
  intro cause failed
  obtain ⟨_, -, -, ⟨⟩⟩ := (members_eq_error ..).mp failed

/-! ### Failures of loading -/

theorem defined_kept (kind : Kind) (attributes : Entries) :
    Defined kind.attributeNames (kept kind attributes) := by
  intro e member
  have known : isKnown kind e.1 = true := by
    have both := (List.mem_filter.mp member).2
    exact (Bool.and_eq_true_iff.mp both).1
  simpa [isKnown] using known

theorem issues_avoid {α : Type} {r : Reading α} {found : List Issue}
    (avoids : r.Avoids .unexpected) (failed : r = .issues found) :
    ∀ issue ∈ found, issue.cause ≠ .unexpected := by
  rw [failed] at avoids
  exact avoids

theorem loadNode_noSurplus {raw : Value} {position : Int} {cause : LoadFailure}
    (failed : (loadNode raw position).result = .error (.load cause)) : NoSurplus cause := by
  rw [loadNode, Logged.result_bind, Logged.result_quiet, bind_eq_error, mapError_eq_error] at failed
  rcases failed with ⟨_, notSplit, ⟨⟩⟩ | ⟨parts, -, failed⟩
  · rcases split_eq_error notSplit with rfl | rfl | ⟨id, rfl⟩ <;> exact noSurplus_of_none rfl
  · split at failed
    next =>
      cases failed
      exact noSurplus_of_none rfl
    next kind known =>
      rw [Logged.result_bind, Logged.result_quiet, bind_eq_error] at failed
      rcases failed with unwarned | ⟨lines, -, failed⟩
      · exact absurd unwarned (dropLines_causeless kind parts cause)
      · obtain ⟨issues, unbuilt, ⟨⟩⟩ := (mapError_eq_error ..).mp failed
        rintro found ⟨⟩
        exact issues_avoid (Node.avoids_build _ (defined_kept kind parts.attributes))
          ((Reading.toExcept_eq_error ..).mp unbuilt)

theorem loadEdge_noSurplus {raw : Value} {position : Int} {cause : LoadFailure}
    (failed : loadEdge raw position = .error (.load cause)) : NoSurplus cause := by
  unfold loadEdge at failed
  split at failed
  next entries =>
    obtain ⟨issues, unbuilt, ⟨⟩⟩ := (mapError_eq_error ..).mp failed
    rintro found ⟨⟩
    exact issues_avoid (Edge.avoids_read _) ((Reading.toExcept_eq_error ..).mp unbuilt)
  next =>
    cases failed
    exact noSurplus_of_none rfl

theorem load_noSurplus {saved : Value} {cause : LoadFailure}
    (failed : (load saved).result = .error (.load cause)) : NoSurplus cause := by
  -- A failure stops the loading at one of its steps, and each has its own causes.
  cases load_stopsAt failed with
  | shape same =>
    cases same
    exact noSurplus_of_none rfl
  | nodeList unlisted => exact absurd unlisted (members_causeless _ cause)
  | node _ _ failed => exact loadNode_noSurplus failed
  | edgeList _ _ unlisted => exact absurd unlisted (members_causeless _ cause)
  | edge failed => exact loadEdge_noSurplus failed
  | @ids nodes edges issues repeated same =>
    cases same
    rintro found ⟨⟩
    exact issues_avoid (Flow.avoids_ofParts nodes edges) repeated

end SavedFlow

end GatewayFlow
