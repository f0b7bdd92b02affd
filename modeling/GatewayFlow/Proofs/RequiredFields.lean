import GatewayFlow.Proofs.RenderedEntries
import GatewayFlow.Proofs.ValidatedFlows

/-!
# Required fields of rendered entries

Validation asks for the host of a service and for the identity of a consumer, and lowering leaves
out blank paths of routes. All of this looks at the texts as they are given, so what it asks for is
missing from the rendered data where sanitizing leaves nothing of a text.
-/
namespace GatewayFlow

open Sanitize (Vanishes)

/-- A text under a key of the data is not empty. -/
def Value.HasText (v : Value) (name : String) : Prop :=
  ∃ s, v.field? name = some (.text s) ∧ s ≠ ""

/-- A list under a key of the data has a text that is empty or blank. -/
def Value.HasBlankItem (v : Value) (name : String) : Prop :=
  ∃ vs, v.field? name = some (.list vs) ∧ ∃ s, .text s ∈ vs ∧ Lowering.isVisible s = false

/-- The services, consumers and routes of rendered data have what validation and lowering ask
for. -/
structure Value.KeepsRequired (data : Value) : Prop where
  hosts : ∀ s ∈ data.sectionOf "services", s.HasText "host"
  identities : ∀ c ∈ data.sectionOf "consumers", c.HasText "username" ∨ c.HasText "custom_id"
  paths : ∀ r ∈ data.sectionOf "routes", ¬r.HasBlankItem "paths"

def Attributes.paths? : Attributes → Option (List String)
  | .route a => a.paths
  | _ => none

/-- Sanitizing leaves something of the host, of one of the two identities or of each path that is
not blank. -/
structure Node.KeepsRequired (n : Node) : Prop where
  host : n.kind = .service → ∃ host ∈ n.attributes.host?, ¬Vanishes host
  identity : n.kind = .consumer →
    (∃ s ∈ n.attributes.username?, ¬Vanishes s) ∨ ∃ s ∈ n.attributes.customId?, ¬Vanishes s
  paths : n.kind = .route → ∀ paths ∈ n.attributes.paths?, ∀ path ∈ paths,
    Lowering.isVisible path = true → ¬Vanishes path

/-! ### What is rendered of given texts -/

/-- A text that is given, sanitized. -/
def Sanitize.renderedText (s : Option String) : Option Value :=
  s.map fun s => .text (text s)

/-- The paths of a route that are not blank, sanitized; none at all where there are none. -/
def Sanitize.renderedPaths (paths : Option (List String)) : Option Value :=
  (Lowering.nonEmpty? (paths.map fun paths => paths.filter Lowering.isVisible)).map fun paths =>
    .texts (paths.map text)

namespace Sanitize

theorem renderedText_solid (s : Option String) :
    (∃ t, renderedText s = some (.text t) ∧ t ≠ "") ↔ ∃ x ∈ s, ¬Vanishes x := by
  cases s with
  | none => simp [renderedText]
  | some s => simp [renderedText, ← text_eq_empty_iff]

/-- An empty text vanishes, so it does not matter that it counts as none. -/
theorem exists_given?_iff (s : Option String) :
    (∃ x ∈ given? s, ¬Vanishes x) ↔ ∃ x ∈ s, ¬Vanishes x := by
  simp only [Option.mem_def, given?_eq_some]
  refine exists_congr fun x => and_congr_left fun stays => and_iff_left ?_
  rintro rfl
  exact stays (by decide)

theorem renderedPaths_blank (paths : Option (List String)) :
    (∃ vs, renderedPaths paths = some (.list vs) ∧
        ∃ s, .text s ∈ vs ∧ Lowering.isVisible s = false) ↔
      ∃ ps ∈ paths, ∃ path ∈ ps, Lowering.isVisible path = true ∧ Vanishes path := by
  cases paths with
  | none => simp [renderedPaths, Lowering.nonEmpty?]
  | some ps =>
    have blank (s : String) : Lowering.isVisible (text s) = false ↔ Vanishes s := by
      rw [← Bool.not_eq_true, isVisible_text, not_not]
    have rendered : renderedPaths (some ps) =
        if ps.filter Lowering.isVisible = [] then none
        else some (.texts ((ps.filter Lowering.isVisible).map text)) := by
      rw [renderedPaths, Option.map_some]
      cases ps.filter Lowering.isVisible <;> rfl
    rw [rendered]
    split
    next none =>
      -- There is no list at all when every path is blank before it is sanitized.
      simp only [List.filter_eq_nil_iff] at none
      simpa using fun path member visible => absurd visible (none path member)
    next =>
      simp [Value.texts, blank, and_assoc]

end Sanitize

/-! ### Fields of valid flows -/

namespace Lowering

open Sanitize (renderedText renderedPaths)

variable {nodes : List Node} {edges : List Edge} {settings : Settings}

/-- Services of a valid flow are rendered with their own hosts, never with the placeholder. -/
theorem hosts_rendered (valid : Validation.errors nodes edges settings = []) :
    ((document nodes edges settings).rendered.sectionOf "services").map (Value.field? "host") =
      (nodes.filter fun n => n.kind == .service).map fun n => renderedText n.attributes.host? := by
  refine map_services fun n member a attributes => ?_
  -- Validation has seen a host, so the placeholder of lowering does not come in.
  have given := host_of_valid valid member attributes (givenOr a.name n.id)
  have own := ((given?_eq_some _ _).mp given).1
  rw [ServiceEntry.field?_rendered, ServiceEntry.field?_host, Option.map_some, Sanitize.value_text,
    attributes, Attributes.host?, own, renderedText, Option.map_some]

/-- Consumers of a valid flow are rendered with their own names, never with their ids. -/
theorem identities_rendered (valid : Validation.errors nodes edges settings = []) :
    (((document nodes edges settings).rendered.sectionOf "consumers").map fun c =>
        (c.field? "username", c.field? "custom_id")) =
      (nodes.filter fun n => n.kind == .consumer).map fun n =>
        (renderedText (given? n.attributes.username?),
          renderedText (given? n.attributes.customId?)) := by
  refine map_consumers fun n member a attributes => ?_
  rw [consumer_of_valid valid member attributes, attributes]
  simp only [ConsumerEntry.field?_rendered, ConsumerEntry.field?_username,
    ConsumerEntry.field?_custom_id, Option.map_map, Function.comp_def, Sanitize.value_text,
    renderedText, Attributes.username?, Attributes.customId?]

theorem paths_rendered (nodes : List Node) (edges : List Edge) (settings : Settings) :
    ((document nodes edges settings).rendered.sectionOf "routes").map (Value.field? "paths") =
      (nodes.filter fun n => n.kind == .route).map fun n => renderedPaths n.attributes.paths? := by
  refine map_routes fun n member a attributes => ?_
  rw [attributes, RouteEntry.field?_rendered, RouteEntry.field?_paths]
  simp only [routeEntry, Option.map_map, Function.comp_def, Sanitize.value_texts, renderedPaths,
    Attributes.paths?]

/-- The rendered data has what is asked for when sanitizing leaves it in every node. -/
theorem keepsRequired_iff (valid : Validation.errors nodes edges settings = []) :
    (document nodes edges settings).rendered.KeepsRequired ↔ ∀ n ∈ nodes, n.KeepsRequired := by
  -- What is asked of each section, read off the nodes of its kind.
  have hosts := forall_section_iff (P := fun v => ∃ s, v = some (.text s) ∧ s ≠ "")
    (hosts_rendered valid)
  have identities := forall_section_iff
    (P := fun v => (∃ s, v.1 = some (.text s) ∧ s ≠ "") ∨ ∃ s, v.2 = some (.text s) ∧ s ≠ "")
    (identities_rendered valid)
  have paths := forall_section_iff (P := fun v => ¬∃ vs, v = some (.list vs) ∧
      ∃ s, .text s ∈ vs ∧ isVisible s = false) (paths_rendered nodes edges settings)
  simp only [Sanitize.renderedText_solid, Sanitize.exists_given?_iff,
    Sanitize.renderedPaths_blank] at hosts identities paths
  constructor
  · intro kept n member
    refine ⟨hosts.mp kept.hosts n member, identities.mp kept.identities n member,
      fun kind ps given path there visible vanishes => ?_⟩
    exact paths.mp kept.paths n member kind ⟨ps, given, path, there, visible, vanishes⟩
  · intro kept
    refine ⟨hosts.mpr fun n member => (kept n member).host,
      identities.mpr fun n member => (kept n member).identity, paths.mpr fun n member kind => ?_⟩
    rintro ⟨ps, given, path, there, visible, vanishes⟩
    exact (kept n member).paths kind ps given path there visible vanishes

end Lowering

/-- A valid flow is lowered to a document in whose rendered data the host of each service, the names
of each consumer and the paths of each route are those of its node, sanitized; paths that are blank
before that are left out. So every host, an identity of every consumer and all paths are there
exactly when sanitizing leaves something of them. -/
theorem required_fields_rendered (nodes : List Node) (edges : List Edge) (settings : Settings)
    (valid : (validate nodes edges settings).valid = true) :
    ∃ d, (lower nodes edges settings).result = .ok d ∧
      (d.rendered.sectionOf "services").map (Value.field? "host") =
        (nodes.filter fun n => n.kind == .service).map
          (fun n => Sanitize.renderedText n.attributes.host?) ∧
      ((d.rendered.sectionOf "consumers").map fun c =>
          (c.field? "username", c.field? "custom_id")) =
        (nodes.filter fun n => n.kind == .consumer).map
          (fun n => (Sanitize.renderedText (given? n.attributes.username?),
            Sanitize.renderedText (given? n.attributes.customId?))) ∧
      (d.rendered.sectionOf "routes").map (Value.field? "paths") =
        (nodes.filter fun n => n.kind == .route).map
          (fun n => Sanitize.renderedPaths n.attributes.paths?) ∧
      (d.rendered.KeepsRequired ↔ ∀ n ∈ nodes, n.KeepsRequired) := by
  have clean := (validate_valid nodes edges settings).mp valid
  exact ⟨_, lower_of_valid clean, Lowering.hosts_rendered clean,
    Lowering.identities_rendered clean, Lowering.paths_rendered nodes edges settings,
    Lowering.keepsRequired_iff clean⟩

/-- A service whose host loses some characters, a consumer whose username vanishes beside a custom
id, one with an empty custom id, and a route with a path that loses a marker and blank paths. -/
def portalNodes : List Node :=
  [⟨"portal", .service { name := some "portal", host := some " \x7bportal\x7d.local" }, by decide⟩,
    ⟨"visitor", .consumer { username := some "-", customId := some "7" }, by decide⟩,
    ⟨"ann", .consumer { username := some "-ann", customId := some "" }, by decide⟩,
    ⟨"home", .route { paths := some ["- /home", " ", "", "/\x60"] }, by decide⟩]

def portalEdges : List Edge :=
  [⟨"e1", "home", "portal", none, none, by decide, by decide, by decide⟩]

theorem required_fields_rendered_over_portal :
    (validate portalNodes portalEdges {}).valid = true ∧
      ∃ d, (lower portalNodes portalEdges {}).result = .ok d ∧
        (d.rendered.sectionOf "services").map (Value.field? "host") =
          [some (.text "portal.local")] ∧
        ((d.rendered.sectionOf "consumers").map fun c =>
            (c.field? "username", c.field? "custom_id")) =
          [(some (.text ""), some (.text "7")), (some (.text "ann"), none)] ∧
        (d.rendered.sectionOf "routes").map (Value.field? "paths") =
          [some (.texts ["/home", "/"])] ∧
        (d.rendered.KeepsRequired ↔ ∀ n ∈ portalNodes, n.KeepsRequired) := by
  have valid : (validate portalNodes portalEdges {}).valid = true := by decide
  obtain ⟨d, lowered, hosts, identities, paths, kept⟩ :=
    required_fields_rendered portalNodes portalEdges {} valid
  exact ⟨valid, d, lowered, hosts, identities, paths, kept⟩

/-- A host, a username and a path of which sanitizing leaves nothing. -/
def hollowNodes : List Node :=
  [⟨"vault", .service { name := some "a", host := some "$" }, by decide⟩,
    ⟨"anon", .consumer { username := some "-" }, by decide⟩,
    ⟨"entry", .route { paths := some ["/a", "\x7b\x7d"] }, by decide⟩]

def hollowEdges : List Edge :=
  [⟨"entry-default-vault-default", "entry", "vault", none, none, by decide, by decide, by decide⟩]

/-- A valid flow is rendered with an empty host, an empty identity and an empty path. -/
theorem hollow_texts_rendered_empty :
    (validate hollowNodes hollowEdges {}).valid = true ∧
      ∃ d, (lower hollowNodes hollowEdges {}).result = .ok d ∧
        (d.rendered.sectionOf "services").map (Value.field? "host") = [some (.text "")] ∧
        ((d.rendered.sectionOf "consumers").map fun c =>
            (c.field? "username", c.field? "custom_id")) = [(some (.text ""), none)] ∧
        (d.rendered.sectionOf "routes").map (Value.field? "paths") =
          [some (.texts ["/a", ""])] ∧ ¬d.rendered.KeepsRequired := by
  have valid : (validate hollowNodes hollowEdges {}).valid = true := by decide
  refine ⟨valid, Lowering.document hollowNodes hollowEdges {}, rfl, rfl, rfl, rfl, ?_⟩
  rw [Lowering.keepsRequired_iff ((validate_valid ..).mp valid)]
  intro kept
  obtain ⟨host, given, solid⟩ := (kept _ List.mem_cons_self).host rfl
  cases given
  exact solid (by decide)

end GatewayFlow
