import GatewayFlow.Document
import GatewayFlow.Failure
import GatewayFlow.Index
import GatewayFlow.Log
import GatewayFlow.Settings
import GatewayFlow.Text.Blank

/-!
# Lowering

Nodes become entries of a document, each kind by rules of its own; edges only resolve references.

- A service and a route become one entry each; a route refers to the service it leads to.
- A plugin without outgoing edges becomes one global entry, otherwise one entry for each edge to a
  node of the flow, scoped by the kind of that node.
- A consumer and an upstream become one entry each; other kinds become none.

Entries follow the order of the nodes within each section.
-/
namespace GatewayFlow.Lowering

/-- A name that other entries refer to, refused when it is no identifier. -/
def identifier (label : String) (settings : Settings) (name : String) : Except Failure String :=
  match Identifier.textProblem? settings.identifierMaxLength name with
  | some problem => .error (.identifier label (.text name) problem)
  | none => .ok name

def nonZero? : Option Int → Option Int
  | some n => if n = 0 then none else some n
  | none => none

def nonEmpty? {α : Type} : Option (List α) → Option (List α)
  | some [] => none
  | xs => xs

def serviceEntry (settings : Settings) (name : String) (a : ServiceAttributes) : ServiceEntry where
  name
  protocol := givenOr a.protocol settings.defaultProtocol
  host := givenOr a.host settings.placeholderHost
  port := (nonZero? a.port).getD settings.defaultServicePort
  path := given? a.path
  retries := a.retries
  connectTimeout := a.connectTimeout
  writeTimeout := a.writeTimeout
  readTimeout := a.readTimeout

def service (settings : Settings) (id : String) (a : ServiceAttributes) :
    Except Failure ServiceEntry :=
  (identifier "Service name" settings (givenOr a.name id)).map fun name =>
    serviceEntry settings name a

/-- The edge by which a route refers to a service: the first that leads to one, or the first. -/
def routeEdge? (index : Index) (edges : List Edge) : Option Edge :=
  (edges.find? fun e => index.kindOf? e.target == some .service).or edges.head?

/-- The service that a route refers to, by id or by name. -/
def serviceReference (index : Index) (settings : Settings) (id : String) : Option String :=
  (routeEdge? index (index.edgesFrom id)).map fun e =>
    match settings.routeReference with
    | .id => e.target
    | .name => ((index.node? e.target).map Node.displayName).getD e.target

/-- Whether a text has a character that is not blank. -/
def isVisible (s : String) : Bool :=
  !(Text.trim s.toList).isEmpty

def routeEntry (index : Index) (settings : Settings) (id name : String) (a : RouteAttributes) :
    RouteEntry where
  name
  service := serviceReference index settings id
  protocols := nonEmpty? a.protocols
  methods := nonEmpty? a.methods
  paths := nonEmpty? (a.paths.map fun paths => paths.filter isVisible)
  hosts := nonEmpty? a.hosts
  stripPath := a.stripPath
  preserveHost := a.preserveHost

def route (index : Index) (settings : Settings) (id : String) (a : RouteAttributes) :
    Except Failure RouteEntry :=
  (identifier "Route name" settings (givenOr a.name id)).map fun name =>
    routeEntry index settings id name a

/-- Limits an entry to the node that its plugin is connected to. -/
def limited (entry : PluginEntry) (target : Node) : PluginEntry :=
  match target.attributes with
  | .service a => { entry with service := some (givenOr a.name target.id) }
  | .route a => { entry with route := some (givenOr a.name target.id) }
  | .consumer a => { entry with consumer := some (givenOr a.username target.id) }
  | _ => entry

/-- The entry of a plugin before it is limited. Its configuration is copied as deep as it goes; a
runtime that limits the depth of recursion is not described. -/
def unscoped (settings : Settings) (a : PluginAttributes) : PluginEntry where
  name := givenOr a.name settings.defaultPluginName
  enabled := a.enabled.getD true
  config := nonEmpty? a.config

def plugin (index : Index) (settings : Settings) (id : String) (a : PluginAttributes) :
    List PluginEntry :=
  let entry := unscoped settings a
  let edges := index.edgesFrom id
  if edges.isEmpty then [entry]
  else edges.filterMap fun e => (index.node? e.target).map (limited entry)

def consumer (id : String) (a : ConsumerAttributes) : ConsumerEntry :=
  let username := given? a.username
  let customId := given? a.customId
  if username.isNone && customId.isNone then ⟨some id, none⟩ else ⟨username, customId⟩

def upstream (id : String) (a : UpstreamAttributes) : UpstreamEntry where
  name := givenOr a.name id
  algorithm := given? a.algorithm
  slots := a.slots
  hashOn := given? a.hashOn
  hashFallback := given? a.hashFallback

/-- Adds the entries of a node at the end of their section. -/
def addNode (index : Index) (settings : Settings) (d : Document) (n : Node) :
    Except Failure Document :=
  match n.attributes with
  | .service a => (service settings n.id a).map fun e => { d with services := d.services ++ [e] }
  | .route a => (route index settings n.id a).map fun e => { d with routes := d.routes ++ [e] }
  | .plugin a => .ok { d with plugins := d.plugins ++ plugin index settings n.id a }
  | .consumer a => .ok { d with consumers := d.consumers ++ [consumer n.id a] }
  | .upstream a => .ok { d with upstreams := d.upstreams ++ [upstream n.id a] }
  | .target _ | .certificate _ | .sni _ => .ok d

/-- The lines that the edges of a plugin leave. -/
def pluginLines (index : Index) (n : Node) : List LogLine :=
  (index.edgesFrom n.id).flatMap fun e =>
    match index.node? e.target with
    | none => [⟨.debug, .lowering,
        s!"Skipping dangling edge {Text.quoted e.id} from plugin {Text.quoted n.id}"⟩]
    | some target =>
      match target.kind with
      | .service | .route | .consumer => []
      | kind =>
        let id := Text.quoted target.id
        [⟨.debug, .lowering,
          s!"Plugin wired to {kind.name} node {id}; emitting unscoped instance"⟩]

def nodeLines (index : Index) (n : Node) : List LogLine :=
  match n.kind with
  | .plugin => pluginLines index n
  | .target | .certificate | .sni =>
    [⟨.debug, .lowering, s!"Node {Text.quoted n.id} of kind {n.kind.name} is not lowered"⟩]
  | _ => []

def summary (count : Nat) (d : Document) : LogLine :=
  ⟨.debug, .lowering, s!"Lowered {count} node(s): {d.services.length} service(s), " ++
    s!"{d.routes.length} route(s), {d.plugins.length} plugin instance(s), " ++
    s!"{d.consumers.length} consumer(s), {d.upstreams.length} upstream(s)"⟩

/-- Adds the nodes in turn, up to the first whose name is refused. -/
def addNodes (index : Index) (settings : Settings) (d : Document) :
    List Node → Logged Failure Document
  | [] => pure d
  | n :: rest => do
    let d ← Logged.mk (nodeLines index n) (addNode index settings d n)
    addNodes index settings d rest

end Lowering

/-- Lowers every node of a flow, without validating it. -/
def lower (nodes : List Node) (edges : List Edge) (settings : Settings) :
    Logged Failure Document := do
  let start : Document := { formatVersion := settings.formatVersion }
  let d ← Lowering.addNodes (Index.build nodes edges) settings start nodes
  Logged.mk [Lowering.summary nodes.length d] (.ok d)

end GatewayFlow
