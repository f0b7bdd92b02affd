import GatewayFlow.Attributes

/-!
# Configuration documents

The generated configuration: a format marker and five sections of entries. The order of the fields
is the order of the keys. Absent fields are left out, and so is a section without entries.
-/
namespace GatewayFlow

structure ServiceEntry where
  name : String
  protocol : String
  host : String
  port : Int
  path : Option String := none
  retries : Option Int := none
  connectTimeout : Option Int := none
  writeTimeout : Option Int := none
  readTimeout : Option Int := none
deriving DecidableEq, Repr

structure RouteEntry where
  name : String
  /-- The service that the route forwards to. -/
  service : Option String := none
  protocols : Option (List String) := none
  methods : Option (List String) := none
  paths : Option (List String) := none
  hosts : Option (List String) := none
  stripPath : Option Bool := none
  preserveHost : Option Bool := none
deriving DecidableEq, Repr

/-- One instance of a plugin; without a scope it applies globally. -/
structure PluginEntry where
  name : String
  enabled : Bool := true
  config : Option Config := none
  service : Option String := none
  route : Option String := none
  consumer : Option String := none
deriving Repr

structure ConsumerEntry where
  username : Option String := none
  customId : Option String := none
deriving DecidableEq, Repr

structure UpstreamEntry where
  name : String
  algorithm : Option String := none
  slots : Option Int := none
  hashOn : Option String := none
  hashFallback : Option String := none
deriving DecidableEq, Repr

/-- A configuration; a section without entries is absent. -/
structure Document where
  formatVersion : String := "3.0"
  services : List ServiceEntry := []
  routes : List RouteEntry := []
  plugins : List PluginEntry := []
  consumers : List ConsumerEntry := []
  upstreams : List UpstreamEntry := []
deriving Repr

open GatewayFlow.Field
  (readText readInteger readBoolean readTexts readConfig required optional withDefault)

/-- The record of a mapping; further entries do not matter. -/
def readRecord {α : Type} (name : String) (read : Entries → Reading α) : Value → Reading α
  | .mapping entries => read entries
  | _ => .fail (.notRecord name)

namespace ServiceEntry

def read : Value → Reading ServiceEntry :=
  readRecord "ServiceEntry" fun entries => ServiceEntry.mk
    <$> required entries "name" readText
    <*> required entries "protocol" readText
    <*> required entries "host" readText
    <*> required entries "port" readInteger
    <*> optional entries "path" readText
    <*> optional entries "retries" readInteger
    <*> optional entries "connect_timeout" readInteger
    <*> optional entries "write_timeout" readInteger
    <*> optional entries "read_timeout" readInteger

def toValue (e : ServiceEntry) : Value :=
  .mapping ([(.text "name", .text e.name), (.text "protocol", .text e.protocol),
      (.text "host", .text e.host), (.text "port", .int e.port)] ++
    Attributes.entry "path" .text e.path ++ Attributes.entry "retries" .int e.retries ++
    Attributes.entry "connect_timeout" .int e.connectTimeout ++
    Attributes.entry "write_timeout" .int e.writeTimeout ++
    Attributes.entry "read_timeout" .int e.readTimeout)

end ServiceEntry

namespace RouteEntry

def read : Value → Reading RouteEntry :=
  readRecord "RouteEntry" fun entries => RouteEntry.mk
    <$> required entries "name" readText
    <*> optional entries "service" readText
    <*> optional entries "protocols" readTexts
    <*> optional entries "methods" readTexts
    <*> optional entries "paths" readTexts
    <*> optional entries "hosts" readTexts
    <*> optional entries "strip_path" readBoolean
    <*> optional entries "preserve_host" readBoolean

def toValue (e : RouteEntry) : Value :=
  .mapping ((.text "name", .text e.name) :: Attributes.entry "service" .text e.service ++
    Attributes.entry "protocols" .texts e.protocols ++
    Attributes.entry "methods" .texts e.methods ++ Attributes.entry "paths" .texts e.paths ++
    Attributes.entry "hosts" .texts e.hosts ++ Attributes.entry "strip_path" .bool e.stripPath ++
    Attributes.entry "preserve_host" .bool e.preserveHost)

end RouteEntry

namespace PluginEntry

def read : Value → Reading PluginEntry :=
  readRecord "PluginEntry" fun entries => PluginEntry.mk
    <$> required entries "name" readText
    <*> withDefault entries "enabled" true readBoolean
    <*> optional entries "config" readConfig
    <*> optional entries "service" readText
    <*> optional entries "route" readText
    <*> optional entries "consumer" readText

def toValue (e : PluginEntry) : Value :=
  .mapping ([(.text "name", .text e.name), (.text "enabled", .bool e.enabled)] ++
    Attributes.entry "config" (fun config => (Config.toValue config).plain) e.config ++
    Attributes.entry "service" .text e.service ++ Attributes.entry "route" .text e.route ++
    Attributes.entry "consumer" .text e.consumer)

def isGlobal (e : PluginEntry) : Bool :=
  e.service.isNone && e.route.isNone && e.consumer.isNone

end PluginEntry

namespace ConsumerEntry

def read : Value → Reading ConsumerEntry :=
  readRecord "ConsumerEntry" fun entries => ConsumerEntry.mk
    <$> optional entries "username" readText
    <*> optional entries "custom_id" readText

def toValue (e : ConsumerEntry) : Value :=
  .mapping (Attributes.entry "username" .text e.username ++
    Attributes.entry "custom_id" .text e.customId)

end ConsumerEntry

namespace UpstreamEntry

def read : Value → Reading UpstreamEntry :=
  readRecord "UpstreamEntry" fun entries => UpstreamEntry.mk
    <$> required entries "name" readText
    <*> optional entries "algorithm" readText
    <*> optional entries "slots" readInteger
    <*> optional entries "hash_on" readText
    <*> optional entries "hash_fallback" readText

def toValue (e : UpstreamEntry) : Value :=
  .mapping ((.text "name", .text e.name) :: Attributes.entry "algorithm" .text e.algorithm ++
    Attributes.entry "slots" .int e.slots ++ Attributes.entry "hash_on" .text e.hashOn ++
    Attributes.entry "hash_fallback" .text e.hashFallback)

end UpstreamEntry

namespace Document

/-- A section that may be absent, null or empty. -/
def readSection {α : Type} (entries : Entries) (name : String) (read : Value → Reading α) :
    Reading (List α) :=
  (optional entries name fun
    | .list items => .atPositions read 0 items
    | _ => .fail .notList).map (·.getD [])

/-- The format marker under its own key or under the name of the field, whichever comes first in
this order. -/
def readFormatVersion (entries : Entries) : Reading String :=
  match entries.get? "_format_version" with
  | some _ => required entries "_format_version" readText
  | none => withDefault entries "format_version" "3.0" readText

def read : Value → Reading Document :=
  readRecord "ConfigDocument" fun entries => Document.mk
    <$> readFormatVersion entries
    <*> readSection entries "services" ServiceEntry.read
    <*> readSection entries "routes" RouteEntry.read
    <*> readSection entries "plugins" PluginEntry.read
    <*> readSection entries "consumers" ConsumerEntry.read
    <*> readSection entries "upstreams" UpstreamEntry.read

/-- The sections with their entries as data, in the order in which they are written. -/
def allSections (d : Document) : List (String × List Value) :=
  [("services", d.services.map ServiceEntry.toValue), ("routes", d.routes.map RouteEntry.toValue),
    ("plugins", d.plugins.map PluginEntry.toValue),
    ("consumers", d.consumers.map ConsumerEntry.toValue),
    ("upstreams", d.upstreams.map UpstreamEntry.toValue)]

/-- The names of all sections, in the order in which they are written. -/
def sectionOrder : List String :=
  ["services", "routes", "plugins", "consumers", "upstreams"]

def presentSections (d : Document) : List (String × List Value) :=
  d.allSections.filter fun part => !part.2.isEmpty

def sections (d : Document) : List String :=
  d.presentSections.map Prod.fst

def entryCount (d : Document) : Nat :=
  d.services.length + d.routes.length + d.plugins.length + d.consumers.length + d.upstreams.length

/-- The plain data of a document: the format marker, then the present sections. -/
def toValue (d : Document) : Value :=
  .mapping ((.text "_format_version", .text d.formatVersion) ::
    d.presentSections.map fun part => (.text part.1, .list part.2))

end Document
end GatewayFlow
