import GatewayFlow.Field

/-!
# Attributes

The typed attributes of each kind of node. All are optional; an attribute that is null is absent.
Reading refuses names that the kind does not define, writing leaves absent attributes out, and both
follow the order of the fields.
-/
namespace GatewayFlow

/-- The open configuration of a plugin: named values in order. -/
abbrev Config := List (String × Value)

def Config.toValue (config : Config) : Value :=
  .record config

/-- An upstream API behind the gateway. -/
structure ServiceAttributes where
  name : Option String := none
  protocol : Option String := none
  host : Option String := none
  port : Option Int := none
  path : Option String := none
  retries : Option Int := none
  connectTimeout : Option Int := none
  writeTimeout : Option Int := none
  readTimeout : Option Int := none
deriving DecidableEq, Repr

/-- Rules that match requests and forward them to a service. -/
structure RouteAttributes where
  name : Option String := none
  protocols : Option (List String) := none
  methods : Option (List String) := none
  paths : Option (List String) := none
  hosts : Option (List String) := none
  stripPath : Option Bool := none
  preserveHost : Option Bool := none
deriving DecidableEq, Repr

structure PluginAttributes where
  name : Option String := none
  enabled : Option Bool := none
  config : Option Config := none
deriving Repr

structure ConsumerAttributes where
  username : Option String := none
  customId : Option String := none
deriving DecidableEq, Repr

/-- A virtual host that balances load over targets. -/
structure UpstreamAttributes where
  name : Option String := none
  algorithm : Option String := none
  slots : Option Int := none
  hashOn : Option String := none
  hashFallback : Option String := none
deriving DecidableEq, Repr

structure TargetAttributes where
  target : Option String := none
  weight : Option Int := none
deriving DecidableEq, Repr

structure CertificateAttributes where
  cert : Option String := none
  key : Option String := none
deriving DecidableEq, Repr

structure SniAttributes where
  name : Option String := none
deriving DecidableEq, Repr

/-- The attributes of a node, which also tell its kind. -/
inductive Attributes
  | service (a : ServiceAttributes)
  | route (a : RouteAttributes)
  | plugin (a : PluginAttributes)
  | consumer (a : ConsumerAttributes)
  | upstream (a : UpstreamAttributes)
  | target (a : TargetAttributes)
  | certificate (a : CertificateAttributes)
  | sni (a : SniAttributes)
deriving Repr

/-- The attribute names that a kind defines, in order. -/
def Kind.attributeNames : Kind → List String
  | .service => ["name", "protocol", "host", "port", "path", "retries", "connect_timeout",
      "write_timeout", "read_timeout"]
  | .route => ["name", "protocols", "methods", "paths", "hosts", "strip_path", "preserve_host"]
  | .plugin => ["name", "enabled", "config"]
  | .consumer => ["username", "custom_id"]
  | .upstream => ["name", "algorithm", "slots", "hash_on", "hash_fallback"]
  | .target => ["target", "weight"]
  | .certificate => ["cert", "key"]
  | .sni => ["name"]

def Kind.attributesRecord : Kind → String
  | .service => "ServiceAttributes"
  | .route => "RouteAttributes"
  | .plugin => "PluginAttributes"
  | .consumer => "ConsumerAttributes"
  | .upstream => "UpstreamAttributes"
  | .target => "TargetAttributes"
  | .certificate => "CertificateAttributes"
  | .sni => "SniAttributes"

namespace Attributes

open GatewayFlow.Field

def kind : Attributes → Kind
  | .service _ => .service
  | .route _ => .route
  | .plugin _ => .plugin
  | .consumer _ => .consumer
  | .upstream _ => .upstream
  | .target _ => .target
  | .certificate _ => .certificate
  | .sni _ => .sni

/-- The fields of a kind among the entries of a mapping. -/
def readFields (kind : Kind) (entries : Entries) : Reading Attributes :=
  match kind with
  | .service => .service <$> (ServiceAttributes.mk
      <$> optional entries "name" readText
      <*> optional entries "protocol" readText
      <*> optional entries "host" readText
      <*> optional entries "port" readInteger
      <*> optional entries "path" readText
      <*> optional entries "retries" readInteger
      <*> optional entries "connect_timeout" readInteger
      <*> optional entries "write_timeout" readInteger
      <*> optional entries "read_timeout" readInteger)
  | .route => .route <$> (RouteAttributes.mk
      <$> optional entries "name" readText
      <*> optional entries "protocols" readTexts
      <*> optional entries "methods" readTexts
      <*> optional entries "paths" readTexts
      <*> optional entries "hosts" readTexts
      <*> optional entries "strip_path" readBoolean
      <*> optional entries "preserve_host" readBoolean)
  | .plugin => .plugin <$> (PluginAttributes.mk
      <$> optional entries "name" readText
      <*> optional entries "enabled" readBoolean
      <*> optional entries "config" readConfig)
  | .consumer => .consumer <$> (ConsumerAttributes.mk
      <$> optional entries "username" readText
      <*> optional entries "custom_id" readText)
  | .upstream => .upstream <$> (UpstreamAttributes.mk
      <$> optional entries "name" readText
      <*> optional entries "algorithm" readText
      <*> optional entries "slots" readInteger
      <*> optional entries "hash_on" readText
      <*> optional entries "hash_fallback" readText)
  | .target => .target <$> (TargetAttributes.mk
      <$> optional entries "target" readText
      <*> optional entries "weight" readInteger)
  | .certificate => .certificate <$> (CertificateAttributes.mk
      <$> optional entries "cert" readText
      <*> optional entries "key" readText)
  | .sni => .sni <$> (SniAttributes.mk
      <$> optional entries "name" readText)

/-- The attributes of a kind: its fields, and no other entry. -/
def read (kind : Kind) : Value → Reading Attributes
  | .mapping entries =>
    (fun attributes _ => attributes)
      <$> readFields kind entries <*> onlyFields kind.attributeNames entries
  | _ => .fail (.notRecord kind.attributesRecord)

def entry {α : Type} (name : String) (toValue : α → Value) : Option α → Entries
  | some a => [(.text name, toValue a)]
  | none => []

def entries : Attributes → Entries
  | .service a =>
    entry "name" .text a.name ++ entry "protocol" .text a.protocol ++ entry "host" .text a.host ++
    entry "port" .int a.port ++ entry "path" .text a.path ++ entry "retries" .int a.retries ++
    entry "connect_timeout" .int a.connectTimeout ++ entry "write_timeout" .int a.writeTimeout ++
    entry "read_timeout" .int a.readTimeout
  | .route a =>
    entry "name" .text a.name ++ entry "protocols" .texts a.protocols ++
    entry "methods" .texts a.methods ++ entry "paths" .texts a.paths ++
    entry "hosts" .texts a.hosts ++ entry "strip_path" .bool a.stripPath ++
    entry "preserve_host" .bool a.preserveHost
  | .plugin a =>
    entry "name" .text a.name ++ entry "enabled" .bool a.enabled ++
    entry "config" Config.toValue a.config
  | .consumer a => entry "username" .text a.username ++ entry "custom_id" .text a.customId
  | .upstream a =>
    entry "name" .text a.name ++ entry "algorithm" .text a.algorithm ++
    entry "slots" .int a.slots ++ entry "hash_on" .text a.hashOn ++
    entry "hash_fallback" .text a.hashFallback
  | .target a => entry "target" .text a.target ++ entry "weight" .int a.weight
  | .certificate a => entry "cert" .text a.cert ++ entry "key" .text a.key
  | .sni a => entry "name" .text a.name

/-- The attribute called name, for the kinds that have one. -/
def name? : Attributes → Option String
  | .service a => a.name
  | .route a => a.name
  | .plugin a => a.name
  | .upstream a => a.name
  | .sni a => a.name
  | .consumer _ | .target _ | .certificate _ => none

end Attributes

end GatewayFlow
