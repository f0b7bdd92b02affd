import GatewayFlow.Flow
import GatewayFlow.Log

/-!
# Connections

Whether an edge may be drawn. Only the shape of the flow refuses one: a missing end, an end that is
the other end, or a pair that is already connected. A pairing of kinds outside the table of
relationships is allowed and noted.
-/
namespace GatewayFlow

/-- What a kind of node may be connected to, and what it is for. -/
structure Relationship where
  targets : List Kind
  description : String
deriving Repr

namespace Kind

def relationship : Kind → Relationship
  | .route => ⟨[.service], "Routes match incoming requests and forward them to a Service"⟩
  | .service => ⟨[.upstream],
      "Services represent upstream APIs. Can optionally point to an Upstream for load balancing"⟩
  | .plugin => ⟨[.service, .route, .consumer],
      "Plugins can be scoped to Services, Routes, or Consumers"⟩
  | .upstream => ⟨[.target], "Upstreams contain Targets for load balancing"⟩
  | .consumer => ⟨[], "Consumers represent API users/applications"⟩
  | .target => ⟨[], "Targets are backend service instances within an Upstream"⟩
  | .certificate => ⟨[], "Certificates for TLS/SSL"⟩
  | .sni => ⟨[.certificate], "SNI entities connect to Certificates"⟩

def connectionLabel : Kind → Kind → String
  | .route, .service => "forwards to"
  | .plugin, .service => "applies to"
  | .plugin, .route => "applies to"
  | .plugin, .consumer => "applies to"
  | .service, .upstream => "load balances via"
  | .upstream, .target => "includes"
  | .sni, .certificate => "uses"
  | _, _ => "connects to"

/-- Whether a kind has no listed targets or the other is one of them. -/
def isStandardPairing (source other : Kind) : Bool :=
  source.relationship.targets.isEmpty || source.relationship.targets.contains other

end Kind

/-- Why an edge is refused. -/
inductive Refusal
  | invalidNodes
  | selfConnection
  | duplicateConnection
deriving DecidableEq, Repr

namespace Refusal

def code : Refusal → String
  | .invalidNodes => "invalid_nodes"
  | .selfConnection => "self_connection"
  | .duplicateConnection => "duplicate_connection"

def message : Refusal → String
  | .invalidNodes => "Invalid nodes"
  | .selfConnection => "Cannot connect a node to itself"
  | .duplicateConnection => "This connection already exists"

end Refusal

/-- The outcome of a check: what blocks, what is merely noted, and the code of a refused edge. -/
structure Verdict where
  errors : List String
  warnings : List String
  code : Option Refusal
deriving DecidableEq, Repr

namespace Verdict

def valid (v : Verdict) : Bool :=
  v.errors.isEmpty

def refusal (r : Refusal) : Verdict :=
  ⟨[r.message], [], some r⟩

def ofErrors (errors : List String) : Verdict :=
  ⟨errors, [], none⟩

def passed (warnings : List String) : Verdict :=
  ⟨[], warnings, none⟩

end Verdict

/-- Whether an edge already joins two ids, whatever its anchors. -/
def connectionExists (edges : List Edge) (source target : String) : Bool :=
  edges.any fun e => e.source == source && e.target == target

/-- Why an edge between two nodes is refused, if it is. -/
def refusal? (source target : Option Node) (edges : List Edge) : Option Refusal :=
  match source, target with
  | some s, some t =>
    if s.id = t.id then some .selfConnection
    else if connectionExists edges s.id t.id then some .duplicateConnection
    else none
  | _, _ => some .invalidNodes

/-- The note on a pairing outside the table of relationships. -/
def pairingNote? (source target : Option Node) : Option String :=
  match source, target with
  | some s, some t =>
    if s.kind.isStandardPairing t.kind then none
    else some s!"{s.kind.name} → {t.kind.name} is not a standard Kong relationship"
  | _, _ => none

/-- Decides whether an edge between two nodes may be drawn. -/
def checkConnection (source target : Option Node) (edges : List Edge) : Verdict :=
  match refusal? source target edges with
  | some r => .refusal r
  | none => .passed (pairingNote? source target).toList

/-- The line that an allowed pairing outside the table leaves. -/
def connectionLines (source target : Option Node) (edges : List Edge) : List LogLine :=
  match source, target, refusal? source target edges, pairingNote? source target with
  | some s, some t, none, some note =>
    [⟨.info, .connecting, s!"Allowing non-standard connection {s.id} -> {t.id}: {note}"⟩]
  | _, _, _, _ => []

end GatewayFlow
