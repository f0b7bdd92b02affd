import GatewayFlow.Value

/-!
# Node kinds

The closed set of things a flow is made of. A kind is written as its name; no other value names one.
-/
namespace GatewayFlow

/-- What a node stands for. -/
inductive Kind
  | service
  | route
  | plugin
  | consumer
  | upstream
  | target
  | certificate
  | sni
deriving DecidableEq, Repr

namespace Kind

/-- Every kind, in the order they are listed in messages. -/
def all : List Kind :=
  [.service, .route, .plugin, .consumer, .upstream, .target, .certificate, .sni]

def name : Kind → String
  | .service => "service"
  | .route => "route"
  | .plugin => "plugin"
  | .consumer => "consumer"
  | .upstream => "upstream"
  | .target => "target"
  | .certificate => "certificate"
  | .sni => "sni"

def ofName? (name : String) : Option Kind :=
  all.find? fun kind => kind.name == name

def ofValue? : Value → Option Kind
  | .text s => ofName? s
  | _ => none

end Kind
end GatewayFlow
