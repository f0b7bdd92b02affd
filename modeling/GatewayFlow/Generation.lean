import GatewayFlow.Lowering
import GatewayFlow.Rendering
import GatewayFlow.Validation

/-!
# Generation

From a flow to a document and its text. `compile` refuses a flow that does not pass validation;
`generate` validates, lowers and renders in one go and gives the violations as data.
-/
namespace GatewayFlow

def compile (nodes : List Node) (edges : List Edge) (settings : Settings) :
    Logged Failure Document := do
  let errors := Validation.errors nodes edges settings
  let _ ← Logged.mk (Validation.lines nodes errors) (.ok ())
  if errors.isEmpty then lower nodes edges settings else Logged.fail (.invalidFlow errors)

/-- The outcome of generation: the violations, or the document with its text. -/
structure Generated where
  errors : List String
  document : Option Document
  content : String
deriving Repr

namespace Generated

def valid (g : Generated) : Bool :=
  g.errors.isEmpty

end Generated

/-- Validates, lowers and renders a flow. The format matters only for a valid flow. -/
def generate (nodes : List Node) (edges : List Edge) (format : Value) (settings : Settings) :
    Logged Failure Generated := do
  let errors := Validation.errors nodes edges settings
  let _ ← Logged.mk (Validation.lines nodes errors) (.ok ())
  if errors.isEmpty then
    let document ← lower nodes edges settings
    -- The format is read last, so an unknown one is reported for valid flows alone.
    let format ← Logged.quiet (OutputFormat.read format)
    pure ⟨[], some document, document.serialize format⟩
  else
    let _ ← Logged.note .info .generation
      s!"Flow not generated: {errors.length} validation error(s)"
    pure ⟨errors, none, ""⟩

end GatewayFlow
