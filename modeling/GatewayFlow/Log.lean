/-!
# Log lines

What a computation notes on the way, kept as data beside its result. Binding computations joins
their lines in order; the lines up to a failure are kept.
-/
namespace GatewayFlow

inductive Level
  | debug
  | info
  | warning
  | error
  | critical
deriving DecidableEq, Repr

namespace Level

def name : Level → String
  | .debug => "DEBUG"
  | .info => "INFO"
  | .warning => "WARNING"
  | .error => "ERROR"
  | .critical => "CRITICAL"

def rank : Level → Nat
  | .debug => 10
  | .info => 20
  | .warning => 30
  | .error => 40
  | .critical => 50

end Level

/-- The part of the program that a line comes from. -/
inductive Channel
  | settings
  | loading
  | editing
  | connecting
  | validation
  | lowering
  | generation
deriving DecidableEq, Repr

def Channel.name : Channel → String
  | .settings => "deckflow.config"
  | .loading => "deckflow.graph.loader"
  | .editing => "deckflow.graph.editor"
  | .connecting => "deckflow.validation.connection"
  | .validation => "deckflow.validation.graph"
  | .lowering => "deckflow.compiler.lower"
  | .generation => "deckflow.compiler.compiler"

structure LogLine where
  level : Level
  channel : Channel
  text : String
deriving DecidableEq, Repr

/-- A line as it is printed, its text after a separator. -/
def LogLine.show (line : LogLine) : String :=
  s!"{line.level.name} {line.channel.name}: {line.text}"

/-- A result with the lines noted on the way to it. -/
structure Logged (ε α : Type) where
  lines : List LogLine
  result : Except ε α

@[simp] theorem ok_bind {ε α β : Type} (a : α) (f : α → Except ε β) :
    (Except.ok a >>= f) = f a := rfl

@[simp] theorem error_bind {ε α β : Type} (e : ε) (f : α → Except ε β) :
    (Except.error e >>= f) = .error e := rfl

namespace Logged

variable {ε α β : Type}

def bind (m : Logged ε α) (f : α → Logged ε β) : Logged ε β :=
  match m.result with
  | .ok a => ⟨m.lines ++ (f a).lines, (f a).result⟩
  | .error e => ⟨m.lines, .error e⟩

instance : Monad (Logged ε) where
  pure a := ⟨[], .ok a⟩
  bind := bind

def quiet (result : Except ε α) : Logged ε α :=
  ⟨[], result⟩

def fail (e : ε) : Logged ε α :=
  ⟨[], .error e⟩

def note (level : Level) (channel : Channel) (text : String) : Logged ε Unit :=
  ⟨[⟨level, channel, text⟩], .ok ()⟩

@[simp] theorem result_pure (a : α) : (pure a : Logged ε α).result = .ok a := rfl

@[simp] theorem result_quiet (r : Except ε α) : (quiet r).result = r := rfl

@[simp] theorem result_fail (e : ε) : (fail e : Logged ε α).result = .error e := rfl

@[simp] theorem result_note (level : Level) (channel : Channel) (text : String) :
    (note level channel text : Logged ε Unit).result = .ok () := rfl

/-- The result of a sequence is that of the parts in sequence. -/
@[simp] theorem result_bind (m : Logged ε α) (f : α → Logged ε β) :
    (m >>= f).result = m.result >>= fun a => (f a).result := by
  change (Logged.bind m f).result = _
  unfold Logged.bind
  cases m.result <;> rfl

@[simp] theorem result_map (f : α → β) (m : Logged ε α) : (f <$> m).result = m.result.map f := by
  change (m >>= fun a => pure (f a)).result = _
  rw [result_bind]
  cases m.result <;> rfl

end Logged
end GatewayFlow
