import Songbook.Line
import Songbook.Problem

/-!
# What a reader finds

Closed chords, directives, finished lines and problems, each with the number of its line. They go
to a sink, which has a state of its own and may refuse a directive or a line.
-/

namespace Songbook.Markup

/-- Something found in a text. -/
inductive Event where
  | chord (line : Nat) (name : String)
  | directive (line : Nat) (text : String)
  | line (line : Nat) (content : Line)
  | problem (line : Nat) (problem : Problem)
deriving DecidableEq, Repr

/-- Where events go: a state `σ` and what each kind of event does to it. -/
structure Sink (ε σ : Type) where
  /-- A chord was closed; tells the name to print above the lyrics. -/
  chord : Nat → String → σ → String × σ
  directive : Nat → String → EStateM ε σ Unit
  /-- A line without a directive ended. -/
  line : Nat → Line → EStateM ε σ Unit
  problem : Nat → Problem → σ → σ
  /-- A tablature is open, so brackets are text. -/
  inTab : σ → Bool

namespace Sink

/-- Runs a step on the first part of the state and adds an event to the second. -/
def withEvent {ε σ : Type} (e : Event) (x : EStateM ε σ Unit) :
    EStateM ε (σ × List Event) Unit := fun (s, events) =>
  match x s with
  | .ok _ s => .ok () (s, events ++ [e])
  | .error err s => .error err (s, events ++ [e])

/-- The sink with a record of everything that reached it. -/
def recording {ε σ : Type} (sink : Sink ε σ) : Sink ε (σ × List Event) where
  chord n name := fun (s, events) =>
    let (shown, s) := sink.chord n name s
    (shown, s, events ++ [.chord n name])
  directive n text := withEvent (.directive n text) (sink.directive n text)
  line n content := withEvent (.line n content) (sink.line n content)
  problem n p := fun (s, events) => (sink.problem n p s, events ++ [.problem n p])
  inTab := fun (s, _) => sink.inTab s

end Sink

end Songbook.Markup
