import CrdSynthesis.Mode

/-!
# Logged computations

A computation that succeeds or fails and leaves the events that it reported. The events stand
in the order in which they were reported, and a failure keeps those before it.

## Main definitions

* `Logged`: an outcome with its events
* `Logged.report`: reports one event
* `Logged.fail`, `Logged.ofExcept`: computations without events
* `Event`: what the library reports while it works, with its level and its message
-/

namespace CrdSynthesis

/-- An outcome, with the events that were reported on the way. -/
structure Logged (ω ε α : Type) where
  outcome : Except ε α
  events : List ω

namespace Logged

variable {ω ε α β : Type}

/-- A computation without events. -/
def ofExcept (outcome : Except ε α) : Logged ω ε α := ⟨outcome, []⟩

/-- A computation that fails at once. -/
def fail (error : ε) : Logged ω ε α := ofExcept (.error error)

/-- Reports `event`. -/
def report (event : ω) : Logged ω ε Unit := ⟨.ok (), [event]⟩

/-- Runs `f` on the result of `x`, if there is one, after the events of `x`. -/
def andThen (x : Logged ω ε α) (f : α → Logged ω ε β) : Logged ω ε β :=
  match x.outcome with
  | .error error => ⟨.error error, x.events⟩
  | .ok a => ⟨(f a).outcome, x.events ++ (f a).events⟩

instance : Monad (Logged ω ε) where
  pure a := ofExcept (.ok a)
  bind := andThen

@[simp]
theorem outcome_pure (a : α) : (pure a : Logged ω ε α).outcome = .ok a := rfl

@[simp]
theorem events_pure (a : α) : (pure a : Logged ω ε α).events = [] := rfl

@[simp]
theorem outcome_ofExcept (outcome : Except ε α) :
    (ofExcept outcome : Logged ω ε α).outcome = outcome := rfl

@[simp]
theorem events_ofExcept (outcome : Except ε α) :
    (ofExcept outcome : Logged ω ε α).events = [] := rfl

@[simp]
theorem outcome_report (event : ω) : (report event : Logged ω ε Unit).outcome = .ok () := rfl

@[simp]
theorem events_report (event : ω) : (report event : Logged ω ε Unit).events = [event] := rfl

/-- The second computation decides the outcome if the first one succeeds. -/
theorem outcome_bind (x : Logged ω ε α) (f : α → Logged ω ε β) :
    (x >>= f).outcome = x.outcome.bind fun a => (f a).outcome := by
  rcases x with ⟨outcome, events⟩
  cases outcome <;> rfl

/-- A failure leaves the events before it and no others. -/
theorem events_bind_error {x : Logged ω ε α} {error : ε} (h : x.outcome = .error error)
    (f : α → Logged ω ε β) : (x >>= f).events = x.events := by
  simp only [bind, andThen, h]

/-- After a success the events of the second computation follow those of the first. -/
theorem events_bind_ok {x : Logged ω ε α} {a : α} (h : x.outcome = .ok a)
    (f : α → Logged ω ε β) : (x >>= f).events = x.events ++ (f a).events := by
  simp only [bind, andThen, h]

end Logged

/-! ## Events of the library -/

/-- What the library reports: a generated resource, a conflict of names, and a loaded file. -/
inductive Event where
  | generated (mode : Mode) (crdName : String)
  | claimNameConflict (claimName definitionName : String)
  | loaded (count : Nat) (path : String)
  deriving DecidableEq

/-- How serious an event is. -/
inductive Level where
  | debug
  | warn
  deriving DecidableEq

/-- The name of a level. -/
def Level.text : Level → String
  | debug => "DEBUG"
  | warn => "WARN"

namespace Event

/-- A conflict of names is a warning. -/
def level : Event → Level
  | generated _ _ => .debug
  | claimNameConflict _ _ => .warn
  | loaded _ _ => .debug

/-- The text of an event. -/
def message : Event → String
  | generated mode crdName => String.join ["Generated ", mode.text, " CRD ", crdName]
  | claimNameConflict claimName definitionName =>
    String.join
      ["Claim name ", claimName, " of ", definitionName, " conflicts with its composite names"]
  | loaded count path => String.join ["Loaded ", toString count, " definition(s) from ", path]

end Event

end CrdSynthesis
