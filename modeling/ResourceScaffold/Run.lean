import ResourceScaffold.Fault
import ResourceScaffold.Log.Event

/-!
# Runs

A run reports events and then returns or fails; the events before a failure are kept.
-/

namespace ResourceScaffold

/-- A computation that reports events in order and ends with a result or a fault. -/
structure Run (α : Type) where
  events : List Event
  outcome : Except Fault α

namespace Run

variable {α β : Type}

/-- A run that only returns. -/
def result (a : α) : Run α :=
  { events := [], outcome := .ok a }

/-- One run, and another one after it unless it fails. -/
def andThen (r : Run α) (next : α → Run β) : Run β :=
  match r.outcome with
  | .ok a => { events := r.events ++ (next a).events, outcome := (next a).outcome }
  | .error e => { events := r.events, outcome := .error e }

instance : Monad Run where
  pure := result
  bind := andThen

/-- A run that reports one event. -/
def report (e : Event) : Run Unit :=
  { events := [e], outcome := .ok () }

/-- A run that reports nothing. -/
def ofExcept (x : Except Fault α) : Run α :=
  { events := [], outcome := x }

/-- Several runs one after the other, each to its end whatever becomes of those before it. -/
def all : List (Run α) → Run (List (Except Fault α))
  | [] => result []
  | r :: rest =>
      { events := r.events ++ (all rest).events
        outcome := (all rest).outcome.map (r.outcome :: ·) }

@[simp] theorem pure_eq (a : α) : (pure a : Run α) = result a := rfl

@[simp] theorem bind_eq (r : Run α) (next : α → Run β) : r >>= next = r.andThen next := rfl

/-- A run that returned is followed by the next part, its events first. -/
theorem andThen_ok {r : Run α} {a : α} (h : r.outcome = .ok a) (next : α → Run β) :
    r.andThen next = { events := r.events ++ (next a).events, outcome := (next a).outcome } := by
  simp [andThen, h]

/-- A run that failed is not followed by anything. -/
theorem andThen_error {r : Run α} {e : Fault} (h : r.outcome = .error e) (next : α → Run β) :
    r.andThen next = { events := r.events, outcome := .error e } := by
  simp [andThen, h]

end Run

end ResourceScaffold
