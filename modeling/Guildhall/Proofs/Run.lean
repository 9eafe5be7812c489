/-
Guildhall/Proofs/Run.lean

Runs of the service.  A run is a list of steps, each a call at a moment; it
starts at a desk, and the desk that one step leaves is the one the next step
finds, whether the call gave an answer or stopped.  The history of a run
holds an event for each step.

A history is a `Chronicle`: each event is a deed, or a stop that left the
store as it was.  Induction on it is induction on the run, with the last
event split off.
-/
import Guildhall.Proofs.Atomicity
import Guildhall.Proofs.Completion
import Mathlib.Data.List.Induction

namespace Guildhall

/-! ### Steps and events -/

/-- A call at a moment. -/
structure Step where
  moment : Moment
  call : Call

/-- A step that has been taken: what it found, its answer if it gave one, and what
it left. -/
structure Event where
  moment : Moment
  call : Call
  before : Store
  answer : Option Answer
  after : Store

namespace Service

/-- Takes a step; the desk that it leaves comes with its event. -/
def take (service : Service) (d : Desk) (step : Step) : Event × Desk :=
  match service.perform step.moment step.call d with
  | .ok answer d' => (⟨step.moment, step.call, d.store, some answer, d'.store⟩, d')
  | .error _ d' => (⟨step.moment, step.call, d.store, none, d'.store⟩, d')

/-- The desk after a run. -/
def run (service : Service) (d : Desk) : List Step → Desk
  | [] => d
  | step :: steps => service.run (service.take d step).2 steps

/-- The events of a run. -/
def history (service : Service) (d : Desk) : List Step → List Event
  | [] => []
  | step :: steps => (service.take d step).1 :: service.history (service.take d step).2 steps

theorem run_append (service : Service) (d : Desk) (steps rest : List Step) :
    service.run d (steps ++ rest) = service.run (service.run d steps) rest := by
  induction steps generalizing d with
  | nil => rfl
  | cons step steps ih => exact ih _

theorem history_append (service : Service) (d : Desk) (steps rest : List Step) :
    service.history d (steps ++ rest) =
      service.history d steps ++ service.history (service.run d steps) rest := by
  induction steps generalizing d with
  | nil => rfl
  | cons step steps ih => exact congrArg (_ :: ·) (ih _)

end Service

/-! ### Chronicles -/

/-- Events that follow one another from one store to another: deeds, and stops that
leave the store as it was. -/
inductive Chronicle (start : Store) : List Event → Store → Prop
  | start : Chronicle start [] start
  | deed {es : List Event} {s s' : Store} {m : Moment} {call : Call} {answer : Answer}
      (past : Chronicle start es s) (hdeed : Deed m s call answer s') :
      Chronicle start (es ++ [⟨m, call, s, some answer, s'⟩]) s'
  | stop {es : List Event} {s : Store} {m : Moment} {call : Call} (past : Chronicle start es s) :
      Chronicle start (es ++ [⟨m, call, s, none, s⟩]) s

/-- One more step is one more event. -/
theorem Chronicle.take {start : Store} {es : List Event} {d : Desk}
    (past : Chronicle start es d.store) (service : Service) (step : Step) :
    Chronicle start (es ++ [(service.take d step).1]) (service.take d step).2.store := by
  unfold Service.take
  cases h : service.perform step.moment step.call d with
  | ok answer d' => exact past.deed (Service.deed_of_perform h)
  | error stop d' =>
    -- A call that stops is atomic.
    have hkept := service.atomic_perform step.moment step.call d stop d' h
    show Chronicle start (es ++ [⟨step.moment, step.call, d.store, none, d'.store⟩]) d'.store
    rw [hkept.store]
    exact past.stop

/-- **The history of a run is a chronicle.** -/
theorem Service.chronicle (service : Service) (d : Desk) (steps : List Step) :
    Chronicle d.store (service.history d steps) (service.run d steps).store := by
  -- Chronicles grow at the end, so it is the last step that is split off.
  induction steps using List.reverseRecOn with
  | nil => exact .start
  | append_singleton steps step ih =>
    rw [history_append, run_append]
    exact ih.take service step

/-- What holds at the start and survives every deed holds after the events. -/
theorem Chronicle.invariant {start s : Store} {es : List Event} {P : Store → Prop}
    (past : Chronicle start es s) (hstart : P start)
    (hdeed : ∀ {m s call answer s'}, Deed m s call answer s' → P s → P s') : P s := by
  induction past with
  | start => exact hstart
  | deed _ h ih => exact hdeed h ih
  | stop _ ih => exact ih

end Guildhall
