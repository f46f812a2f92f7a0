import Mathlib.Order.Basic

/-!
# Runs of a partial step function

A library for components that react to one event after the other. A step
function says what an event does, or that it cannot happen; `Visits` collects
the states of the runs that keep inside a region.
-/

namespace SystemSettings

variable {σ α : Type*} {step : σ → α → Option σ} {start : σ → Prop} {P : σ → Prop}

/-- The states of the runs from `start` whose states all satisfy `P`. -/
inductive Visits (step : σ → α → Option σ) (start : σ → Prop) (P : σ → Prop) : σ → Prop
  /-- a first state -/
  | start {s : σ} (hstart : start s) (hP : P s) : Visits step start P s
  /-- one event more -/
  | next {s s' : σ} (a : α) (h : Visits step start P s) (hstep : step s a = some s') (hP : P s') :
      Visits step start P s'

namespace Visits

theorem holds {s : σ} (h : Visits step start P s) : P s := by
  cases h with
  | start _ hP => exact hP
  | next _ _ _ hP => exact hP

/-- What holds at the start and is kept by every event holds in every state. -/
theorem invariant {I : σ → Prop} (hstart : ∀ s, start s → I s)
    (hnext : ∀ s a s', P s → I s → step s a = some s' → P s' → I s') {s : σ}
    (h : Visits step start P s) : I s := by
  induction h with
  | start h _ => exact hstart _ h
  | next a hs hstep hP ih => exact hnext _ a _ hs.holds ih hstep hP

/-- A wider region has more runs. -/
theorem mono {Q : σ → Prop} (hPQ : ∀ s, P s → Q s) {s : σ} (h : Visits step start P s) :
    Visits step start Q s := by
  induction h with
  | start h hP => exact .start h (hPQ _ hP)
  | next a _ hstep hP ih => exact .next a ih hstep (hPQ _ hP)

/-- The state after these events, when the run stays in the region. -/
def run (step : σ → α → Option σ) (P : σ → Prop) [DecidablePred P] (s : σ) (events : List α) :
    Option σ :=
  events.foldlM (fun s a => (step s a).filter fun s' => decide (P s')) s

theorem of_run [DecidablePred P] {s s' : σ} (h : Visits step start P s) (events : List α)
    (hrun : run step P s events = some s') : Visits step start P s' := by
  induction events generalizing s with
  | nil => exact Option.some.inj hrun ▸ h
  | cons a events ih =>
    obtain ⟨s₁, hfirst, hrest⟩ := Option.bind_eq_some_iff.mp hrun
    obtain ⟨hstep, hP⟩ := Option.filter_eq_some_iff.mp hfirst
    exact ih (h.next a hstep (of_decide_eq_true hP)) hrest

end Visits

end SystemSettings
