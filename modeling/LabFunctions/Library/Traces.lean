import LabFunctions.Library.Runs

/-!
What a run shows of itself: the events that an observer sees along it, and the simulation of a run
by a machine that moves with the events alone.
-/

namespace Traces

open Runs

universe u v w

variable {σ : Type u} {ρ : Type v} {ε : Type w}

/-- The events along a run, in order. A request need not be one. -/
def trace (step : σ → ρ → σ) (event : σ → ρ → Option ε) : σ → List ρ → List ε
  | _, [] => []
  | state, request :: rest => (event state request).toList ++ trace step event (step state request) rest

variable {step : σ → ρ → σ} {event : σ → ρ → Option ε}

/-- An event of a trace was one of some request, in a state that the run reached. -/
theorem mem_trace {state : σ} {requests : List ρ} {seen : ε}
    (member : seen ∈ trace step event state requests) :
    ∃ reached ∈ states step state requests, ∃ request ∈ requests,
      event reached request = some seen := by
  induction requests generalizing state with
  | nil => simp [trace] at member
  | cons request rest ih =>
      rcases List.mem_append.mp member with now | later
      · exact ⟨state, self_mem_states _ _, request, List.mem_cons_self .., Option.mem_toList.mp now⟩
      · obtain ⟨reached, inside, one, among, shows⟩ := ih later
        exact ⟨reached, List.mem_cons_of_mem _ inside, one, List.mem_cons_of_mem _ among, shows⟩

variable {τ : Type*} {react : τ → ε → τ} {related : σ → τ → Prop} {meets : σ → ρ → Prop}

/-- The simulation rule: a machine that moves with each event, and stays related where there is
none, is related at the end of an admitted run to where the trace of it has led. -/
theorem run_trace_related
    (kept : ∀ state image request, related state image → meets state request →
      related (step state request) ((event state request).elim image (react image)))
    {state : σ} {image : τ} {requests : List ρ} (initial : related state image)
    (along : Along step meets state requests) :
    related (run step state requests) (run react image (trace step event state requests)) := by
  induction requests generalizing state image with
  | nil => exact initial
  | cons request rest ih =>
      have next := kept state image request initial along.1
      rw [run_cons, trace, run_append]
      cases shown : event state request with
      | none =>
          rw [shown] at next
          exact ih next along.2
      | some seen =>
          rw [shown] at next
          exact ih next along.2

end Traces
