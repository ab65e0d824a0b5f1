import LabFunctions.Library.Runs

/-!
Several parties at one state machine: what a party is answered and what it sees in the end, as far
as its own requests decide it.
-/

namespace Runs

universe u v w

variable {σ : Type u} {ρ : Type v} {α : Type w}

abbrev next (handle : σ → ρ → α × σ) (state : σ) (request : ρ) : σ := (handle state request).2

/-- The answers to the requests that are `mine`, in order. -/
def answers (handle : σ → ρ → α × σ) (mine : ρ → Bool) : σ → List ρ → List α
  | _, [] => []
  | state, request :: rest =>
      let (answer, later) := handle state request
      if mine request then answer :: answers handle mine later rest
      else answers handle mine later rest

variable {ν : Type*} {handle : σ → ρ → α × σ} {mine : ρ → Bool} {view : σ → ν}
  {meets : σ → ρ → Prop}

/-- Requests of others change neither what the party sees nor what it has been answered. -/
theorem answers_aside
    (aside : ∀ state request, mine request = false → meets state request →
      view (next handle state request) = view state) {state : σ} {front : List ρ}
    (back : List ρ) (others : ∀ request ∈ front, mine request = false)
    (along : Along (next handle) meets state front) :
    answers handle mine state (front ++ back) =
        answers handle mine (run (next handle) state front) back ∧
      view (run (next handle) state front) = view state := by
  induction front generalizing state with
  | nil => exact ⟨rfl, rfl⟩
  | cons request rest ih =>
      rw [List.forall_mem_cons] at others
      obtain ⟨same, kept⟩ := ih others.2 along.2
      refine ⟨?_, kept.trans (aside state request others.1 along.1)⟩
      simp only [List.cons_append, answers, others.1, Bool.false_eq_true, if_false]
      exact same

/-- Two runs in which a party makes the same requests give it the same answers and end in states
that look the same to it: if the requests of others do not change what it sees, and its own are
answered alike in states that it cannot tell apart. -/
theorem answers_determined
    (aside : ∀ state request, mine request = false → meets state request →
      view (next handle state request) = view state)
    (own : ∀ left right request, mine request = true → meets left request → meets right request →
      view left = view right → (handle left request).1 = (handle right request).1 ∧
        view (next handle left request) = view (next handle right request))
    {left right : σ} {calls others : List ρ} (same : calls.filter mine = others.filter mine)
    (alike : view left = view right)
    (leftAlong : Along (next handle) meets left calls)
    (rightAlong : Along (next handle) meets right others) :
    answers handle mine left calls = answers handle mine right others ∧
      view (run (next handle) left calls) =
        view (run (next handle) right others) := by
  induction calls generalizing left right others with
  | nil =>
      have aloof : ∀ request ∈ others, mine request = false := by
        simpa using same.symm
      have trailing := answers_aside aside [] aloof rightAlong
      rw [List.append_nil] at trailing
      exact ⟨trailing.1.symm, alike.trans trailing.2.symm⟩
  | cons request rest ih =>
      by_cases named : mine request = true
      · rw [List.filter_cons_of_pos named] at same
        obtain ⟨front, back, rfl, aloof, _, later⟩ := List.filter_eq_cons_iff.mp same.symm
        obtain ⟨before, after⟩ := along_append.mp rightAlong
        have quiet : ∀ other ∈ front, mine other = false := by simpa using aloof
        obtain ⟨skipped, unseen⟩ := answers_aside aside (request :: back) quiet before
        obtain ⟨answer, seen⟩ := own _ _ request named leftAlong.1 after.1 (alike.trans unseen.symm)
        obtain ⟨others_same, ends⟩ := ih later.symm seen leftAlong.2 after.2
        refine ⟨?_, ?_⟩
        · rw [skipped]
          simp only [answers, named, if_true]
          rw [answer, others_same]
        · rw [run_append]
          exact ends
      · have quiet : mine request = false := by simpa using named
        rw [List.filter_cons_of_neg named] at same
        have unseen := aside left request quiet leftAlong.1
        obtain ⟨answered, ends⟩ := ih same (unseen.trans alike) leftAlong.2 rightAlong
        refine ⟨?_, ends⟩
        simp only [answers, quiet, Bool.false_eq_true, if_false]
        exact answered

end Runs
