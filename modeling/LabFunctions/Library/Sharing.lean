import Mathlib.Logic.Function.Basic
import LabFunctions.Library.Runs

/-!
Parties of one kind that work on a shared state, each with a state of its own, in any order of
turns.
-/

namespace Sharing

open Runs

universe u v w x

variable {ι : Type u} {σ : Type v} {τ : Type w} {ρ : Type x}

structure World (ι : Type u) (σ : Type v) (τ : Type w) where
  shared : σ
  own : ι → τ

def step [DecidableEq ι] (act : σ → τ → ρ → σ × τ) (world : World ι σ τ) (turn : ι × ρ) :
    World ι σ τ where
  shared := (act world.shared (world.own turn.1) turn.2).1
  own := Function.update world.own turn.1 (act world.shared (world.own turn.1) turn.2).2

/-- One party in the state it works on. -/
def seen (world : World ι σ τ) (party : ι) : σ × τ := (world.shared, world.own party)

variable [DecidableEq ι] (act : σ → τ → ρ → σ × τ)

theorem seen_step_self (world : World ι σ τ) (party : ι) (request : ρ) :
    seen (step act world (party, request)) party =
      act world.shared (world.own party) request :=
  Prod.ext rfl (Function.update_self ..)

theorem own_step_ne (world : World ι σ τ) {party other : ι} (different : other ≠ party)
    (request : ρ) : (step act world (party, request)).own other = world.own other :=
  Function.update_of_ne different ..

/-- The rule of interference: what each party keeps of itself by its own turns, and what no turn of
another party takes from it, holds of every party in every order of turns. -/
theorem states_of_stable (invariant : ι → σ → τ → Prop)
    (kept : ∀ party shared own request, invariant party shared own →
      invariant party (act shared own request).1 (act shared own request).2)
    (stable : ∀ party other, party ≠ other → ∀ shared own its request,
      invariant party shared own → invariant other shared its →
        invariant party (act shared its request).1 own)
    {world : World ι σ τ} (initial : ∀ party, invariant party world.shared (world.own party))
    (turns : List (ι × ρ)) :
    ∀ reached ∈ states (step act) world turns,
      ∀ party, invariant party reached.shared (reached.own party) := by
  refine states_kept ?_ initial turns
  rintro world ⟨mover, request⟩ holds party
  by_cases own : party = mover
  · subst own
    have after := seen_step_self act world party request
    have shared := congrArg Prod.fst after
    have its := congrArg Prod.snd after
    dsimp only [seen] at shared its
    rw [shared, its]
    exact kept party _ _ request (holds party)
  · rw [own_step_ne act world own]
    exact stable party mover own _ _ _ request (holds party) (holds mover)

/-- Turns of one party alone are a run of that party. -/
theorem run_alone (world : World ι σ τ) (party : ι) (requests : List ρ) :
    seen (run (step act) world (requests.map (party, ·))) party =
      run (fun seen request => act seen.1 seen.2 request) (seen world party) requests := by
  induction requests generalizing world with
  | nil => rfl
  | cons request rest ih =>
      rw [List.map_cons, run_cons, run_cons, ih, seen_step_self]
      rfl

theorem run_alone_ne (world : World ι σ τ) {party other : ι} (different : other ≠ party)
    (requests : List ρ) :
    (run (step act) world (requests.map (party, ·))).own other = world.own other := by
  induction requests generalizing world with
  | nil => rfl
  | cons request rest ih =>
      rw [List.map_cons, run_cons, ih, own_step_ne act world different]

end Sharing
