import Mathlib.Logic.Function.Basic
import LabFunctions.Library.Runs

/-!
Programs that work on a shared state in atomic actions, alone and side by side: a
schedule says which program acts next.
-/

universe u v w

/-- A program ends with a result, or changes the state and goes on with what it saw before
the change. -/
inductive Prog (σ : Type u) (α : Type v) where
  | done (result : α)
  | act (effect : σ → σ) (next : σ → Prog σ α)

namespace Prog

variable {σ : Type u} {α β : Type v}

def bind : Prog σ α → (α → Prog σ β) → Prog σ β
  | done result, rest => rest result
  | act effect next, rest => act effect fun seen => bind (next seen) rest

instance : Monad (Prog σ) where
  pure := done
  bind := bind

def read (look : σ → α) : Prog σ α := act id fun seen => done (look seen)

def write (effect : σ → σ) : Prog σ PUnit := act effect fun _ => done ⟨⟩

def run : Prog σ α → σ → α × σ
  | done result, state => (result, state)
  | act effect next, state => run (next state) (effect state)

end Prog

namespace Interleaved

variable {ι : Type w} [DecidableEq ι] {σ : Type u} {α : Type v}

structure World (ι : Type w) (σ : Type u) (α : Type v) where
  state : σ
  progs : ι → Prog σ α

def step (world : World ι σ α) (turn : ι) : World ι σ α :=
  match world.progs turn with
  | .done _ => world
  | .act effect next =>
      { state := effect world.state
        progs := Function.update world.progs turn (next world.state) }

theorem step_done {world : World ι σ α} {turn : ι} {result : α}
    (ended : world.progs turn = .done result) : step world turn = world := by
  unfold step
  rw [ended]

theorem step_act {world : World ι σ α} {turn : ι} {effect : σ → σ} {next : σ → Prog σ α}
    (acts : world.progs turn = .act effect next) :
    step world turn =
      { state := effect world.state
        progs := Function.update world.progs turn (next world.state) } := by
  unfold step
  rw [acts]

theorem step_progs_ne (world : World ι σ α) {turn other : ι} (different : other ≠ turn) :
    (step world turn).progs other = world.progs other := by
  unfold step
  split
  · rfl
  · exact Function.update_of_ne different _ _

/-- A program that has all turns to itself runs as it does alone. -/
theorem run_alone (world : World ι σ α) (turn : ι) :
    ∃ turns, Runs.run step world (List.replicate turns turn) =
      { state := ((world.progs turn).run world.state).2
        progs := Function.update world.progs turn
          (.done ((world.progs turn).run world.state).1) } := by
  have general : ∀ (prog : Prog σ α) (world : World ι σ α), world.progs turn = prog →
      ∃ turns, Runs.run step world (List.replicate turns turn) =
        { state := (prog.run world.state).2
          progs := Function.update world.progs turn (.done (prog.run world.state).1) } := by
    intro prog
    -- over the program that is left, in whatever world it has come to
    induction prog with
    | done result =>
        intro world same
        refine ⟨0, ?_⟩
        have kept : Function.update world.progs turn (.done result) = world.progs := by
          rw [← same, Function.update_eq_self]
        simp only [Prog.run, kept]
        rfl
    | act effect next ih =>
        intro world same
        obtain ⟨turns, ends⟩ := ih world.state (step world turn) (by
          rw [step_act same]
          exact Function.update_self _ _ _)
        refine ⟨turns + 1, ?_⟩
        rw [List.replicate_succ, Runs.run_cons, ends, step_act same]
        simp only [Prog.run, Function.update_idem]
  exact general _ world rfl

end Interleaved
