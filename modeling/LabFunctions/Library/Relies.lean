import LabFunctions.Library.Retries

/-!
A program beside others: what each of its actions does and how it ends, whatever the others do
between two of its actions as long as it is a step of `rely`.
-/

universe u v w

namespace Prog

variable {σ : Type u} {α β : Type v}

/-- Each action is `allowed`, seen with what is left of the program after it, and the result
`ends` for good. -/
def Beside (rely : σ → σ → Prop) (allowed : σ → σ → Prog σ α → Prop) (ends : α → σ → Prop) :
    Prog σ α → σ → Prop
  | done result, state => ∀ later, rely state later → ends result later
  | act effect next, state => ∀ later, rely state later →
      allowed later (effect later) (next later) ∧
        Beside rely allowed ends (next later) (effect later)

variable {rely : σ → σ → Prop} {allowed : σ → σ → Prog σ α → Prop} {ends : α → σ → Prop}

theorem Beside.stable (trans : ∀ a b c, rely a b → rely b c → rely a c) {prog : Prog σ α}
    {state later : σ} (beside : Beside rely allowed ends prog state) (moved : rely state later) :
    Beside rely allowed ends prog later := by
  cases prog with
  | done result => exact fun last further => beside last (trans _ _ _ moved further)
  | act effect next => exact fun last further => beside last (trans _ _ _ moved further)

theorem Beside.mono {weaker : σ → σ → Prog σ α → Prop} {surely : α → σ → Prop}
    (steps : ∀ state later rest, allowed state later rest → weaker state later rest)
    (ending : ∀ result state, ends result state → surely result state) {prog : Prog σ α} {state : σ}
    (beside : Beside rely allowed ends prog state) : Beside rely weaker surely prog state := by
  induction prog generalizing state with
  | done result => exact fun later moved => ending _ _ (beside later moved)
  | act effect next ih =>
      intro later moved
      obtain ⟨step, rest⟩ := beside later moved
      exact ⟨steps _ _ _ step, ih later rest⟩

end Prog

namespace Interleaved

open Prog

variable {ι : Type w} [DecidableEq ι] {σ : Type u} {α : Type v} {rely : σ → σ → Prop}
  {allowed : ι → σ → σ → Prog σ α → Prop} {ends : ι → α → σ → Prop}

/-- Programs whose actions the others may rely on go on so, whoever acts. -/
theorem step_beside (trans : ∀ a b c, rely a b → rely b c → rely a c)
    (refl : ∀ state, rely state state)
    (guarantee : ∀ one state later rest, allowed one state later rest → rely state later)
    {world : World ι σ α}
    (beside : ∀ one, Beside rely (allowed one) (ends one) (world.progs one) world.state) (turn : ι) :
    ∀ one, Beside rely (allowed one) (ends one) ((step world turn).progs one)
      (step world turn).state := by
  intro one
  cases here : world.progs turn with
  | done result =>
      rw [step_done here]
      exact beside one
  | act effect next =>
      have acting := beside turn
      rw [here] at acting
      obtain ⟨step, rest⟩ := acting world.state (refl _)
      rw [step_act here]
      by_cases same : one = turn
      · subst same
        simpa using rest
      · simpa [same] using (beside one).stable trans (guarantee turn _ _ _ step)

/-- What the programs bring about: an invariant that every allowed action keeps. -/
theorem states_beside (trans : ∀ a b c, rely a b → rely b c → rely a c)
    (refl : ∀ state, rely state state)
    (guarantee : ∀ one state later rest, allowed one state later rest → rely state later)
    {invariant : World ι σ α → Prop}
    (kept : ∀ world turn effect next, invariant world → world.progs turn = .act effect next →
      allowed turn world.state (effect world.state) (next world.state) →
      invariant (step world turn))
    {world : World ι σ α} (initial : invariant world)
    (beside : ∀ one, Beside rely (allowed one) (ends one) (world.progs one) world.state)
    (turns : List ι) :
    ∀ reached ∈ Runs.states step world turns, invariant reached ∧
      ∀ one, Beside rely (allowed one) (ends one) (reached.progs one) reached.state := by
  refine Runs.states_kept ?_ ⟨initial, beside⟩ turns
  rintro world turn ⟨holds, beside⟩
  refine ⟨?_, step_beside trans refl guarantee beside turn⟩
  cases here : world.progs turn with
  | done result =>
      rw [step_done here]
      exact holds
  | act effect next =>
      have acting := beside turn
      rw [here] at acting
      exact kept world turn effect next holds here (acting world.state (refl _)).1

end Interleaved

namespace Fallible

variable {ε : Type v} {σ : Type u} {α β : Type v}

/-- From a state that meets `before`, beside others: each action is one of `steps`, and what the
task returns meets `returned` for good. -/
def Beside (rely steps : σ → σ → Prop) (before : σ → Prop) (task : Fallible ε σ α)
    (returned : α → σ → Prop) : Prop :=
  ∀ state, before state → Prog.Beside rely (fun state later _ => steps state later)
    (fun result state => ∀ value, result = .ok value → returned value state) (ExceptT.run task) state

/-- A call and what comes after it, action by action. -/
theorem beside_run_call {rely : σ → σ → Prop} {allowed : σ → σ → Prog σ (Except ε β) → Prop}
    {ends : Except ε β → σ → Prop} {operation : σ → Except ε α × σ} {rest : α → Fallible ε σ β}
    {state : σ}
    (raises : ∀ later failure, rely state later → (operation later).1 = .error failure →
      allowed later (operation later).2 (.done (.error failure)) ∧
        ∀ last, rely (operation later).2 last → ends (.error failure) last)
    (returns : ∀ later value, rely state later → (operation later).1 = .ok value →
      allowed later (operation later).2 (ExceptT.run (rest value)) ∧
        Prog.Beside rely allowed ends (ExceptT.run (rest value)) (operation later).2) :
    Prog.Beside rely allowed ends (ExceptT.run (call operation >>= rest)) state := by
  have unfolded : ExceptT.run (call operation >>= rest) =
      .act (fun seen => (operation seen).2) fun seen =>
        ExceptT.bindCont rest (operation seen).1 := rfl
  rw [unfolded]
  intro later moved
  simp only
  cases answer : (operation later).1 with
  | error failure => exact raises later failure moved answer
  | ok value => exact returns later value moved answer

variable {rely steps : σ → σ → Prop} {before : σ → Prop} {returned : α → σ → Prop}

theorem beside_pure {result : α}
    (met : ∀ state later, before state → rely state later → returned result later) :
    Beside rely steps before (pure result : Fallible ε σ α) returned := by
  intro state holds later moved value same
  obtain rfl := Except.ok.inj same
  exact met state later holds moved

theorem beside_throw {failure : ε} :
    Beside rely steps before (throw failure : Fallible ε σ α) returned := by
  intro state _ later _ value same
  cases same

theorem beside_lift {result : Except ε α}
    (met : ∀ state later value, before state → rely state later → result = .ok value →
      returned value later) : Beside rely steps before (lift result) returned :=
  fun state holds later moved value same => met state later value holds moved same

theorem beside_call {operation : σ → Except ε α × σ}
    (acts : ∀ state later, before state → rely state later → steps later (operation later).2)
    (met : ∀ state later last value, before state → rely state later →
      (operation later).1 = .ok value → rely (operation later).2 last → returned value last) :
    Beside rely steps before (call operation) returned :=
  fun state holds later moved =>
    ⟨acts state later holds moved, fun last further value same =>
      met state later last value holds moved same further⟩

theorem beside_bind (refl : ∀ state, rely state state) {task : Fallible ε σ α}
    {rest : α → Fallible ε σ β} {ending : β → σ → Prop}
    (first : Beside rely steps before task returned)
    (second : ∀ result, Beside rely steps (returned result) (rest result) ending) :
    Beside rely steps before (task >>= rest) ending := by
  intro state holds
  have begun := first state holds
  have unfolded : ExceptT.run (task >>= rest) =
      Prog.bind (ExceptT.run task) (ExceptT.bindCont rest) := rfl
  rw [unfolded]
  -- over what is left of the first task
  generalize ExceptT.run task = prog at begun
  clear unfolded holds
  induction prog generalizing state with
  | done result =>
      cases result with
      | error failure =>
          intro later moved value same
          cases same
      | ok value => exact second value state (begun state (refl state) value rfl)
  | act effect next ih =>
      intro later moved
      obtain ⟨step, left⟩ := begun later moved
      exact ⟨step, ih later (effect later) left⟩

theorem Beside.mono {stronger : σ → Prop} {looser : σ → σ → Prop} {weaker : α → σ → Prop}
    {task : Fallible ε σ α} (beside : Beside rely steps before task returned)
    (earlier : ∀ state, stronger state → before state)
    (implied : ∀ state later, steps state later → looser state later)
    (kept : ∀ value state, returned value state → weaker value state) :
    Beside rely looser stronger task weaker := fun state holds =>
  (beside state (earlier state holds)).mono (fun _ _ _ step => implied _ _ step)
    fun _ _ ended value same => kept _ _ (ended value same)

end Fallible
