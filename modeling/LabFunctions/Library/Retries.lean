import LabFunctions.Library.Interleavings

/-!
Programs that may raise, that may break off between any two of their actions, and that are
tried again until an attempt completes.
-/

universe u v w

namespace Prog

variable {σ : Type u} {α β : Type v}

/-- The first `actions` actions, with no result when more of them are to come. -/
def upTo : Nat → Prog σ α → σ → Option α × σ
  | _, done result, state => (some result, state)
  | 0, act _ _, state => (none, state)
  | actions + 1, act effect next, state => upTo actions (next state) (effect state)

def cost : Prog σ α → σ → Nat
  | done _, _ => 0
  | act effect next, state => cost (next state) (effect state) + 1

@[simp] theorem upTo_done (actions : Nat) (result : α) (state : σ) :
    upTo actions (done result : Prog σ α) state = (some result, state) := by
  cases actions <;> rfl

@[simp] theorem upTo_zero_act (effect : σ → σ) (next : σ → Prog σ α) (state : σ) :
    upTo 0 (act effect next) state = (none, state) := rfl

@[simp] theorem upTo_succ_act (actions : Nat) (effect : σ → σ) (next : σ → Prog σ α)
    (state : σ) :
    upTo (actions + 1) (act effect next) state = upTo actions (next state) (effect state) := rfl

theorem upTo_bind (prog : Prog σ α) (rest : α → Prog σ β) (actions : Nat) (state : σ) :
    upTo actions (prog.bind rest) state =
      match upTo actions prog state with
      | (some result, later) => upTo (actions - prog.cost state) (rest result) later
      | (none, later) => (none, later) := by
  induction prog generalizing actions state with
  | done result => simp [bind, cost]
  | act effect next ih =>
      cases actions with
      | zero => simp [bind]
      | succ actions => simp only [bind, upTo_succ_act, ih, cost, Nat.add_sub_add_right]

theorem run_bind (prog : Prog σ α) (rest : α → Prog σ β) (state : σ) :
    (prog.bind rest).run state = (rest (prog.run state).1).run (prog.run state).2 := by
  induction prog generalizing state with
  | done result => rfl
  | act effect next ih => exact ih state (effect state)

theorem bind_assoc {γ : Type v} (prog : Prog σ α) (middle : α → Prog σ β) (last : β → Prog σ γ) :
    (prog.bind middle).bind last = prog.bind fun result => (middle result).bind last := by
  induction prog with
  | done result => rfl
  | act effect next ih =>
      simp only [bind]
      congr 1
      funext seen
      exact ih seen

theorem upTo_cost (prog : Prog σ α) (state : σ) :
    upTo (prog.cost state) prog state = (some (prog.run state).1, (prog.run state).2) := by
  induction prog generalizing state with
  | done result => rfl
  | act effect next ih => exact ih state (effect state)

theorem upTo_isSome_iff (prog : Prog σ α) (actions : Nat) (state : σ) :
    (upTo actions prog state).1.isSome = true ↔ prog.cost state ≤ actions := by
  induction prog generalizing actions state with
  | done result => simp [cost]
  | act effect next ih =>
      cases actions with
      | zero => simp [cost]
      | succ actions =>
          rw [upTo_succ_act, ih, cost]
          omega

end Prog

abbrev Fallible (ε : Type v) (σ : Type u) (α : Type v) := ExceptT ε (Prog σ) α

namespace Fallible

variable {ε : Type v} {σ : Type u} {α β : Type v}

def call (operation : σ → Except ε α × σ) : Fallible ε σ α :=
  ExceptT.mk (.act (fun state => (operation state).2) fun state => .done (operation state).1)

def look (view : σ → α) : Fallible ε σ α := call fun state => (.ok (view state), state)

def lift (result : Except ε α) : Fallible ε σ α := ExceptT.mk (.done result)

def upTo (actions : Nat) (task : Fallible ε σ α) (state : σ) : Option (Except ε α) × σ :=
  Prog.upTo actions (ExceptT.run task) state

def cost (task : Fallible ε σ α) (state : σ) : Nat := Prog.cost (ExceptT.run task) state

def run (task : Fallible ε σ α) (state : σ) : Except ε α × σ := Prog.run (ExceptT.run task) state

@[simp] theorem lift_ok_bind (result : α) (rest : α → Fallible ε σ β) :
    ((lift (.ok result) : Fallible ε σ α) >>= rest) = rest result := rfl

@[simp] theorem return_bind (result : α) (rest : α → Fallible ε σ β) :
    ((pure result : Fallible ε σ α) >>= rest) = rest result := rfl

@[simp] theorem lift_error_bind (failure : ε) (rest : α → Fallible ε σ β) :
    ((lift (.error failure) : Fallible ε σ α) >>= rest) = lift (.error failure) := rfl

@[simp] theorem upTo_pure (actions : Nat) (result : α) (state : σ) :
    upTo actions (pure result : Fallible ε σ α) state = (some (.ok result), state) :=
  Prog.upTo_done _ _ _

@[simp] theorem upTo_throw (actions : Nat) (failure : ε) (state : σ) :
    upTo actions (throw failure : Fallible ε σ α) state = (some (.error failure), state) :=
  Prog.upTo_done _ _ _

@[simp] theorem upTo_lift (actions : Nat) (result : Except ε α) (state : σ) :
    upTo actions (lift result : Fallible ε σ α) state = (some result, state) :=
  Prog.upTo_done _ _ _

@[simp] theorem upTo_zero_call (operation : σ → Except ε α × σ) (state : σ) :
    upTo 0 (call operation) state = (none, state) := rfl

@[simp] theorem upTo_succ_call (actions : Nat) (operation : σ → Except ε α × σ) (state : σ) :
    upTo (actions + 1) (call operation) state =
      (some (operation state).1, (operation state).2) := by
  simp [upTo, call, ExceptT.run, ExceptT.mk]

@[simp] theorem cost_call (operation : σ → Except ε α × σ) (state : σ) :
    cost (call operation) state = 1 := rfl

theorem upTo_bind (task : Fallible ε σ α) (rest : α → Fallible ε σ β) (actions : Nat)
    (state : σ) :
    upTo actions (task >>= rest) state =
      match upTo actions task state with
      | (some (.ok result), later) => upTo (actions - task.cost state) (rest result) later
      | (some (.error failure), later) => (some (.error failure), later)
      | (none, later) => (none, later) := by
  have unfolded : ExceptT.run (task >>= rest) =
      Prog.bind (ExceptT.run task) (ExceptT.bindCont rest) := rfl
  rw [upTo, unfolded, Prog.upTo_bind]
  unfold upTo
  rcases Prog.upTo actions (ExceptT.run task) state with ⟨_ | failure | result, later⟩
  · rfl
  · exact Prog.upTo_done _ _ _
  · rfl

@[simp] theorem upTo_zero_call_bind (operation : σ → Except ε α × σ) (rest : α → Fallible ε σ β)
    (state : σ) : upTo 0 (call operation >>= rest) state = (none, state) := rfl

@[simp] theorem upTo_succ_call_bind (actions : Nat) (operation : σ → Except ε α × σ)
    (rest : α → Fallible ε σ β) (state : σ) :
    upTo (actions + 1) (call operation >>= rest) state =
      match operation state with
      | (.ok result, later) => upTo actions (rest result) later
      | (.error failure, later) => (some (.error failure), later) := by
  rw [upTo_bind, upTo_succ_call, cost_call, Nat.add_sub_cancel]
  rcases operation state with ⟨_ | _, _⟩ <;> rfl

theorem run_bind (task : Fallible ε σ α) (rest : α → Fallible ε σ β) (state : σ) :
    run (task >>= rest) state =
      match run task state with
      | (.ok result, later) => run (rest result) later
      | (.error failure, later) => (.error failure, later) := by
  have unfolded : ExceptT.run (task >>= rest) =
      Prog.bind (ExceptT.run task) (ExceptT.bindCont rest) := rfl
  rw [run, unfolded, Prog.run_bind]
  unfold run
  rcases Prog.run (ExceptT.run task) state with ⟨failure | result, later⟩ <;> rfl

theorem bind_assoc {γ : Type v} (task : Fallible ε σ α) (middle : α → Fallible ε σ β)
    (last : β → Fallible ε σ γ) :
    (task >>= middle) >>= last = task >>= fun result => middle result >>= last := by
  refine (Prog.bind_assoc (ExceptT.run task) (ExceptT.bindCont middle)
    (ExceptT.bindCont last)).trans ?_
  apply congrArg (Prog.bind (ExceptT.run task))
  funext result
  cases result <;> rfl

theorem upTo_cost (task : Fallible ε σ α) (state : σ) :
    upTo (task.cost state) task state = (some (task.run state).1, (task.run state).2) :=
  Prog.upTo_cost (ExceptT.run task) state

theorem upTo_isSome_iff (task : Fallible ε σ α) (actions : Nat) (state : σ) :
    (upTo actions task state).1.isSome = true ↔ task.cost state ≤ actions :=
  Prog.upTo_isSome_iff (ExceptT.run task) actions state

/-- One attempt: it runs to its end, or it breaks off after so many actions, however many there
were to come, and nothing is heard of a result. -/
def attempt (task : Fallible ε σ α) (stop : Option Nat) (state : σ) : Option (Except ε α) × σ :=
  match stop with
  | none => (some (task.run state).1, (task.run state).2)
  | some actions => (none, (task.upTo actions state).2)

/-- From a state that meets `before`, the task is in a state that meets `always` wherever it
breaks off, and what it returns meets `returned`. -/
def Triple (before : σ → Prop) (task : Fallible ε σ α) (returned : α → σ → Prop)
    (always : σ → Prop) : Prop :=
  ∀ state, before state → ∀ actions, always (task.upTo actions state).2 ∧
    ∀ result, (task.upTo actions state).1 = some (.ok result) →
      returned result (task.upTo actions state).2

section Rules

variable {before always : σ → Prop} {returned : α → σ → Prop}

theorem triple_pure {result : α} (kept : ∀ state, before state → always state)
    (met : ∀ state, before state → returned result state) :
    Triple before (pure result : Fallible ε σ α) returned always := by
  intro state holds actions
  rw [upTo_pure]
  refine ⟨kept state holds, ?_⟩
  intro other same
  simp only [Option.some.injEq, Except.ok.injEq] at same
  exact same ▸ met state holds

theorem triple_throw {failure : ε} (kept : ∀ state, before state → always state) :
    Triple before (throw failure : Fallible ε σ α) returned always := by
  intro state holds actions
  rw [upTo_throw]
  exact ⟨kept state holds, by simp⟩

theorem triple_lift {result : Except ε α} (kept : ∀ state, before state → always state)
    (met : ∀ state, before state → ∀ value, result = .ok value → returned value state) :
    Triple before (lift result : Fallible ε σ α) returned always := by
  intro state holds actions
  rw [upTo_lift]
  refine ⟨kept state holds, ?_⟩
  intro value same
  exact met state holds value (Option.some.inj same)

theorem triple_call {operation : σ → Except ε α × σ}
    (kept : ∀ state, before state → always state)
    (after : ∀ state, before state → always (operation state).2)
    (met : ∀ state, before state → ∀ result, (operation state).1 = .ok result →
      returned result (operation state).2) :
    Triple before (call operation) returned always := by
  intro state holds actions
  cases actions with
  | zero => exact ⟨kept state holds, by simp⟩
  | succ actions =>
      rw [upTo_succ_call]
      refine ⟨after state holds, ?_⟩
      intro result answered
      exact met state holds result (Option.some.inj answered)

theorem triple_bind {task : Fallible ε σ α} {rest : α → Fallible ε σ β}
    {ending : β → σ → Prop} (first : Triple before task returned always)
    (second : ∀ result, Triple (returned result) (rest result) ending always) :
    Triple before (task >>= rest) ending always := by
  intro state holds actions
  have begun := first state holds actions
  rw [upTo_bind]
  revert begun
  rcases task.upTo actions state with ⟨_ | failure | result, later⟩
  · rintro ⟨kept, _⟩
    exact ⟨kept, by simp⟩
  · rintro ⟨kept, _⟩
    exact ⟨kept, by simp⟩
  · rintro ⟨_, met⟩
    exact second result later (met result rfl) _

theorem Triple.mono {task : Fallible ε σ α} {earlier : σ → Prop} {weaker : α → σ → Prop}
    {surely : σ → Prop} (triple : Triple before task returned always)
    (stronger : ∀ state, earlier state → before state)
    (implied : ∀ result state, returned result state → weaker result state)
    (kept : ∀ state, always state → surely state) : Triple earlier task weaker surely := by
  intro state holds actions
  obtain ⟨inside, met⟩ := triple state (stronger state holds) actions
  exact ⟨kept _ inside, fun result answered => implied _ _ (met result answered)⟩

end Rules

end Fallible

namespace Retries

variable {τ : Type w} {ε : Type v} {σ : Type u} {α : Type v}

def retried (attempt : τ → σ → Option (Except ε α) × σ) : List τ → σ → Option α × σ
  | [], state => (none, state)
  | first :: others, state =>
      match attempt first state with
      | (some (.ok result), later) => (some result, later)
      | (_, later) => retried attempt others later

/-- The attempts that were made, each with the state it began in. -/
def tried (attempt : τ → σ → Option (Except ε α) × σ) : List τ → σ → List (τ × σ)
  | [], _ => []
  | first :: others, state =>
      (first, state) ::
        match attempt first state with
        | (some (.ok _), _) => []
        | (_, later) => tried attempt others later

variable {attempt : τ → σ → Option (Except ε α) × σ}

/-- What holds in the end held in the beginning or was brought about by an attempt. -/
theorem retried_iff {ever : σ → Prop} {brings : τ → σ → Prop}
    (each : ∀ one state, ever (attempt one state).2 ↔ ever state ∨ brings one state)
    (attempts : List τ) (state : σ) :
    ever (retried attempt attempts state).2 ↔
      ever state ∨ ∃ made ∈ tried attempt attempts state, brings made.1 made.2 := by
  induction attempts generalizing state with
  | nil => simp [retried, tried]
  | cons first others ih =>
      have one := each first state
      simp only [retried, tried, List.exists_mem_cons_iff]
      revert one
      rcases attempt first state with ⟨_ | failure | result, later⟩
      · intro one
        exact (ih later).trans ((or_congr_left one).trans or_assoc)
      · intro one
        exact (ih later).trans ((or_congr_left one).trans or_assoc)
      · intro one
        simpa using one

end Retries
