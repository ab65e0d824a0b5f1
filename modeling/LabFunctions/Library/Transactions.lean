import LabFunctions.Library.Effects

/-!
Sessions of a database: what a task has written is its own until it commits, and a session that
is closed keeps what was committed.
-/

namespace Transactions

universe u

variable {ε σ α β : Type u}

structure Session (σ : Type u) where
  committed : σ
  working : σ

def opened (state : σ) : Session σ := ⟨state, state⟩

abbrev Tx (ε σ α : Type u) := ExceptT ε (StateM (Session σ)) α

def run (task : Tx ε σ α) (session : Session σ) : Except ε α × Session σ := task session

def execute (statement : σ → Except ε σ) : Tx ε σ PUnit := fun session =>
  match statement session.working with
  | .ok next => (.ok ⟨⟩, { session with working := next })
  | .error failure => (.error failure, session)

def query (view : σ → Except ε α) : Tx ε σ α := fun session => (view session.working, session)

def commit : Tx ε σ PUnit := fun session => (.ok ⟨⟩, opened session.working)

/-- A block that commits where it is left and rolls back where it raises. -/
def beginning (block : Tx ε σ α) : Tx ε σ α := fun session =>
  match run block session with
  | (.ok result, later) => (.ok result, opened later.working)
  | (.error failure, later) => (.error failure, opened later.committed)

/-- A request in a session of its own, which is closed in the end. -/
def answered (task : Tx ε σ α) (state : σ) : Except ε α × σ :=
  ((run task (opened state)).1, (run task (opened state)).2.committed)

variable {session : Session σ}

@[simp] theorem run_pure (result : α) :
    run (pure result : Tx ε σ α) session = (.ok result, session) := rfl

@[simp] theorem run_throw (failure : ε) :
    run (throw failure : Tx ε σ α) session = (.error failure, session) := rfl

theorem run_bind (task : Tx ε σ α) (rest : α → Tx ε σ β) :
    run (task >>= rest) session =
      match run task session with
      | (.ok result, later) => run (rest result) later
      | (.error failure, later) => (.error failure, later) := by
  have ran : Effects.run task session = run task session := rfl
  refine (Effects.run_bind task rest).trans ?_
  rw [ran]
  rcases run task session with ⟨_ | _, later⟩ <;> rfl

theorem run_bind_eq_ok {task : Tx ε σ α} {rest : α → Tx ε σ β} {result : β} {later : Session σ} :
    run (task >>= rest) session = (.ok result, later) ↔
      ∃ value middle, run task session = (.ok value, middle) ∧
        run (rest value) middle = (.ok result, later) := by
  rw [run_bind]
  constructor
  · intro ran
    rcases first : run task session with ⟨_ | value, middle⟩
    · simp [first] at ran
    · rw [first] at ran
      exact ⟨value, middle, rfl, ran⟩
  · rintro ⟨value, middle, first, ran⟩
    rw [first]
    exact ran

theorem run_tryCatch (task : Tx ε σ α) (handler : ε → Tx ε σ α) :
    run (tryCatch task handler) session =
      match run task session with
      | (.ok result, later) => (.ok result, later)
      | (.error failure, later) => run (handler failure) later := by
  have ran : Effects.run task session = run task session := rfl
  refine (Effects.run_tryCatch task handler).trans ?_
  rw [ran]
  rcases run task session with ⟨_ | _, later⟩ <;> rfl

/-- A handler that never answers so leaves that answer to the body. -/
theorem run_tryCatch_eq_ok {task : Tx ε σ α} {handler : ε → Tx ε σ α} {result : α}
    {later : Session σ}
    (other : ∀ failure middle, run (handler failure) middle ≠ (.ok result, later)) :
    run (tryCatch task handler) session = (.ok result, later) ↔
      run task session = (.ok result, later) := by
  rw [run_tryCatch]
  rcases run task session with ⟨failure | value, middle⟩
  · simp [other failure middle]
  · rfl

theorem run_execute_eq_ok {statement : σ → Except ε σ} {result : PUnit} {later : Session σ} :
    run (execute statement) session = (.ok result, later) ↔
      ∃ next, statement session.working = .ok next ∧ later = { session with working := next } := by
  simp only [run, execute]
  cases stored : statement session.working with
  | error failure => simp
  | ok next =>
      simp only [Prod.mk.injEq, true_and, Except.ok.injEq, exists_eq_left']
      exact eq_comm

theorem run_query_eq_ok {view : σ → Except ε α} {result : α} {later : Session σ} :
    run (query view) session = (.ok result, later) ↔
      view session.working = .ok result ∧ later = session := by
  simp [run, query, eq_comm]

theorem run_commit_eq_ok {result : PUnit} {later : Session σ} :
    run (commit : Tx ε σ PUnit) session = (.ok result, later) ↔ later = opened session.working := by
  simp [run, commit, eq_comm]

theorem run_beginning_eq_ok {block : Tx ε σ α} {result : α} {later : Session σ} :
    run (beginning block) session = (.ok result, later) ↔
      ∃ middle, run block session = (.ok result, middle) ∧ later = opened middle.working := by
  rw [run, beginning]
  rcases run block session with ⟨_ | value, middle⟩
  · simp
  · simp only [Prod.mk.injEq, Except.ok.injEq]
    constructor
    · rintro ⟨rfl, rfl⟩
      exact ⟨middle, ⟨rfl, rfl⟩, rfl⟩
    · rintro ⟨_, ⟨rfl, rfl⟩, rfl⟩
      exact ⟨rfl, rfl⟩

theorem answered_eq_ok {task : Tx ε σ α} {state next : σ} {result : α} :
    answered task state = (.ok result, next) ↔
      ∃ later, run task (opened state) = (.ok result, later) ∧ later.committed = next := by
  unfold answered
  rcases run task (opened state) with ⟨answer, later⟩
  simp only [Prod.mk.injEq]
  constructor
  · rintro ⟨rfl, rfl⟩
    exact ⟨later, ⟨rfl, rfl⟩, rfl⟩
  · rintro ⟨_, ⟨rfl, rfl⟩, rfl⟩
    exact ⟨rfl, rfl⟩

theorem answered_query_bind (view : σ → Except ε α) (rest : α → Tx ε σ β) (state : σ) :
    answered (query view >>= rest) state =
      match view state with
      | .ok result => answered (rest result) state
      | .error failure => (.error failure, state) := by
  have asked : run (query view) (opened state) = (view state, opened state) := rfl
  unfold answered
  rw [run_bind, asked]
  cases view state <;> rfl

theorem answered_bind_pure (task : Tx ε σ α) (answer : α → β) (state : σ) :
    answered (do let result ← task; return answer result) state =
      ((answered task state).1.map answer, (answered task state).2) := by
  unfold answered
  rw [run_bind]
  rcases run task (opened state) with ⟨_ | result, later⟩ <;> rfl

/-! A task that commits nothing. -/

def Quiet (task : Tx ε σ α) : Prop :=
  ∀ session, (run task session).2.committed = session.committed

theorem Quiet.pure (result : α) : Quiet (pure result : Tx ε σ α) := fun _ => rfl

theorem Quiet.throw (failure : ε) : Quiet (throw failure : Tx ε σ α) := fun _ => rfl

theorem Quiet.query (view : σ → Except ε α) : Quiet (query view) := fun _ => rfl

theorem Quiet.execute (statement : σ → Except ε σ) : Quiet (execute statement) := by
  intro session
  simp only [run, Transactions.execute]
  split <;> rfl

theorem Quiet.bind {task : Tx ε σ α} {rest : α → Tx ε σ β} (first : Quiet task)
    (later : ∀ result, Quiet (rest result)) : Quiet (task >>= rest) := by
  intro session
  have kept := first session
  rw [run_bind]
  rcases ran : run task session with ⟨_ | result, middle⟩
  · rwa [ran] at kept
  · rw [ran] at kept
    exact (later result middle).trans kept

/-- Whatever it answers, the close takes back what it has done. -/
theorem Quiet.answered {task : Tx ε σ α} (quiet : Quiet task) (state : σ) :
    (answered task state).2 = state := quiet (opened state)

/-- A block commits what it leaves, or changes nothing. -/
theorem answered_beginning {block : Tx ε σ α} (quiet : Quiet block) (state : σ) :
    (∃ result later, run block (opened state) = (.ok result, later) ∧
      Transactions.answered (beginning block) state = (.ok result, later.working)) ∨
    (∀ result later, run block (opened state) ≠ (.ok result, later)) ∧
      (Transactions.answered (beginning block) state).2 = state := by
  have kept := quiet (opened state)
  unfold Transactions.answered
  simp only [run, beginning] at kept ⊢
  rcases ran : block (opened state) with ⟨failure | result, later⟩
  · rw [ran] at kept
    exact .inr ⟨by simp, kept⟩
  · exact .inl ⟨result, later, rfl, rfl⟩

/-- A task whose only commit stands right before its answer commits when it answers. -/
theorem answered_commit_last {writes : Tx ε σ α} {handler : ε → Tx ε σ β} (quiet : Quiet writes)
    (handled : ∀ failure, Quiet (handler failure)) (result : α → β) (state : σ) :
    let task : Tx ε σ β :=
      tryCatch (do let value ← writes; commit; return result value) handler
    (∃ value next, Transactions.answered task state = (.ok (result value), next)) ∨
      (Transactions.answered task state).2 = state := by
  have kept := quiet (opened state)
  simp only [Transactions.answered, run_tryCatch, run_bind]
  rcases ran : run writes (opened state) with ⟨failure | value, later⟩
  · rw [ran] at kept
    exact .inr ((handled failure later).trans kept)
  · exact .inl ⟨value, _, rfl⟩

end Transactions
