import Mathlib.Data.List.Basic

/-!
Calls that change a state and may raise: what was done before an exception stays done, and a
handler goes on from there.
-/

namespace Effects

universe u

variable {ε σ α β : Type u}

abbrev Effect (ε σ α : Type u) := ExceptT ε (StateM σ) α

def run (task : Effect ε σ α) (state : σ) : Except ε α × σ := task state

def act (call : σ → Except ε α × σ) : Effect ε σ α := call

def lift (result : Except ε α) : Effect ε σ α := fun state => (result, state)

/-- A call that raises leaves what a view shows as it was. -/
def Atomic {ν : Type u} (view : σ → ν) (task : Effect ε σ α) (state : σ) : Prop :=
  ∀ failure, (run task state).1 = .error failure → view (run task state).2 = view state

variable {state : σ}

@[simp] theorem run_pure (result : α) :
    run (pure result : Effect ε σ α) state = (.ok result, state) := rfl

@[simp] theorem run_throw (failure : ε) :
    run (throw failure : Effect ε σ α) state = (.error failure, state) := rfl

@[simp] theorem run_act (call : σ → Except ε α × σ) : run (act call) state = call state := rfl

@[simp] theorem run_lift (result : Except ε α) :
    run (lift result : Effect ε σ α) state = (result, state) := rfl

theorem run_bind (task : Effect ε σ α) (rest : α → Effect ε σ β) :
    run (task >>= rest) state =
      match run task state with
      | (.ok result, later) => run (rest result) later
      | (.error failure, later) => (.error failure, later) := by
  have chained : run (task >>= rest) state =
      ExceptT.bindCont rest (task state).1 (task state).2 := rfl
  rw [chained, run]
  rcases task state with ⟨_ | _, later⟩ <;> rfl

theorem run_bind_of_error {task : Effect ε σ α} {failure : ε} {later : σ}
    (ran : run task state = (.error failure, later)) (rest : α → Effect ε σ β) :
    run (task >>= rest) state = (.error failure, later) := by
  rw [run_bind, ran]

theorem run_tryCatch (task : Effect ε σ α) (handler : ε → Effect ε σ α) :
    run (tryCatch task handler) state =
      match run task state with
      | (.ok result, later) => (.ok result, later)
      | (.error failure, later) => run (handler failure) later := by
  have caught : run (tryCatch task handler) state =
      match (task state).1 with
      | .ok result => (.ok result, (task state).2)
      | .error failure => handler failure (task state).2 := by
    change ExceptT.tryCatch task handler state = _
    unfold ExceptT.tryCatch
    change (match (task state).1 with
      | .ok result => pure (.ok result)
      | .error failure => handler failure : StateM σ (Except ε α)) (task state).2 = _
    cases (task state).1 <;> rfl
  rw [caught, run]
  rcases task state with ⟨_ | _, later⟩ <;> rfl

/-- Going through a list succeeds where every item does. -/
theorem exists_mapM_eq_ok {ι : Type u} (call : ι → Except ε α) (items : List ι) :
    (∃ results, items.mapM call = .ok results) ↔
      ∀ item ∈ items, ∃ result, call item = .ok result := by
  induction items with
  | nil => simp [pure, Except.pure]
  | cons item rest ih =>
      rw [List.forall_mem_cons, ← ih, List.mapM_cons]
      cases first : call item with
      | error failure => simp [bind, Except.bind]
      | ok result =>
          cases others : rest.mapM call with
          | error failure => simp [bind, Except.bind]
          | ok results => simp [bind, Except.bind, pure, Except.pure]

theorem exists_of_mapM_eq_error {ι : Type u} {call : ι → Except ε α} {items : List ι} {failure : ε}
    (failed : items.mapM call = .error failure) : ∃ item ∈ items, call item = .error failure := by
  induction items with
  | nil => cases failed
  | cons item rest ih =>
      rw [List.mapM_cons] at failed
      cases first : call item with
      | error other =>
          rw [first] at failed
          exact ⟨item, List.mem_cons_self .., by rw [first, Except.error.inj failed]⟩
      | ok result =>
          cases others : rest.mapM call with
          | error other =>
              rw [first, others] at failed
              obtain rfl : other = failure := Except.error.inj failed
              obtain ⟨later, member, raises⟩ := ih others
              exact ⟨later, List.mem_cons_of_mem _ member, raises⟩
          | ok results =>
              rw [first, others] at failed
              cases failed

/-- A loop over a list succeeds where every turn does, if that is a matter of the item. -/
theorem exists_foldlM_eq_ok {τ : Type u} {ι : Type*} {turn : τ → ι → Except ε τ}
    {accepts : ι → Prop}
    (accepted : ∀ state item, (∃ later, turn state item = .ok later) ↔ accepts item)
    (items : List ι) (state : τ) :
    (∃ later, items.foldlM turn state = .ok later) ↔ ∀ item ∈ items, accepts item := by
  induction items generalizing state with
  | nil => simp [pure, Except.pure]
  | cons item rest ih =>
      rw [List.forall_mem_cons, ← accepted state item, List.foldlM_cons]
      cases first : turn state item with
      | error failure => simp [bind, Except.bind]
      | ok later => simpa [bind, Except.bind] using ih later

end Effects
