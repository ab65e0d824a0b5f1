import Mathlib.Data.List.Basic

/-!
Runs of a state machine that handles one request after another, and the induction
rules for them.
-/

namespace Runs

universe u v

variable {σ : Type u} {ρ : Type v}

def run (step : σ → ρ → σ) (state : σ) (requests : List ρ) : σ :=
  requests.foldl step state

def states (step : σ → ρ → σ) : σ → List ρ → List σ
  | state, [] => [state]
  | state, request :: rest => state :: states step (step state request) rest

def Along (step : σ → ρ → σ) (meets : σ → ρ → Prop) : σ → List ρ → Prop
  | _, [] => True
  | state, request :: rest => meets state request ∧ Along step meets (step state request) rest

variable {step : σ → ρ → σ} {meets : σ → ρ → Prop}

theorem run_nil (state : σ) : run step state [] = state := rfl

@[simp] theorem run_cons (state : σ) (request : ρ) (rest : List ρ) :
    run step state (request :: rest) = run step (step state request) rest := rfl

theorem run_append (state : σ) (front back : List ρ) :
    run step state (front ++ back) = run step (run step state front) back :=
  List.foldl_append

/-- What every step keeps, every run keeps. -/
theorem run_kept {invariant : σ → Prop}
    (kept : ∀ state request, invariant state → invariant (step state request)) {state : σ}
    (initial : invariant state) (requests : List ρ) : invariant (run step state requests) := by
  induction requests generalizing state with
  | nil => exact initial
  | cons request rest ih => exact ih (kept state request initial)

/-- The simulation rule: two machines whose steps keep a relation keep it over runs. -/
theorem run_related {τ : Type*} {other : τ → ρ → τ} (related : σ → τ → Prop)
    (kept : ∀ state image request, related state image →
      related (step state request) (other image request))
    {state : σ} {image : τ} (initial : related state image) (requests : List ρ) :
    related (run step state requests) (run other image requests) := by
  induction requests generalizing state image with
  | nil => exact initial
  | cons request rest ih => exact ih (kept state image request initial)

@[simp] theorem along_nil (state : σ) : Along step meets state [] := trivial

@[simp] theorem along_cons (state : σ) (request : ρ) (rest : List ρ) :
    Along step meets state (request :: rest) ↔
      meets state request ∧ Along step meets (step state request) rest := Iff.rfl

/-- Two conditions that agree wherever an invariant holds admit the same runs. -/
theorem along_congr {invariant : σ → Prop} {other : σ → ρ → Prop}
    (kept : ∀ state request, invariant state → invariant (step state request))
    (same : ∀ state request, invariant state → (meets state request ↔ other state request))
    {state : σ} {requests : List ρ} (initial : invariant state) :
    Along step meets state requests ↔ Along step other state requests := by
  induction requests generalizing state with
  | nil => simp
  | cons request rest ih =>
      rw [along_cons, along_cons, same state request initial, ih (kept state request initial)]

@[simp] theorem self_mem_states (state : σ) (requests : List ρ) :
    state ∈ states step state requests := by
  cases requests <;> simp [states]

theorem run_mem_states (state : σ) (requests : List ρ) :
    run step state requests ∈ states step state requests := by
  induction requests generalizing state with
  | nil => simp [states, run]
  | cons request rest ih => exact List.mem_cons_of_mem _ (ih (step state request))

theorem run_front_mem_states (state : σ) (front back : List ρ) :
    run step state front ∈ states step state (front ++ back) := by
  induction front generalizing state with
  | nil => exact self_mem_states state back
  | cons request rest ih => exact List.mem_cons_of_mem _ (ih (step state request))

/-- A state of a run is where one of its beginnings ends. -/
theorem mem_states_iff {state reached : σ} {requests : List ρ} :
    reached ∈ states step state requests ↔
      ∃ front, front <+: requests ∧ run step state front = reached := by
  constructor
  · intro member
    induction requests generalizing state with
    | nil =>
        obtain rfl := List.mem_singleton.mp member
        exact ⟨[], List.nil_prefix, rfl⟩
    | cons request rest ih =>
        rcases List.mem_cons.mp member with rfl | later
        · exact ⟨[], List.nil_prefix, rfl⟩
        · obtain ⟨front, begins, ends⟩ := ih later
          exact ⟨request :: front, List.cons_prefix_cons.mpr ⟨rfl, begins⟩, ends⟩
  · rintro ⟨front, ⟨back, rfl⟩, rfl⟩
    exact run_front_mem_states state front back

theorem along_iff {other : σ → ρ → Prop}
    (same : ∀ state request, meets state request ↔ other state request) {state : σ}
    {requests : List ρ} : Along step meets state requests ↔ Along step other state requests :=
  along_congr (fun _ _ (always : True) => always) (fun state request _ => same state request)
    trivial

/-- A condition holds along a run when it holds of each request in the state the requests
before it have led to. -/
theorem along_iff_forall_split {state : σ} {requests : List ρ} :
    Along step meets state requests ↔
      ∀ before request after, requests = before ++ request :: after →
        meets (run step state before) request := by
  induction requests generalizing state with
  | nil => simp
  | cons first rest ih =>
      rw [along_cons, ih]
      constructor
      · rintro ⟨met, later⟩ before request after split
        cases before with
        | nil =>
            obtain ⟨rfl, rfl⟩ := List.cons.inj split
            exact met
        | cons head tail =>
            obtain ⟨rfl, rest⟩ := List.cons.inj split
            exact later tail request after rest
      · intro every
        refine ⟨every [] first rest rfl, ?_⟩
        intro before request after split
        exact every (first :: before) request after (by rw [split, List.cons_append])

theorem along_append {state : σ} {front back : List ρ} :
    Along step meets state (front ++ back) ↔
      Along step meets state front ∧ Along step meets (run step state front) back := by
  induction front generalizing state with
  | nil => simp [run_nil]
  | cons request rest ih =>
      rw [List.cons_append, along_cons, along_cons, ih, run_cons, and_assoc]

/-- The run rule: what every admitted step keeps, every admitted run keeps. -/
theorem run_invariant {invariant : σ → Prop}
    (kept : ∀ state request, invariant state → meets state request → invariant (step state request))
    {state : σ} {requests : List ρ} (initial : invariant state)
    (along : Along step meets state requests) : invariant (run step state requests) := by
  induction requests generalizing state with
  | nil => exact initial
  | cons request rest ih => exact ih (kept _ _ initial along.1) along.2

theorem states_invariant {invariant : σ → Prop}
    (kept : ∀ state request, invariant state → meets state request → invariant (step state request))
    {state : σ} {requests : List ρ} (initial : invariant state)
    (along : Along step meets state requests) :
    ∀ reached ∈ states step state requests, invariant reached := by
  induction requests generalizing state with
  | nil => simp [states, initial]
  | cons request rest ih =>
      simp only [states, List.mem_cons, forall_eq_or_imp]
      exact ⟨initial, ih (kept _ _ initial along.1) along.2⟩

/-- What an invariant gives of each step holds along every admitted run. -/
theorem along_invariant {invariant : σ → Prop} {shown : σ → ρ → Prop}
    (kept : ∀ state request, invariant state → meets state request → invariant (step state request))
    (gives : ∀ state request, invariant state → shown state request) {state : σ}
    {requests : List ρ} (initial : invariant state) (along : Along step meets state requests) :
    Along step shown state requests := by
  induction requests generalizing state with
  | nil => trivial
  | cons request rest ih =>
      exact ⟨gives state request initial, ih (kept _ _ initial along.1) along.2⟩

/-- The run rule, exactly: when an admitted step keeps the invariant just in case it meets its
condition, an admitted run keeps it just in case every request does. -/
theorem states_iff_along_of {invariant : σ → Prop} {admitted : σ → ρ → Prop}
    (exact_step : ∀ state request, invariant state → admitted state request →
      (invariant (step state request) ↔ meets state request))
    {state : σ} {requests : List ρ} (initial : invariant state)
    (along : Along step admitted state requests) :
    (∀ reached ∈ states step state requests, invariant reached) ↔
      Along step meets state requests := by
  induction requests generalizing state with
  | nil => simp [states, initial]
  | cons request rest ih =>
      simp only [states, List.mem_cons, forall_eq_or_imp, along_cons]
      have one := exact_step state request initial along.1
      constructor
      · rintro ⟨_, later⟩
        have next : invariant (step state request) :=
          later _ (self_mem_states _ rest)
        exact ⟨one.mp next, (ih next along.2).mp later⟩
      · rintro ⟨met, others⟩
        have next := one.mpr met
        exact ⟨initial, (ih next along.2).mpr others⟩

theorem along_of_forall (every : ∀ state request, meets state request) (state : σ)
    (requests : List ρ) : Along step meets state requests := by
  induction requests generalizing state with
  | nil => trivial
  | cons request rest ih => exact ⟨every state request, ih _⟩

theorem states_kept {invariant : σ → Prop}
    (kept : ∀ state request, invariant state → invariant (step state request)) {state : σ}
    (initial : invariant state) (requests : List ρ) :
    ∀ reached ∈ states step state requests, invariant reached :=
  states_invariant (fun state request holds (_ : True) => kept state request holds) initial
    (along_of_forall (fun _ _ => trivial) state requests)

theorem states_iff_along {invariant : σ → Prop}
    (exact_step : ∀ state request, invariant state →
      (invariant (step state request) ↔ meets state request))
    {state : σ} {requests : List ρ} (initial : invariant state) :
    (∀ reached ∈ states step state requests, invariant reached) ↔
      Along step meets state requests :=
  states_iff_along_of (fun state request holds (_ : True) => exact_step state request holds)
    initial (along_of_forall (fun _ _ => trivial) state requests)

theorem along_kept {invariant : σ → Prop} {shown : σ → ρ → Prop}
    (kept : ∀ state request, invariant state → invariant (step state request))
    (gives : ∀ state request, invariant state → shown state request) {state : σ}
    (initial : invariant state) (requests : List ρ) : Along step shown state requests :=
  along_invariant (fun state request holds (_ : True) => kept state request holds) gives initial
    (along_of_forall (fun _ _ => trivial) state requests)

theorem along_and {every : ρ → Prop} {state : σ} {requests : List ρ}
    (all : ∀ request ∈ requests, every request) (along : Along step meets state requests) :
    Along step (fun state request => every request ∧ meets state request) state requests := by
  induction requests generalizing state with
  | nil => trivial
  | cons request rest ih =>
      refine ⟨⟨all request (List.mem_cons_self ..), along.1⟩, ih ?_ along.2⟩
      intro later member
      exact all later (List.mem_cons_of_mem _ member)

/-- A property that is as good as an invariant one step behind it is as good along whole runs. -/
theorem states_iff_invariant {invariant shown : σ → Prop}
    (implies : ∀ state, invariant state → shown state)
    (restored : ∀ state request, invariant state → shown (step state request) →
      invariant (step state request))
    {state : σ} {requests : List ρ} (initial : invariant state) :
    (∀ reached ∈ states step state requests, shown reached) ↔
      ∀ reached ∈ states step state requests, invariant reached := by
  constructor
  · intro every
    induction requests generalizing state with
    | nil => simp [states, initial]
    | cons request rest ih =>
        simp only [states, List.mem_cons, forall_eq_or_imp] at every ⊢
        have next := restored state request initial (every.2 _ (self_mem_states _ rest))
        exact ⟨initial, ih next every.2⟩
  · intro every reached member
    exact implies reached (every reached member)

/-- The frame rule: an observation that no admitted step changes is the same at
the end of an admitted run. -/
theorem run_frame {τ : Type*} (view : σ → τ)
    (framed : ∀ state request, meets state request → view (step state request) = view state)
    {state : σ} {requests : List ρ} (along : Along step meets state requests) :
    view (run step state requests) = view state := by
  induction requests generalizing state with
  | nil => rfl
  | cons request rest ih =>
      rw [run_cons, ih along.2]
      exact framed _ _ along.1

/-- The register rule: what a register holds at the end of a run is what the last request that
wrote it left there, or what it held before where none did. -/
theorem run_register_iff {β : Type*} (view : σ → β) {write : σ → ρ → Option β}
    (writes : ∀ state request, view (step state request) = (write state request).getD (view state))
    (state : σ) (requests : List ρ) (value : β) :
    view (run step state requests) = value ↔
      (∃ front request back, requests = front ++ request :: back ∧
        write (run step state front) request = some value ∧
        Along step (fun state request => write state request = none)
          (run step state (front ++ [request])) back) ∨
      (Along step (fun state request => write state request = none) state requests ∧
        view state = value) := by
  have framed : ∀ state request, write state request = none →
      view (step state request) = view state := by
    intro state request none
    rw [writes, none]
    rfl
  constructor
  · intro held
    induction requests generalizing state with
    | nil => exact .inr ⟨trivial, held⟩
    | cons request rest ih =>
        rcases ih (step state request) held with ⟨front, last, back, rfl, wrote, left⟩ | ⟨left, same⟩
        · exact .inl ⟨request :: front, last, back, rfl, wrote, left⟩
        · cases wrote : write state request with
          | none => exact .inr ⟨⟨wrote, left⟩, (framed state request wrote).symm.trans same⟩
          | some written =>
              rw [writes, wrote] at same
              exact .inl ⟨[], request, rest, rfl, wrote.trans (congrArg some same), left⟩
  · rintro (⟨front, request, back, rfl, wrote, left⟩ | ⟨left, same⟩)
    · have after : view (run step state (front ++ [request])) = value := by
        rw [run_append, run_cons, run_nil, writes, wrote]
        rfl
      rw [List.append_cons, run_append, run_frame view framed left, after]
    · rw [run_frame view framed left, same]

end Runs
