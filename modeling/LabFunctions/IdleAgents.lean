import Mathlib.Data.List.Sort
import Mathlib.Data.Rat.Floor
import Mathlib.Order.Bounds.Image
import LabFunctions.Database
import LabFunctions.Library.Dicts
import LabFunctions.Library.Effects
import LabFunctions.Library.Keyed
import LabFunctions.Library.Words

/-!
`AgentRegister.idle_agents`: how long the agents have been idle, from the workers that rq has on
some queues.
-/

namespace LabFunctions.ControlPlane

open Words

/-- A worker as rq keeps it. It was started by an agent, times are in microseconds, and what it has
worked in seconds. -/
structure NBWorker where
  agent : String
  number : Nat
  queues : List String
  birth_date : Int
  total_working_time : ℚ

def NBWorker.name (w : NBWorker) : String := w.agent ++ "." ++ toString w.number

/-- What rq knows: its workers, and `Worker.all(queue=q)` for the queue of a name. -/
structure Rq where
  workers : List NBWorker
  all : String → List NBWorker
  mem_all : ∀ queue w, w ∈ all queue ↔ w ∈ workers ∧ queue ∈ w.queues

structure Queue where
  name : String

def SECOND : Int := 1000000

def DAY : Int := 86400 * SECOND

namespace NBWorker

/-- The `seconds` of a time difference are those that its days leave, without fractions. -/
def inactive_time (now : Int) (w : NBWorker) : ℚ :=
  let working := w.total_working_time
  let birth_elapsed := (now - w.birth_date) % DAY / SECOND
  birth_elapsed - working

/-- The first piece of the name, where `workers2dict` files the worker. -/
def agt (w : NBWorker) : String := (split '.' w.name).headD ""

end NBWorker

def file (workers_dict : List (String × List NBWorker)) (w : NBWorker) :
    List (String × List NBWorker) :=
  match workers_dict.lookup w.agt with
  | some (first :: rest) => Dict.set workers_dict w.agt (first :: rest ++ [w])
  | _ => Dict.set workers_dict w.agt [w]

def workers2dict (workers : List NBWorker) : List (String × List NBWorker) :=
  workers.foldl file []

/-- `sorted(_inactive)[0]` -/
def lowest (_inactive : List ℚ) : Except Exn ℚ :=
  match _inactive.insertionSort (· ≤ ·) with
  | minimun :: _ => .ok minimun
  | [] => .error (.otherError "list index out of range")

/-- The body of the loop over the agents. -/
def idle_agent (now : Int) (workers_dict : List (String × List NBWorker)) (agt : String) :
    Except Exn ℚ := do
  let _workers ←
    match workers_dict.lookup agt with
    | some _workers => .ok _workers
    | none => .error (.keyError agt)
  let _inactive := _workers.map (NBWorker.inactive_time now)
  let minimun ← lowest _inactive
  return minimun / 60

def idle_turn (now : Int) (workers_dict : List (String × List NBWorker))
    (idle_by_agent : List (String × ℚ)) (agt : String) : Except Exn (List (String × ℚ)) := do
  let minutes ← idle_agent now workers_dict agt
  return Dict.set idle_by_agent agt minutes

def gathered (rq : Rq) (queues : List Queue) : List NBWorker :=
  queues.flatMap fun q => rq.all q.name

def idle_agents (rq : Rq) (now : Int) (agents : List String) (queues : List Queue) :
    Except Exn (List (String × ℚ)) :=
  let workers_dict := workers2dict (gathered rq queues)
  agents.foldlM (idle_turn now workers_dict) []

/-- A call of `idle_agents` at a moment: every worker was born before it, and every agent of the
list has a worker on the queues. -/
structure Situation where
  rq : Rq
  now : Int
  agents : List String
  queues : List Queue
  born : ∀ w ∈ rq.workers, w.birth_date ≤ now
  manned : ∀ agt ∈ agents, ∃ w ∈ rq.workers, (∃ q ∈ queues, q.name ∈ w.queues) ∧ w.agent = agt

namespace Situation

variable (situation : Situation)

def OnQueues (w : NBWorker) : Prop :=
  w ∈ situation.rq.workers ∧ ∃ q ∈ situation.queues, q.name ∈ w.queues

def own (agt : String) : Set NBWorker := {w | situation.OnQueues w ∧ w.agent = agt}

def age (w : NBWorker) : Int := situation.now - w.birth_date

/-- Since its birth, in seconds, less what it has worked. -/
def idle (w : NBWorker) : ℚ := situation.age w / SECOND - w.total_working_time

/-- `idle_agents` raises nothing, and gives for each agent the least idle time of its own workers,
in minutes. -/
def Exact : Prop :=
  ∃ idle_by_agent,
    idle_agents situation.rq situation.now situation.agents situation.queues = .ok idle_by_agent ∧
      (∀ agt ∈ situation.agents, ∃ minutes, idle_by_agent.lookup agt = some minutes ∧
        IsLeast ((fun w => situation.idle w / 60) '' situation.own agt) minutes) ∧
      ∀ agt ∉ situation.agents, idle_by_agent.lookup agt = none

/-- No dot is in the name, and one of the agent's workers is younger than a day, some whole seconds
old, and idle no longer than full days and fractions of seconds leave of the idle time of any worker
on the queues whose name begins with that of the agent, up to the first dot. -/
structure Meets (agt : String) : Prop where
  plain : '.' ∉ agt.toList
  least : ∃ w ∈ situation.own agt, situation.age w < DAY ∧ situation.age w % SECOND = 0 ∧
    ∀ other, situation.OnQueues other → (split '.' other.name).headD "" = agt →
      situation.idle w ≤ (situation.age other % DAY / SECOND : Int) - other.total_working_time

end Situation

/-! The first piece of a name. -/

theorem NBWorker.agt_eq {w : NBWorker} (clean : '.' ∉ w.agent.toList) : w.agt = w.agent := by
  have pieces : split '.' w.name = w.agent :: split '.' (toString w.number) :=
    split_append clean (toString w.number)
  rw [NBWorker.agt, pieces]
  rfl

theorem NBWorker.agt_clean (w : NBWorker) : '.' ∉ w.agt.toList := by
  have some : split '.' w.name ≠ [] := by simp [split]
  obtain ⟨first, rest, pieces⟩ := List.exists_cons_of_ne_nil some
  rw [NBWorker.agt, pieces]
  exact not_mem_of_mem_split (pieces ▸ List.mem_cons_self ..)

/-! Grouping: under each key the workers of that key, in the order they came in. -/

def Groups (workers_dict : List (String × List NBWorker)) (store : String → List NBWorker) : Prop :=
  ∀ agt, workers_dict.lookup agt = if store agt = [] then none else some (store agt)

theorem groups_file {workers_dict : List (String × List NBWorker)}
    {store : String → List NBWorker} (w : NBWorker) (groups : Groups workers_dict store) :
    Groups (file workers_dict w) (Keyed.append NBWorker.agt id store w) := by
  have filed : file workers_dict w = Dict.set workers_dict w.agt (store w.agt ++ [w]) := by
    rw [file, groups w.agt]
    cases store w.agt <;> rfl
  intro agt
  rw [filed, Keyed.append]
  by_cases same : agt = w.agt
  · rw [same, Dict.lookup_set_self, Function.update_self, id, if_neg (by simp)]
  · rw [Dict.lookup_set_ne _ _ same, Function.update_of_ne same]
    exact groups agt

theorem lookup_workers2dict (workers : List NBWorker) (agt : String) :
    (workers2dict workers).lookup agt =
      if Keyed.under NBWorker.agt agt workers = [] then none
      else some (Keyed.under NBWorker.agt agt workers) := by
  have start : Groups [] (fun _ => []) := fun _ => rfl
  have groups := Runs.run_related Groups (fun _ _ w => groups_file w) start workers
  have filled : Runs.run (Keyed.append NBWorker.agt id) (fun _ => []) workers agt =
      Keyed.under NBWorker.agt agt workers := by
    rw [Keyed.run_append, List.nil_append, List.map_id]
  rw [← filled]
  exact groups agt

/-! One turn of the loop. -/

theorem lowest_eq_ok {numbers : List ℚ} {first : ℚ} :
    lowest numbers = .ok first ↔ IsLeast {number | number ∈ numbers} first := by
  have ordered := List.pairwise_insertionSort (· ≤ ·) numbers
  have same : ∀ number, number ∈ numbers.insertionSort (· ≤ ·) ↔ number ∈ numbers :=
    fun number => List.mem_insertionSort (· ≤ ·)
  rw [lowest]
  cases sorted : numbers.insertionSort (· ≤ ·) with
  | nil =>
      refine iff_of_false (fun raised => nomatch raised) ?_
      rintro ⟨member, _⟩
      have none := (same first).mpr member
      rw [sorted] at none
      cases none
  | cons smallest rest =>
      have least : IsLeast {number | number ∈ numbers} smallest := by
        rw [sorted, List.pairwise_cons] at ordered
        refine ⟨(same smallest).mp (by simp [sorted]), ?_⟩
        intro number member
        change number ∈ numbers at member
        rw [← same, sorted, List.mem_cons] at member
        rcases member with rfl | later
        · exact le_rfl
        · exact ordered.1 number later
      constructor
      · intro returned
        rw [← Except.ok.inj returned]
        exact least
      · intro also
        rw [least.unique also]

theorem idle_agent_eq_ok {now : Int} {workers : List NBWorker} {agt : String} {minutes : ℚ} :
    idle_agent now (workers2dict workers) agt = .ok minutes ↔
      IsLeast ((fun w => NBWorker.inactive_time now w / 60) '' {w | w ∈ workers ∧ w.agt = agt})
        minutes := by
  rw [idle_agent, lookup_workers2dict]
  by_cases none : Keyed.under NBWorker.agt agt workers = []
  · rw [if_pos none]
    refine iff_of_false (fun raised => nomatch raised) ?_
    rintro ⟨⟨w, own, _⟩, _⟩
    have member := Keyed.mem_under.mpr own
    rw [none] at member
    cases member
  · rw [if_neg none]
    let times := (Keyed.under NBWorker.agt agt workers).map (NBWorker.inactive_time now)
    have grouped : (fun seconds : ℚ => seconds / 60) '' {seconds | seconds ∈ times} =
        (fun w => NBWorker.inactive_time now w / 60) '' {w | w ∈ workers ∧ w.agt = agt} := by
      ext minutes
      simp [times, Keyed.mem_under]
    change (lowest times >>= fun minimun => .ok (minimun / 60)) = .ok minutes ↔ _
    rw [← grouped]
    constructor
    · intro returned
      cases found : lowest times with
      | error failure =>
          rw [found] at returned
          cases returned
      | ok minimun =>
          rw [found] at returned
          have scaled : Monotone fun seconds : ℚ => seconds / 60 :=
            fun _ _ below => div_le_div_of_nonneg_right below (by norm_num)
          rw [← Except.ok.inj returned]
          exact scaled.map_isLeast (lowest_eq_ok.mp found)
    · rintro ⟨⟨minimun, member, rfl⟩, below⟩
      have least : IsLeast {seconds | seconds ∈ times} minimun := by
        refine ⟨member, ?_⟩
        intro other also
        exact (div_le_div_iff_of_pos_right (by norm_num)).mp (below ⟨other, also, rfl⟩)
      rw [lowest_eq_ok.mpr least]
      rfl

section

variable {now : Int} {workers_dict : List (String × List NBWorker)}

theorem idle_turn_eq_ok {idle_by_agent later : List (String × ℚ)} {agt : String} :
    idle_turn now workers_dict idle_by_agent agt = .ok later ↔
      ∃ minutes, idle_agent now workers_dict agt = .ok minutes ∧
        Dict.set idle_by_agent agt minutes = later := by
  rw [idle_turn]
  cases idle_agent now workers_dict agt with
  | error failure => exact iff_of_false (fun raised => nomatch raised) (by simp)
  | ok minutes =>
      constructor
      · exact fun returned => ⟨minutes, rfl, Except.ok.inj returned⟩
      · rintro ⟨other, same, rfl⟩
        rw [Except.ok.inj same]
        rfl

/-- The loop leaves under each of its agents what its turn has found. -/
theorem lookup_of_loop {agents : List String} {idle_by_agent result : List (String × ℚ)}
    (returned : agents.foldlM (idle_turn now workers_dict) idle_by_agent = .ok result)
    (agt : String) :
    result.lookup agt =
      if agt ∈ agents then (idle_agent now workers_dict agt).toOption
      else idle_by_agent.lookup agt := by
  induction agents generalizing idle_by_agent with
  | nil =>
      rw [← Except.ok.inj returned]
      rfl
  | cons first rest ih =>
      rw [List.foldlM_cons] at returned
      cases turned : idle_turn now workers_dict idle_by_agent first with
      | error failure =>
          rw [turned] at returned
          cases returned
      | ok later =>
          rw [turned] at returned
          obtain ⟨minutes, found, rfl⟩ := idle_turn_eq_ok.mp turned
          rw [ih returned]
          by_cases again : agt ∈ rest
          · rw [if_pos again, if_pos (List.mem_cons_of_mem _ again)]
          · rw [if_neg again]
            by_cases same : agt = first
            · rw [same, Dict.lookup_set_self, if_pos (List.mem_cons_self ..), found]
              rfl
            · rw [Dict.lookup_set_ne _ _ same, if_neg (by simp [same, again])]

theorem loop_returns_iff (agents : List String) (idle_by_agent : List (String × ℚ)) :
    (∃ result, agents.foldlM (idle_turn now workers_dict) idle_by_agent = .ok result) ↔
      ∀ agt ∈ agents, ∃ minutes, idle_agent now workers_dict agt = .ok minutes := by
  apply Effects.exists_foldlM_eq_ok
  intro dict agt
  simp only [idle_turn_eq_ok]
  constructor
  · rintro ⟨later, minutes, found, _⟩
    exact ⟨minutes, found⟩
  · rintro ⟨minutes, found⟩
    exact ⟨_, minutes, found, rfl⟩

end

/-! What a worker reports, and how long it has been idle. -/

namespace Situation

variable {situation : Situation} {w : NBWorker}

theorem mem_gathered :
    w ∈ gathered situation.rq situation.queues ↔ situation.OnQueues w := by
  simp only [gathered, List.mem_flatMap, situation.rq.mem_all]
  constructor
  · rintro ⟨q, member, known, listens⟩
    exact ⟨known, q, member, listens⟩
  · rintro ⟨known, q, member, listens⟩
    exact ⟨q, member, known, listens⟩

theorem age_nonneg (on : situation.OnQueues w) : 0 ≤ situation.age w :=
  Int.sub_nonneg_of_le (situation.born w on.1)

theorem second_pos : (0 : ℚ) < SECOND := by norm_num [SECOND]

/-- A worker reports no more than its idle time. -/
theorem inactive_time_le (on : situation.OnQueues w) :
    w.inactive_time situation.now ≤ situation.idle w := by
  have nonneg := age_nonneg on
  have dropped : situation.age w % DAY / SECOND * SECOND ≤ situation.age w := by
    unfold DAY SECOND
    omega
  apply sub_le_sub_right
  rw [le_div_iff₀ second_pos]
  exact_mod_cast dropped

/-- It reports all of it where no full day and no fraction of a second is dropped. -/
theorem inactive_time_eq_iff (on : situation.OnQueues w) :
    w.inactive_time situation.now = situation.idle w ↔
      situation.age w < DAY ∧ situation.age w % SECOND = 0 := by
  have nonneg := age_nonneg on
  have kept : situation.age w % DAY / SECOND * SECOND = situation.age w ↔
      situation.age w < DAY ∧ situation.age w % SECOND = 0 := by
    unfold DAY SECOND
    omega
  rw [← kept, idle, NBWorker.inactive_time, sub_left_inj, eq_div_iff second_pos.ne']
  exact_mod_cast Iff.rfl

/-- The workers that are grouped under the name of an agent. -/
def grouped (situation : Situation) (agt : String) : Set NBWorker :=
  {w | situation.OnQueues w ∧ w.agt = agt}

theorem own_subset_grouped {agt : String} (clean : '.' ∉ agt.toList) :
    situation.own agt ⊆ situation.grouped agt := by
  rintro w ⟨on, rfl⟩
  exact ⟨on, NBWorker.agt_eq clean⟩

/-- The least time that the group reports is the least idle time of the agent's own workers exactly
where the condition is met. -/
theorem exists_isLeast_iff (agt : String) :
    (∃ minutes,
        IsLeast ((fun w => w.inactive_time situation.now / 60) '' situation.grouped agt) minutes ∧
          IsLeast ((fun w => situation.idle w / 60) '' situation.own agt) minutes) ↔
      situation.Meets agt := by
  have scale : ∀ left right : ℚ, left / 60 ≤ right / 60 ↔ left ≤ right :=
    fun _ _ => div_le_div_iff_of_pos_right (by norm_num)
  constructor
  · rintro ⟨minutes, ⟨⟨reporter, member, _⟩, reported⟩, ⟨w, own, rfl⟩, _⟩
    have clean : '.' ∉ agt.toList := by
      rw [← member.2]
      exact reporter.agt_clean
    have below : ∀ other ∈ situation.grouped agt,
        situation.idle w ≤ other.inactive_time situation.now :=
      fun other also => (scale _ _).mp (reported ⟨other, also, rfl⟩)
    have all := le_antisymm (inactive_time_le own.1) (below w (own_subset_grouped clean own))
    obtain ⟨recent, whole⟩ := (inactive_time_eq_iff own.1).mp all
    exact ⟨clean, w, own, recent, whole, fun other on named => below other ⟨on, named⟩⟩
  · rintro ⟨clean, w, own, recent, whole, below⟩
    have all := (inactive_time_eq_iff own.1).mpr ⟨recent, whole⟩
    refine ⟨situation.idle w / 60, ⟨⟨w, own_subset_grouped clean own, ?_⟩, ?_⟩, ⟨w, own, rfl⟩, ?_⟩
    · dsimp only
      rw [all]
    · rintro _ ⟨other, ⟨on, named⟩, rfl⟩
      exact (scale _ _).mpr (below other on named)
    · rintro _ ⟨other, also, rfl⟩
      have named := (own_subset_grouped clean also).2
      exact (scale _ _).mpr ((below other also.1 named).trans (inactive_time_le also.1))

/-- `idle_agents` gives the exact idle times, and raises nothing, in exactly the situations whose
agents all meet the condition. -/
theorem exact_iff (situation : Situation) :
    situation.Exact ↔ ∀ agt ∈ situation.agents, situation.Meets agt := by
  let workers_dict := workers2dict (gathered situation.rq situation.queues)
  have found : ∀ agt minutes, idle_agent situation.now workers_dict agt = .ok minutes ↔
      IsLeast ((fun w => w.inactive_time situation.now / 60) '' situation.grouped agt) minutes := by
    intro agt minutes
    rw [idle_agent_eq_ok]
    simp only [mem_gathered]
    rfl
  simp only [← exists_isLeast_iff, ← found]
  constructor
  · rintro ⟨result, returned, listed, _⟩ agt member
    obtain ⟨minutes, held, least⟩ := listed agt member
    have looked := lookup_of_loop returned agt
    rw [if_pos member, held] at looked
    obtain ⟨one, same⟩ := (loop_returns_iff situation.agents []).mp ⟨result, returned⟩ agt member
    rw [same] at looked
    rw [Option.some.inj looked] at least
    exact ⟨one, same, least⟩
  · intro every
    have turns : ∀ agt ∈ situation.agents,
        ∃ minutes, idle_agent situation.now workers_dict agt = .ok minutes := by
      intro agt member
      obtain ⟨minutes, same, _⟩ := every agt member
      exact ⟨minutes, same⟩
    obtain ⟨result, returned⟩ := (loop_returns_iff situation.agents []).mpr turns
    refine ⟨result, returned, ?_, ?_⟩
    · intro agt member
      obtain ⟨minutes, same, least⟩ := every agt member
      refine ⟨minutes, ?_, least⟩
      rw [lookup_of_loop returned, if_pos member]
      exact congrArg Except.toOption same
    · intro agt other
      rw [lookup_of_loop returned, if_neg other]
      rfl

end Situation

namespace Sample

/-- The worker of an agent whose name has a dot, an hour after its birth. -/
def dotted : NBWorker where
  agent := "gpu.a"
  number := 0
  queues := ["default.cpu"]
  birth_date := 0
  total_working_time := 0

def rq : Rq where
  workers := [dotted]
  all := fun queue => [dotted].filter fun w => queue ∈ w.queues
  mem_all := by simp

def situation : Situation where
  rq := rq
  now := 3600 * SECOND
  agents := ["gpu.a"]
  queues := [⟨"default.cpu"⟩]
  born := by decide
  manned := by
    intro agt member
    rw [List.mem_singleton.mp member]
    exact ⟨dotted, by simp [rq], ⟨⟨"default.cpu"⟩, by simp [dotted]⟩, rfl⟩

end Sample

/-- The worker is filed under `gpu`, and `gpu.a` is no key of the dictionary. -/
theorem dotted_agent_raises : ¬Sample.situation.Exact := by
  rintro ⟨idle_by_agent, returned, _⟩
  have raised : idle_agents Sample.rq (3600 * SECOND) ["gpu.a"] [⟨"default.cpu"⟩] =
      .error (.keyError "gpu.a") := rfl
  cases raised.symm.trans returned

end LabFunctions.ControlPlane
