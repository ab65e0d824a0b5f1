import LabFunctions.AgentRegisters
import LabFunctions.Cluster
import LabFunctions.Database
import LabFunctions.Library.Naming
import LabFunctions.Library.Words

/-!
The machines that `AgentRegister` keeps in Redis: the registers of all clusters share one key space,
and a key is the name of the cluster, a dot and the id of the machine.
-/

namespace LabFunctions.AgentRegister

open Runs

def MACHINE_PREFIX : String := "nb.mch"

def machineKey (cluster machine_id : String) : String :=
  MACHINE_PREFIX ++ "." ++ cluster ++ "." ++ machine_id

/-- The text that `node.json()` writes stands for the machine. -/
abbrev MachineRdb := KeySpace MachineInstance

section

variable (cluster : String) (rdb : MachineRdb)

def register_machine (node : MachineInstance) : MachineRdb :=
  rdb.set (machineKey cluster node.machine_id) node

def unregister_machine (machine_id : String) : MachineRdb :=
  rdb.delete (machineKey cluster machine_id)

/-- `MachineInstance(**json.loads(data))`: of no data there is no JSON. -/
def loads (data : Option MachineInstance) : Except Exn MachineInstance :=
  match data with
  | some node => .ok node
  | none => .error (.typeError "the JSON object must be str, bytes or bytearray, not NoneType")

def get_machine (machine_id : String) : Except Exn MachineInstance :=
  loads (KeySpace.get rdb (machineKey cluster machine_id))

end

inductive MachineRequest where
  | register_machine (node : MachineInstance)
  | unregister_machine (machine_id : String)

/-- A call of the register of a cluster. -/
structure MachineCall where
  cluster : String
  request : MachineRequest

def machineStep (rdb : MachineRdb) (call : MachineCall) : MachineRdb :=
  match call.request with
  | .register_machine node => register_machine call.cluster rdb node
  | .unregister_machine machine_id => unregister_machine call.cluster rdb machine_id

/-- What the registers are for: each cluster has machines of its own. -/
abbrev Fleet := String × String → Option MachineInstance

namespace Fleet

def empty : Fleet := fun _ => none

def step (fleet : Fleet) (call : MachineCall) : Fleet :=
  match call.request with
  | .register_machine node =>
      Function.update fleet (call.cluster, node.machine_id) (some node)
  | .unregister_machine machine_id => Function.update fleet (call.cluster, machine_id) none

end Fleet

/-! The two as a store and what is meant by it. -/

def placed (name : String × String) : String := machineKey name.1 name.2

def MachineCall.naming (call : MachineCall) : Naming.Request (String × String) MachineInstance :=
  match call.request with
  | .register_machine node => ⟨(call.cluster, node.machine_id), some node⟩
  | .unregister_machine machine_id => ⟨(call.cluster, machine_id), none⟩

theorem placed_eq_iff (name other : String × String) : placed name = placed other ↔
    name.1.toList ++ '.' :: name.2.toList = other.1.toList ++ '.' :: other.2.toList := by
  rw [← String.toList_inj]
  simp [placed, machineKey, MACHINE_PREFIX]

/-- A machine has its key for itself exactly if its place in the key is the only dot. -/
theorem alone_iff (name : String × String) :
    Naming.Alone placed name ↔ '.' ∉ name.1.toList ∧ '.' ∉ name.2.toList := by
  obtain ⟨cluster, machine_id⟩ := name
  constructor
  · intro alone
    constructor
    · intro dotted
      obtain ⟨front, back, split⟩ := List.mem_iff_append.mp dotted
      let other := (String.ofList front, String.ofList (back ++ '.' :: machine_id.toList))
      have shared : placed other = placed (cluster, machine_id) := by
        rw [placed_eq_iff]
        simp [other, split]
      have same := congrArg (fun name => name.1.toList) (alone other shared)
      have lengths := congrArg List.length (same.trans split)
      simp [other] at lengths
    · intro dotted
      obtain ⟨front, back, split⟩ := List.mem_iff_append.mp dotted
      let other := (String.ofList (cluster.toList ++ '.' :: front), String.ofList back)
      have shared : placed other = placed (cluster, machine_id) := by
        rw [placed_eq_iff]
        simp [other, split]
      have same := congrArg (fun name => name.1.toList) (alone other shared)
      have lengths := congrArg List.length same
      simp [other] at lengths
  · rintro ⟨clusterClean, idClean⟩ other shared
    have texts := (placed_eq_iff other (cluster, machine_id)).mp shared
    have dots := congrArg (List.count '.') texts
    rw [List.count_append, List.count_append, List.count_cons_self, List.count_cons_self,
      List.count_eq_zero_of_not_mem clusterClean, List.count_eq_zero_of_not_mem idClean] at dots
    have clean : '.' ∉ other.1.toList := List.count_eq_zero.mp (by omega)
    obtain ⟨first, second⟩ := Words.cut_first_inj clean clusterClean texts
    exact Prod.ext (String.toList_inj.mp first) (String.toList_inj.mp second)

/-- Redis holds what the kept store does, and the fleet is the store that is meant. -/
def Related (stores : Naming.Stores (String × String) String MachineInstance)
    (worlds : MachineRdb × Fleet) : Prop :=
  (∀ key, KeySpace.get worlds.1 key = stores.kept key) ∧ worlds.2 = stores.meant

theorem related_step (stores : Naming.Stores (String × String) String MachineInstance)
    (worlds : MachineRdb × Fleet) (call : MachineCall) (related : Related stores worlds) :
    Related (Naming.step placed stores call.naming)
      (machineStep worlds.1 call, worlds.2.step call) := by
  obtain ⟨same, meant⟩ := related
  obtain ⟨cluster, request⟩ := call
  cases request with
  | register_machine node =>
      constructor
      · intro key
        change KeySpace.get (register_machine cluster worlds.1 node) key = _
        rw [register_machine, KeySpace.get_set, same]
        exact (Function.update_apply ..).symm
      · rw [meant]
        rfl
  | unregister_machine machine_id =>
      constructor
      · intro key
        change KeySpace.get (unregister_machine cluster worlds.1 machine_id) key = _
        rw [unregister_machine, KeySpace.get_delete, same]
        exact (Function.update_apply ..).symm
      · rw [meant]
        rfl

theorem related_run (calls : List MachineCall) :
    Related (run (Naming.step placed) Naming.empty (calls.map MachineCall.naming))
      (run machineStep KeySpace.empty calls, run Fleet.step Fleet.empty calls) := by
  induction calls using List.reverseRecOn with
  | nil => exact ⟨fun _ => rfl, rfl⟩
  | append_singleton calls call ih =>
      rw [List.map_append, run_append, run_append, run_append]
      exact related_step _ _ call ih

theorem loads_inj {data other : Option MachineInstance} : loads data = loads other ↔ data = other := by
  cases data <;> cases other <;> simp [loads]

/-- In every state of every run each register finds the machines of its own cluster, and those
alone, exactly if no machine is ever registered with a dot in its id or in the name of its
cluster. -/
theorem own_machines_iff (calls : List MachineCall) :
    (∀ front, front <+: calls → ∀ cluster machine_id,
        get_machine cluster (run machineStep KeySpace.empty front) machine_id =
          loads (run Fleet.step Fleet.empty front (cluster, machine_id))) ↔
      ∀ cluster node, ⟨cluster, .register_machine node⟩ ∈ calls →
        '.' ∉ cluster.toList ∧ '.' ∉ node.machine_id.toList := by
  have kept : ∀ front, (∀ cluster machine_id,
      get_machine cluster (run machineStep KeySpace.empty front) machine_id =
          loads (run Fleet.step Fleet.empty front (cluster, machine_id))) ↔
      Naming.Agrees placed
        (run (Naming.step placed) Naming.empty (front.map MachineCall.naming)) := by
    intro front
    obtain ⟨same, meant⟩ := related_run front
    constructor
    · intro every name
      rw [← same, ← meant]
      exact loads_inj.mp (every name.1 name.2)
    · intro every cluster machine_id
      have found := every (cluster, machine_id)
      rw [← same, ← meant] at found
      exact congrArg loads found
  have fronts : (∀ front, front <+: calls → Naming.Agrees placed
        (run (Naming.step placed) Naming.empty (front.map MachineCall.naming))) ↔
      ∀ reached ∈ states (Naming.step placed) Naming.empty (calls.map MachineCall.naming),
        Naming.Agrees placed reached := by
    constructor
    · intro every reached member
      obtain ⟨front, begins, rfl⟩ := mem_states_iff.mp member
      obtain ⟨before, first, rfl⟩ := List.prefix_map_iff.mp begins
      exact every before first
    · intro every front begins
      exact every _ (mem_states_iff.mpr ⟨_, begins.map _, rfl⟩)
  have given : (∀ request ∈ calls.map MachineCall.naming,
        request.value ≠ none → Naming.Alone placed request.name) ↔
      ∀ cluster node, ⟨cluster, .register_machine node⟩ ∈ calls →
        '.' ∉ cluster.toList ∧ '.' ∉ node.machine_id.toList := by
    rw [List.forall_mem_map]
    constructor
    · intro every cluster node member
      exact (alone_iff _).mp (every _ member (Option.some_ne_none _))
    · rintro every ⟨cluster, request⟩ member written
      cases request with
      | register_machine node => exact (alone_iff _).mpr (every cluster node member)
      | unregister_machine machine_id => exact absurd rfl written
  simp only [kept]
  rw [fronts, Naming.agrees_iff, given]

end LabFunctions.AgentRegister
