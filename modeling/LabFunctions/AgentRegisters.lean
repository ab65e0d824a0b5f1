import LabFunctions.Context
import LabFunctions.Library.Directories
import LabFunctions.Library.KeySpaces
import LabFunctions.Library.Runs

/-!
`control_plane.register`: the agents that `AgentRegister` keeps in Redis, each under a key of its
own, in the list of all agents and in the set of its cluster.
-/

namespace LabFunctions

structure AgentNode where
  ip_address : String
  name : String
  pid : String
  qnames : List String
  cluster : String
  workers : List String
  birthday : Int
  machine_id : Option String := none
  deriving DecidableEq

namespace AgentRegister

def AGENT_PREFIX : String := "nb.ag"

def AGENT_LIST : String := "nb.agents"

def AGENT_CLUSTERS : String := "nb.clusters"

def AGENT_CLUSTER_PREFIX : String := "nb.cluster"

def agentKey (name : String) : String := AGENT_PREFIX ++ "." ++ name

def clusterKey (cluster : String) : String := AGENT_CLUSTER_PREFIX ++ "." ++ cluster

/-- The text that `node.json()` writes stands for the node. -/
abbrev Rdb := KeySpace AgentNode

def register (rdb : Rdb) (node : AgentNode) : Rdb :=
  let pipe := rdb.sadd AGENT_CLUSTERS node.cluster
  let pipe := pipe.sadd (clusterKey node.cluster) node.name
  let pipe := pipe.set (agentKey node.name) node
  pipe.sadd AGENT_LIST node.name

def unregister (rdb : Rdb) (node : AgentNode) : Rdb :=
  -- the cluster is that of the argument, whatever the stored node says
  let pipe := rdb.srem (clusterKey node.cluster) node.name
  let pipe := pipe.delete (agentKey node.name)
  pipe.srem AGENT_LIST node.name

def get (rdb : Rdb) (name : String) : Option AgentNode := KeySpace.get rdb (agentKey name)

def remove (rdb : Rdb) (agent : String) : Rdb :=
  -- no set of a cluster is touched
  (rdb.srem AGENT_LIST agent).delete (agentKey agent)

def list_agents (rdb : Rdb) (from_cluster : Option String := none) : Finset String :=
  if truthy from_cluster then rdb.smembers (clusterKey (pyOr from_cluster ""))
  else rdb.smembers AGENT_LIST

inductive Request where
  | register (node : AgentNode)
  | unregister (node : AgentNode)
  | remove (agent : String)

def step (rdb : Rdb) : Request → Rdb
  | .register node => AgentRegister.register rdb node
  | .unregister node => AgentRegister.unregister rdb node
  | .remove agent => AgentRegister.remove rdb agent

def members (rdb : Rdb) (cluster : String) : Finset String := rdb.smembers (clusterKey cluster)

/-- The three structures say the same of every name. -/
structure InStep (rdb : Rdb) : Prop where
  listed : ∀ name, name ∈ list_agents rdb ↔ (get rdb name).isSome = true
  grouped : ∀ name, (get rdb name).isSome = true ↔ ∃! cluster, name ∈ members rdb cluster
  own : ∀ name node, get rdb name = some node → name ∈ members rdb node.cluster

/-- A request for a name that is registered, if it is, is a registration or an unregistration in the
cluster of the stored node. -/
def Meets (rdb : Rdb) : Request → Prop
  | .register node => ∀ stored, get rdb node.name = some stored → stored.cluster = node.cluster
  | .unregister node => ∀ stored, get rdb node.name = some stored → stored.cluster = node.cluster
  | .remove agent => get rdb agent = none

/-! The register as a directory: its four kinds of keys never meet. -/

@[simp] theorem agentKey_inj (name other : String) :
    agentKey name = agentKey other ↔ name = other := by
  simp [agentKey]

@[simp] theorem clusterKey_inj (cluster other : String) :
    clusterKey cluster = clusterKey other ↔ cluster = other := by
  simp [clusterKey]

@[simp] theorem agentKey_ne_clusterKey (name cluster : String) :
    agentKey name ≠ clusterKey cluster := by
  intro same
  have texts := congrArg String.toList same
  simp [agentKey, clusterKey, AGENT_PREFIX, AGENT_CLUSTER_PREFIX] at texts

@[simp] theorem agentKey_ne_list (name : String) : agentKey name ≠ AGENT_LIST := by
  intro same
  have texts := congrArg String.toList same
  simp [agentKey, AGENT_PREFIX, AGENT_LIST] at texts

@[simp] theorem agentKey_ne_clusters (name : String) : agentKey name ≠ AGENT_CLUSTERS := by
  intro same
  have texts := congrArg String.toList same
  simp [agentKey, AGENT_PREFIX, AGENT_CLUSTERS] at texts

@[simp] theorem clusterKey_ne_list (cluster : String) : clusterKey cluster ≠ AGENT_LIST := by
  intro same
  have texts := congrArg String.toList same
  simp [clusterKey, AGENT_CLUSTER_PREFIX, AGENT_LIST] at texts

@[simp] theorem clusterKey_ne_clusters (cluster : String) :
    clusterKey cluster ≠ AGENT_CLUSTERS := by
  intro same
  have texts := congrArg String.toList same
  simp [clusterKey, AGENT_CLUSTER_PREFIX, AGENT_CLUSTERS] at texts

def directory (rdb : Rdb) : Directory String String AgentNode where
  entries := get rdb
  members := members rdb

def owner (rdb : Rdb) (name : String) : Option String := (get rdb name).map AgentNode.cluster

theorem list_agents_eq (rdb : Rdb) : list_agents rdb = rdb.smembers AGENT_LIST := rfl

theorem register_directory (rdb : Rdb) (node : AgentNode) :
    directory (register rdb node) = (directory rdb).enroll node.cluster node.name node := by
  unfold directory Directory.enroll
  congr 1
  · funext name
    simp [get, register, Function.update_apply]
  · funext cluster
    simp [members, register, Function.update_apply, (agentKey_ne_clusterKey _ _).symm]

theorem unregister_directory (rdb : Rdb) (node : AgentNode) :
    directory (unregister rdb node) = (directory rdb).strike node.cluster node.name := by
  unfold directory Directory.strike
  congr 1
  · funext name
    simp [get, unregister, Function.update_apply]
  · funext cluster
    simp [members, unregister, Function.update_apply, (agentKey_ne_clusterKey _ _).symm]

theorem remove_directory (rdb : Rdb) (agent : String) :
    directory (remove rdb agent) = (directory rdb).forget agent := by
  have entries : get (remove rdb agent) = Function.update (get rdb) agent none := by
    funext name
    simp [get, remove, Function.update_apply]
  have groups : members (remove rdb agent) = members rdb := by
    funext cluster
    simp [members, remove, (agentKey_ne_clusterKey _ _).symm]
  rw [directory, entries, groups]
  rfl

/-! What a request leaves in the list of all agents. -/

def Listed (rdb : Rdb) : Prop := ∀ name, name ∈ list_agents rdb ↔ (get rdb name).isSome = true

theorem list_register (rdb : Rdb) (node : AgentNode) :
    list_agents (register rdb node) = insert node.name (list_agents rdb) := by
  have apart : AGENT_LIST ≠ AGENT_CLUSTERS := by decide
  simp [list_agents_eq, register, (agentKey_ne_list _).symm, (clusterKey_ne_list _).symm, apart]

theorem list_unregister (rdb : Rdb) (node : AgentNode) :
    list_agents (unregister rdb node) = (list_agents rdb).erase node.name := by
  simp [list_agents_eq, unregister, (agentKey_ne_list _).symm, (clusterKey_ne_list _).symm]

theorem list_remove (rdb : Rdb) (agent : String) :
    list_agents (remove rdb agent) = (list_agents rdb).erase agent := by
  simp [list_agents_eq, remove, (agentKey_ne_list _).symm]

theorem get_register (rdb : Rdb) (node : AgentNode) (name : String) :
    get (register rdb node) name = if name = node.name then some node else get rdb name := by
  simp [get, register]

theorem get_unregister (rdb : Rdb) (node : AgentNode) (name : String) :
    get (unregister rdb node) name = if name = node.name then none else get rdb name := by
  simp [get, unregister]

theorem get_remove (rdb : Rdb) (agent name : String) :
    get (remove rdb agent) name = if name = agent then none else get rdb name := by
  simp [get, remove]

theorem listed_step (rdb : Rdb) (request : Request) (listed : Listed rdb) :
    Listed (step rdb request) := by
  intro name
  cases request with
  | register node =>
      rw [step, list_register, get_register, Finset.mem_insert, listed name]
      by_cases same : name = node.name <;> simp [same]
  | unregister node =>
      rw [step, list_unregister, get_unregister, Finset.mem_erase, listed name]
      by_cases same : name = node.name <;> simp [same]
  | remove agent =>
      rw [step, list_remove, get_remove, Finset.mem_erase, listed name]
      by_cases same : name = agent <;> simp [same]

/-! What it leaves in the keys and in the sets of the clusters. -/

/-- What makes the three structures agree, with nothing left behind of a name that is gone. -/
structure Sound (rdb : Rdb) : Prop where
  listed : Listed rdb
  agrees : Directory.Agrees (owner rdb) (directory rdb)

theorem owner_register (rdb : Rdb) (node : AgentNode) :
    owner (register rdb node) = Function.update (owner rdb) node.name (some node.cluster) := by
  funext name
  rw [owner, get_register, Function.update_apply]
  split <;> rfl

theorem elsewhere_iff {rdb : Rdb} (agrees : Directory.Agrees (owner rdb) (directory rdb))
    (cluster name : String) :
    (∀ other, other ≠ cluster → name ∉ (directory rdb).members other) ↔
      ∀ stored, get rdb name = some stored → stored.cluster = cluster := by
  rw [agrees.elsewhere_iff]
  cases held : get rdb name with
  | none => simp [directory, held]
  | some stored => simp [directory, owner, held]

theorem agrees_of_taken {rdb later : Rdb} {gone : String}
    (taken : ∀ name, get later name = if name = gone then none else get rdb name) :
    Directory.Agrees (owner later) (directory later) ↔
      Directory.Agrees (owner rdb) (directory later) := by
  apply Directory.agrees_congr
  intro name live
  change (get later name).isSome = true at live
  rw [taken] at live
  rw [owner, owner, taken]
  split at live
  · cases live
  · rename_i different
    rw [if_neg different]

theorem agrees_step_iff {rdb : Rdb} (agrees : Directory.Agrees (owner rdb) (directory rdb))
    (request : Request) :
    Directory.Agrees (owner (step rdb request)) (directory (step rdb request)) ↔
      Meets rdb request := by
  cases request with
  | register node =>
      rw [step, register_directory, owner_register, Directory.enroll_agrees_iff agrees,
        elsewhere_iff agrees]
      rfl
  | unregister node =>
      rw [step, agrees_of_taken (get_unregister rdb node), unregister_directory,
        Directory.strike_agrees_iff agrees, elsewhere_iff agrees]
      rfl
  | remove agent =>
      rw [step, agrees_of_taken (get_remove rdb agent), remove_directory,
        Directory.forget_agrees_iff agrees]
      rfl

theorem inStep_of_sound {rdb : Rdb} (sound : Sound rdb) : InStep rdb := by
  refine ⟨sound.listed, ?_, ?_⟩
  · intro name
    constructor
    · exact fun live => sound.agrees.unique_group live
    · rintro ⟨cluster, member, _⟩
      exact ((sound.agrees.listed cluster name).mp member).1
  · intro name node held
    apply (sound.agrees.listed node.cluster name).mpr
    simp [directory, owner, held]

/-- A request leaves no more sets that hold a name that is gone. -/
theorem gone_once {rdb : Rdb} (agrees : Directory.Agrees (owner rdb) (directory rdb))
    (request : Request) {name : String} (gone : get (step rdb request) name = none)
    {cluster other : String} (left : name ∈ members (step rdb request) cluster)
    (right : name ∈ members (step rdb request) other) : cluster = other := by
  have before : ∀ group, name ∈ members (step rdb request) group →
      name ∈ (directory rdb).members group := by
    intro group member
    change name ∈ (directory (step rdb request)).members group at member
    cases request with
    | register node =>
        rw [step, register_directory, Directory.mem_enroll] at member
        rw [step, get_register] at gone
        rcases member with ⟨_, same⟩ | member
        · rw [if_pos same] at gone
          cases gone
        · exact member
    | unregister node =>
        rw [step, unregister_directory, Directory.mem_strike] at member
        exact member.1
    | remove agent =>
        rw [step, remove_directory] at member
        exact member
  have first := (agrees.listed cluster name).mp (before cluster left)
  have second := (agrees.listed other name).mp (before other right)
  exact Option.some.inj (first.2.symm.trans second.2)

theorem sound_step_of_inStep {rdb : Rdb} (sound : Sound rdb) (request : Request)
    (inStep : InStep (step rdb request)) : Sound (step rdb request) := by
  refine ⟨inStep.listed, ?_, ?_⟩
  · intro cluster name
    constructor
    · intro member
      cases held : get (step rdb request) name with
      | none =>
          have alone : ∃! cluster, name ∈ members (step rdb request) cluster :=
            ⟨cluster, member, fun other also =>
              gone_once sound.agrees request held also member⟩
          have live := (inStep.grouped name).mpr alone
          rw [held] at live
          cases live
      | some node =>
          have live : (get (step rdb request) name).isSome = true := by rw [held]; rfl
          have once := (inStep.grouped name).mp live
          have same : cluster = node.cluster :=
            once.unique member (inStep.own name node held)
          refine ⟨live, ?_⟩
          rw [owner, held, same]
          rfl
    · rintro ⟨live, owned⟩
      obtain ⟨node, held, rfl⟩ := Option.map_eq_some_iff.mp owned
      exact inStep.own name node held
  · intro name live
    rw [owner, Option.isSome_map]
    exact live

theorem sound_empty : Sound KeySpace.empty := by
  refine ⟨?_, ?_, ?_⟩
  · intro name
    simp [list_agents_eq, get]
  · intro cluster name
    simp [directory, members, get]
  · intro name live
    simp [directory, get] at live

open Runs in
/-- In a run from an empty Redis the three structures stay in step exactly when nobody moves an
agent, unregisters it with the record of another cluster, or removes it while it is registered. -/
theorem in_step_iff (requests : List Request) :
    (∀ reached ∈ states step KeySpace.empty requests, InStep reached) ↔
      Along step Meets KeySpace.empty requests := by
  have exact_step : ∀ rdb request, Sound rdb → (Sound (step rdb request) ↔ Meets rdb request) := by
    intro rdb request sound
    rw [← agrees_step_iff sound.agrees]
    exact ⟨fun next => next.agrees, fun agrees => ⟨listed_step rdb request sound.listed, agrees⟩⟩
  have restored : ∀ rdb request, Sound rdb → InStep (step rdb request) → Sound (step rdb request) :=
    fun _ request sound inStep => sound_step_of_inStep sound request inStep
  rw [← states_iff_along exact_step sound_empty]
  exact states_iff_invariant (fun _ sound => inStep_of_sound sound) restored sound_empty

namespace Sample

def node (cluster : String) : AgentNode :=
  { ip_address := "10.0.0.1", name := "agt", pid := "7", qnames := ["cpu"], cluster := cluster,
    workers := ["agt.0"], birthday := 1650000000 }

end Sample

open Runs in
/-- An agent that is removed stays in the set of its cluster. -/
theorem removed_agent_stays :
    ¬∀ reached ∈ states step KeySpace.empty
        [.register (Sample.node "default"), .remove "agt"], InStep reached := by
  intro every
  let reached := remove (register KeySpace.empty (Sample.node "default")) "agt"
  have inStep : InStep reached := every reached (by simp [states, step, reached])
  have gone : get reached "agt" = none := by rw [get_remove, if_pos rfl]
  have alone : ∃! cluster, "agt" ∈ members reached cluster := by
    refine ⟨"default", ?_, ?_⟩
    · simp [members, reached, remove, register, Sample.node, (agentKey_ne_clusterKey _ _).symm]
    · intro cluster member
      by_contra different
      simp [members, reached, remove, register, Sample.node, (agentKey_ne_clusterKey _ _).symm,
        different] at member
  have live := (inStep.grouped "agt").mpr alone
  rw [gone] at live
  cases live

end AgentRegister

end LabFunctions
