import LabFunctions.AgentDeploy
import LabFunctions.Providers

/-!
`control.tasks` for clusters: `create_instance`, `destroy_instance` and `deploy_agent` as
programs over the registry, the providers and the machines.
-/

namespace LabFunctions

variable {δ : Type}

namespace ClusterControl

structure Draws where
  id : String
  boot : String

def create_instance (site : Site δ) (cc : ClusterControl) (draws : Draws) (cluster_name : String)
    (alias_ : Option String) : CloudTask δ MachineInstance := do
  let cluster ← Fallible.lift (ClustersFile.get_cluster cc.cluster cluster_name)
  let req ← Fallible.lift (cc._create_machine_req cluster.machine cluster.name alias_ draws.id)
  let provider ← Fallible.lift (ClustersFile.get_provider cc.cluster req.provider)
  match provider with
  | .local => LocalProvider.create_machine site req
  | .gce => GCEProvider.create_machine site draws.boot req

def destroy_instance (site : Site δ) (cc : ClusterControl) (machine_name cluster_name : String) :
    CloudTask δ Unit := do
  let cluster ← Fallible.lift (ClustersFile.get_cluster cc.cluster cluster_name)
  let provider ← Fallible.lift (ClustersFile.get_provider cc.cluster cluster.provider)
  match provider with
  | .local => LocalProvider.destroy_machine machine_name
  | .gce => GCEProvider.destroy_machine site machine_name

def register (machine : MachineInstance) (cluster_name : String) : CloudTask δ Unit :=
  Fallible.call fun world =>
    (.ok (), { world with redis := register_instance world.redis machine cluster_name })

def unregister (machine_name cluster_name : String) : CloudTask δ Unit :=
  Fallible.call fun world =>
    (.ok (), { world with redis := unregister_instance world.redis machine_name cluster_name })

end ClusterControl

inductive Contact where
  | unreachable
  | dropped
  | completed (return_code : Int)

structure SSHResult where
  command : String
  return_code : Int

namespace Tasks

def ssh_run (ip cmd : String) : CloudTask δ Unit :=
  Fallible.call fun world => (.ok (), { world with ran := world.ran ++ [(ip, cmd)] })

/-- `_deploy_agent` with `tries` tries left. -/
def _deploy_agent (ctx : DeployAgentTask) (machine : MachineInstance) (remote : Nat → Contact) :
    Nat → CloudTask δ SSHResult
  | 0 => throw .retryError
  | tries + 1 =>
      match agent_request ctx machine with
      | .error _ => _deploy_agent ctx machine remote tries
      | .ok req =>
          match remote tries with
          | .unreachable => _deploy_agent ctx machine remote tries
          | .dropped => do
              ssh_run req.machine_ip (Deploy.agent_cmd req)
              _deploy_agent ctx machine remote tries
          | .completed return_code => do
              ssh_run req.machine_ip (Deploy.agent_cmd req)
              return { command := Deploy.agent_cmd req, return_code := return_code }

def create_instance (site : Site δ) (cc : ClusterControl) (draws : ClusterControl.Draws)
    (remote : Nat → Contact) (ctx : CreateRequest) : CloudTask δ MachineInstance := do
  let machine ← cc.create_instance site draws ctx.cluster_name ctx.alias_
  -- the machine runs from here on; nothing takes it back when a later action fails
  ClusterControl.register machine ctx.cluster_name
  match ctx.agent with
  | some agent =>
      let _response ← _deploy_agent (agent_task ctx.cluster_name agent machine) machine remote 3
      return machine
  | none => return machine

def destroy_instance (site : Site δ) (cc : ClusterControl) (ctx : DestroyRequest) :
    CloudTask δ Unit := do
  -- whatever the provider raises, the registry is not reached
  cc.destroy_instance site ctx.machine_name ctx.cluster_name
  ClusterControl.unregister ctx.machine_name ctx.cluster_name

def deploy_agent (remote : Nat → Contact) (ctx : DeployAgentTask) : CloudTask δ SSHResult := do
  let found ← Fallible.look fun world => ClusterControl.get_instance world.redis ctx.machine_name
  match found with
  | some machine => do
      let _ip ← Fallible.lift (firstItem machine.private_ips)
      _deploy_agent ctx machine remote 3
  | none => throw .attributeError

end Tasks

/-! What a creation asks for, before it calls the provider. -/

namespace ClusterControl

def requested (cc : ClusterControl) (draws : Draws) (cluster_name : String)
    (alias_ : Option String) : Except ClusterError (ProviderClass × MachineRequest) := do
  let cluster ← ClustersFile.get_cluster cc.cluster cluster_name
  let req ← cc._create_machine_req cluster.machine cluster.name alias_ draws.id
  let provider ← ClustersFile.get_provider cc.cluster req.provider
  return (provider, req)

def provided (site : Site δ) (draws : Draws) : ProviderClass × MachineRequest →
    CloudTask δ MachineInstance
  | (.local, req) => LocalProvider.create_machine site req
  | (.gce, req) => GCEProvider.create_machine site draws.boot req

theorem create_instance_eq (site : Site δ) (cc : ClusterControl) (draws : Draws)
    (cluster_name : String) (alias_ : Option String) :
    cc.create_instance site draws cluster_name alias_ =
      match cc.requested draws cluster_name alias_ with
      | .ok request => provided site draws request
      | .error failure => Fallible.lift (.error failure) := by
  unfold create_instance requested
  cases ClustersFile.get_cluster cc.cluster cluster_name with
  | error failure => rfl
  | ok cluster =>
      rw [Fallible.lift_ok_bind]
      cases wanted : cc._create_machine_req cluster.machine cluster.name alias_ draws.id with
      | error failure =>
          rw [Fallible.lift_error_bind]
          simp [wanted, bind, Except.bind]
      | ok req =>
          rw [Fallible.lift_ok_bind]
          cases chosen : ClustersFile.get_provider cc.cluster req.provider with
          | error failure =>
              rw [Fallible.lift_error_bind]
              simp [wanted, chosen, bind, Except.bind]
          | ok provider =>
              rw [Fallible.lift_ok_bind]
              cases provider <;> simp [wanted, chosen, bind, Except.bind, provided, pure, Except.pure]

theorem create_instance_grows {site : Site δ} {cc : ClusterControl} {draws : Draws}
    {cluster_name : String} {alias_ : Option String} {provider : ProviderClass}
    {req : MachineRequest} (request : cc.requested draws cluster_name alias_ = .ok (provider, req)) :
    Grows site provider req.name (cc.create_instance site draws cluster_name alias_)
      fun machine => machine.machine_name = req.name := by
  rw [create_instance_eq, request]
  cases provider with
  | «local» => exact LocalProvider.create_machine_grows req
  | gce => exact GCEProvider.create_machine_grows draws.boot req

/-- What the provider's part of a creation leaves, wherever it stops. -/
theorem create_instance_cases (site : Site δ) (cc : ClusterControl) (draws : Draws)
    (cluster_name : String) (alias_ : Option String) (actions : Nat) (world : CloudWorld δ) :
    let made := (cc.create_instance site draws cluster_name alias_).upTo actions world
    (∃ failure, cc.requested draws cluster_name alias_ = .error failure ∧
        made = (some (.error failure), world)) ∨
      ∃ provider req, cc.requested draws cluster_name alias_ = .ok (provider, req) ∧
        Grown site provider req.name world made.2 ∧
        ∀ machine, made.1 = some (.ok machine) → machine.machine_name = req.name := by
  intro made
  cases request : cc.requested draws cluster_name alias_ with
  | error failure =>
      refine Or.inl ⟨failure, rfl, ?_⟩
      have same : made = (cc.create_instance site draws cluster_name alias_).upTo actions world := rfl
      rw [same, create_instance_eq, request]
      exact Fallible.upTo_lift _ _ _
  | ok chosen =>
      obtain ⟨provider, req⟩ := chosen
      obtain ⟨grown, named⟩ := create_instance_grows request world world (Grown.refl world) actions
      exact Or.inr ⟨provider, req, rfl, grown, fun machine answered => (named machine answered).2⟩

end ClusterControl

namespace Tasks

open Fallible

/-- A deployment changes nothing but the machine it contacts, and it contacts only the machine of
its request with the command of its request. -/
structure Contacted (ctx : DeployAgentTask) (machine : MachineInstance)
    (start later : CloudWorld δ) : Prop where
  redis : later.redis = start.redis
  dirs : later.dirs = start.dirs
  gce : later.gce = start.gce
  ran : ∀ sent ∈ later.ran, sent ∈ start.ran ∨
    ∃ req, agent_request ctx machine = .ok req ∧ sent = (req.machine_ip, Deploy.agent_cmd req)

theorem deploy_agent_contacts (ctx : DeployAgentTask) (machine : MachineInstance)
    (remote : Nat → Contact) (start : CloudWorld δ) (tries : Nat) :
    Triple (Contacted ctx machine start) (_deploy_agent ctx machine remote tries)
      (fun _ => Contacted ctx machine start) (Contacted ctx machine start) := by
  have ssh : ∀ req, agent_request ctx machine = .ok req →
      Triple (Contacted ctx machine start) (ssh_run (δ := δ) req.machine_ip (Deploy.agent_cmd req))
        (fun _ => Contacted ctx machine start) (Contacted ctx machine start) := by
    intro req requested
    have sent : ∀ world, Contacted ctx machine start world → Contacted ctx machine start
        { world with ran := world.ran ++ [(req.machine_ip, Deploy.agent_cmd req)] } := by
      intro world contacted
      refine ⟨contacted.redis, contacted.dirs, contacted.gce, ?_⟩
      intro command member
      rcases List.mem_append.mp member with before | now
      · exact contacted.ran command before
      · exact Or.inr ⟨req, requested, List.mem_singleton.mp now⟩
    exact triple_call (fun _ contacted => contacted) sent fun world contacted _ _ => sent world contacted
  induction tries with
  | zero => exact triple_throw fun _ contacted => contacted
  | succ tries ih =>
      unfold _deploy_agent
      cases requested : agent_request ctx machine with
      | error failure => exact ih
      | ok req =>
          cases remote tries with
          | unreachable => exact ih
          | dropped => exact triple_bind (ssh req requested) fun _ => ih
          | completed return_code =>
              refine triple_bind (ssh req requested) fun _ => ?_
              exact triple_pure (fun _ contacted => contacted) fun _ contacted => contacted

/-- `create_instance` once the provider has answered. -/
def finish (remote : Nat → Contact) (ctx : CreateRequest) (machine : MachineInstance) :
    CloudTask δ MachineInstance := do
  ClusterControl.register machine ctx.cluster_name
  match ctx.agent with
  | some agent =>
      let _response ← _deploy_agent (agent_task ctx.cluster_name agent machine) machine remote 3
      return machine
  | none => return machine

theorem create_instance_eq (site : Site δ) (cc : ClusterControl) (draws : ClusterControl.Draws)
    (remote : Nat → Contact) (ctx : CreateRequest) :
    create_instance site cc draws remote ctx =
      cc.create_instance site draws ctx.cluster_name ctx.alias_ >>= finish remote ctx := rfl

structure Finished (ctx : CreateRequest) (machine : MachineInstance) (start later : CloudWorld δ) :
    Prop where
  redis : later.redis = ClusterControl.register_instance start.redis machine ctx.cluster_name
  dirs : later.dirs = start.dirs
  gce : later.gce = start.gce
  ran : ∀ sent ∈ later.ran, sent ∈ start.ran ∨ ∃ agent req, ctx.agent = some agent ∧
    agent_request (agent_task ctx.cluster_name agent machine) machine = .ok req ∧
    sent = (req.machine_ip, Deploy.agent_cmd req)

theorem finish_upTo (remote : Nat → Contact) (ctx : CreateRequest) (machine : MachineInstance)
    (actions : Nat) (start : CloudWorld δ) :
    Finished ctx machine start ((finish remote ctx machine).upTo (actions + 1) start).2 ∧
      ∀ result, ((finish remote ctx machine).upTo (actions + 1) start).1 = some (.ok result) →
        result = machine := by
  unfold finish ClusterControl.register
  rw [upTo_bind, upTo_succ_call]
  simp only [cost_call, Nat.add_sub_cancel]
  generalize registered : ({ start with
    redis := ClusterControl.register_instance start.redis machine ctx.cluster_name } :
      CloudWorld δ) = world
  have begun : Finished ctx machine start world := by
    subst registered
    exact ⟨rfl, rfl, rfl, fun sent member => Or.inl member⟩
  cases wanted : ctx.agent with
  | none =>
      rw [upTo_pure]
      exact ⟨begun, by simp⟩
  | some agent =>
      have contacted := deploy_agent_contacts (agent_task ctx.cluster_name agent machine) machine
        remote world 3
      have answers : ∀ _response : SSHResult,
          Triple (Contacted (agent_task ctx.cluster_name agent machine) machine world)
            (pure machine : CloudTask δ MachineInstance) (fun result _ => result = machine)
            (Contacted (agent_task ctx.cluster_name agent machine) machine world) :=
        fun _ => triple_pure (fun _ same => same) fun _ _ => rfl
      have whole := triple_bind contacted answers
      obtain ⟨same, result⟩ := whole world ⟨rfl, rfl, rfl, fun _ member => Or.inl member⟩ actions
      refine ⟨⟨same.redis.trans begun.redis, same.dirs.trans begun.dirs,
        same.gce.trans begun.gce, ?_⟩, result⟩
      intro sent member
      rcases same.ran sent member with before | ⟨req, requested, command⟩
      · exact begun.ran sent before
      · exact Or.inr ⟨agent, req, wanted, requested, command⟩

/-- What `create_instance` has done wherever it stops: the registry changes once the provider has
answered and one more action is made. -/
theorem create_instance_upTo (site : Site δ) (cc : ClusterControl) (draws : ClusterControl.Draws)
    (remote : Nat → Contact) (ctx : CreateRequest) (actions : Nat) (world : CloudWorld δ) :
    let creation := cc.create_instance site draws ctx.cluster_name ctx.alias_
    let made := creation.upTo actions world
    let ended := (create_instance site cc draws remote ctx).upTo actions world
    (∃ machine, made.1 = some (.ok machine) ∧ creation.cost world < actions ∧
        Finished ctx machine made.2 ended.2 ∧
        ∀ result, ended.1 = some (.ok result) → result = machine) ∨
      ((∀ machine, made.1 = some (.ok machine) → actions ≤ creation.cost world) ∧
        ended.2 = made.2 ∧ ∀ result, ended.1 ≠ some (.ok result)) := by
  intro creation made ended
  have whole : ended = _ := upTo_bind creation (finish remote ctx) actions world
  cases known : creation.upTo actions world with
  | mk outcome later =>
    simp only [known] at whole
    rw [show made = (outcome, later) from known, whole]
    cases outcome with
    | none => exact Or.inr ⟨by simp, rfl, by simp⟩
    | some answer =>
        cases answer with
        | error failure => exact Or.inr ⟨by simp, rfl, by simp⟩
        | ok machine =>
            cases left : actions - creation.cost world with
            | zero =>
                have stopped : (finish remote ctx machine).upTo 0 later = (none, later) := rfl
                refine Or.inr ⟨fun _ _ => by omega, ?_, ?_⟩
                · simp [stopped]
                · simp [stopped]
            | succ more =>
                obtain ⟨finished, result⟩ := finish_upTo remote ctx machine more later
                exact Or.inl ⟨machine, rfl, by omega, finished, result⟩

/-- The commands that a task runs on machines are those of its deploy request. -/
theorem create_instance_ran (site : Site δ) (cc : ClusterControl) (draws : ClusterControl.Draws)
    (remote : Nat → Contact) (ctx : CreateRequest) (actions : Nat) (world : CloudWorld δ) :
    ∀ sent ∈ ((create_instance site cc draws remote ctx).upTo actions world).2.ran,
      sent ∈ world.ran ∨ ∃ agent machine, ctx.agent = some agent ∧
        (Deployment.create_instance ctx.cluster_name agent machine).command world.redis =
          .ok sent := by
  intro sent member
  have quiet : ((cc.create_instance site draws ctx.cluster_name ctx.alias_).upTo actions
      world).2.ran = world.ran := by
    rcases ClusterControl.create_instance_cases site cc draws ctx.cluster_name ctx.alias_ actions
        world with ⟨_, _, same⟩ | ⟨_, _, _, grown, _⟩
    · rw [same]
    · exact grown.ran
  rcases create_instance_upTo site cc draws remote ctx actions world with
    ⟨machine, _, _, finished, _⟩ | ⟨_, same, _⟩
  · rcases finished.ran sent member with before | ⟨agent, req, wanted, requested, rfl⟩
    · exact Or.inl (quiet ▸ before)
    · refine Or.inr ⟨agent, machine, wanted, ?_⟩
      simp [Deployment.command, Deployment.machine, Deployment.task, requested, bind, Except.bind,
        pure, Except.pure]
  · rw [same, quiet] at member
    exact Or.inl member

theorem deploy_agent_ran (remote : Nat → Contact) (ctx : DeployAgentTask) (actions : Nat)
    (world : CloudWorld δ) :
    ∀ sent ∈ ((deploy_agent remote ctx).upTo actions world).2.ran,
      sent ∈ world.ran ∨ (Deployment.deploy_agent ctx).command world.redis = .ok sent := by
  intro sent
  cases actions with
  | zero => exact Or.inl
  | succ actions =>
      unfold deploy_agent look
      rw [upTo_bind, upTo_succ_call]
      simp only [cost_call, Nat.add_sub_cancel]
      cases known : ClusterControl.get_instance world.redis ctx.machine_name with
      | none =>
          simp only [upTo_throw]
          exact Or.inl
      | some machine =>
          cases private_ip : firstItem machine.private_ips with
          | error failure =>
              simp only [private_ip, lift_error_bind, upTo_lift]
              exact Or.inl
          | ok ip =>
              simp only [private_ip, lift_ok_bind]
              intro member
              have contacted := (deploy_agent_contacts ctx machine remote world 3 world
                ⟨rfl, rfl, rfl, fun _ before => Or.inl before⟩ actions).1
              rcases contacted.ran sent member with before | ⟨req, requested, rfl⟩
              · exact Or.inl before
              · refine Or.inr ?_
                simp [Deployment.command, Deployment.machine, Deployment.task, known, requested,
                  bind, Except.bind, pure, Except.pure]

theorem destroy_machine_redis (site : Site δ) (cc : ClusterControl) (machine_name cluster_name : String)
    (redis : Redis) :
    Triple (fun world => world.redis = redis) (cc.destroy_instance site machine_name cluster_name)
      (fun _ world => world.redis = redis) (fun world : CloudWorld δ => world.redis = redis) := by
  have call : ∀ {α : Type} (operation : CloudWorld δ → Except ClusterError α × CloudWorld δ),
      (∀ world, (operation world).2.redis = world.redis) →
        Triple (fun world => world.redis = redis) (Fallible.call operation)
          (fun _ world => world.redis = redis) (fun world => world.redis = redis) := by
    intro α operation same
    exact triple_call (fun _ kept => kept) (fun world kept => (same world).trans kept)
      fun world kept _ _ => (same world).trans kept
  refine triple_bind (triple_lift (fun _ kept => kept) fun _ kept _ _ => kept) fun cluster => ?_
  refine triple_bind (triple_lift (fun _ kept => kept) fun _ kept _ _ => kept) fun provider => ?_
  cases provider with
  | «local» =>
      refine triple_bind (call _ ?_) fun _ => call _ fun _ => rfl
      intro world
      cases world.dirs machine_name <;> rfl
  | gce =>
      refine triple_bind (call _ fun _ => rfl) fun nodes => ?_
      cases nodes.filter (·.name == machine_name) with
      | nil => exact triple_throw fun _ kept => kept
      | cons node others => exact call _ fun _ => rfl

theorem destroy_instance_upTo (site : Site δ) (cc : ClusterControl) (ctx : DestroyRequest)
    (actions : Nat) (world : CloudWorld δ) :
    let ended := (destroy_instance site cc ctx).upTo actions world
    (ended.1 = some (.ok ()) ∧ ended.2.redis =
        ClusterControl.unregister_instance world.redis ctx.machine_name ctx.cluster_name) ∨
      ((∀ result, ended.1 ≠ some (.ok result)) ∧ ended.2.redis = world.redis) := by
  intro ended
  have whole : ended = _ := upTo_bind (cc.destroy_instance site ctx.machine_name ctx.cluster_name)
    (fun _ => ClusterControl.unregister ctx.machine_name ctx.cluster_name) actions world
  have kept := (destroy_machine_redis site cc ctx.machine_name ctx.cluster_name world.redis world rfl
    actions).1
  cases known : (cc.destroy_instance site ctx.machine_name ctx.cluster_name).upTo actions world with
  | mk outcome later =>
    simp only [known] at whole kept
    rw [whole]
    cases outcome with
    | none => exact Or.inr ⟨by simp, kept⟩
    | some answer =>
        cases answer with
        | error failure => exact Or.inr ⟨by simp, kept⟩
        | ok done =>
            cases actions - (cc.destroy_instance site ctx.machine_name ctx.cluster_name).cost world with
            | zero => exact Or.inr ⟨by simp [ClusterControl.unregister], kept⟩
            | succ more =>
                refine Or.inl ?_
                simp [ClusterControl.unregister, kept]

end Tasks

end LabFunctions
