import Mathlib.Data.Finset.Sort
import Mathlib.Data.String.Basic
import LabFunctions.Cluster
import LabFunctions.Control
import LabFunctions.DisabledUsers
import LabFunctions.EventStreams

/-!
The routes of the six blueprints with what decorates them, and the handlers of
`web.clusters_bp` that nothing guards.
-/

namespace LabFunctions

inductive ControlData where
  | create_instance (ctx : CreateRequest)
  | destroy_instance (ctx : DestroyRequest)
  | deploy_agent (data : DeployAgentTask)

structure ControlJob where
  func : String
  execid : String
  data : ControlData
  timeout : String
  max_retry : Nat

/-- All that a request can change or ask: the tables, the key/value objects, the streams, the
periodic jobs and the queues, the registry of instances and the refresh tokens. -/
structure Stores where
  db : Database
  files : String → Option String
  streams : String → Option Stream
  scheduler : Scheduler
  queues : List QueueEntry
  control : List ControlJob
  redis : Redis
  tokens : TokenStore

inductive WebExn where
  | webAuthFailed
  | missingAuthorizationHeader
  | other (exn : Exn)

structure WebResponse where
  status : Nat
  body : Json

/-- `token` is none also where the header brings an empty one. -/
structure WebRequest (Token : Type) where
  token : Option Token := none
  json : Except Exn Json := .ok .null
  now : Int
  execid : String
  token_data : Option Claims := none
  user : Option UserModel := none

abbrev Web (α : Type) := ExceptT WebExn (StateM Stores) α

abbrev Handler (Token : Type) := WebRequest Token → Web WebResponse

/-- One server. The fields of requests are read by pydantic, a set is listed in an order of its
own, and what no error handler of the application answers is answered by Sanic. -/
structure App (Token : Type) where
  py : PyJwt Token
  conf : JWTConfig := {}
  cluster : Option ClusterControl
  create_request : List (String × Json) → Except Exn CreateRequest
  deploy_agent_request : List (String × Json) → Except Exn DeployAgentRequest
  listed : Finset String → List String
  mem_listed : ∀ names name, name ∈ listed names ↔ name ∈ names
  failed : Exn → WebResponse

section Server

variable {Token : Type}

namespace Web

def raising {α : Type} : Except Exn α → Web α
  | .ok value => pure value
  | .error exn => throw (.other exn)

def auth_error_handler : WebResponse := ⟨401, .dict [("msg", .str "Authentication failed")]⟩

def answered (app : App Token) : Except WebExn WebResponse → WebResponse
  | .ok response => response
  | .error .webAuthFailed => auth_error_handler
  | .error .missingAuthorizationHeader => auth_error_handler
  | .error (.other exn) => app.failed exn

end Web

/-! The decorators. -/

def protected_ (app : App Token) (scopes : Option (List String)) (require_all : Bool)
    (handler : Handler Token) : Handler Token := fun request =>
  match request.token with
  | none => throw .missingAuthorizationHeader
  | some token =>
      match Auth.validate app.py app.conf token scopes request.now require_all with
      | .error .authValidationFailed => throw .webAuthFailed
      | .error failure => throw (.other failure)
      | .ok decoded =>
          tryCatch (handler { request with token_data := some decoded }) fun raised =>
            match raised with
            | .other .authValidationFailed => throw .webAuthFailed
            | raised => throw raised

def inject_user (handler : Handler Token) : Handler Token := fun request => do
  let token ← Web.raising (match request.token_data with
    | some token => .ok token
    | none => .error .attributeError)
  let usr ← Web.raising (Auth.decodedUsr token)
  let user ← Web.raising (UsersMg.get_user_async (← get).db usr)
  match user with
  | some user => handler { request with user := some user }
  | none => throw .webAuthFailed

/-! The control queue, and the handlers of machines. -/

namespace SchedulerExec

def enqueue_control (func execid : String) (data : ControlData) (max_retry : Nat) :
    Web ControlJob := do
  let job := { func, execid, data, timeout := "5m", max_retry }
  modify fun stores => { stores with control := stores.control ++ [job] }
  return job

def enqueue_instance_creation (execid : String) (ctx : CreateRequest) : Web ControlJob :=
  enqueue_control "labfunctions.control.tasks.create_instance" execid (.create_instance ctx) 1

def enqueue_instance_destruction (execid : String) (ctx : DestroyRequest) : Web ControlJob :=
  enqueue_control "labfunctions.control.tasks.destroy_instance" execid (.destroy_instance ctx) 3

def enqueue_deploy_agent (execid : String) (data : DeployAgentTask) : Web ControlJob :=
  enqueue_control "labfunctions.control.tasks.deploy_agent" execid (.deploy_agent data) 3

end SchedulerExec

namespace ClustersBp

/-- `Type(**request.json)` -/
def unpack {α : Type} (parse : List (String × Json) → Except Exn α) (json : Except Exn Json) :
    Except Exn α := do
  match ← json with
  | .dict fields => parse fields
  | _ => throw (.typeError "argument after ** must be a mapping")

/-- Without a cluster file the application has no such attribute. -/
def get_cluster (app : App Token) : Except Exn ClusterControl :=
  match app.cluster with
  | some cc => .ok cc
  | none => .error .attributeError

def jobid (execid : Json) : Json := .dict [("jobid", execid)]

def cluster_instance_create (app : App Token) : Handler Token := fun request => do
  let req ← Web.raising (unpack app.create_request request.json)
  let job ← SchedulerExec.enqueue_instance_creation request.execid req
  return ⟨202, jobid (.str job.execid)⟩

def cluster_agent_deploy (app : App Token) (cluster_name machine : String) :
    Handler Token := fun request => do
  let req ← Web.raising (unpack app.deploy_agent_request request.json)
  let task : DeployAgentTask :=
    { machine_name := machine
      cluster_name := cluster_name
      qnames := req.qnames
      use_public := req.use_public
      docker_version := req.docker_version
      docker_image := req.docker_image
      worker_procs := req.worker_procs }
  let job ← SchedulerExec.enqueue_deploy_agent request.execid task
  return ⟨200, jobid (.str job.execid)⟩

def cluster_instance_destroy (app : App Token) (cluster_name machine : String) :
    Handler Token := fun request => do
  let ctx : DestroyRequest := { cluster_name := cluster_name, machine_name := machine }
  let _cc ← Web.raising (get_cluster app)
  let machine := ClusterControl.get_instance (← get).redis machine
  if machine.isSome then
    let job ← SchedulerExec.enqueue_instance_destruction request.execid ctx
    return ⟨202, jobid (.str job.execid)⟩
  else return ⟨200, jobid .null⟩

def cluster_instances_list (app : App Token) (cluster_name : String) : Handler Token := fun _ => do
  let _cc ← Web.raising (get_cluster app)
  let instances := app.listed (ClusterControl.list_instances (← get).redis cluster_name)
  return ⟨200, .list (instances.map .str)⟩

end ClustersBp

/-! The routes, each by the name of its handler and with the arguments of its path. -/

inductive Route where
  | notebooks_list (projectid : String)
  | notebooks_run (projectid : String)
  | workflows_list (projectid : String)
  | workflow_create (projectid : String)
  | workflow_update (projectid : String)
  | workflow_delete (projectid wfid : String)
  | workflow_get (projectid wfid : String)
  | workflow_enqueue (projectid wfid : String)
  | history_create
  | history_get_all (projectid : String)
  | history_detail_job (projectid execid : String)
  | history_last_job (projectid wfid : String)
  | history_output_ok (projectid : String)
  | history_output_fail (projectid : String)
  | history_get_output (projectid : String)
  | history_get_task (projectid execid : String)
  | project_create
  | project_create_or_update
  | project_list
  | project_get_one (projectid : String)
  | project_delete (projectid : String)
  | project_create_user_agent (projectid : String)
  | project_delete_user_agent (projectid agentname : String)
  | project_get_last_agent_token (projectid : String)
  | project_get_agent_token (projectid agent : String)
  | project_agents_list (projectid : String)
  | project_build (projectid : String)
  | project_upload (projectid : String)
  | project_private_key (projectid : String)
  | runtimes_list (projectid : String)
  | runtimes_create (projectid : String)
  | runtimes_delete (projectid rid : String)
  | event_listen (projectid execid : String)
  | event_publish (projectid execid : String)
  | cluster_get_spec
  | cluster_instance_create
  | cluster_agent_deploy (cluster_name machine : String)
  | cluster_instance_destroy (cluster_name machine : String)
  | cluster_instances_list (cluster_name : String)

inductive Decorator where
  | protected_
  | inject_user
  deriving DecidableEq

namespace Route

/-- From the outermost in. -/
def decorators : Route → List Decorator
  | notebooks_list _ => [.protected_]
  | notebooks_run _ => [.protected_]
  | workflows_list _ => [.protected_]
  | workflow_create _ => [.protected_]
  | workflow_update _ => [.protected_]
  | workflow_delete _ _ => [.protected_]
  | workflow_get _ _ => [.protected_]
  | workflow_enqueue _ _ => [.protected_]
  | history_create => [.protected_]
  | history_get_all _ => [.protected_]
  | history_detail_job _ _ => [.protected_]
  | history_last_job _ _ => [.protected_]
  | history_output_ok _ => [.protected_]
  | history_output_fail _ => [.protected_]
  | history_get_output _ => [.protected_]
  | history_get_task _ _ => [.protected_]
  | project_create => [.protected_, .inject_user]
  | project_create_or_update => [.protected_, .inject_user]
  | project_list => [.protected_, .inject_user]
  | project_get_one _ => [.protected_, .inject_user]
  | project_delete _ => [.protected_]
  | project_create_user_agent _ => [.protected_]
  | project_delete_user_agent _ _ => [.protected_]
  | project_get_last_agent_token _ => [.protected_]
  | project_get_agent_token _ _ => [.protected_]
  | project_agents_list _ => [.protected_]
  | project_build _ => [.protected_]
  | project_upload _ => [.protected_]
  | project_private_key _ => [.protected_]
  | runtimes_list _ => [.protected_]
  | runtimes_create _ => [.protected_]
  | runtimes_delete _ _ => [.protected_]
  | event_listen _ _ => [.protected_]
  | event_publish _ _ => [.protected_]
  | cluster_get_spec => [.protected_]
  | cluster_instance_create => []
  | cluster_agent_deploy _ _ => []
  | cluster_instance_destroy _ _ => []
  | cluster_instances_list _ => []

/-- `inner` is what the other handlers do once they are reached. -/
def handler (app : App Token) (inner : Route → Handler Token) : Route → Handler Token
  | cluster_instance_create => ClustersBp.cluster_instance_create app
  | cluster_agent_deploy cluster_name machine =>
      ClustersBp.cluster_agent_deploy app cluster_name machine
  | cluster_instance_destroy cluster_name machine =>
      ClustersBp.cluster_instance_destroy app cluster_name machine
  | cluster_instances_list cluster_name => ClustersBp.cluster_instances_list app cluster_name
  | route => inner route

def decorate (app : App Token) : Decorator → Handler Token → Handler Token
  | .protected_, handler => protected_ app none true handler
  | .inject_user, handler => inject_user handler

def serve (app : App Token) (inner : Route → Handler Token) (route : Route)
    (request : WebRequest Token) (stores : Stores) : WebResponse × Stores :=
  let (result, stores) :=
    (route.decorators.foldr (decorate app) (route.handler app inner) request).run stores
  (Web.answered app result, stores)

end Route

namespace RouteGuards

/-- The request brings no token, or one that `Auth.validate` rejects. -/
def Rejected (app : App Token) (request : WebRequest Token) : Prop :=
  ∀ token, request.token = some token →
    ∃ failure, Auth.validate app.py app.conf token none request.now = .error failure

/-- The request changes nothing, and its answer is the same whatever the stores hold. -/
def Silent (app : App Token) (inner : Route → Handler Token) (route : Route)
    (request : WebRequest Token) (stores : Stores) : Prop :=
  (route.serve app inner request stores).2 = stores ∧
    ∀ other, (route.serve app inner request other).1 = (route.serve app inner request stores).1

/-- An open route is stopped by a body that cannot be read, or a server without a cluster file. -/
def Stopped (app : App Token) (request : WebRequest Token) : Route → Prop
  | .cluster_instance_create =>
      ∃ failure, ClustersBp.unpack app.create_request request.json = .error failure
  | .cluster_agent_deploy _ _ =>
      ∃ failure, ClustersBp.unpack app.deploy_agent_request request.json = .error failure
  | .cluster_instance_destroy _ _ => app.cluster = none
  | .cluster_instances_list _ => app.cluster = none
  | _ => True

section Facts

variable {app : App Token} {inner : Route → Handler Token} {request : WebRequest Token}

/-- The guard looks at the token and the clock, and at nothing that is stored. -/
theorem protected_rejected (rejected : Rejected app request) (handler : Handler Token) :
    ∃ raised, protected_ app none true handler request = throw raised := by
  unfold protected_
  cases given : request.token with
  | none => exact ⟨_, rfl⟩
  | some token =>
      obtain ⟨failure, refused⟩ := rejected token given
      simp only [refused]
      cases failure <;> exact ⟨_, rfl⟩

theorem silent_of_throw {route : Route} {raised : WebExn}
    (raises : route.decorators.foldr (Route.decorate app) (route.handler app inner) request =
      throw raised) (stores : Stores) : Silent app inner route request stores := by
  unfold Silent Route.serve
  rw [raises]
  exact ⟨rfl, fun _ => rfl⟩

theorem silent_of_guarded {route : Route} {rest : List Decorator}
    (guarded : route.decorators = .protected_ :: rest) (rejected : Rejected app request)
    (stores : Stores) : Silent app inner route request stores := by
  obtain ⟨raised, raises⟩ := protected_rejected rejected
    (rest.foldr (Route.decorate app) (route.handler app inner))
  have whole : route.decorators.foldr (Route.decorate app) (route.handler app inner) request =
      throw raised := by
    rw [guarded, List.foldr_cons]
    exact raises
  exact silent_of_throw whole stores

theorem raising_error {α β : Type} (failure : Exn) (next : α → Web β) :
    (Web.raising (.error failure) >>= next) = throw (.other failure) := rfl

theorem raising_ok {α β : Type} (value : α) (next : α → Web β) :
    (Web.raising (.ok value) >>= next) = next value := by
  rfl

/-- An open route whose first look at the request or the server fails. -/
theorem silent_of_raising {α : Type} {route : Route} {read : Except Exn α} {failure : Exn}
    {next : α → Web WebResponse} (opened : route.decorators = [])
    (handles : route.handler app inner request = Web.raising read >>= next)
    (fails : read = .error failure) (stores : Stores) :
    Silent app inner route request stores := by
  have whole : route.decorators.foldr (Route.decorate app) (route.handler app inner) request =
      throw (.other failure) := by
    rw [opened, List.foldr_nil, handles, fails, raising_error]
  exact silent_of_throw whole stores

theorem enqueued_ne (stores : Stores) (job : ControlJob) :
    { stores with control := stores.control ++ [job] } ≠ stores := by
  intro same
  have longer : (stores.control ++ [job]).length = stores.control.length :=
    congrArg (fun stores => stores.control.length) same
  rw [List.length_append, List.length_singleton] at longer
  omega

/-- A route that puts a job on the control queue whenever its body can be read. -/
theorem silent_iff_unreadable {α : Type} {route : Route} {read : Except Exn α} {func : String}
    {data : α → ControlData} {max_retry status : Nat} (opened : route.decorators = [])
    (handles : route.handler app inner request = do
      let req ← Web.raising read
      let job ← SchedulerExec.enqueue_control func request.execid (data req) max_retry
      return ⟨status, ClustersBp.jobid (.str job.execid)⟩) (stores : Stores) :
    Silent app inner route request stores ↔ ∃ failure, read = .error failure := by
  cases reads : read with
  | error failure =>
      exact ⟨fun _ => ⟨failure, rfl⟩, fun _ => silent_of_raising opened handles reads stores⟩
  | ok req =>
      rw [reads, raising_ok] at handles
      constructor
      · rintro ⟨unchanged, _⟩
        unfold Route.serve at unchanged
        rw [opened, List.foldr_nil, handles] at unchanged
        exact absurd unchanged (enqueued_ne stores _)
      · rintro ⟨failure, impossible⟩
        cases impossible

section Machines

variable {cc : ClusterControl}

theorem get_cluster_none (missing : app.cluster = none) :
    ClustersBp.get_cluster app = .error .attributeError := by
  rw [ClustersBp.get_cluster, missing]

theorem get_cluster_some (configured : app.cluster = some cc) :
    ClustersBp.get_cluster app = .ok cc := by
  rw [ClustersBp.get_cluster, configured]

theorem serve_destroy (configured : app.cluster = some cc) (cluster_name machine : String)
    (stores : Stores) :
    (Route.cluster_instance_destroy cluster_name machine).serve app inner request stores =
      if (ClusterControl.get_instance stores.redis machine).isSome then
        (⟨202, ClustersBp.jobid (.str request.execid)⟩,
          { stores with
            control := stores.control ++ [
              { func := "labfunctions.control.tasks.destroy_instance"
                execid := request.execid
                data := .destroy_instance ⟨cluster_name, machine⟩
                timeout := "5m"
                max_retry := 3 }] })
      else (⟨200, ClustersBp.jobid .null⟩, stores) := by
  have looks : (ClustersBp.cluster_instance_destroy app cluster_name machine request).run stores =
      ExceptT.run (if (ClusterControl.get_instance stores.redis machine).isSome then do
          let job ← SchedulerExec.enqueue_instance_destruction request.execid
            ⟨cluster_name, machine⟩
          return ⟨202, ClustersBp.jobid (.str job.execid)⟩
        else return ⟨200, ClustersBp.jobid .null⟩ : Web WebResponse) stores := by
    unfold ClustersBp.cluster_instance_destroy
    rw [get_cluster_some configured, raising_ok]
    rfl
  unfold Route.serve
  simp only [Route.decorators, List.foldr_nil, Route.handler, looks]
  by_cases there : (ClusterControl.get_instance stores.redis machine).isSome = true
  · rw [if_pos there, if_pos there]
    rfl
  · rw [if_neg there, if_neg there]
    rfl

theorem serve_list (configured : app.cluster = some cc) (cluster_name : String) (stores : Stores) :
    (Route.cluster_instances_list cluster_name).serve app inner request stores =
      (⟨200, .list ((app.listed (ClusterControl.list_instances stores.redis cluster_name)).map
        Json.str)⟩, stores) := by
  unfold Route.serve
  simp only [Route.decorators, List.foldr_nil, Route.handler, ClustersBp.cluster_instances_list]
  rw [get_cluster_some configured, raising_ok]
  rfl

def visitor : MachineInstance :=
  { machine_id := "1", machine_name := "visitor", location := "local", private_ips := [] }

/-- A route that asks for the cluster first is silent only where none is configured. -/
theorem silent_iff_unconfigured {α : Type} {route : Route} {read : Except Exn α}
    {next : α → Web WebResponse} (stores : Stores) (opened : route.decorators = [])
    (handles : route.handler app inner request = Web.raising read >>= next)
    (fails : app.cluster = none → ∃ failure, read = .error failure)
    (loud : ∀ cc, app.cluster = some cc → ¬Silent app inner route request stores) :
    Silent app inner route request stores ↔ app.cluster = none := by
  cases configured : app.cluster with
  | none =>
      obtain ⟨failure, raises⟩ := fails configured
      exact ⟨fun _ => rfl, fun _ => silent_of_raising opened handles raises stores⟩
  | some cc => exact iff_of_false (loud cc configured) (Option.some_ne_none cc)

theorem silent_destroy_iff (cluster_name machine : String) (stores : Stores) :
    Silent app inner (.cluster_instance_destroy cluster_name machine) request stores ↔
      app.cluster = none := by
  refine silent_iff_unconfigured stores rfl rfl (fun none => ⟨_, get_cluster_none none⟩) ?_
  rintro cc configured ⟨unchanged, same⟩
  by_cases there : (ClusterControl.get_instance stores.redis machine).isSome = true
  · rw [serve_destroy configured, if_pos there] at unchanged
    exact absurd unchanged (enqueued_ne stores _)
  · -- where the machine is registered the answer is another one
    have answer := same
      { stores with redis := stores.redis.set (ClusterControl.MACHINE_KEY ++ machine) visitor }
    have registered : (ClusterControl.get_instance (stores.redis.set
        (ClusterControl.MACHINE_KEY ++ machine) visitor) machine).isSome = true := by
      simp [ClusterControl.get_instance, Redis.get, Redis.set]
    rw [serve_destroy configured, serve_destroy configured, if_pos registered,
      if_neg there] at answer
    have statuses : (202 : Nat) = 200 := congrArg WebResponse.status answer
    exact absurd statuses (by decide)

theorem silent_list_iff (cluster_name : String) (stores : Stores) :
    Silent app inner (.cluster_instances_list cluster_name) request stores ↔
      app.cluster = none := by
  refine silent_iff_unconfigured stores rfl rfl (fun none => ⟨_, get_cluster_none none⟩) ?_
  rintro cc configured ⟨_, same⟩
  let key := ClusterControl.machines_list_key cluster_name
  have empty := same { stores with redis := fun _ => none }
  have single := same { stores with redis := Redis.sadd (fun _ => none) key "visitor" }
  rw [serve_list configured] at empty single
  have bodies := (congrArg WebResponse.body single).trans (congrArg WebResponse.body empty).symm
  have names := Json.list.inj bodies
  have listed : "visitor" ∈ app.listed (ClusterControl.list_instances
      (Redis.sadd (fun _ => none) key "visitor") cluster_name) := by
    rw [app.mem_listed]
    simp [ClusterControl.list_instances, Redis.smembers, Redis.sadd, key]
  have member : Json.str "visitor" ∈ (app.listed (ClusterControl.list_instances
      (fun _ => none) cluster_name)).map Json.str := by
    rw [← names]
    exact List.mem_map_of_mem listed
  obtain ⟨name, inside, _⟩ := List.mem_map.mp member
  rw [app.mem_listed] at inside
  simp [ClusterControl.list_instances, Redis.smembers] at inside

end Machines

end Facts

/-- A rejected request leaves the stores alone and learns nothing of them exactly when its route
is guarded, or the handler fails before it comes to them. -/
theorem silent_iff_stopped (app : App Token) (inner : Route → Handler Token) (route : Route)
    (request : WebRequest Token) (stores : Stores) (rejected : Rejected app request) :
    Silent app inner route request stores ↔ Stopped app request route := by
  by_cases opened : route.decorators = []
  · cases route with
    | cluster_instance_create => exact silent_iff_unreadable opened rfl stores
    | cluster_agent_deploy cluster_name machine => exact silent_iff_unreadable opened rfl stores
    | cluster_instance_destroy cluster_name machine =>
        exact silent_destroy_iff cluster_name machine stores
    | cluster_instances_list cluster_name => exact silent_list_iff cluster_name stores
    | _ => cases opened
  · have outermost : ∃ rest, route.decorators = .protected_ :: rest := by
      cases decorated : route.decorators with
      | nil => exact absurd decorated opened
      | cons outer rest =>
          refine ⟨rest, ?_⟩
          cases route <;> cases decorated <;> rfl
    obtain ⟨rest, guarded⟩ := outermost
    have stopped : Stopped app request route := by
      cases route with
      | cluster_instance_create => exact absurd rfl opened
      | cluster_agent_deploy cluster_name machine => exact absurd rfl opened
      | cluster_instance_destroy cluster_name machine => exact absurd rfl opened
      | cluster_instances_list cluster_name => exact absurd rfl opened
      | _ => trivial
    exact ⟨fun _ => stopped, fun _ => silent_of_guarded guarded rejected stores⟩

namespace Sample

def failed (_ : Exn) : WebResponse := ⟨500, .str "Internal Server Error"⟩

def create_request (fields : List (String × Json)) : Except Exn CreateRequest :=
  match fields.lookup "cluster_name" with
  | some (.str cluster_name) => .ok { cluster_name }
  | _ => .error .validationError

def app : App Claims where
  py := TokenClaims.Sample.py
  cluster := none
  create_request := create_request
  deploy_agent_request _ := .error .validationError
  listed names := names.sort
  mem_listed _ _ := Finset.mem_sort _
  failed := failed

def stores : Stores where
  db := LabFunctions.Sample.db
  files _ := none
  streams _ := none
  scheduler := {}
  queues := []
  control := []
  redis _ := none
  tokens _ := none

def inner (_ : Route) : Handler Claims := fun _ => return ⟨200, .null⟩

def request : WebRequest Claims :=
  { json := .ok (.dict [("cluster_name", .str "gpu")]), now := 0, execid := "made" }

end Sample

theorem rejected_without_token {app : App Token} {request : WebRequest Token}
    (missing : request.token = none) : Rejected app request := by
  intro token found
  rw [missing] at found
  cases found

theorem silent_sample :
    Rejected Sample.app Sample.request ∧
      Silent Sample.app Sample.inner (.workflow_create "lab") Sample.request Sample.stores := by
  have rejected : Rejected Sample.app Sample.request := rejected_without_token rfl
  exact ⟨rejected, (silent_iff_stopped _ _ _ _ _ rejected).mpr trivial⟩

/-- Without any token a machine is ordered. -/
theorem instance_created_unguarded :
    ¬∀ (app : App Claims) (inner : Route → Handler Claims) (route : Route)
      (request : WebRequest Claims) (stores : Stores), Rejected app request →
      Silent app inner route request stores := by
  intro silent
  have quiet := silent Sample.app Sample.inner .cluster_instance_create Sample.request
    Sample.stores (rejected_without_token rfl)
  have stopped := (silent_iff_unreadable rfl rfl Sample.stores).mp quiet
  obtain ⟨failure, unreadable⟩ := stopped
  cases unreadable

end RouteGuards

end Server

end LabFunctions
