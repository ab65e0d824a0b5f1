import LabFunctions.ResultCache
import LabFunctions.UtcTimes

/-!
`frozen_result`: a function whose result is stored, and returned for some minutes in place of
calling the function again.
-/

namespace LabFunctions

namespace FrozenResults

open Runs ResultCache Clock

/-- `bool` of Python raises for some values, a data frame among them. -/
structure Values (α : Type) extends ResultCache.Codec α where
  bool : α → Except Exn Bool

/-- `round` of Python: halves go to the even side. -/
def roundMinutes (micros : Int) : Int :=
  let whole := micros / perMinute
  let rest := 2 * (micros % perMinute)
  if rest < perMinute then whole
  else if perMinute < rest then whole + 1
  else if whole % 2 = 0 then whole
  else whole + 1

/-- `timedelta.seconds` leaves out the days, and what is less than a second. -/
def seconds (micros : Int) : Int := micros % perDay / perSecond

def elapsed (dt now : Int) : Int := roundMinutes (seconds (now - dt) * perSecond)

def is_valid_date (cache_dt : String) (valid_for_min : Int) (now : UtcTime) : Except Exn Bool :=
  match fromisoformat cache_dt with
  | .error failure => .error failure
  | .ok .aware => .error (.typeError "can't subtract offset-naive and offset-aware datetimes")
  | .ok (.naive dt) => .ok (decide (elapsed dt now.micros ≤ valid_for_min))

structure Globals where
  WFID : Option String := none
  EXECUTIONID : Option String := none
  NOW : Option String := none

def build_ctx_global (globals_dict : Globals) (now : UtcTime) : SimpleExecCtx :=
  { wfid := globals_dict.WFID
    execid := globals_dict.EXECUTIONID
    execution_dt := globals_dict.NOW.getD now.isoformat }

def build_ctx (wfid execid : Option String) (now : UtcTime) (given : Option String := none) :
    SimpleExecCtx :=
  { wfid := wfid, execid := execid, execution_dt := pyOr given now.isoformat }

/-- The arguments of `frozen_result`, and the name of the function. A dictionary that is empty is
none, as the source takes it. -/
structure Arguments where
  name : Option String := none
  wfid : Option String := none
  execid : Option String := none
  valid_for_min : Int := 60
  strategy : String := "local"
  from_global : Option Globals := none
  func_name : String

/-- A name that is not given is empty here, and the wrapper takes both the same. -/
def frozen_result (args : Arguments) (now : UtcTime) : Except Exn CacheConfig :=
  if ¬truthy args.wfid ∧ args.from_global.isNone then
    .error (.typeError "wfid or global should be provided")
  else
    .ok {
      name := args.name.getD ""
      ctx := match args.from_global with
        | some globals => build_ctx_global globals now
        | none => build_ctx args.wfid args.execid now
      strategy := args.strategy }

inductive Called (α : Type) where
  | stored (result : α)
  | ran (result : Except Exn α)
  | raised (failure : Exn)

section Source

variable {α : Type} (values : Values α) (root : String) (args : Arguments)

def isFresh (meta_ : Option Meta) (now : UtcTime) : Except Exn Bool :=
  match meta_ with
  | none => .ok false
  | some [] => .ok false
  | some entries =>
      match entries.lookup "execution_dt" with
      | none => .error (.keyError "execution_dt")
      | some none => .error (.typeError "fromisoformat: argument must be str")
      | some (some text) => is_valid_date text args.valid_for_min now

def truth (result : Option α) : Except Exn Bool :=
  match result with
  | none => .ok false
  | some data => values.bool data

/-- The lines of the wrapper up to the call of the function: what it returns in its place. -/
def recalled (conf : CacheConfig) (now : UtcTime) (store : State) : Except Exn (Option α) := do
  let (result, meta_) ← cache_manager_read values.toCodec root conf store
  let valid ← isFresh args meta_ now
  let result_ ← truth values result
  return if result_ && valid then result else none

def named (conf : CacheConfig) : CacheConfig :=
  { conf with name := if conf.name = "" then args.func_name else conf.name }

def wrapper (conf : CacheConfig) (now : UtcTime) (func : Except Exn α) (store : State) :
    Called α × State :=
  let conf := named args conf
  match recalled values root args conf now store with
  | .error failure => (.raised failure, store)
  | .ok (some result) => (.stored result, store)
  | .ok none =>
      match func with
      | .error failure => (.ran (.error failure), store)
      | .ok result =>
          (.ran (.ok result), cache_manager_write values.toCodec root result conf store)

end Source

/-! A function that is wrapped and called. The lines that wrap it run again when the notebook is
executed again, at another time and with another `NOW` among the globals. -/

inductive Request (α : Type) where
  | decorate (NOW : Option String) (now : UtcTime)
  | call (now : UtcTime) (func : Except Exn α)

def Request.now {α : Type} : Request α → UtcTime
  | .decorate _ now => now
  | .call now _ => now

structure Computation (α : Type) where
  result : α
  time : UtcTime
  execution_dt : String

structure Frozen (α : Type) where
  conf : Option CacheConfig := none
  store : State := State.empty
  computed : Option (Computation α) := none

def Arguments.started (args : Arguments) (NOW : Option String) : Arguments :=
  { args with from_global := args.from_global.map fun globals => { globals with NOW := NOW } }

section Runs

variable {α : Type} (values : Values α) (root : String) (args : Arguments)

/-- What the last call that ran the function has computed. -/
def recompute (conf : CacheConfig) (now : UtcTime) (before : Option (Computation α)) :
    Called α → Option (Computation α)
  | .ran (.ok result) => some ⟨result, now, conf.ctx.execution_dt⟩
  | _ => before

def step (frozen : Frozen α) : Request α → Frozen α
  | .decorate NOW now =>
      match frozen_result (args.started NOW) now with
      | .ok conf => { frozen with conf := some conf }
      | .error _ => frozen
  | .call now func =>
      match frozen.conf with
      | none => frozen
      | some conf =>
          let (called, store) := wrapper values root args conf now func frozen.store
          { frozen with store := store, computed := recompute conf now frozen.computed called }

/-- The clock does not go back. -/
def InOrder (requests : List (Request α)) : Prop :=
  requests.Pairwise fun earlier later => earlier.now.micros ≤ later.now.micros

instance (requests : List (Request α)) : Decidable (InOrder requests) :=
  inferInstanceAs (Decidable (List.Pairwise _ requests))

/-- `t - t0`, rounded to minutes -/
def Computation.age (computation : Computation α) (now : UtcTime) : Int :=
  roundMinutes (now.micros - computation.time.micros)

structure Fresh (valid_for_min : Int) (before : Option (Computation α)) (now : UtcTime)
    (called : Called α) : Prop where
  recent : ∀ result, called = .stored result → ∃ computation, before = some computation ∧
    computation.result = result ∧ computation.age now ≤ valid_for_min
  kept : ∀ computation, before = some computation → computation.age now ≤ valid_for_min →
    ∀ result, called ≠ .ran result

def FreshAt (frozen : Frozen α) : Request α → Prop
  | .decorate _ _ => True
  | .call now func => ∀ conf, frozen.conf = some conf →
      Fresh args.valid_for_min frozen.computed now
        (wrapper values root args conf now func frozen.store).1

def Arguments.wfidOf (args : Arguments) : Option String :=
  match args.from_global with
  | some globals => globals.WFID
  | none => args.wfid

def Arguments.execidOf (args : Arguments) : Option String :=
  match args.from_global with
  | some globals => globals.EXECUTIONID
  | none => args.execid

def Caches : Prop := args.strategy = "fileserver" ∧ truthy args.wfidOf = true

instance : Decidable (Caches args) := inferInstanceAs (Decidable (_ ∧ _))

/-- The result is one that can be stored and is taken for valid just as long as it is: the date
that is stored with it is when the function was wrapped, and a day more makes no difference. A
function whose results are not stored is not called again within the period. -/
def Meets (frozen : Frozen α) : Request α → Prop
  | .decorate _ _ => True
  | .call now _ => ∀ conf, frozen.conf = some conf →
      ∀ computation, frozen.computed = some computation →
        if Caches args then
          ∀ dated stands, fromisoformat computation.execution_dt = .ok (.naive dated) →
            values.bool computation.result = .ok stands →
            (stands = true ∧ elapsed dated now.micros ≤ args.valid_for_min ↔
              computation.age now ≤ args.valid_for_min)
        else args.valid_for_min < computation.age now

end Runs

section Steps

variable {α : Type} {values : Values α} {root : String} {args : Arguments}

def Arguments.ctx (args : Arguments) (execution_dt : String) : SimpleExecCtx :=
  { wfid := args.wfidOf, execid := args.execidOf, execution_dt := execution_dt }

/-- The configuration that the wrapper works with, once it has a name. -/
def Arguments.conf (args : Arguments) (execution_dt : String) : CacheConfig :=
  { name := if args.name.getD "" = "" then args.func_name else args.name.getD ""
    ctx := args.ctx execution_dt
    strategy := args.strategy }

theorem frozen_result_started {NOW : Option String} {now : UtcTime} {conf : CacheConfig}
    (wrapped : frozen_result (args.started NOW) now = .ok conf) :
    named args conf = args.conf conf.ctx.execution_dt := by
  unfold frozen_result at wrapped
  split at wrapped
  · cases wrapped
  · obtain rfl := Except.ok.inj wrapped
    obtain ⟨name, wfid, execid, valid_for_min, strategy, from_global, func_name⟩ := args
    cases from_global <;> rfl

theorem restore_write_fileserver (codec : ResultCache.Codec α) (name : String) (data : α)
    (dt other : String) (store : State) :
    _restore_fileserver codec root name (args.ctx other)
        (_write_fileserver codec root name data (args.ctx dt) store) =
      (some data, some (asdict (args.ctx dt))) := by
  have apart : metapath root name (args.ctx dt) ≠ urlpath root name (args.ctx dt) :=
    metapath_ne_urlpath name (args.ctx dt)
  have url : urlpath root name (args.ctx other) = urlpath root name (args.ctx dt) := rfl
  have beside : metapath root name (args.ctx other) = metapath root name (args.ctx dt) := rfl
  simp only [_restore_fileserver, _write_fileserver, url, beside, Function.update_self,
    Function.update_of_ne apart.symm, codec.loads_dumps, codec.json_loads_dumps]

/-- What is stored is what was computed last; with the local strategy nothing ever is, since the
first call raises. -/
structure Holds (values : Values α) (root : String) (args : Arguments) (frozen : Frozen α) :
    Prop where
  decorated : ∀ conf, frozen.conf = some conf →
    named args conf = args.conf conf.ctx.execution_dt
  served : Caches args → ∀ dt,
    cache_manager_read values.toCodec root (args.conf dt) frozen.store =
      .ok (frozen.computed.map Computation.result,
        frozen.computed.map fun computation => asdict (args.ctx computation.execution_dt))
  never : args.strategy = "local" ∧ truthy args.wfidOf = true →
    frozen.computed = none ∧ frozen.store.files = fun _ => none

theorem not_local (caches : Caches args) :
    ¬(args.strategy = "local" ∧ truthy args.wfidOf = true) := by
  rw [caches.1]
  exact fun both => absurd both.1 (by decide)

theorem read_conf (dt : String) (store : State) :
    cache_manager_read values.toCodec root (args.conf dt) store =
      if args.strategy = "local" ∧ truthy args.wfidOf = true then
        match _restore_pickle values.toCodec (args.conf dt).name (args.ctx dt) store with
        | .error failure => .error failure
        | .ok none => .error (.typeError "cannot unpack non-iterable NoneType object")
        | .ok (some (data, meta_)) => .ok (some data, some meta_)
      else if Caches args then
        .ok (_restore_fileserver values.toCodec root (args.conf dt).name (args.ctx dt) store)
      else .ok (none, none) :=
  rfl

/-! What a call does. -/

theorem recalled_computed {frozen : Frozen α} (holds : Holds values root args frozen)
    (caches : Caches args) {computation : Computation α}
    (found : frozen.computed = some computation) (dt : String) (now : UtcTime) :
    recalled values root args (args.conf dt) now frozen.store = do
      let valid ← is_valid_date computation.execution_dt args.valid_for_min now
      let stands ← values.bool computation.result
      return if stands && valid then some computation.result else none := by
  rw [recalled, holds.served caches dt, found]
  rfl

theorem recalled_nothing {frozen : Frozen α} (holds : Holds values root args frozen)
    (caches : Caches args) (nothing : frozen.computed = none) (dt : String) (now : UtcTime) :
    recalled values root args (args.conf dt) now frozen.store = .ok none := by
  rw [recalled, holds.served caches dt, nothing]
  rfl

theorem recalled_local {frozen : Frozen α} (holds : Holds values root args frozen)
    (isLocal : args.strategy = "local" ∧ truthy args.wfidOf = true) (dt : String) (now : UtcTime) :
    recalled values root args (args.conf dt) now frozen.store =
      .error (.typeError "cannot unpack non-iterable NoneType object") := by
  have missing : _restore_pickle values.toCodec (args.conf dt).name (args.ctx dt) frozen.store =
      .ok none := by
    rw [_restore_pickle, (holds.never isLocal).2]
  rw [recalled, read_conf, if_pos isLocal, missing]
  rfl

theorem recalled_unstored {frozen : Frozen α} (caches : ¬Caches args)
    (isLocal : ¬(args.strategy = "local" ∧ truthy args.wfidOf = true)) (dt : String)
    (now : UtcTime) :
    recalled values root args (args.conf dt) now frozen.store = .ok none := by
  rw [recalled, read_conf, if_neg isLocal, if_neg caches]
  rfl

theorem wrapper_called (conf : CacheConfig) (now : UtcTime) (func : Except Exn α) (store : State) :
    (wrapper values root args conf now func store).1 =
      match recalled values root args (named args conf) now store with
      | .error failure => .raised failure
      | .ok (some result) => .stored result
      | .ok none => .ran func := by
  unfold wrapper
  dsimp only
  split
  · rfl
  · rfl
  · cases func <;> rfl

theorem wrapper_store (conf : CacheConfig) (now : UtcTime) (func : Except Exn α) (store : State) :
    (wrapper values root args conf now func store).2 =
      match (wrapper values root args conf now func store).1 with
      | .ran (.ok result) => cache_manager_write values.toCodec root result (named args conf) store
      | _ => store := by
  unfold wrapper
  dsimp only
  split
  · rfl
  · rfl
  · cases func <;> rfl

/-! What is kept. -/

theorem holds_start : Holds values root args {} where
  decorated _ wrapped := by cases wrapped
  served caches dt := by
    rw [read_conf, if_neg (not_local caches), if_pos caches]
    rfl
  never _ := ⟨rfl, rfl⟩

theorem holds_written {frozen : Frozen α} (holds : Holds values root args frozen)
    (remote : ¬(args.strategy = "local" ∧ truthy args.wfidOf = true)) (dt : String)
    (now : UtcTime) (result : α) :
    Holds values root args { frozen with
      store := cache_manager_write values.toCodec root result (args.conf dt) frozen.store
      computed := some ⟨result, now, dt⟩ } where
  decorated := holds.decorated
  served caches other := by
    have written : cache_manager_write values.toCodec root result (args.conf dt) frozen.store =
        _write_fileserver values.toCodec root (args.conf dt).name result (args.ctx dt)
          frozen.store :=
      write_of_fileserver result frozen.store caches.1 caches.2
    rw [written, read_conf, if_neg remote, if_pos caches]
    exact congrArg Except.ok (restore_write_fileserver values.toCodec _ result dt other _)
  never isLocal := absurd isLocal remote

theorem holds_step (frozen : Frozen α) (request : Request α)
    (holds : Holds values root args frozen) :
    Holds values root args (step values root args frozen request) := by
  cases request with
  | decorate NOW now =>
      simp only [step]
      split
      · rename_i conf wrapped
        refine ⟨?_, holds.served, holds.never⟩
        intro later same
        obtain rfl := Option.some.inj same
        exact frozen_result_started wrapped
      · exact holds
  | call now func =>
      simp only [step]
      split
      · exact holds
      · rename_i conf wrapped
        rw [wrapper_store]
        cases called : (wrapper values root args conf now func frozen.store).1 with
        | stored result => exact holds
        | raised failure => exact holds
        | ran outcome =>
            cases outcome with
            | error failure => exact holds
            | ok result =>
                have named := holds.decorated conf wrapped
                rw [wrapper_called, named] at called
                have remote : ¬(args.strategy = "local" ∧ truthy args.wfidOf = true) := by
                  intro isLocal
                  rw [recalled_local holds isLocal] at called
                  cases called
                rw [named]
                exact holds_written holds remote conf.ctx.execution_dt now result

theorem first_call {frozen : Frozen α} (holds : Holds values root args frozen)
    (caches : Caches args) (nothing : frozen.computed = none) {conf : CacheConfig}
    (wrapped : frozen.conf = some conf) (now : UtcTime) (result : α) :
    (step values root args frozen (.call now (.ok result))).conf = some conf ∧
      (step values root args frozen (.call now (.ok result))).computed =
        some ⟨result, now, conf.ctx.execution_dt⟩ := by
  have called : (wrapper values root args conf now (.ok result) frozen.store).1 =
      .ran (.ok result) := by
    rw [wrapper_called, holds.decorated conf wrapped, recalled_nothing holds caches nothing]
  simp only [step, wrapped, called, recompute, and_self]

/-! What a call promises. -/

theorem fresh_raised (valid_for_min : Int) (before : Option (Computation α)) (now : UtcTime)
    (failure : Exn) : Fresh valid_for_min before now (.raised failure) where
  recent _ same := by cases same
  kept _ _ _ _ same := by cases same

theorem fresh_ran_none (valid_for_min : Int) (now : UtcTime) (result : Except Exn α) :
    Fresh valid_for_min none now (.ran result) where
  recent _ same := by cases same
  kept _ found := by cases found

theorem fresh_ran_iff {valid_for_min : Int} {computation : Computation α} {now : UtcTime}
    {result : Except Exn α} : Fresh valid_for_min (some computation) now (.ran result) ↔
      valid_for_min < computation.age now := by
  constructor
  · intro fresh
    by_contra within
    exact fresh.kept computation rfl (Int.not_lt.mp within) result rfl
  · intro past
    refine ⟨?_, ?_⟩
    · intro _ same
      cases same
    intro other found within
    obtain rfl := Option.some.inj found
    exact absurd within (Int.not_le.mpr past)

theorem fresh_stored_iff {valid_for_min : Int} {computation : Computation α} {now : UtcTime} :
    Fresh valid_for_min (some computation) now (.stored computation.result) ↔
      computation.age now ≤ valid_for_min := by
  constructor
  · intro fresh
    obtain ⟨other, found, _, within⟩ := fresh.recent computation.result rfl
    obtain rfl := Option.some.inj found
    exact within
  · intro within
    refine ⟨?_, fun _ _ _ _ same => by cases same⟩
    intro result same
    obtain rfl := Called.stored.inj same
    exact ⟨computation, rfl, rfl, within⟩

theorem agrees_of_read {date : Except Exn Stamp} {truth : Except Exn Bool} {dated : Int}
    {stands : Bool} {agree : Int → Bool → Prop} (reads : date = .ok (.naive dated))
    (truthful : truth = .ok stands) :
    (∀ dated stands, date = .ok (.naive dated) → truth = .ok stands → agree dated stands) ↔
      agree dated stands := by
  constructor
  · intro every
    exact every dated stands reads truthful
  · intro agrees other held otherReads otherTruthful
    obtain rfl := Stamp.naive.inj (Except.ok.inj (reads.symm.trans otherReads))
    obtain rfl := Except.ok.inj (truthful.symm.trans otherTruthful)
    exact agrees

/-- A call after a computation, with the results on the file server. -/
theorem fresh_cached_iff {frozen : Frozen α} (holds : Holds values root args frozen)
    (caches : Caches args) {computation : Computation α}
    (found : frozen.computed = some computation) {conf : CacheConfig}
    (wrapped : frozen.conf = some conf) (now : UtcTime) (func : Except Exn α) :
    Fresh args.valid_for_min (some computation) now
        (wrapper values root args conf now func frozen.store).1 ↔
      ∀ dated stands, fromisoformat computation.execution_dt = .ok (.naive dated) →
        values.bool computation.result = .ok stands →
        (stands = true ∧ elapsed dated now.micros ≤ args.valid_for_min ↔
          computation.age now ≤ args.valid_for_min) := by
  rw [wrapper_called, holds.decorated conf wrapped, recalled_computed holds caches found,
    is_valid_date]
  cases read : fromisoformat computation.execution_dt with
  | error failure => exact iff_of_true (fresh_raised _ _ _ _) (fun _ _ dated => by cases dated)
  | ok stamp =>
      cases stamp with
      | aware => exact iff_of_true (fresh_raised _ _ _ _) (fun _ _ dated => by cases dated)
      | naive dated =>
          cases truthful : values.bool computation.result with
          | error failure =>
              exact iff_of_true (fresh_raised _ _ _ _) (fun _ _ _ stands => by cases stands)
          | ok stands =>
              refine Iff.trans ?_ (agrees_of_read rfl rfl).symm
              by_cases valid : stands = true ∧ elapsed dated now.micros ≤ args.valid_for_min
              · rw [iff_true_left valid, ← fresh_stored_iff]
                simp [valid, pure, Except.pure, bind, Except.bind]
              · have ran : Fresh args.valid_for_min (some computation) now (.ran func) ↔ _ :=
                  fresh_ran_iff
                rw [iff_false_left valid, Int.not_le, ← ran]
                simp [valid, pure, Except.pure, bind, Except.bind]

theorem fresh_at_iff {frozen : Frozen α} (holds : Holds values root args frozen)
    (request : Request α) :
    FreshAt values root args frozen request ↔ Meets values args frozen request := by
  cases request with
  | decorate NOW now => exact Iff.rfl
  | call now func =>
      unfold FreshAt Meets
      refine forall₂_congr fun conf wrapped => ?_
      by_cases caches : Caches args
      · cases found : frozen.computed with
        | none =>
            rw [wrapper_called, holds.decorated conf wrapped, recalled_nothing holds caches found]
            exact iff_of_true (fresh_ran_none _ _ _) (fun _ there => by cases there)
        | some computation =>
            simp only [Option.some.injEq, forall_eq', if_pos caches]
            exact fresh_cached_iff holds caches found wrapped now func
      · by_cases isLocal : args.strategy = "local" ∧ truthy args.wfidOf = true
        · rw [wrapper_called, holds.decorated conf wrapped, recalled_local holds isLocal,
            (holds.never isLocal).1]
          exact iff_of_true (fresh_raised _ _ _ _) (fun _ there => by cases there)
        · rw [wrapper_called, holds.decorated conf wrapped, recalled_unstored caches isLocal]
          cases found : frozen.computed with
          | none => exact iff_of_true (fresh_ran_none _ _ _) (fun _ there => by cases there)
          | some computation =>
              simp only [Option.some.injEq, forall_eq', if_neg caches]
              exact fresh_ran_iff

end Steps

/-- Without a `NOW`, what is stored as the time of execution is the time of the decoration. -/
theorem execution_dt_started {args : Arguments} {now : UtcTime} {conf : CacheConfig}
    (wrapped : frozen_result (args.started none) now = .ok conf) :
    conf.ctx.execution_dt = now.isoformat := by
  unfold frozen_result at wrapped
  split at wrapped
  · cases wrapped
  · obtain rfl := Except.ok.inj wrapped
    cases globals : args.from_global <;>
      simp [Arguments.started, globals, build_ctx_global, build_ctx, pyOr]

theorem is_valid_date_isoformat (decorated now : UtcTime) (valid_for_min : Int) :
    is_valid_date decorated.isoformat valid_for_min now =
      .ok (decide (elapsed decorated.micros now.micros ≤ valid_for_min)) := by
  rw [is_valid_date, fromisoformat_isoformat]

/-! The same hour, two months later. -/

namespace Sample

def values : Values String where
  toCodec := ResultCache.Sample.codec
  bool text := .ok (text != "")

def wrapped : UtcTime := { LabFunctions.Sample.morning with inMonth := by decide }

def inAugust : UtcTime :=
  { LabFunctions.Sample.morning with month := 8, inRange := by decide, inMonth := by decide }

def args : Arguments :=
  { wfid := some "w", strategy := "fileserver", func_name := "report" }

def requests : List (Request String) :=
  [.decorate none wrapped, .call wrapped (.ok "first"), .call inAugust (.ok "second")]

end Sample

end FrozenResults

end LabFunctions
