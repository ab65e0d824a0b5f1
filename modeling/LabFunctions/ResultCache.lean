import LabFunctions.Context
import LabFunctions.Database
import LabFunctions.KVStores
import LabFunctions.Library.Keyed
import Mathlib.Logic.Equiv.List

/-!
`labfunctions.io.cache`: the results of a notebook's functions, kept as pickles in `/tmp` or on
the file server.
-/

namespace LabFunctions

structure SimpleExecCtx where
  wfid : Option String
  execid : Option String
  execution_dt : String

structure CacheConfig where
  name : String
  ctx : SimpleExecCtx
  strategy : String := "local"

namespace ResultCache

open Keyed Runs

abbrev Meta := List (String × Option String)

def asdict (ctx : SimpleExecCtx) : Meta :=
  [("wfid", ctx.wfid), ("execid", ctx.execid), ("execution_dt", some ctx.execution_dt)]

/-- What is used of `cloudpickle` and `json`. A pickle begins with the byte 128 and the text of a
dictionary with a brace, so that neither is read as the other. `str` is the string that reading a
text file gives. -/
structure Codec (α : Type) where
  dumps : α → Bytes
  loads : Bytes → Option α
  json_dumps : Meta → Bytes
  json_loads : Bytes → Option Meta
  str : Bytes → α
  loads_dumps : ∀ data, loads (dumps data) = some data
  loads_json : ∀ meta_, loads (json_dumps meta_) = none
  json_loads_dumps : ∀ meta_, json_loads (json_dumps meta_) = some meta_
  json_loads_pickle : ∀ data, json_loads (dumps data) = none

structure State where
  files : Places
  server : Places

def State.empty : State := { files := fun _ => none, server := fun _ => none }

section Source

variable {α : Type} (codec : Codec α) (root : String)

def label (name : String) (ctx : SimpleExecCtx) : String :=
  ctx.wfid.getD "None" ++ "." ++ ctx.execid.getD "None" ++ "." ++ name

def fpath (name : String) (ctx : SimpleExecCtx) : String := "/tmp/" ++ label name ctx ++ ".pickle"

def fmetapath (name : String) (ctx : SimpleExecCtx) : String := "/tmp/" ++ label name ctx ++ ".json"

def urlpath (name : String) (ctx : SimpleExecCtx) : String := root ++ "/cache/" ++ label name ctx

def metapath (name : String) (ctx : SimpleExecCtx) : String := urlpath root name ctx ++ ".json"

def _write_pickle (name : String) (data : α) (ctx : SimpleExecCtx) (state : State) : State :=
  { state with
    files := Function.update
      (Function.update state.files (fpath name ctx) (some (codec.dumps data)))
      (fmetapath name ctx) (some (codec.json_dumps (asdict ctx))) }

/-- The text of the context is read into `data`, over the data. -/
def _restore_pickle (name : String) (ctx : SimpleExecCtx) (state : State) :
    Except Exn (Option (α × Meta)) :=
  match state.files (fpath name ctx) with
  | none => .ok none
  | some stored =>
      match codec.loads stored with
      | none => if stored = [] then .ok none else .error (.otherError "UnpicklingError")
      | some _ =>
          match state.files (fmetapath name ctx) with
          | none => .ok none
          | some text =>
              match codec.json_loads text with
              | none => .error (.otherError "JSONDecodeError")
              | some meta_ => .ok (some (codec.str text, meta_))

def _write_fileserver (name : String) (data : α) (ctx : SimpleExecCtx) (state : State) : State :=
  { state with
    server := Function.update
      (Function.update state.server (urlpath root name ctx) (some (codec.dumps data)))
      (metapath root name ctx) (some (codec.json_dumps (asdict ctx))) }

/-- What has been assigned stays when a later line raises. -/
def _restore_fileserver (name : String) (ctx : SimpleExecCtx) (state : State) :
    Option α × Option Meta :=
  match state.server (urlpath root name ctx), state.server (metapath root name ctx) with
  | some content, some text =>
      match codec.loads content with
      | none => (none, none)
      | some data => (some data, codec.json_loads text)
  | _, _ => (none, none)

def cache_manager_write (data : α) (conf : CacheConfig) (state : State) : State :=
  if conf.strategy = "local" ∧ truthy conf.ctx.wfid then
    _write_pickle codec conf.name data conf.ctx state
  else if conf.strategy = "fileserver" ∧ truthy conf.ctx.wfid then
    _write_fileserver codec root conf.name data conf.ctx state
  else state

def cache_manager_read (conf : CacheConfig) (state : State) :
    Except Exn (Option α × Option Meta) :=
  if conf.strategy = "local" ∧ truthy conf.ctx.wfid then
    match _restore_pickle codec conf.name conf.ctx state with
    | .error failure => .error failure
    | .ok none => .error (.typeError "cannot unpack non-iterable NoneType object")
    | .ok (some (data, meta_)) => .ok (some data, some meta_)
  else if conf.strategy = "fileserver" ∧ truthy conf.ctx.wfid then
    .ok (_restore_fileserver codec root conf.name conf.ctx state)
  else .ok (none, none)

end Source

/-! The abstract map, from the triple and the strategy to what was written last. -/

/-- A call of `cache_manager_write`. The calls of `cache_manager_read` change nothing, so that what
one of them returns depends on the writes before it. -/
structure Write (α : Type) where
  data : α
  conf : CacheConfig

structure Key where
  strategy : String
  wfid : Option String
  execid : Option String
  name : String
  deriving DecidableEq

def keyOf (conf : CacheConfig) : Key :=
  ⟨conf.strategy, conf.ctx.wfid, conf.ctx.execid, conf.name⟩

section Map

variable {α : Type} (codec : Codec α) (root : String)

def step (state : State) (write : Write α) : State :=
  cache_manager_write codec root write.data write.conf state

def Write.entry (write : Write α) : α × Meta := (write.data, asdict write.conf.ctx)

def Write.key (write : Write α) : Key := keyOf write.conf

def map (log : List (Write α)) : Key → Option (α × Meta) :=
  run (put Write.key Write.entry) (fun _ => none) log

def remembered (log : List (Write α)) (conf : CacheConfig) : Option α × Option Meta :=
  match map log (keyOf conf) with
  | some (data, meta_) => (some data, some meta_)
  | none => (none, none)

def Answers (log : List (Write α)) (conf : CacheConfig) : Prop :=
  cache_manager_read codec root conf (run (step codec root) State.empty log) =
    .ok (remembered log conf)

/-! The writes of a run that concern a triple, and those that concern one of its files. -/

def Write.own (conf : CacheConfig) (write : Write α) : Bool := write.key = keyOf conf

def Write.sameLabel (conf : CacheConfig) (write : Write α) : Bool :=
  write.conf.strategy = conf.strategy ∧ truthy write.conf.ctx.wfid ∧
    label write.conf.name write.conf.ctx = label conf.name conf.ctx

def Write.puts (url : String) (write : Write α) : Bool :=
  write.conf.strategy = "fileserver" ∧ truthy write.conf.ctx.wfid ∧
    (urlpath root write.conf.name write.conf.ctx = url ∨
      metapath root write.conf.name write.conf.ctx = url)

def Write.pickle (write : Write α) : Bytes := codec.dumps write.data

def Write.context (write : Write α) : Bytes := codec.json_dumps (asdict write.conf.ctx)

def Write.content (url : String) (write : Write α) : Bytes :=
  if metapath root write.conf.name write.conf.ctx = url then write.context codec
  else write.pickle codec

/-! Where the cache answers as the map. -/

/-- A triple that was never written: with the local strategy the miss raises, and on the file
server the file of its data must not come from a triple with the same label. -/
def MissesWhen (log : List (Write α)) (conf : CacheConfig) : Prop :=
  truthy conf.ctx.wfid = true → conf.strategy ≠ "local" ∧
    (conf.strategy = "fileserver" → ∀ write,
      latest (Write.puts root (urlpath root conf.name conf.ctx)) log = some write →
        write.sameLabel conf = false)

/-- A triple that was written: on the file server the last writes to both of its files are of this
triple. The local strategy returns the text of the context for the data. -/
def HitsWhen (log : List (Write α)) (conf : CacheConfig) : Prop :=
  truthy conf.ctx.wfid = true ∧
    ((conf.strategy = "fileserver" ∧
        ∀ url ∈ [urlpath root conf.name conf.ctx, metapath root conf.name conf.ctx],
          ∃ write, latest (Write.puts root url) log = some write ∧
            write.own conf = true) ∨
      (conf.strategy = "local" ∧ ∃ write,
        latest (Write.sameLabel conf) log = some write ∧ write.own conf = true ∧
          write.data = codec.str (write.context codec)))

def Meets (log : List (Write α)) (conf : CacheConfig) : Prop :=
  match latest (Write.own conf) log with
  | none => MissesWhen root log conf
  | some _ => HitsWhen codec root log conf

end Map

section Views

variable {α : Type} {codec : Codec α} {root : String} {conf : CacheConfig}

theorem fpath_inj {name : String} {ctx : SimpleExecCtx} :
    fpath name ctx = fpath conf.name conf.ctx ↔ label name ctx = label conf.name conf.ctx := by
  rw [fpath, fpath, String.append_left_inj, String.append_right_inj]

theorem fmetapath_inj {name : String} {ctx : SimpleExecCtx} :
    fmetapath name ctx = fmetapath conf.name conf.ctx ↔
      label name ctx = label conf.name conf.ctx := by
  rw [fmetapath, fmetapath, String.append_left_inj, String.append_right_inj]

theorem urlpath_inj {name : String} {ctx : SimpleExecCtx} :
    urlpath root name ctx = urlpath root conf.name conf.ctx ↔
      label name ctx = label conf.name conf.ctx := by
  rw [urlpath, urlpath, String.append_right_inj]

theorem metapath_inj {name : String} {ctx : SimpleExecCtx} :
    metapath root name ctx = metapath root conf.name conf.ctx ↔
      label name ctx = label conf.name conf.ctx := by
  rw [metapath, metapath, String.append_left_inj, urlpath_inj]

theorem fpath_ne_fmetapath (name other : String) (ctx otherCtx : SimpleExecCtx) :
    fpath name ctx ≠ fmetapath other otherCtx := by
  intro same
  have ends := congrArg (fun path => path.toList.getLast?) same
  have pickle : ".pickle".toList.getLast? = some 'e' := rfl
  have json : ".json".toList.getLast? = some 'n' := rfl
  simp only [fpath, fmetapath, String.toList_append, List.getLast?_append, pickle, json,
    Option.some_or, Option.some.injEq] at ends
  exact absurd ends (by decide)

theorem metapath_ne_urlpath (name : String) (ctx : SimpleExecCtx) :
    metapath root name ctx ≠ urlpath root name ctx := by
  intro same
  have lengths := congrArg String.length same
  have json : ".json".length = 5 := rfl
  rw [metapath, String.length_append, json] at lengths
  omega

theorem write_pickle_files (name : String) (data : α) (ctx : SimpleExecCtx) (state : State) :
    (_write_pickle codec name data ctx state).files (fpath conf.name conf.ctx) =
        (if label name ctx = label conf.name conf.ctx then some (codec.dumps data)
          else state.files (fpath conf.name conf.ctx)) ∧
      (_write_pickle codec name data ctx state).files (fmetapath conf.name conf.ctx) =
        (if label name ctx = label conf.name conf.ctx then some (codec.json_dumps (asdict ctx))
          else state.files (fmetapath conf.name conf.ctx)) := by
  have apart := (fpath_ne_fmetapath conf.name name conf.ctx ctx).symm
  have aside := fpath_ne_fmetapath name conf.name ctx conf.ctx
  simp only [_write_pickle, Function.update_apply, eq_comm (a := fpath conf.name conf.ctx),
    eq_comm (a := fmetapath conf.name conf.ctx), fpath_inj, fmetapath_inj, if_neg apart,
    if_neg aside, and_self]

theorem write_of_local (data : α) (state : State) (written : conf.strategy = "local")
    (named : truthy conf.ctx.wfid = true) :
    cache_manager_write codec root data conf state =
      _write_pickle codec conf.name data conf.ctx state :=
  if_pos ⟨written, named⟩

theorem write_of_fileserver (data : α) (state : State) (written : conf.strategy = "fileserver")
    (named : truthy conf.ctx.wfid = true) :
    cache_manager_write codec root data conf state =
      _write_fileserver codec root conf.name data conf.ctx state := by
  have notLocal : ¬(conf.strategy = "local" ∧ truthy conf.ctx.wfid = true) := by
    rw [written]
    exact fun both => absurd both.1 (by decide)
  rw [cache_manager_write, if_neg notLocal, if_pos ⟨written, named⟩]

theorem write_files_of_not_local (data : α) (state : State)
    (other : ¬(conf.strategy = "local" ∧ truthy conf.ctx.wfid = true)) :
    (cache_manager_write codec root data conf state).files = state.files := by
  rw [cache_manager_write, if_neg other]
  split <;> rfl

theorem write_server_of_not_fileserver (data : α) (state : State)
    (other : ¬(conf.strategy = "fileserver" ∧ truthy conf.ctx.wfid = true)) :
    (cache_manager_write codec root data conf state).server = state.server := by
  rw [cache_manager_write, if_neg other]
  split <;> rfl

theorem step_files (codec : Codec α) (root : String) (isLocal : conf.strategy = "local")
    (state : State) (write : Write α) :
    (step codec root state write).files (fpath conf.name conf.ctx) =
        (if write.sameLabel conf then some (write.pickle codec)
          else state.files (fpath conf.name conf.ctx)) ∧
      (step codec root state write).files (fmetapath conf.name conf.ctx) =
        (if write.sameLabel conf then some (write.context codec)
          else state.files (fmetapath conf.name conf.ctx)) := by
  obtain ⟨data, other⟩ := write
  simp only [step, Write.sameLabel, isLocal, decide_eq_true_eq]
  by_cases written : other.strategy = "local" ∧ truthy other.ctx.wfid = true
  · obtain ⟨strategy, named⟩ := written
    simp only [write_of_local data state strategy named, strategy, named, true_and]
    exact write_pickle_files other.name data other.ctx state
  · have skipped : ¬(other.strategy = "local" ∧ truthy other.ctx.wfid = true ∧
        label other.name other.ctx = label conf.name conf.ctx) :=
      fun all => written ⟨all.1, all.2.1⟩
    rw [if_neg skipped, if_neg skipped, write_files_of_not_local data state written]
    exact ⟨rfl, rfl⟩

/-- A file of pickles holds the data of the last write with this label, and the file beside it
the context of that write. -/
theorem files_eq (codec : Codec α) (root : String) (isLocal : conf.strategy = "local")
    (log : List (Write α)) :
    (run (step codec root) State.empty log).files (fpath conf.name conf.ctx) =
        (latest (Write.sameLabel conf) log).map (Write.pickle codec) ∧
      (run (step codec root) State.empty log).files (fmetapath conf.name conf.ctx) =
        (latest (Write.sameLabel conf) log).map (Write.context codec) := by
  have pickles := run_latest (fun state : State => state.files (fpath conf.name conf.ctx))
    (fun state write => (step_files codec root isLocal state write).1)
    State.empty log
  have contexts := run_latest (fun state : State => state.files (fmetapath conf.name conf.ctx))
    (fun state write => (step_files codec root isLocal state write).2)
    State.empty log
  rw [pickles, contexts]
  exact ⟨Option.or_none, Option.or_none⟩

theorem step_server (url : String) (state : State) (write : Write α) :
    (step codec root state write).server url =
      if write.puts root url then some (write.content codec root url) else state.server url := by
  obtain ⟨data, other⟩ := write
  simp only [step, Write.puts, decide_eq_true_eq]
  by_cases written : other.strategy = "fileserver" ∧ truthy other.ctx.wfid = true
  · obtain ⟨strategy, named⟩ := written
    simp only [write_of_fileserver data state strategy named, strategy, named, true_and,
      _write_fileserver, Function.update_apply, eq_comm (a := url), Write.content]
    by_cases context : metapath root other.name other.ctx = url
    · simp [context, Write.context]
    · by_cases pickle : urlpath root other.name other.ctx = url
      · simp [context, pickle, Write.pickle]
      · simp [context, pickle]
  · have skipped : ¬(other.strategy = "fileserver" ∧ truthy other.ctx.wfid = true ∧
        (urlpath root other.name other.ctx = url ∨ metapath root other.name other.ctx = url)) :=
      fun all => written ⟨all.1, all.2.1⟩
    rw [if_neg skipped, write_server_of_not_fileserver data state written]

theorem server_eq (url : String) (log : List (Write α)) :
    (run (step codec root) State.empty log).server url =
      (latest (Write.puts root url) log).map (Write.content codec root url) := by
  rw [run_latest (fun state : State => state.server url)
    (fun state write => step_server url state write) State.empty log]
  exact Option.or_none

theorem map_eq (log : List (Write α)) :
    map log (keyOf conf) = (latest (Write.own conf) log).map Write.entry := by
  rw [map, run_put]
  exact Option.or_none

/-! The writes of one triple among those to its files. -/

theorem asdict_inj {left right : SimpleExecCtx} (same : asdict left = asdict right) :
    left.wfid = right.wfid ∧ left.execid = right.execid := by
  simp only [asdict, List.cons.injEq, Prod.mk.injEq] at same
  exact ⟨same.1.2, same.2.1.2⟩

theorem sameLabel_of_own (named : truthy conf.ctx.wfid = true) {write : Write α}
    (own : write.own conf = true) : write.sameLabel conf = true := by
  simp only [Write.own, Write.key, keyOf, decide_eq_true_eq, Key.mk.injEq] at own
  obtain ⟨strategy, wfid, execid, name⟩ := own
  simp only [Write.sameLabel, label, decide_eq_true_eq, strategy, wfid, execid, name, named,
    and_self]

theorem own_of_sameLabel {write : Write α} (same : write.sameLabel conf = true)
    (wfid : write.conf.ctx.wfid = conf.ctx.wfid)
    (execid : write.conf.ctx.execid = conf.ctx.execid) :
    write.own conf = true := by
  simp only [Write.sameLabel, label, wfid, execid, decide_eq_true_eq, String.append_right_inj] at same
  simp only [Write.own, Write.key, keyOf, decide_eq_true_eq, same.1, same.2.2, wfid, execid]

theorem key_eq_of_own {write : Write α} (own : write.own conf = true) :
    write.conf.ctx.wfid = conf.ctx.wfid ∧ write.conf.ctx.execid = conf.ctx.execid := by
  simp only [Write.own, Write.key, keyOf, decide_eq_true_eq, Key.mk.injEq] at own
  exact ⟨own.2.1, own.2.2.1⟩

/-- A write to a file of this triple that leaves the context of the triple there is its own. -/
theorem own_of_context {write last : Write α} (same : write.sameLabel conf = true)
    (own : last.own conf = true) (context : asdict write.conf.ctx = asdict last.conf.ctx) :
    write.own conf = true := by
  obtain ⟨wfid, execid⟩ := asdict_inj context
  obtain ⟨ownWfid, ownExecid⟩ := key_eq_of_own own
  exact own_of_sameLabel same (wfid.trans ownWfid) (execid.trans ownExecid)

theorem remembered_of_none {log : List (Write α)} (never : latest (Write.own conf) log = none) :
    remembered log conf = (none, none) := by
  rw [remembered, map_eq, never]
  rfl

theorem remembered_of_some {log : List (Write α)} {last : Write α}
    (found : latest (Write.own conf) log = some last) :
    remembered log conf = (some last.data, some (asdict last.conf.ctx)) := by
  rw [remembered, map_eq, found]
  rfl

/-! The local strategy. -/

theorem read_local (isLocal : conf.strategy = "local") (named : truthy conf.ctx.wfid = true)
    (log : List (Write α)) :
    cache_manager_read codec root conf (run (step codec root) State.empty log) =
      match latest (Write.sameLabel conf) log with
      | none => .error (.typeError "cannot unpack non-iterable NoneType object")
      | some write =>
          .ok (some (codec.str (write.context codec)), some (asdict write.conf.ctx)) := by
  obtain ⟨pickles, contexts⟩ := files_eq codec root isLocal log
  rw [cache_manager_read, if_pos ⟨isLocal, named⟩, _restore_pickle, pickles, contexts]
  cases latest (Write.sameLabel conf) log with
  | none => rfl
  | some write =>
      simp only [Option.map_some, Write.pickle, Write.context, codec.loads_dumps,
        codec.json_loads_dumps]

theorem answers_local_iff (isLocal : conf.strategy = "local") (named : truthy conf.ctx.wfid = true)
    (log : List (Write α)) : Answers codec root log conf ↔ Meets codec root log conf := by
  have notServer : conf.strategy ≠ "fileserver" := by
    rw [isLocal]
    decide
  unfold Answers Meets
  rw [read_local isLocal named]
  cases found : latest (Write.own conf) log with
  | none =>
      rw [remembered_of_none found]
      constructor
      · intro answer
        split at answer <;> simp at answer
      · intro misses
        exact absurd isLocal (misses named).1
  | some last =>
      have own := (latest_mem found).2
      rw [remembered_of_some found]
      constructor
      · intro answer
        refine ⟨named, .inr ⟨isLocal, ?_⟩⟩
        split at answer
        · simp at answer
        · rename_i write there
          simp only [Except.ok.injEq, Prod.mk.injEq, Option.some.injEq] at answer
          have mine := own_of_context (latest_mem there).2 own answer.2
          have same := latest_of_imp (fun _ => sameLabel_of_own named) there mine
          obtain rfl := Option.some.inj (same.symm.trans found)
          exact ⟨write, there, mine, answer.1.symm⟩
      · rintro ⟨_, ⟨isServer, _⟩ | ⟨_, write, there, mine, text⟩⟩
        · exact absurd isServer notServer
        · have same := latest_of_imp (fun _ => sameLabel_of_own named) there mine
          obtain rfl := Option.some.inj (same.symm.trans found)
          rw [there, text]

/-! The file server. -/

section Server

variable (isServer : conf.strategy = "fileserver") {write : Write α}

include isServer

theorem puts_of_sameLabel (root : String) (same : write.sameLabel conf = true) :
    write.puts root (urlpath root conf.name conf.ctx) = true ∧
      write.puts root (metapath root conf.name conf.ctx) = true := by
  simp only [Write.sameLabel, decide_eq_true_eq, isServer] at same
  simp only [Write.puts, decide_eq_true_eq, urlpath_inj, metapath_inj, same, true_or, or_true,
    and_self]

theorem content_url (there : write.puts root (urlpath root conf.name conf.ctx) = true) :
    write.content codec root (urlpath root conf.name conf.ctx) =
      if write.sameLabel conf then write.pickle codec else write.context codec := by
  simp only [Write.puts, decide_eq_true_eq, urlpath_inj] at there
  by_cases same : label write.conf.name write.conf.ctx = label conf.name conf.ctx
  · have apart : metapath root write.conf.name write.conf.ctx ≠
        urlpath root conf.name conf.ctx := by
      rw [metapath_inj.mpr same]
      exact metapath_ne_urlpath conf.name conf.ctx
    simp [Write.content, Write.sameLabel, isServer, there.1, there.2.1, same, apart]
  · have context := there.2.2.resolve_left same
    simp [Write.content, Write.sameLabel, same, context]

theorem content_meta (there : write.puts root (metapath root conf.name conf.ctx) = true) :
    write.content codec root (metapath root conf.name conf.ctx) =
      if write.sameLabel conf then write.context codec else write.pickle codec := by
  simp only [Write.puts, decide_eq_true_eq, metapath_inj] at there
  by_cases same : label write.conf.name write.conf.ctx = label conf.name conf.ctx
  · simp [Write.content, Write.sameLabel, isServer, there.1, there.2.1, same, metapath_inj]
  · simp [Write.content, Write.sameLabel, same, metapath_inj]

end Server

theorem read_fileserver (isServer : conf.strategy = "fileserver")
    (named : truthy conf.ctx.wfid = true) (log : List (Write α)) :
    cache_manager_read codec root conf (run (step codec root) State.empty log) =
      match latest (Write.puts root (urlpath root conf.name conf.ctx)) log,
        latest (Write.puts root (metapath root conf.name conf.ctx)) log with
      | some data, some context =>
          if data.sameLabel conf then
            .ok (some data.data,
              if context.sameLabel conf then some (asdict context.conf.ctx) else none)
          else .ok (none, none)
      | _, _ => .ok (none, none) := by
  have notLocal : ¬(conf.strategy = "local" ∧ truthy conf.ctx.wfid = true) := by
    rw [isServer]
    exact fun both => absurd both.1 (by decide)
  rw [cache_manager_read, if_neg notLocal, if_pos ⟨isServer, named⟩, _restore_fileserver,
    server_eq, server_eq]
  cases pickles : latest (Write.puts root (urlpath root conf.name conf.ctx)) log with
  | none => rfl
  | some data =>
      cases contexts : latest (Write.puts root (metapath root conf.name conf.ctx)) log with
      | none => rfl
      | some context =>
          rw [Option.map_some, Option.map_some, content_url isServer (latest_mem pickles).2,
            content_meta isServer (latest_mem contexts).2]
          by_cases same : data.sameLabel conf = true
          · by_cases also : context.sameLabel conf = true
            · simp [same, also, Write.pickle, Write.context, codec.loads_dumps,
                codec.json_loads_dumps]
            · simp [same, also, Write.pickle, codec.loads_dumps, codec.json_loads_pickle]
          · simp [same, Write.context, codec.loads_json]

/-- Neither was the triple written, nor did a triple with the same label write the last data. -/
theorem misses_fileserver_iff (isServer : conf.strategy = "fileserver")
    (named : truthy conf.ctx.wfid = true) (log : List (Write α)) :
    cache_manager_read codec root conf (run (step codec root) State.empty log) =
        .ok (none, none) ↔ MissesWhen root log conf := by
  have notLocal : conf.strategy ≠ "local" := by
    rw [isServer]
    decide
  rw [read_fileserver isServer named]
  constructor
  · intro answer _
    refine ⟨notLocal, fun _ write there => ?_⟩
    by_contra same
    rw [Bool.not_eq_false] at same
    obtain ⟨beside, context⟩ := latest_isSome_of_mem (latest_mem there).1
      (puts_of_sameLabel isServer root same).2
    simp [there, context, same] at answer
  · intro misses
    split
    · rename_i data context there beside
      rw [if_neg (by rw [(misses named).2 isServer data there]; exact Bool.false_ne_true)]
    · rfl

theorem hits_fileserver_iff (isServer : conf.strategy = "fileserver")
    (named : truthy conf.ctx.wfid = true) {log : List (Write α)} {last : Write α}
    (found : latest (Write.own conf) log = some last) :
    cache_manager_read codec root conf (run (step codec root) State.empty log) =
        .ok (some last.data, some (asdict last.conf.ctx)) ↔ HitsWhen codec root log conf := by
  have notLocal : conf.strategy ≠ "local" := by
    rw [isServer]
    decide
  have own := (latest_mem found).2
  rw [read_fileserver isServer named]
  constructor
  · intro answer
    refine ⟨named, .inl ⟨isServer, ?_⟩⟩
    split at answer
    · rename_i data context there beside
      by_cases same : data.sameLabel conf = true
      · rw [if_pos same] at answer
        by_cases also : context.sameLabel conf = true
        · rw [if_pos also] at answer
          simp only [Except.ok.injEq, Prod.mk.injEq, Option.some.injEq] at answer
          have mine := own_of_context also own answer.2
          -- both files carry the label, so that the last to one is the last to the other
          have first := latest_of_imp
            (fun _ labelled => (puts_of_sameLabel isServer root labelled).1) there same
          have second := latest_of_imp
            (fun _ labelled => (puts_of_sameLabel isServer root labelled).2) beside also
          obtain rfl := Option.some.inj (first.symm.trans second)
          simp only [List.mem_cons, List.not_mem_nil, or_false, forall_eq_or_imp, forall_eq]
          exact ⟨⟨data, there, mine⟩, data, beside, mine⟩
        · simp [also] at answer
      · simp [same] at answer
    · simp at answer
  · rintro ⟨_, ⟨_, both⟩ | ⟨isLocal, _⟩⟩
    · simp only [List.mem_cons, List.not_mem_nil, or_false, forall_eq_or_imp, forall_eq] at both
      obtain ⟨⟨data, there, ofData⟩, context, beside, ofContext⟩ := both
      have labelled : ∀ write : Write α, write.own conf = true → write.sameLabel conf = true :=
        fun _ => sameLabel_of_own named
      have first := latest_of_imp (fun write mine =>
        (puts_of_sameLabel isServer root (labelled write mine)).1) there ofData
      have second := latest_of_imp (fun write mine =>
        (puts_of_sameLabel isServer root (labelled write mine)).2) beside ofContext
      obtain rfl := Option.some.inj (first.symm.trans found)
      obtain rfl := Option.some.inj (second.symm.trans found)
      rw [there, beside]
      simp only [labelled _ ofData, if_true]
    · exact absurd isLocal notLocal

theorem answers_fileserver_iff (isServer : conf.strategy = "fileserver")
    (named : truthy conf.ctx.wfid = true) (log : List (Write α)) :
    Answers codec root log conf ↔ Meets codec root log conf := by
  unfold Answers Meets
  cases found : latest (Write.own conf) log with
  | none =>
      rw [remembered_of_none found]
      exact misses_fileserver_iff isServer named log
  | some last =>
      rw [remembered_of_some found]
      exact hits_fileserver_iff isServer named found

theorem answers_unstored_iff (unstored : ¬(conf.strategy = "local" ∧ truthy conf.ctx.wfid = true))
    (also : ¬(conf.strategy = "fileserver" ∧ truthy conf.ctx.wfid = true))
    (log : List (Write α)) : Answers codec root log conf ↔ Meets codec root log conf := by
  unfold Answers Meets
  rw [cache_manager_read, if_neg unstored, if_neg also]
  cases found : latest (Write.own conf) log with
  | none =>
      rw [remembered_of_none found]
      refine iff_of_true rfl fun named => ⟨fun isLocal => unstored ⟨isLocal, named⟩, ?_⟩
      exact fun isServer => absurd ⟨isServer, named⟩ also
  | some last =>
      rw [remembered_of_some found]
      apply iff_of_false (by simp)
      rintro ⟨named, ⟨isServer, _⟩ | ⟨isLocal, _⟩⟩
      · exact also ⟨isServer, named⟩
      · exact unstored ⟨isLocal, named⟩

end Views

namespace Sample

def numbered {β : Type} [Encodable β] (first : UInt8) (value : β) : Bytes :=
  first :: List.replicate (Encodable.encode value) 0

def valueOf (β : Type) [Encodable β] (first : UInt8) : Bytes → Option β
  | [] => none
  | byte :: rest => if byte = first then Encodable.decode rest.length else none

theorem valueOf_numbered {β : Type} [Encodable β] (first : UInt8) (value : β) :
    valueOf β first (numbered first value) = some value := by
  rw [numbered, valueOf, if_pos rfl, List.length_replicate, Encodable.encodek]

def codes (text : String) : List Nat := text.toList.map Char.toNat

def decoded (codes : List Nat) : String := String.ofList (codes.map Char.ofNat)

theorem decoded_codes (text : String) : decoded (codes text) = text := by
  have back : Char.ofNat ∘ Char.toNat = id := funext Char.ofNat_toNat
  rw [decoded, codes, List.map_map, back, List.map_id, String.ofList_toList]

def codec : Codec String where
  dumps data := numbered 128 (codes data)
  loads stored := (valueOf (List Nat) 128 stored).map decoded
  json_dumps meta_ := numbered 123 (meta_.map fun (name, value) => (codes name, value.map codes))
  json_loads stored := (valueOf (List (List Nat × Option (List Nat))) 123 stored).map
    fun entries => entries.map fun (name, value) => (decoded name, value.map decoded)
  str stored := decoded (stored.map UInt8.toNat)
  loads_dumps data := by rw [valueOf_numbered, Option.map_some, decoded_codes]
  loads_json _ := rfl
  json_loads_dumps meta_ := by
    rw [valueOf_numbered, Option.map_some, List.map_map]
    simp [Function.comp_def, decoded_codes]
  json_loads_pickle _ := rfl

end Sample

end ResultCache

end LabFunctions
