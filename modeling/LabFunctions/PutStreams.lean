import LabFunctions.KVStores
import LabFunctions.UploadKeys

/-!
`put_stream` of the two stores over local files when the chunks stop with an exception, and the
upload of a project that is broken off.
-/

namespace LabFunctions

namespace PutStreams

open KVStores

/-- A store whose root is a directory. A file that is written in a block is closed with the block,
however it is left: what had been written by then is read back. -/
structure LocalStore where
  smart : SmartOpen
  root : String
  bucket : String
  closed : ∀ key before written, ∃ left,
    smart.abandon (KVLocal.uri root bucket key) before written = some left ∧
      smart.read (KVLocal.uri root bucket key) left = some written

/-- `except Exception` does not catch the cancellation of a task, nor an interrupt. -/
inductive Failure where
  | exception (error_msg : String)
  | interrupt (name : String)

structure Source extends Generator where
  failure : Option Failure := none

/-- What a loop over the source has written when it ends, and what has ended it. -/
def Source.forLoop (source : Source) : Bytes × Option Failure :=
  if source.asynchronous then
    ([], some (.exception "'async_generator' object is not iterable"))
  else (drain [] source.chunks, source.failure)

def Source.asyncForLoop (source : Source) : Bytes × Option Failure :=
  if source.asynchronous then (drain [] source.chunks, source.failure)
  else ([], some (.exception
    "'async for' requires an object with __aiter__ method, got generator"))

/-- How `mkdir_p` fails, if it does, and how the write ends but for the source. -/
structure Disk where
  mkdir_p : Option String := none
  outcome : Outcome := .stored

inductive Result where
  | report (report : Report)
  | interrupted (name : String)

/-- A block `with open(..)` around a loop over the source. -/
def writeBlock (outcome : Outcome) (places : Places) (place : String) (encode : Bytes → Bytes)
    (abandoned : Bytes → Option Bytes) (body : Bytes × Option Failure) :
    Option Failure × Places :=
  match outcome, body with
  | .stored, (data, none) => (none, Function.update places place (some (encode data)))
  | .stored, (data, some failure) =>
      (some failure, Function.update places place (abandoned data))
  | .refused _ _, _ => (some (.exception "Permission denied"), places)
  | .raised error_msg left, _ =>
      (some (.exception error_msg), Function.update places place left)

/-- What comes of the handler around the block. -/
def handled (bucket key : String) : Option Failure → Result
  | none => .report (.ok (some true))
  | some (.exception e) => .report (.error (.keyWriteError bucket key e))
  | some (.interrupt name) => .interrupted name

section Source

variable (store : LocalStore) (disk : Disk) (places : Places) (key : String) (source : Source)

def KVLocal.put_stream : Result × Places :=
  let uri := KVLocal.uri store.root store.bucket key
  match disk.mkdir_p with
  | some e => (.report (.error (.otherError e)), places)
  | none =>
      let (failure, places) := writeBlock disk.outcome places uri (store.smart.write uri)
        (store.smart.abandon uri (places uri)) source.forLoop
      (handled store.bucket key failure, places)

def AsyncKVLocal.put_stream : Result × Places :=
  let uri := KVStores.AsyncKVLocal.uri store.root store.bucket key
  match disk.mkdir_p with
  | some e => (.report (.error (.otherError e)), places)
  | none =>
      let (failure, places) := writeBlock disk.outcome places uri id some source.asyncForLoop
      (handled store.bucket key failure, places)

/-- The upload of a project, up to its answer: the chunks of the body go to the store. -/
def project_upload (unicode : Unicode) (db : Database) (projectid : String)
    (upload : Projects.Upload) : Except Exn Result × Places :=
  match Projects.project_upload unicode db projectid upload with
  | .error failure => (.error failure, places)
  | .ok uri =>
      let (result, places) := AsyncKVLocal.put_stream store disk places uri source
      (.ok result, places)

end Source

/-! The two implementations as one. -/

inductive Kind where
  | kvLocal
  | asyncKVLocal
  deriving DecidableEq

section Kinds

variable (kind : Kind) (store : LocalStore) (disk : Disk) (places : Places) (key : String)
  (source : Source)

def Kind.put_stream : Result × Places :=
  match kind with
  | kvLocal => KVLocal.put_stream store disk places key source
  | asyncKVLocal => AsyncKVLocal.put_stream store disk places key source

def Kind.get : Except KVExn (Option Bytes) :=
  match kind with
  | kvLocal => KVLocal.get store.smart store.root store.bucket places key
  | asyncKVLocal => KVStores.AsyncKVLocal.get store.root store.bucket places key

/-- Whether the loop of `put_stream` takes the source; one of the other sort stops it at once. -/
def Kind.Takes : Prop :=
  match kind with
  | kvLocal => source.asynchronous = false
  | asyncKVLocal => source.asynchronous = true

instance : Decidable (kind.Takes source) := by
  unfold Kind.Takes
  cases kind <;> infer_instance

/-- What has come of the chunks when the source fails. -/
def Kind.came : Bytes := if kind.Takes source then source.chunks.flatten else []

structure Atomic : Prop where
  raised : ∃ error_msg, (kind.put_stream store disk places key source).1 =
    .report (.error (.keyWriteError store.bucket key error_msg))
  kept : kind.get store (kind.put_stream store disk places key source).2 key =
    kind.get store places key

def BundleKept (unicode : Unicode) (db : Database) (projectid : String)
    (upload : Projects.Upload) : Prop :=
  ∀ uri, Projects.project_upload unicode db projectid upload = .ok uri →
    KVStores.AsyncKVLocal.get store.root store.bucket
        (project_upload store disk places source unicode db projectid upload).2 uri =
      KVStores.AsyncKVLocal.get store.root store.bucket places uri

/-! When they hold, of a source that fails. -/

/-- What stops the loop is an `Exception`. -/
def Caught (failure : Failure) : Prop :=
  kind.Takes source → ∃ error_msg, failure = .exception error_msg

def Raises (failure : Failure) : Prop :=
  disk.mkdir_p = none ∧
    match disk.outcome with
    | .stored => Caught kind source failure
    | _ => True

/-- The file was never opened, or what had come by then is just what was there. -/
def Keeps : Prop :=
  disk.mkdir_p = none →
    match disk.outcome with
    | .stored => kind.get store places key = .ok (some (kind.came source))
    | .refused _ _ => True
    | .raised _ left =>
        kind.get store (Function.update places (KVLocal.uri store.root store.bucket key) left) key =
          kind.get store places key

end Kinds

section Blocks

variable {kind : Kind} {store : LocalStore} {disk : Disk} {places : Places} {key : String}

def Kind.loop (kind : Kind) (source : Source) : Bytes × Option Failure :=
  match kind with
  | kvLocal => source.forLoop
  | asyncKVLocal => source.asyncForLoop

def Kind.encode (kind : Kind) (store : LocalStore) (key : String) : Bytes → Bytes :=
  match kind with
  | kvLocal => store.smart.write (KVLocal.uri store.root store.bucket key)
  | asyncKVLocal => id

def Kind.abandoned (kind : Kind) (store : LocalStore) (places : Places) (key : String) :
    Bytes → Option Bytes :=
  let uri := KVLocal.uri store.root store.bucket key
  match kind with
  | kvLocal => store.smart.abandon uri (places uri)
  | asyncKVLocal => some

theorem put_stream_eq (source : Source) :
    kind.put_stream store disk places key source =
      match disk.mkdir_p with
      | some e => (.report (.error (.otherError e)), places)
      | none =>
          let (failure, places) := writeBlock disk.outcome places
            (KVLocal.uri store.root store.bucket key) (kind.encode store key)
            (kind.abandoned store places key) (kind.loop source)
          (handled store.bucket key failure, places) := by
  cases kind <;> rfl

theorem get_abandoned (before : Places) (written : Bytes) :
    kind.get store (Function.update places (KVLocal.uri store.root store.bucket key)
      (kind.abandoned store before key written)) key = .ok (some written) := by
  cases kind with
  | kvLocal =>
      obtain ⟨left, abandoned, reads⟩ := store.closed key
        (before (KVLocal.uri store.root store.bucket key)) written
      simp only [Kind.get, KVLocal.get, readFile, Kind.abandoned, Function.update_self, abandoned,
        reads]
  | asyncKVLocal =>
      simp only [Kind.get, KVStores.AsyncKVLocal.get, KVStores.AsyncKVLocal.uri, readFile,
        Kind.abandoned, Function.update_self]

theorem loop_of_takes {source : Source} (takes : kind.Takes source) :
    kind.loop source = (kind.came source, source.failure) := by
  rw [Kind.came, if_pos takes]
  cases kind with
  | kvLocal =>
      have sync : ¬source.asynchronous = true := Bool.eq_false_iff.mp takes
      rw [Kind.loop, Source.forLoop, if_neg sync, drain_eq, List.nil_append]
  | asyncKVLocal =>
      have asynchronous : source.asynchronous = true := takes
      rw [Kind.loop, Source.asyncForLoop, if_pos asynchronous, drain_eq, List.nil_append]

theorem loop_of_not_takes {source : Source} (takes : ¬kind.Takes source) :
    ∃ error_msg, kind.loop source = (kind.came source, some (.exception error_msg)) := by
  rw [Kind.came, if_neg takes]
  cases kind with
  | kvLocal =>
      have asynchronous : source.asynchronous = true := by
        simpa [Kind.Takes] using takes
      exact ⟨_, by rw [Kind.loop, Source.forLoop, if_pos asynchronous]⟩
  | asyncKVLocal =>
      have sync : ¬source.asynchronous = true := takes
      exact ⟨_, by rw [Kind.loop, Source.asyncForLoop, if_neg sync]⟩

/-- How a loop over a source that fails ends, for both sorts of sources. -/
theorem loop_failing (kind : Kind) (generator : Generator) (failure : Failure) :
    ∃ stopped, kind.loop { generator with failure := some failure } =
        (kind.came { generator with failure := some failure }, some stopped) ∧
      ((∃ error_msg, stopped = .exception error_msg) ↔
        Caught kind { generator with failure := some failure } failure) := by
  by_cases takes : kind.Takes { generator with failure := some failure }
  · refine ⟨failure, loop_of_takes takes, ?_⟩
    exact ⟨fun exception _ => exception, fun caught => caught takes⟩
  · obtain ⟨error_msg, loop⟩ := loop_of_not_takes takes
    refine ⟨.exception error_msg, loop, iff_of_true ⟨error_msg, rfl⟩ ?_⟩
    exact fun taken => absurd taken takes

theorem handled_iff {failure : Option Failure} :
    (∃ error_msg, handled store.bucket key failure =
        .report (.error (.keyWriteError store.bucket key error_msg))) ↔
      ∃ error_msg, failure = some (.exception error_msg) := by
  cases failure with
  | none => simp [handled]
  | some failure => cases failure <;> simp [handled]

/-- `KeyWriteError` is raised. -/
theorem raised_iff (generator : Generator) (failure : Failure) :
    (∃ error_msg, (kind.put_stream store disk places key
        { generator with failure := some failure }).1 =
          .report (.error (.keyWriteError store.bucket key error_msg))) ↔
      Raises kind disk { generator with failure := some failure } failure := by
  obtain ⟨stopped, loop, caught⟩ := loop_failing kind generator failure
  rw [put_stream_eq, Raises]
  cases disk.mkdir_p with
  | some e => simp
  | none =>
      simp only [true_and, handled_iff, loop]
      cases disk.outcome with
      | stored => simpa [writeBlock] using caught
      | refused status other => simp [writeBlock]
      | raised error_msg left => simp [writeBlock]

theorem kept_iff (generator : Generator) (failure : Failure) :
    kind.get store (kind.put_stream store disk places key
        { generator with failure := some failure }).2 key = kind.get store places key ↔
      Keeps kind store disk places key { generator with failure := some failure } := by
  obtain ⟨stopped, loop, _⟩ := loop_failing kind generator failure
  rw [put_stream_eq, Keeps]
  cases disk.mkdir_p with
  | some e => simp
  | none =>
      simp only [forall_const, loop]
      cases disk.outcome with
      | stored =>
          simp only [writeBlock, get_abandoned]
          exact eq_comm
      | refused status other => simp [writeBlock]
      | raised error_msg left => simp [writeBlock]

end Blocks

/-- With chunks that are all there `put_stream` is the one of a store that is not disturbed. -/
theorem put_stream_whole (store : LocalStore) (outcome : Outcome) (places : Places) (key : String)
    (chunks : List Bytes) :
    PutStreams.KVLocal.put_stream store { outcome } places key { chunks } =
        ((KVStores.KVLocal.put_stream store.smart store.root store.bucket places key { chunks }
          outcome).map .report id) ∧
      PutStreams.AsyncKVLocal.put_stream store { outcome } places key
          { chunks, asynchronous := true } =
        ((KVStores.AsyncKVLocal.put_stream store.root store.bucket places key
          { chunks, asynchronous := true } outcome).map .report id) := by
  cases outcome <;> exact ⟨rfl, rfl⟩

/-- A `put_stream` whose chunks fail raises `KeyWriteError` and leaves the key as it was exactly if
the failure is an `Exception`, and the file was not opened or held just what had come by then. The
same decides on the bundle of an upload that is broken off. -/
theorem put_stream_atomic_iff (store : LocalStore) (disk : Disk) (places : Places)
    (generator : Generator) (failure : Failure) :
    let source : Source := { generator with failure := some failure }
    (∀ kind key, Atomic kind store disk places key source ↔
      Raises kind disk source failure ∧ Keeps kind store disk places key source) ∧
    ∀ unicode db projectid upload,
      BundleKept store disk places source unicode db projectid upload ↔
        ∀ uri, Projects.project_upload unicode db projectid upload = .ok uri →
          Keeps .asyncKVLocal store disk places uri source := by
  intro source
  constructor
  · intro kind key
    rw [← raised_iff, ← kept_iff]
    exact ⟨fun atomic => ⟨atomic.raised, atomic.kept⟩, fun both => ⟨both.1, both.2⟩⟩
  · intro unicode db projectid upload
    refine forall₂_congr fun uri accepted => ?_
    have stored : (project_upload store disk places source unicode db projectid upload).2 =
        (AsyncKVLocal.put_stream store disk places uri source).2 := by
      rw [project_upload, accepted]
    have kept : Kind.asyncKVLocal.get store
        (Kind.asyncKVLocal.put_stream store disk places uri source).2 uri =
          Kind.asyncKVLocal.get store places uri ↔
        Keeps .asyncKVLocal store disk places uri source :=
      kept_iff generator failure
    rw [stored]
    exact kept

namespace Sample

def store : LocalStore where
  smart := { KVStores.Sample.smart with abandon := fun _ _ written => some written }
  root := "/tmp/labstore"
  bucket := "lab"
  closed _ _ written := ⟨written, rfl, rfl⟩

def uploaded : Places :=
  Function.update (fun _ => none) "/tmp/labstore/lab/p/uploads/lab.zip" (some [80, 75, 3, 4])

def broken : Source :=
  { chunks := [[80], [75]], asynchronous := true, failure := some (.exception "closed") }

end Sample

/-- What had come of the new bundle is what is left of the old one. -/
theorem bundle_truncated : ¬∀ (store : LocalStore) (disk : Disk) (places : Places)
    (generator : Generator) (failure : Failure) (kind : Kind) (key : String),
      Atomic kind store disk places key { generator with failure := some failure } := by
  intro atomic
  have kept := (atomic Sample.store {} Sample.uploaded Sample.broken.toGenerator
    (.exception "closed") .asyncKVLocal "p/uploads/lab.zip").kept
  have whole : Kind.asyncKVLocal.get Sample.store Sample.uploaded "p/uploads/lab.zip" =
      .ok (some [80, 75, 3, 4]) := rfl
  have came : Kind.asyncKVLocal.came Sample.broken = [80, 75] := rfl
  have same := (kept_iff Sample.broken.toGenerator (.exception "closed")).mp kept rfl
  change Kind.asyncKVLocal.get Sample.store Sample.uploaded "p/uploads/lab.zip" =
    .ok (some (Kind.asyncKVLocal.came Sample.broken)) at same
  rw [whole, came] at same
  cases same

end PutStreams

end LabFunctions
