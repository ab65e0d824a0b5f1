import Mathlib.Data.List.Basic
import Mathlib.Logic.Function.Basic
import LabFunctions.Library.Runs

/-!
`labfunctions.io.kvspec` and the six stores that implement it over files, over a file server and
over a bucket of Google Cloud Storage. Each of the three is a map from places to bytes.
-/

namespace LabFunctions

abbrev Bytes := List UInt8

abbrev Places := String → Option Bytes

namespace KVStores

open Runs

/-- What is used of `smart_open`: the object that a `gs://` address with a key opens, and what it
stores at an address and reads back from there. A block that is left by an exception abandons the
place with what was in it and what had been written. -/
structure SmartOpen where
  blob : String → String
  write : String → Bytes → Bytes
  read : String → Bytes → Option Bytes
  abandon : String → Option Bytes → Bytes → Option Bytes
  read_write : ∀ uri data, read uri (write uri data) = some data

/-- The body of an answer 404, and the chunks in which a body arrives. -/
structure FileServer where
  missing : String → Bytes
  chunks : Bytes → List Bytes
  flatten_chunks : ∀ body, (chunks body).flatten = body
  chunk_ne : ∀ body, [] ∉ chunks body

inductive KVExn where
  | keyReadError (bucket key error_msg : String)
  | keyWriteError (bucket key error_msg : String)
  | typeError (message : String)
  | runtimeError (message : String)
  | otherError (message : String)

def KVExn.text : KVExn → String
  | keyReadError bucket key error_msg =>
      "Value not found for key " ++ key ++ " in " ++ bucket ++ " with error: " ++ error_msg
  | keyWriteError bucket key error_msg =>
      "Value not written for key " ++ key ++ " in " ++ bucket ++ " with error: " ++ error_msg
  | typeError message => message
  | runtimeError message => message
  | otherError message => message

/-- How a write ends at the place it is made to. -/
inductive Outcome where
  | stored
  | refused (status : Nat) (other : status ≠ 201)
  | raised (error_msg : String) (left : Option Bytes)

/-- A generator object. The signatures ask for one that is not asynchronous. -/
structure Generator where
  chunks : List Bytes
  asynchronous : Bool := false

/-- What a method that writes returns or raises; `none` is Python's `None`. -/
abbrev Report := Except KVExn (Option Bool)

inductive Item where
  | bytes (data : Bytes)
  | generator

/-- What a method that streams yields, and what it raises after that. -/
structure Stream where
  items : List Item
  raised : Option KVExn := none

/-! Loops over a generator, and over what is read. -/

def drain (written : Bytes) : List Bytes → Bytes
  | [] => written
  | chunk :: rest => drain (written ++ chunk) rest

def Generator.forLoop (generator : Generator) : Except String Bytes :=
  if generator.asynchronous then .error "'async_generator' object is not iterable"
  else .ok (drain [] generator.chunks)

def Generator.asyncForLoop (generator : Generator) : Except String Bytes :=
  if generator.asynchronous then .ok (drain [] generator.chunks)
  else .error "'async for' requires an object with __aiter__ method, got generator"

def Generator.nextLoop (generator : Generator) : Except String Bytes :=
  if generator.asynchronous then .error "'async_generator' object has no attribute '__next__'"
  else .ok (drain [] generator.chunks)

/-- The iteration over a binary file goes line by line. -/
def linesFrom (line : Bytes) : Bytes → List Bytes
  | [] => if line = [] then [] else [line]
  | byte :: rest =>
      if byte = 10 then (line ++ [byte]) :: linesFrom [] rest else linesFrom (line ++ [byte]) rest

def blocks (data : Bytes) : List Bytes :=
  if data = [] then [] else data.take 1024 :: blocks (data.drop 1024)
termination_by data.length
decreasing_by
  have some := List.length_pos_of_ne_nil ‹_›
  rw [List.length_drop]
  omega

/-- A block `with open(..)` that writes: `body` is what it writes in all, or what it raises. -/
def writeFile (outcome : Outcome) (places : Places) (place : String) (encode : Bytes → Bytes)
    (abandoned : Option Bytes) (body : Except String Bytes) : Except String Unit × Places :=
  match outcome, body with
  | .stored, .ok data => (.ok (), Function.update places place (some (encode data)))
  | .stored, .error error_msg => (.error error_msg, Function.update places place abandoned)
  | .refused _ _, _ => (.error "Permission denied", places)
  | .raised error_msg left, _ => (.error error_msg, Function.update places place left)

def readFile (places : Places) (place : String) (decode : Bytes → Option Bytes) :
    Except String Bytes :=
  match places place with
  | none => .error ("No such file or directory: " ++ place)
  | some stored =>
      match decode stored with
      | none => .error "Not a compressed file"
      | some data => .ok data

def httpPut (outcome : Outcome) (places : Places) (url : String) (content : Bytes) :
    Except KVExn Nat × Places :=
  match outcome with
  | .stored => (.ok 201, Function.update places url (some content))
  | .refused status _ => (.ok status, places)
  | .raised error_msg left => (.error (.otherError error_msg), Function.update places url left)

def httpGet (server : FileServer) (places : Places) (url : String) : Nat × Bytes :=
  match places url with
  | some content => (200, content)
  | none => (404, server.missing url)

/-- What the methods make of such a block: `rsp` is what they return after it, and `failure` what
the handler around it does. -/
def report (rsp : Option Bool) (failure : String → Report) : Except String Unit → Report
  | .ok _ => .ok rsp
  | .error e => failure e

section Local

variable (smart : SmartOpen) (root bucket : String)

def KVLocal.uri (key : String) : String := root ++ "/" ++ bucket ++ "/" ++ key

def KVLocal.put (places : Places) (key : String) (bdata : Bytes) (outcome : Outcome) :
    Report × Places :=
  let uri := KVLocal.uri root bucket key
  let (result, places) :=
    writeFile outcome places uri (smart.write uri) (smart.abandon uri (places uri) []) (.ok bdata)
  (report none (fun e => .error (.keyWriteError bucket key e)) result, places)

def KVLocal.put_stream (places : Places) (key : String) (generator : Generator)
    (outcome : Outcome) : Report × Places :=
  let uri := KVLocal.uri root bucket key
  let (result, places) :=
    writeFile outcome places uri (smart.write uri) (smart.abandon uri (places uri) [])
      generator.forLoop
  (report (some true) (fun e => .error (.keyWriteError bucket key e)) result, places)

def KVLocal.get (places : Places) (key : String) : Except KVExn (Option Bytes) :=
  let uri := KVLocal.uri root bucket key
  match readFile places uri (smart.read uri) with
  | .ok obj => .ok (some obj)
  | .error e => .error (.keyReadError bucket key e)

def KVLocal.get_stream (places : Places) (key : String) : Stream :=
  let uri := KVLocal.uri root bucket key
  match readFile places uri (smart.read uri) with
  | .ok obj => { items := (linesFrom [] obj).map .bytes }
  | .error e => { items := [], raised := some (.keyReadError bucket key e) }

/-! `aiofiles` opens the file as it is and leaves it empty where nothing is written. -/

def AsyncKVLocal.uri (key : String) : String := KVLocal.uri root bucket key

def AsyncKVLocal.put (places : Places) (key : String) (bdata : Bytes) (outcome : Outcome) :
    Report × Places :=
  let (result, places) :=
    writeFile outcome places (AsyncKVLocal.uri root bucket key) id (some []) (.ok bdata)
  (report none (fun e => .error (.keyWriteError bucket key e)) result, places)

def AsyncKVLocal.put_stream (places : Places) (key : String) (generator : Generator)
    (outcome : Outcome) : Report × Places :=
  let (result, places) :=
    writeFile outcome places (AsyncKVLocal.uri root bucket key) id (some []) generator.asyncForLoop
  (report (some true) (fun e => .error (.keyWriteError bucket key e)) result, places)

def AsyncKVLocal.get (places : Places) (key : String) : Except KVExn (Option Bytes) :=
  match readFile places (AsyncKVLocal.uri root bucket key) some with
  | .ok data => .ok (some data)
  | .error e => .error (.keyReadError bucket key e)

def AsyncKVLocal.get_stream (places : Places) (key : String) : Stream :=
  match readFile places (AsyncKVLocal.uri root bucket key) some with
  | .ok data => { items := (blocks data).map .bytes }
  | .error e => { items := [], raised := some (.keyReadError bucket key e) }

end Local

section Files

variable (server : FileServer) (opts_url bucket : String)

def KVFiles.url (key : String) : String := opts_url ++ "/" ++ bucket ++ "/" ++ key

def KVFiles.put (places : Places) (key : String) (bdata : Bytes) (outcome : Outcome) :
    Report × Places :=
  match httpPut outcome places (KVFiles.url opts_url bucket key) bdata with
  | (.ok status_code, places) => (.ok (some (status_code == 201)), places)
  | (.error e, places) => (.error e, places)

/-- The generator object is called, before anything is sent. -/
def KVFiles.put_stream (places : Places) (generator : Generator) : Report × Places :=
  (.error (.typeError (if generator.asynchronous then "'async_generator' object is not callable"
    else "'generator' object is not callable")), places)

def KVFiles.get (places : Places) (key : String) : Except KVExn (Option Bytes) :=
  match httpGet server places (KVFiles.url opts_url bucket key) with
  | (status_code, content) => .ok (if status_code = 200 then some content else none)

def KVFiles.get_stream (places : Places) (key : String) : Stream :=
  let (_, body) := httpGet server places (KVFiles.url opts_url bucket key)
  { items := (server.chunks body).map .bytes }

def AsyncKVFiles.put (places : Places) (key : String) (bdata : Bytes) (outcome : Outcome) :
    Report × Places :=
  KVFiles.put opts_url bucket places key bdata outcome

def AsyncKVFiles.put_stream (places : Places) (key : String) (generator : Generator)
    (outcome : Outcome) : Report × Places :=
  if generator.asynchronous then
    AsyncKVFiles.put opts_url bucket places key (drain [] generator.chunks) outcome
  else
    (.error (.runtimeError "Attempted to send an sync request with an AsyncClient instance."),
      places)

def AsyncKVFiles.get (places : Places) (key : String) : Except KVExn (Option Bytes) :=
  .ok (some (httpGet server places (KVFiles.url opts_url bucket key)).2)

def AsyncKVFiles.get_stream (places : Places) (key : String) : Stream :=
  KVFiles.get_stream server opts_url bucket places key

end Files

section Cloud

variable (smart : SmartOpen) (bucket : String)

def KVGS.uri (key : String) : String := "gs://" ++ bucket ++ "/" ++ key

def KVGS.put (places : Places) (key : String) (bdata : Bytes) (outcome : Outcome) :
    Report × Places :=
  let (result, places) := writeFile outcome places key id (places key) (.ok bdata)
  (report none (fun e => .error (.otherError e)) result, places)

def KVGS.put_stream (places : Places) (key : String) (generator : Generator) (outcome : Outcome) :
    Report × Places :=
  let place := smart.blob key
  let (result, places) := writeFile outcome places place (smart.write (KVGS.uri bucket key))
      (smart.abandon (KVGS.uri bucket key) (places place) []) generator.nextLoop
  (report (some true) (fun _ => .ok (some false)) result, places)

def KVGS.get (places : Places) (key : String) : Except KVExn (Option Bytes) := .ok (places key)

def KVGS.get_stream (places : Places) (key : String) : Stream :=
  match readFile places (smart.blob key) (smart.read (KVGS.uri bucket key)) with
  | .ok data => { items := (linesFrom [] data).map .bytes }
  | .error e => { items := [], raised := some (.otherError e) }

def AsyncKVGS.put (places : Places) (key : String) (bdata : Bytes) (outcome : Outcome) :
    Report × Places :=
  KVGS.put places key bdata outcome

def AsyncKVGS.put_stream (places : Places) (key : String) (generator : Generator)
    (outcome : Outcome) : Report × Places :=
  KVGS.put_stream smart bucket places key generator outcome

def AsyncKVGS.get (places : Places) (key : String) : Except KVExn (Option Bytes) :=
  KVGS.get places key

/-- `run_async` returns the generator that `KVGS.get_stream` is, and that is what is yielded. -/
def AsyncKVGS.get_stream : Stream := { items := [.generator] }

end Cloud

/-! The six stores as one, and the abstract map beside a run of it. -/

inductive Store where
  | kvLocal (root bucket : String)
  | asyncKVLocal (root bucket : String)
  | kvFiles (opts_url bucket : String)
  | asyncKVFiles (opts_url bucket : String)
  | kvgs (bucket : String)
  | asyncKVGS (bucket : String)

inductive Call where
  | put (bdata : Bytes)
  | put_stream (generator : Generator)

def Call.data : Call → Bytes
  | put bdata => bdata
  | put_stream generator => generator.chunks.flatten

structure Write where
  key : String
  call : Call
  outcome : Outcome

def succeeded : Report → Bool
  | .ok none => true
  | .ok (some stored) => stored
  | .error _ => false

section Stores

variable (smart : SmartOpen) (server : FileServer)

def Store.write (store : Store) (places : Places) (write : Write) : Report × Places :=
  let { key, call, outcome } := write
  match store, call with
  | kvLocal root bucket, .put bdata => KVLocal.put smart root bucket places key bdata outcome
  | kvLocal root bucket, .put_stream generator =>
      KVLocal.put_stream smart root bucket places key generator outcome
  | asyncKVLocal root bucket, .put bdata => AsyncKVLocal.put root bucket places key bdata outcome
  | asyncKVLocal root bucket, .put_stream generator =>
      AsyncKVLocal.put_stream root bucket places key generator outcome
  | kvFiles opts_url bucket, .put bdata => KVFiles.put opts_url bucket places key bdata outcome
  | kvFiles _ _, .put_stream generator => KVFiles.put_stream places generator
  | asyncKVFiles opts_url bucket, .put bdata =>
      AsyncKVFiles.put opts_url bucket places key bdata outcome
  | asyncKVFiles opts_url bucket, .put_stream generator =>
      AsyncKVFiles.put_stream opts_url bucket places key generator outcome
  | kvgs _, .put bdata => KVGS.put places key bdata outcome
  | kvgs bucket, .put_stream generator => KVGS.put_stream smart bucket places key generator outcome
  | asyncKVGS _, .put bdata => AsyncKVGS.put places key bdata outcome
  | asyncKVGS bucket, .put_stream generator =>
      AsyncKVGS.put_stream smart bucket places key generator outcome

def Store.get (store : Store) (places : Places) (key : String) : Except KVExn (Option Bytes) :=
  match store with
  | kvLocal root bucket => KVLocal.get smart root bucket places key
  | asyncKVLocal root bucket => AsyncKVLocal.get root bucket places key
  | kvFiles opts_url bucket => KVFiles.get server opts_url bucket places key
  | asyncKVFiles opts_url bucket => AsyncKVFiles.get server opts_url bucket places key
  | kvgs _ => KVGS.get places key
  | asyncKVGS _ => AsyncKVGS.get places key

def Store.get_stream (store : Store) (places : Places) (key : String) : Stream :=
  match store with
  | kvLocal root bucket => KVLocal.get_stream smart root bucket places key
  | asyncKVLocal root bucket => AsyncKVLocal.get_stream root bucket places key
  | kvFiles opts_url bucket => KVFiles.get_stream server opts_url bucket places key
  | asyncKVFiles opts_url bucket => AsyncKVFiles.get_stream server opts_url bucket places key
  | kvgs bucket => KVGS.get_stream smart bucket places key
  | asyncKVGS _ => AsyncKVGS.get_stream

/-- The bytes that are yielded, where nothing else is yielded. -/
def joinItems : List Item → Option Bytes
  | [] => some []
  | .generator :: _ => none
  | .bytes chunk :: rest => (joinItems rest).map (chunk ++ ·)

def Stream.joined (stream : Stream) : Option Bytes :=
  if stream.raised.isSome then none else joinItems stream.items

/-- What the last write to a key has made of it: `none` where there was none, `some none` where
it did not report success, else the bytes that were written. -/
abbrev Meaning := String → Option (Option Bytes)

structure State where
  meaning : Meaning
  places : Places

def State.empty : State := { meaning := fun _ => none, places := fun _ => none }

def step (store : Store) (state : State) (write : Write) : State :=
  let (report, places) := store.write smart state.places write
  { meaning := Function.update state.meaning write.key
      (some (if succeeded report then some write.call.data else none))
    places := places }

def Kept (store : Store) (key : String) : Prop :=
  ∀ (log : List Write) (bdata : Bytes),
    let reached := run (step smart store) State.empty log
    reached.meaning key = some (some bdata) →
      store.get smart server reached.places key = .ok (some bdata) ∧
        (store.get_stream smart server reached.places key).joined = some bdata

def Absent (store : Store) (key : String) : Prop :=
  ∀ log : List Write,
    let reached := run (step smart store) State.empty log
    reached.meaning key = none →
      (∀ bdata, store.get smart server reached.places key ≠ .ok (some bdata)) ∧
        (store.get_stream smart server reached.places key).items = []

end Stores

/-! What the loops come to. -/

theorem drain_eq (written : Bytes) (chunks : List Bytes) :
    drain written chunks = written ++ chunks.flatten := by
  induction chunks generalizing written with
  | nil => simp [drain]
  | cons chunk rest ih => rw [drain, ih, List.flatten_cons, List.append_assoc]

theorem flatten_linesFrom (line data : Bytes) : (linesFrom line data).flatten = line ++ data := by
  induction data generalizing line with
  | nil =>
      rw [linesFrom]
      split
      · simp_all
      · simp
  | cons byte rest ih =>
      rw [linesFrom]
      split
      · rw [List.flatten_cons, ih, List.nil_append, List.append_assoc, List.singleton_append]
      · rw [ih, List.append_assoc, List.singleton_append]

theorem flatten_blocks (data : Bytes) : (blocks data).flatten = data := by
  induction data using blocks.induct with
  | case1 => simp [blocks]
  | case2 data some ih =>
      rw [blocks, if_neg some, List.flatten_cons, ih, List.take_append_drop]

theorem joinItems_bytes (chunks : List Bytes) :
    joinItems (chunks.map .bytes) = some chunks.flatten := by
  induction chunks with
  | nil => rfl
  | cons chunk rest ih => rw [List.map_cons, joinItems, ih, Option.map_some, List.flatten_cons]

theorem joined_of_flatten {chunks : List Bytes} {data : Bytes} (whole : chunks.flatten = data) :
    Stream.joined { items := chunks.map .bytes } = some data := by
  rw [← whole]
  exact joinItems_bytes chunks

theorem drained {generator : Generator} {body : Except String Bytes} {data : Bytes}
    (loop : body = .ok (drain [] generator.chunks)) (ends : body = .ok data) :
    data = generator.chunks.flatten := by
  rw [loop, drain_eq, List.nil_append] at ends
  exact (Except.ok.inj ends).symm

theorem forLoop_ok {generator : Generator} {data : Bytes} (ends : generator.forLoop = .ok data) :
    data = generator.chunks.flatten := by
  unfold Generator.forLoop at ends
  split at ends
  · simp at ends
  · exact drained rfl ends

theorem asyncForLoop_ok {generator : Generator} {data : Bytes}
    (ends : generator.asyncForLoop = .ok data) : data = generator.chunks.flatten := by
  unfold Generator.asyncForLoop at ends
  split at ends
  · exact drained rfl ends
  · simp at ends

theorem nextLoop_ok {generator : Generator} {data : Bytes} (ends : generator.nextLoop = .ok data) :
    data = generator.chunks.flatten := by
  unfold Generator.nextLoop at ends
  split at ends
  · simp at ends
  · exact drained rfl ends

/-! What a method writes: it leaves every place but one, and that one holds the data once the
method has reported success. -/

structure Writes (method : Places → Report × Places) (place : String) (encode : Bytes → Bytes)
    (data : Bytes) : Prop where
  other : ∀ places other, other ≠ place → (method places).2 other = places other
  stored : ∀ places, succeeded (method places).1 = true →
    (method places).2 place = some (encode data)

theorem writes_file {outcome : Outcome} {place : String} {encode : Bytes → Bytes}
    {abandoned : Places → Option Bytes} {body : Except String Bytes} {data : Bytes}
    {rsp : Option Bool} {failure : String → Report}
    (fails : ∀ error_msg, succeeded (failure error_msg) = false)
    (whole : ∀ written, body = .ok written → written = data) :
    Writes (fun places =>
      (report rsp failure (writeFile outcome places place encode (abandoned places) body).1,
        (writeFile outcome places place encode (abandoned places) body).2)) place encode data := by
  constructor
  · intro places other apart
    simp only [writeFile]
    split <;> simp [Function.update_of_ne apart]
  · intro places success
    simp only [writeFile] at success ⊢
    split at success
    · rename_i written
      obtain rfl := whole written rfl
      exact Function.update_self ..
    · simp [report, fails] at success
    · simp [report, fails] at success
    · simp [report, fails] at success

theorem writes_url (outcome : Outcome) (opts_url bucket key : String) (bdata : Bytes) :
    Writes (fun places => KVFiles.put opts_url bucket places key bdata outcome)
      (KVFiles.url opts_url bucket key) id bdata := by
  constructor
  · intro places other apart
    cases outcome <;> simp [KVFiles.put, httpPut, Function.update_of_ne apart]
  · intro places success
    cases outcome with
    | stored => simp [KVFiles.put, httpPut]
    | refused status refusal => simp [KVFiles.put, httpPut, succeeded, refusal] at success
    | raised error_msg left => simp [KVFiles.put, httpPut, succeeded] at success

theorem writes_nothing {failure : KVExn} (place : String) (encode : Bytes → Bytes) (data : Bytes) :
    Writes (fun places => (.error failure, places)) place encode data := by
  constructor
  · intro places other _
    rfl
  · intro places success
    simp [succeeded] at success

section Runs

variable {smart : SmartOpen} {server : FileServer} {store : Store} {key : String}

def Store.place (smart : SmartOpen) : Store → Write → String
  | kvLocal root bucket, write => KVLocal.uri root bucket write.key
  | asyncKVLocal root bucket, write => AsyncKVLocal.uri root bucket write.key
  | kvFiles opts_url bucket, write => KVFiles.url opts_url bucket write.key
  | asyncKVFiles opts_url bucket, write => KVFiles.url opts_url bucket write.key
  | kvgs _, { key, call := .put _, .. } => key
  | kvgs _, { key, call := .put_stream _, .. } => smart.blob key
  | asyncKVGS _, { key, call := .put _, .. } => key
  | asyncKVGS _, { key, call := .put_stream _, .. } => smart.blob key

def Store.encode (smart : SmartOpen) : Store → Write → Bytes → Bytes
  | kvLocal root bucket, write => smart.write (KVLocal.uri root bucket write.key)
  | kvgs bucket, { key, call := .put_stream _, .. } => smart.write (KVGS.uri bucket key)
  | asyncKVGS bucket, { key, call := .put_stream _, .. } => smart.write (KVGS.uri bucket key)
  | _, _ => id

theorem store_writes (smart : SmartOpen) (store : Store) (write : Write) :
    Writes (fun places => store.write smart places write) (store.place smart write)
      (store.encode smart write) write.call.data := by
  obtain ⟨key, call, outcome⟩ := write
  have put : ∀ {bdata written : Bytes}, (Except.ok bdata : Except String Bytes) = .ok written →
      written = bdata := fun same => (Except.ok.inj same).symm
  cases store with
  | kvLocal root bucket =>
      cases call with
      | put bdata => exact writes_file (fun _ => rfl) (fun _ => put)
      | put_stream generator => exact writes_file (fun _ => rfl) (fun _ => forLoop_ok)
  | asyncKVLocal root bucket =>
      cases call with
      | put bdata => exact writes_file (fun _ => rfl) (fun _ => put)
      | put_stream generator => exact writes_file (fun _ => rfl) (fun _ => asyncForLoop_ok)
  | kvFiles opts_url bucket =>
      cases call with
      | put bdata => exact writes_url outcome opts_url bucket key bdata
      | put_stream generator => exact writes_nothing _ _ _
  | asyncKVFiles opts_url bucket =>
      cases call with
      | put bdata => exact writes_url outcome opts_url bucket key bdata
      | put_stream generator =>
          obtain ⟨chunks, _ | _⟩ := generator
          · exact writes_nothing _ _ _
          · have whole : drain [] chunks = chunks.flatten := by rw [drain_eq, List.nil_append]
            have sent := writes_url outcome opts_url bucket key (drain [] chunks)
            rw [whole] at sent
            simp only [Store.write, AsyncKVFiles.put_stream, AsyncKVFiles.put, if_true, whole]
            exact sent
  | kvgs bucket =>
      cases call with
      | put bdata => exact writes_file (fun _ => rfl) (fun _ => put)
      | put_stream generator => exact writes_file (fun _ => rfl) (fun _ => nextLoop_ok)
  | asyncKVGS bucket =>
      cases call with
      | put bdata => exact writes_file (fun _ => rfl) (fun _ => put)
      | put_stream generator => exact writes_file (fun _ => rfl) (fun _ => nextLoop_ok)

def Home (smart : SmartOpen) (store : Store) (key place : String) : Prop :=
  ∀ write : Write, store.place smart write = place ↔ write.key = key

/-! The relation between the abstract map and the places, at one key. -/

def Never (key place : String) (state : State) : Prop :=
  state.meaning key = none → state.places place = none

def Last (key place : String) (encode : Bytes → Bytes) (state : State) : Prop :=
  ∀ bdata, state.meaning key = some (some bdata) → state.places place = some (encode bdata)

section Relation

variable {place : String} {encode : Bytes → Bytes} (home : Home smart store key place)

include home

theorem step_other {write : Write} (other : write.key ≠ key) (state : State) :
    (step smart store state write).meaning key = state.meaning key ∧
      (step smart store state write).places place = state.places place := by
  constructor
  · exact Function.update_of_ne (Ne.symm other) _ _
  · apply (store_writes smart store write).other
    exact fun there => other ((home write).mp there.symm)

theorem step_never (state : State) (write : Write) (never : Never key place state) :
    Never key place (step smart store state write) := by
  intro none
  by_cases same : write.key = key
  · subst same
    simp [step] at none
  · obtain ⟨meaning, there⟩ := step_other home same state
    rw [there]
    exact never (meaning.symm.trans none)

theorem step_last (encoded : ∀ write : Write, write.key = key → store.encode smart write = encode)
    (state : State) (write : Write) (last : Last key place encode state) :
    Last key place encode (step smart store state write) := by
  intro bdata written
  by_cases same : write.key = key
  · have writes := store_writes smart store write
    rw [(home write).mpr same, encoded write same] at writes
    subst same
    simp only [step, Function.update_self, Option.some.injEq] at written
    split at written
    · rename_i success
      rw [← Option.some.inj written]
      exact writes.stored state.places success
    · simp at written
  · obtain ⟨meaning, there⟩ := step_other home same state
    rw [there]
    exact last bdata (meaning.symm.trans written)

theorem run_never (log : List Write) : Never key place (run (step smart store) State.empty log) :=
  run_kept (step_never home) (fun _ => rfl) log

theorem run_last (encoded : ∀ write : Write, write.key = key → store.encode smart write = encode)
    (log : List Write) : Last key place encode (run (step smart store) State.empty log) := by
  apply run_kept (step_last home encoded)
  intro bdata written
  simp [State.empty] at written

end Relation

/-! The stores over files. -/

theorem home_kvLocal (root bucket key : String) :
    Home smart (.kvLocal root bucket) key (KVLocal.uri root bucket key) :=
  fun _ => String.append_right_inj _

theorem home_asyncKVLocal (root bucket key : String) :
    Home smart (.asyncKVLocal root bucket) key (AsyncKVLocal.uri root bucket key) :=
  fun _ => String.append_right_inj _

theorem home_kvFiles (opts_url bucket key : String) :
    Home smart (.kvFiles opts_url bucket) key (KVFiles.url opts_url bucket key) :=
  fun _ => String.append_right_inj _

theorem home_asyncKVFiles (opts_url bucket key : String) :
    Home smart (.asyncKVFiles opts_url bucket) key (KVFiles.url opts_url bucket key) :=
  fun _ => String.append_right_inj _

theorem kept_kvLocal (root bucket : String) : Kept smart server (.kvLocal root bucket) key := by
  intro log bdata reached written
  have stored := run_last (home_kvLocal root bucket key) (fun write same => congrArg
    (fun named => smart.write (KVLocal.uri root bucket named)) same) log bdata written
  have found : readFile reached.places (KVLocal.uri root bucket key)
      (smart.read (KVLocal.uri root bucket key)) = .ok bdata := by
    simp only [readFile, reached, stored, smart.read_write]
  constructor
  · simp only [Store.get, KVLocal.get, found]
  · simp only [Store.get_stream, KVLocal.get_stream, found]
    exact joined_of_flatten (flatten_linesFrom [] bdata)

theorem absent_kvLocal (root bucket : String) : Absent smart server (.kvLocal root bucket) key := by
  intro log reached none
  have empty := run_never (home_kvLocal root bucket key) log none
  constructor
  · intro bdata
    simp [Store.get, KVLocal.get, readFile, reached, empty]
  · simp [Store.get_stream, KVLocal.get_stream, readFile, reached, empty]

theorem kept_asyncKVLocal (root bucket : String) :
    Kept smart server (.asyncKVLocal root bucket) key := by
  intro log bdata reached written
  have stored := run_last (home_asyncKVLocal root bucket key) (fun _ _ => rfl) log bdata written
  have found : readFile reached.places (AsyncKVLocal.uri root bucket key) some = .ok bdata := by
    simp only [readFile, reached, stored]
  constructor
  · simp only [Store.get, AsyncKVLocal.get, found]
  · simp only [Store.get_stream, AsyncKVLocal.get_stream, found]
    exact joined_of_flatten (flatten_blocks bdata)

theorem absent_asyncKVLocal (root bucket : String) :
    Absent smart server (.asyncKVLocal root bucket) key := by
  intro log reached none
  have empty := run_never (home_asyncKVLocal root bucket key) log none
  constructor
  · intro bdata
    simp [Store.get, AsyncKVLocal.get, readFile, reached, empty]
  · simp [Store.get_stream, AsyncKVLocal.get_stream, readFile, reached, empty]

/-! The stores over the file server. -/

theorem kept_kvFiles (opts_url bucket : String) :
    Kept smart server (.kvFiles opts_url bucket) key := by
  intro log bdata reached written
  have stored := run_last (home_kvFiles opts_url bucket key) (fun _ _ => rfl) log bdata written
  have found : httpGet server reached.places (KVFiles.url opts_url bucket key) = (200, bdata) := by
    simp only [httpGet, reached, stored]
  constructor
  · simp only [Store.get, KVFiles.get, found, if_true]
  · simp only [Store.get_stream, KVFiles.get_stream, found]
    exact joined_of_flatten (server.flatten_chunks bdata)

theorem kept_asyncKVFiles (opts_url bucket : String) :
    Kept smart server (.asyncKVFiles opts_url bucket) key := by
  intro log bdata reached written
  have stored := run_last (home_asyncKVFiles opts_url bucket key) (fun _ _ => rfl) log bdata written
  have found : httpGet server reached.places (KVFiles.url opts_url bucket key) = (200, bdata) := by
    simp only [httpGet, reached, stored]
  constructor
  · simp only [Store.get, AsyncKVFiles.get, found]
  · simp only [Store.get_stream, AsyncKVFiles.get_stream, KVFiles.get_stream, found]
    exact joined_of_flatten (server.flatten_chunks bdata)

theorem chunks_eq_nil_iff (body : Bytes) : server.chunks body = [] ↔ body = [] := by
  constructor
  · intro none
    rw [← server.flatten_chunks body, none, List.flatten_nil]
  · rintro rfl
    apply List.eq_nil_iff_forall_not_mem.mpr
    intro chunk member
    have empty := List.flatten_eq_nil_iff.mp (server.flatten_chunks []) chunk member
    exact server.chunk_ne [] (empty ▸ member)

/-- The stream of a missing key is the body of the answer 404. -/
theorem absent_kvFiles_iff (opts_url bucket : String) :
    Absent smart server (.kvFiles opts_url bucket) key ↔
      server.missing (KVFiles.url opts_url bucket key) = [] := by
  constructor
  · intro absent
    have nothing := (absent [] rfl).2
    exact (chunks_eq_nil_iff _).mp (List.map_eq_nil_iff.mp nothing)
  · intro blank log reached none
    have empty := run_never (home_kvFiles opts_url bucket key) log none
    have missed : httpGet server reached.places (KVFiles.url opts_url bucket key) = (404, []) := by
      simp only [httpGet, reached, empty, blank]
    constructor
    · intro bdata
      simp [Store.get, KVFiles.get, missed]
    · simp only [Store.get_stream, KVFiles.get_stream, missed]
      rw [(chunks_eq_nil_iff []).mpr rfl, List.map_nil]

theorem not_absent_asyncKVFiles (opts_url bucket : String) :
    ¬Absent smart server (.asyncKVFiles opts_url bucket) key :=
  fun absent => (absent [] rfl).1 _ rfl

/-! The stores over the bucket. -/

/-- `smart_open` opens the object of a key for this key, and for no other. -/
def OpensOwn (smart : SmartOpen) (key : String) : Prop :=
  ∀ other, smart.blob other = key ↔ other = key

theorem home_kvgs (own : OpensOwn smart key) (bucket : String) :
    Home smart (.kvgs bucket) key key := by
  rintro ⟨other, _ | _, outcome⟩
  · exact Iff.rfl
  · exact own other

def putting (key : String) (bdata : Bytes) : Write := ⟨key, .put bdata, .stored⟩

def streaming (key : String) (bdata : Bytes) : Write :=
  ⟨key, .put_stream { chunks := [bdata] }, .stored⟩

theorem step_putting (bucket : String) (state : State) (bdata : Bytes) :
    step smart (.kvgs bucket) state (putting key bdata) =
      { meaning := Function.update state.meaning key (some (some bdata))
        places := Function.update state.places key (some bdata) } := rfl

theorem step_streaming (bucket : String) (state : State) (bdata : Bytes) :
    step smart (.kvgs bucket) state (streaming key bdata) =
      { meaning := Function.update state.meaning key (some (some bdata))
        places := Function.update state.places (smart.blob key)
          (some (smart.write (KVGS.uri bucket key) bdata)) } := by
  have whole : [bdata].flatten = bdata := List.append_nil bdata
  simp only [step, streaming, Store.write, KVGS.put_stream, writeFile, Generator.nextLoop,
    drain_eq, whole, Call.data, List.nil_append]
  rfl

/-- What is streamed to a key is read from the bucket as it was streamed. -/
theorem direct_of_kept {bucket : String} (kept : Kept smart server (.kvgs bucket) key)
    (bdata : Bytes) :
    smart.blob key = key ∧ smart.write (KVGS.uri bucket key) bdata = bdata := by
  have read := kept [streaming key bdata] bdata
  simp only [run_cons, step_streaming, Function.update_self, run_nil, forall_const] at read
  have got := read.1
  by_cases opened : smart.blob key = key
  · rw [opened] at got
    simp only [Store.get, KVGS.get, Function.update_self, Except.ok.injEq, Option.some.injEq] at got
    exact ⟨opened, got⟩
  · simp [Store.get, KVGS.get, State.empty, Function.update_of_ne (Ne.symm opened)] at got

theorem opensOwn_of_kept {bucket : String} (kept : Kept smart server (.kvgs bucket) key) :
    OpensOwn smart key := by
  intro other
  constructor
  · intro there
    by_contra apart
    -- what is streamed to the other key is read under this one, whatever was put there
    have shown : ∀ bdata, smart.write (KVGS.uri bucket other) [] = bdata := by
      intro bdata
      have read := kept [putting key bdata, streaming other []] bdata
      simp only [run_cons, step_putting, step_streaming, there, run_nil,
        Function.update_of_ne (Ne.symm apart), Function.update_self, forall_const] at read
      have got := read.1
      simpa [Store.get, KVGS.get] using got
    exact absurd ((shown []).symm.trans (shown [0])) (by decide)
  · rintro rfl
    exact (direct_of_kept kept []).1

theorem kept_kvgs {bucket : String} (own : OpensOwn smart key)
    (plain : ∀ bdata, smart.write (KVGS.uri bucket key) bdata = bdata) :
    Kept smart server (.kvgs bucket) key := by
  intro log bdata reached written
  have encoded : ∀ write : Write, write.key = key →
      Store.encode smart (.kvgs bucket) write = id := by
    rintro ⟨_, _ | _, outcome⟩ rfl
    · rfl
    · exact funext plain
  have stored := run_last (home_kvgs own bucket) encoded log bdata written
  have opened : smart.blob key = key := (own key).mpr rfl
  have read : smart.read (KVGS.uri bucket key) bdata = some bdata := by
    have through := smart.read_write (KVGS.uri bucket key) bdata
    rwa [plain bdata] at through
  constructor
  · simp only [Store.get, KVGS.get, reached, stored, id]
  · simp only [Store.get_stream, KVGS.get_stream, readFile, opened, reached, stored, id, read]
    exact joined_of_flatten (flatten_linesFrom [] bdata)

theorem kept_kvgs_iff (bucket : String) : Kept smart server (.kvgs bucket) key ↔
    OpensOwn smart key ∧ ∀ bdata, smart.write (KVGS.uri bucket key) bdata = bdata := by
  constructor
  · intro kept
    exact ⟨opensOwn_of_kept kept, fun bdata => (direct_of_kept kept bdata).2⟩
  · rintro ⟨own, plain⟩
    exact kept_kvgs own plain

theorem absent_kvgs_iff (bucket : String) :
    Absent smart server (.kvgs bucket) key ↔ OpensOwn smart key := by
  constructor
  · intro absent other
    constructor
    · intro there
      by_contra apart
      have nothing := absent [streaming other []]
      simp only [run_cons, step_streaming, there, run_nil,
        Function.update_of_ne (Ne.symm apart)] at nothing
      apply (nothing rfl).1 (smart.write (KVGS.uri bucket other) [])
      simp only [Store.get, KVGS.get, Function.update_self]
    · rintro rfl
      by_contra apart
      have coded := smart.read_write (KVGS.uri bucket other) [0]
      have nothing := absent [putting (smart.blob other) (smart.write (KVGS.uri bucket other) [0])]
      simp only [run_cons, step_putting, run_nil,
        Function.update_of_ne (Ne.symm apart)] at nothing
      have items := (nothing rfl).2
      simp [Store.get_stream, KVGS.get_stream, readFile, coded, linesFrom] at items
  · intro own log reached none
    have empty := run_never (home_kvgs own bucket) log none
    have opened : smart.blob key = key := (own key).mpr rfl
    constructor
    · intro bdata
      simp [Store.get, KVGS.get, reached, empty]
    · simp [Store.get_stream, KVGS.get_stream, readFile, opened, reached, empty]

theorem not_kept_asyncKVGS (bucket : String) : ¬Kept smart server (.asyncKVGS bucket) key := by
  intro kept
  have yielded := (kept [putting key []] [] (Function.update_self ..)).2
  exact absurd yielded (by simp [Store.get_stream, AsyncKVGS.get_stream, Stream.joined, joinItems])

theorem not_absent_asyncKVGS (bucket : String) : ¬Absent smart server (.asyncKVGS bucket) key := by
  intro absent
  exact absurd (absent [] rfl).2 (List.cons_ne_nil _ _)

end Runs

/-! Where the two hold. -/

def KeptWhen (smart : SmartOpen) (store : Store) (key : String) : Prop :=
  match store with
  | .kvgs bucket =>
      OpensOwn smart key ∧ ∀ bdata, smart.write (KVGS.uri bucket key) bdata = bdata
  | .asyncKVGS _ => False
  | _ => True

def AbsentWhen (smart : SmartOpen) (server : FileServer) (store : Store) (key : String) : Prop :=
  match store with
  | .kvFiles opts_url bucket => server.missing (KVFiles.url opts_url bucket key) = []
  | .asyncKVFiles _ _ => False
  | .kvgs _ => OpensOwn smart key
  | .asyncKVGS _ => False
  | _ => True

def Sample.smart : SmartOpen where
  blob key := key
  write _ data := data
  read _ stored := some stored
  abandon _ before _ := before
  read_write _ _ := rfl

def Sample.server : FileServer where
  missing _ := [52, 48, 52]
  chunks body := body.map ([·])
  flatten_chunks body := by
    induction body with
    | nil => rfl
    | cons byte rest ih => rw [List.map_cons, List.flatten_cons, ih, List.singleton_append]
  chunk_ne body := by simp

end KVStores

end LabFunctions
