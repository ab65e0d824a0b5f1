import LabFunctions.Builder
import LabFunctions.Library.Keyed
import LabFunctions.ProjectRecords

/-!
`labfunctions.runtimes.context` and the two handlers of `web.projects_bp` that name the bundle of
a runtime: where an upload is stored, and what a build downloads.
-/

namespace LabFunctions

open Filenames Keyed

def formatted (value : Option String) : String := value.getD "None"

namespace Runtimes

def execid_for_build (drawn : NanoId Defaults.EXECID_LEN) : String := "bld" ++ drawn.text

def make_docker_name (projectid : String) (spec : RuntimeSpec) : String :=
  Defaults.DOCKER_AUTHOR ++ "/" ++ projectid ++ "-" ++ spec.name

def build_upload_uri (unicode : Unicode) (projectid : String)
    (runtime_name version : Option String) : String :=
  let name := secure_filename unicode (formatted runtime_name ++ "." ++ formatted version ++ ".zip")
  let root := Paths.PurePath.parse projectid
  ((root.join Defaults.PROJECT_UPLOADS).join name).str

structure Settings where
  project_store_class : String
  project_store_bucket : String
  registry : Option String

/-- The model of the context takes no version that is missing. -/
def create_build_ctx (unicode : Unicode) (drawn : NanoId Defaults.EXECID_LEN) (settings : Settings)
    (projectid : String) (spec : RuntimeSpec) (version : Option String) : Except Exn BuildCtx :=
  let uri := build_upload_uri unicode projectid (some spec.name) version
  match version with
  | none => .error .validationError
  | some version =>
      .ok
        { projectid
          spec
          docker_name := make_docker_name projectid spec
          version
          dockerfile := "Dockerfile." ++ spec.name
          zip_name := (Words.split '/' uri).getLastD ""
          download_zip := uri
          execid := execid_for_build drawn
          project_store_class := settings.project_store_class
          project_store_bucket := settings.project_store_bucket
          registry := settings.registry }

end Runtimes

namespace Projects

structure Upload where
  runtime_name : Option String
  version : Option String
  bundle : List UInt8

def Upload.pair (upload : Upload) : Option String × Option String :=
  (upload.runtime_name, upload.version)

def project_upload (unicode : Unicode) (db : Database) (projectid : String) (upload : Upload) :
    Except Exn String :=
  match ProjectsMg.get_by_projectid db projectid with
  | .error failure => .error failure
  | .ok none => .error .attributeError
  | .ok (some pd) =>
      .ok (Runtimes.build_upload_uri unicode pd.projectid upload.runtime_name upload.version)

end Projects

namespace UploadKeys

open Runtimes Projects

variable {unicode : Unicode}

/-- What can be seen of the name that a bundle is given. -/
def label (unicode : Unicode) (pair : Option String × Option String) : String :=
  core unicode (formatted pair.1 ++ "." ++ formatted pair.2 ++ ".zip")

theorem clean_label (unicode : Unicode) (pair : Option String × Option String) : Paths.Clean (label unicode pair) := by
  have letter : 'z' ∈ (label unicode pair).toList := by
    apply Lines.mem_strip _ (by decide)
    rw [String.toList_ofList]
    refine List.mem_filter.mpr ⟨?_, by decide⟩
    apply Words.mem_squeeze _ (by decide)
    refine List.mem_flatMap.mpr ⟨'z', ?_, ?_⟩
    · rw [String.toList_append]
      exact List.mem_append_right _ (by decide)
    · rw [unicode.ascii_self 'z' (by decide)]
      exact List.mem_singleton.mpr rfl
  refine ⟨?_, ?_, ?_⟩
  · intro slash
    exact absurd (keeps_of_mem_core slash) (by decide)
  · intro empty
    rw [empty] at letter
    exact absurd letter (by decide)
  · intro dot
    rw [dot] at letter
    exact absurd letter (by decide)

theorem segments_uri (projectid : String) (pair : Option String × Option String) :
    Paths.segments (build_upload_uri unicode projectid pair.1 pair.2) =
      Paths.segments projectid ++ [Defaults.PROJECT_UPLOADS] ++ [label unicode pair] := by
  simp only [build_upload_uri, secure_filename_eq, Paths.PurePath.segments_str]
  have clean := clean_label unicode pair
  unfold label at clean ⊢
  rw [Paths.PurePath.parts_join_clean _ clean, Paths.PurePath.parts_join_clean _ (by decide),
    Paths.PurePath.parts_parse]

theorem uri_inj (projectid : String) (left right : Option String × Option String) :
    build_upload_uri unicode projectid left.1 left.2 =
      build_upload_uri unicode projectid right.1 right.2 ↔ label unicode left = label unicode right := by
  constructor
  · intro same
    have segments := congrArg Paths.segments same
    rw [segments_uri, segments_uri] at segments
    simpa using segments
  · intro same
    unfold label at same
    simp only [build_upload_uri, secure_filename_eq, same]

def Apart (unicode : Unicode) (left right : Option String × Option String) : Prop :=
  label unicode left = label unicode right → left = right

theorem projectid_of_get {db : Database} {projectid : String} {user_id : Option Nat}
    {data : ProjectData} (found : ProjectsMg.get_by_projectid db projectid user_id = .ok (some data)) :
    data.projectid = projectid := by
  unfold ProjectsMg.get_by_projectid at found
  split at found
  · simp at found
  · rename_i obj selected
    have same := List.find?_some selected
    simp only [Bool.and_eq_true, beq_iff_eq] at same
    unfold ProjectsMg._model2projectdata at found
    split at found
    · simp [Except.map] at found
    · simp only [Except.map, Except.ok.injEq, Option.some.injEq] at found
      rw [← found]
      exact same.1

theorem project_upload_eq {db : Database} {projectid key : String} {upload : Upload}
    (accepted : project_upload unicode db projectid upload = .ok key) :
    key = build_upload_uri unicode projectid upload.runtime_name upload.version := by
  unfold project_upload at accepted
  split at accepted
  · simp at accepted
  · simp at accepted
  · rename_i data found
    rw [Except.ok.injEq, projectid_of_get found] at accepted
    exact accepted.symm

theorem create_build_ctx_eq {drawn : NanoId Defaults.EXECID_LEN} {settings : Settings}
    {projectid : String} {spec : RuntimeSpec} {version : Option String} {ctx : BuildCtx}
    (created : create_build_ctx unicode drawn settings projectid spec version = .ok ctx) :
    ctx.download_zip = build_upload_uri unicode projectid (some spec.name) version := by
  unfold create_build_ctx at created
  cases version with
  | none => simp at created
  | some version =>
      simp only [Except.ok.injEq] at created
      rw [← created]

def uploaded (unicode : Unicode) (projectid : String) (store : String → Option (List UInt8))
    (upload : Upload) : String → Option (List UInt8) :=
  put (fun upload => build_upload_uri unicode projectid upload.runtime_name upload.version)
    Upload.bundle store upload

/-- Uploads of distinct pairs go to distinct keys exactly where the names of their bundles still
differ in what can be seen of them. A build downloads from the key of its own pair, so it is
given the last bundle of that pair as long as no upload of the project is confused with it. -/
theorem uploads_apart_iff (unicode : Unicode) (db : Database) (projectid : String) :
    (∀ left right key other, project_upload unicode db projectid left = .ok key →
      project_upload unicode db projectid right = .ok other →
        ((key = other → left.pair = right.pair) ↔ Apart unicode left.pair right.pair)) ∧
    (∀ upload key drawn settings spec version ctx,
      project_upload unicode db projectid upload = .ok key →
      create_build_ctx unicode drawn settings projectid spec version = .ok ctx →
        upload.pair = (some spec.name, version) → ctx.download_zip = key) ∧
    ∀ log drawn settings spec version ctx,
      create_build_ctx unicode drawn settings projectid spec version = .ok ctx →
      (∀ upload ∈ log, Apart unicode upload.pair (some spec.name, version)) →
        Runs.run (uploaded unicode projectid) (fun _ => none) log ctx.download_zip =
          (last Upload.pair (some spec.name, version) log).map Upload.bundle := by
  refine ⟨?_, ?_, ?_⟩
  · intro left right key other first second
    rw [project_upload_eq first, project_upload_eq second]
    unfold Apart
    rw [← uri_inj projectid]
    rfl
  · intro upload key drawn settings spec version ctx accepted created same
    obtain ⟨named, versioned⟩ := Prod.mk.inj same
    rw [create_build_ctx_eq created, project_upload_eq accepted, named, versioned]
  · intro log drawn settings spec version ctx created apart
    have coarser : ∀ upload : Upload, upload.pair = (some spec.name, version) →
        build_upload_uri unicode projectid upload.runtime_name upload.version =
          ctx.download_zip := by
      intro upload same
      obtain ⟨named, versioned⟩ := Prod.mk.inj same
      rw [create_build_ctx_eq created, named, versioned]
    have own : ∀ upload ∈ log,
        build_upload_uri unicode projectid upload.runtime_name upload.version =
          ctx.download_zip → upload.pair = (some spec.name, version) := by
      intro upload member keyed
      rw [create_build_ctx_eq created] at keyed
      exact apart upload member ((uri_inj projectid upload.pair _).mp keyed)
    unfold uploaded
    rw [run_put, Option.or_none, last, last, (under_eq_iff coarser log).mpr own]

def bundle (runtime_name version : String) : Upload := ⟨some runtime_name, some version, []⟩

/-- The dot between the name and the version may stand in either of them. -/
theorem upload_key_shared : ¬∀ (unicode : Unicode) (db : Database) (projectid : String)
    (left right : Upload) (key : String),
    project_upload unicode db projectid left = .ok key →
      project_upload unicode db projectid right = .ok key → left.pair = right.pair := by
  intro separate
  have same := separate Sample.unicode
    { ProjectRecords.ownedDb with
      projects := ⟨[{ projectid := "p", name := "first", private_key := "", owner_id := some 1 }],
        by decide⟩ }
    "p" (bundle "gpu" "1.0") (bundle "gpu.1" "0") _ rfl rfl
  exact absurd same (by decide)

end UploadKeys

end LabFunctions
