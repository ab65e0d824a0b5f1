import LabFunctions.Context
import LabFunctions.Database

/-!
The notebook files of a project in the local store: the three handlers of
`web.history_bp` that build a key from what the client sends, and the file each key
leads to.
-/

namespace LabFunctions

structure AsyncKVLocal where
  root : String := "/tmp/labstore"
  bucket : String

namespace AsyncKVLocal

def uri (store : AsyncKVLocal) (key : String) : String :=
  store.root ++ "/" ++ store.bucket ++ "/" ++ key

end AsyncKVLocal

namespace HistoryOutputs

open Paths

def object (cwd : List String) (path : String) : List String :=
  resolve (if PurePath.rootOf path = "" then cwd else []) (segments path)

/-- The parts of an upload form that the handlers read; a missing one raises a key error. -/
structure Form where
  file : Option String
  output_name : Option String

inductive Request where
  | history_output_ok (projectid : String) (form : Form)
  | history_output_fail (projectid : String) (form : Form)
  | history_get_output (projectid : String) (file : Option String)

inductive Access where
  | write (uri body : String)
  | read (uri : String)

def Access.uri : Access → String
  | .write uri _ => uri
  | .read uri => uri

def Request.projectid : Request → String
  | .history_output_ok projectid _ => projectid
  | .history_output_fail projectid _ => projectid
  | .history_get_output projectid _ => projectid

def outputDir (projectid kind : String) (now : DateTime) : PurePath :=
  (((PurePath.parse projectid).join Defaults.NB_OUTPUTS).join kind).join (today_string now)

def history_output (kind : String) (store : AsyncKVLocal) (now : DateTime) (projectid : String)
    (form : Form) : Except Exn Access :=
  match form.file, form.output_name with
  | some file_body, some output_name =>
      .ok (.write (store.uri ((outputDir projectid kind now).join output_name).str) file_body)
  | none, _ => .error (.keyError "file")
  | some _, none => .error (.keyError "output_name")

def history_output_ok (store : AsyncKVLocal) (now : DateTime) (projectid : String) (form : Form) :
    Except Exn Access :=
  history_output "ok" store now projectid form

def history_output_fail (store : AsyncKVLocal) (now : DateTime) (projectid : String)
    (form : Form) : Except Exn Access :=
  history_output "errors" store now projectid form

def history_get_output (store : AsyncKVLocal) (projectid : String) (file : Option String) :
    Except Exn Access :=
  -- a missing query value is interpolated as `None`
  .ok (.read (store.uri (projectid ++ "/" ++ file.getD "None")))

def handle (store : AsyncKVLocal) (now : DateTime) : Request → Except Exn Access
  | .history_output_ok projectid form => history_output_ok store now projectid form
  | .history_output_fail projectid form => history_output_fail store now projectid form
  | .history_get_output projectid file => history_get_output store projectid file

/-! Where a project lives, and when a client value stays there. -/

def base (store : AsyncKVLocal) (cwd : List String) : List String :=
  object cwd (store.root ++ "/" ++ store.bucket)

def home (store : AsyncKVLocal) (cwd : List String) (projectid : String) : List String :=
  resolve (base store cwd) (segments projectid)

def Confined (store : AsyncKVLocal) (cwd : List String) (now : DateTime) (request : Request) :
    Prop :=
  ∀ access, handle store now request = .ok access →
    Inside (home store cwd request.projectid) (object cwd access.uri)

/-- A relative output name starts three levels inside the project, an absolute one at the
bucket. -/
def OutputStays (kind : String) (store : AsyncKVLocal) (cwd : List String) (now : DateTime)
    (projectid : String) (form : Form) : Prop :=
  form.file.isSome = true → ∀ name, form.output_name = some name →
    if PurePath.rootOf name = "" then
      ReturnsTo (home store cwd projectid)
        (home store cwd projectid ++ [Defaults.NB_OUTPUTS, kind, today_string now]) (segments name)
    else ReturnsTo (home store cwd projectid) (base store cwd) (segments name)

def Stays (store : AsyncKVLocal) (cwd : List String) (now : DateTime) : Request → Prop
  | .history_output_ok projectid form => OutputStays "ok" store cwd now projectid form
  | .history_output_fail projectid form => OutputStays "errors" store cwd now projectid form
  | .history_get_output projectid file =>
      ReturnsTo (home store cwd projectid) (home store cwd projectid)
        (segments (file.getD "None"))

theorem rootOf_eq_empty_iff (text : String) :
    PurePath.rootOf text = "" ↔ text.toList.head? ≠ some '/' := by
  unfold PurePath.rootOf
  cases characters : text.toList with
  | nil => simp
  | cons first rest =>
      by_cases slash : first = '/'
      · subst slash
        split <;> simp_all
      · split <;> simp_all

theorem object_uri (store : AsyncKVLocal) (cwd : List String) (key : String) :
    object cwd (store.uri key) = resolve (base store cwd) (segments key) := by
  have sameRoot : PurePath.rootOf (store.uri key) = "" ↔
      PurePath.rootOf (store.root ++ "/" ++ store.bucket) = "" := by
    rw [rootOf_eq_empty_iff, rootOf_eq_empty_iff]
    simp only [AsyncKVLocal.uri, String.toList_append]
    cases store.root.toList <;> rfl
  have split : segments (store.uri key) =
      segments (store.root ++ "/" ++ store.bucket) ++ segments key := segments_join _ _
  unfold base object
  rw [split, resolve_append]
  by_cases relative : PurePath.rootOf (store.root ++ "/" ++ store.bucket) = ""
  · rw [if_pos relative, if_pos (sameRoot.mpr relative)]
  · rw [if_neg relative, if_neg fun uri => relative (sameRoot.mp uri)]

theorem parts_outputDir (projectid : String) {kind : String} (clean : Clean kind)
    (now : DateTime) : (outputDir projectid kind now).parts =
      segments projectid ++ [Defaults.NB_OUTPUTS, kind, today_string now] := by
  have today : Clean (today_string now) := now.clean_dayString
  unfold outputDir
  rw [PurePath.parts_join_clean _ today, PurePath.parts_join_clean _ clean,
    PurePath.parts_join_clean _ (by decide), PurePath.parts_parse]
  simp

theorem today_ne_up (now : DateTime) : today_string now ≠ ".." := by
  intro up
  have length := now.length_dayString
  rw [show now.dayString = ".." from up] at length
  exact absurd length (by decide)

theorem object_output (store : AsyncKVLocal) (cwd : List String) (now : DateTime)
    (projectid name : String) {kind : String} (clean : Clean kind) (down : kind ≠ "..") :
    object cwd (store.uri ((outputDir projectid kind now).join name).str) =
      if PurePath.rootOf name = "" then
        resolve (home store cwd projectid ++ [Defaults.NB_OUTPUTS, kind, today_string now])
          (segments name)
      else resolve (base store cwd) (segments name) := by
  rw [object_uri, PurePath.segments_str]
  split
  · rename_i relative
    have noUp : ".." ∉ [Defaults.NB_OUTPUTS, kind, today_string now] := by
      have outputs : ".." ≠ Defaults.NB_OUTPUTS := by decide
      simp [outputs, Ne.symm down, Ne.symm (today_ne_up now)]
    rw [PurePath.parts_join_relative _ relative, parts_outputDir projectid clean, resolve_append,
      resolve_append, resolve_of_no_up _ _ noUp]
    rfl
  · rename_i absolute
    rw [PurePath.parts_join_absolute _ absolute]

theorem object_get (store : AsyncKVLocal) (cwd : List String) (projectid file : String) :
    object cwd (store.uri (projectid ++ "/" ++ file)) =
      resolve (home store cwd projectid) (segments file) := by
  rw [object_uri, segments_join, resolve_append]
  rfl

theorem output_confined_iff (store : AsyncKVLocal) (cwd : List String) (now : DateTime)
    (projectid : String) (form : Form) {kind : String} (clean : Clean kind) (down : kind ≠ "..") :
    (∀ access, history_output kind store now projectid form = .ok access →
      Inside (home store cwd projectid) (object cwd access.uri)) ↔
      OutputStays kind store cwd now projectid form := by
  obtain ⟨file, output_name⟩ := form
  cases file with
  | none => simp [history_output, OutputStays]
  | some body =>
      cases output_name with
      | none => simp [history_output, OutputStays]
      | some name =>
          simp only [history_output, OutputStays, Except.ok.injEq, forall_eq', Access.uri,
            Option.isSome_some, true_implies, Option.some.injEq]
          rw [object_output store cwd now projectid name clean down]
          split <;> exact inside_resolve_iff _ _ _

theorem access_confined_iff (store : AsyncKVLocal) (cwd : List String) (now : DateTime)
    (request : Request) : Confined store cwd now request ↔ Stays store cwd now request := by
  cases request with
  | history_output_ok projectid form =>
      exact output_confined_iff store cwd now projectid form (by decide) (by decide)
  | history_output_fail projectid form =>
      exact output_confined_iff store cwd now projectid form (by decide) (by decide)
  | history_get_output projectid file =>
      simp only [Confined, handle, history_get_output, Except.ok.injEq, forall_eq', Access.uri,
        Stays, Request.projectid]
      rw [object_get]
      exact inside_resolve_iff _ _ _

theorem homes_disjoint {store : AsyncKVLocal} {cwd object : List String} {left right : String}
    (leftClean : Clean left) (rightClean : Clean right) (leftDown : left ≠ "..")
    (rightDown : right ≠ "..") (different : left ≠ right)
    (inside : Inside (home store cwd left) object) : ¬Inside (home store cwd right) object := by
  intro other
  have plain : ∀ name, Clean name → name ≠ ".." →
      home store cwd name = base store cwd ++ [name] := by
    intro name clean down
    unfold home
    rw [segments_of_clean clean, resolve_of_no_up _ _ (by simpa using Ne.symm down)]
  rw [plain left leftClean leftDown] at inside
  rw [plain right rightClean rightDown] at other
  have lengths : (base store cwd ++ [left]).length = (base store cwd ++ [right]).length := by simp
  have same := List.IsPrefix.eq_of_length
    (List.prefix_of_prefix_length_le inside other (Nat.le_of_eq lengths)) lengths
  simp only [List.append_cancel_left_eq, List.cons.injEq, and_true] at same
  exact different same

/-- The file a handler writes or reads lies in the project's directory exactly when the
client's value stays there, and then it lies in no other project's directory. -/
theorem outputs_confined (store : AsyncKVLocal) (cwd : List String) (now : DateTime)
    (request : Request) :
    (Confined store cwd now request ↔ Stays store cwd now request) ∧
      (Stays store cwd now request → Clean request.projectid → request.projectid ≠ ".." →
        ∀ other, Clean other → other ≠ ".." → request.projectid ≠ other →
          ∀ access, handle store now request = .ok access →
            ¬Inside (home store cwd other) (object cwd access.uri)) := by
  refine ⟨access_confined_iff store cwd now request, ?_⟩
  intro stays clean down other otherClean otherDown different access handled
  have inside := (access_confined_iff store cwd now request).mpr stays access handled
  exact homes_disjoint clean otherClean down otherDown different inside

def store : AsyncKVLocal := { bucket := "labfunctions" }

theorem outputs_confined_sample :
    ∀ access, handle store Sample.morning
        (.history_output_ok "p" { file := some "{}", output_name := some "../a.ipynb" }) =
          .ok access →
      ¬Inside (home store [] "q") (object [] access.uri) := by
  refine (outputs_confined store [] Sample.morning _).2 ?_ (by decide) (by decide) "q" (by decide)
    (by decide) (by decide)
  intro _ name named
  obtain rfl := Option.some.inj named
  decide

/-- Project `p` reads a private file of project `q`. -/
theorem output_read_from_other_project :
    ¬∀ (store : AsyncKVLocal) (cwd : List String) (now : DateTime) (request : Request),
      Confined store cwd now request := by
  intro confined
  have inside := confined store [] Sample.morning
    (.history_get_output "p" (some "../q/outputs/ok/20220601/secret.ipynb")) _ rfl
  exact absurd inside (by decide)

end HistoryOutputs

end LabFunctions
