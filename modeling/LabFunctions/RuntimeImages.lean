import LabFunctions.Builder

/-!
The image a task runs in against the image that was built: the builder and the three
copies of `prepare_runtime` put the same name together from different records.
-/

namespace LabFunctions

namespace RuntimeImages

/-- What `BuildTask.run` tags, and pushes when there is a registry. -/
def builtImage (ctx : BuildCtx) : String := BuildTask.docker_tag ctx ++ ":" ++ ctx.version

def registered (ctx : BuildCtx) (id : Nat) (now : DateTime) : RuntimeData :=
  RuntimesMg.model2runtime (RuntimesMg.newRow (BuildTask.request ctx) id now) ctx.projectid

structure Agrees (py : PyRepr) (gpu_support : Bool) (ctx : BuildCtx) (id : Nat)
    (now : DateTime) : Prop where
  notebooks : Notebooks.prepare_runtime py (some (registered ctx id now)) gpu_support =
    builtImage ctx
  client : Client.prepare_runtime py (some (registered ctx id now)) = builtImage ctx
  nbtask : NBTaskBase._prepare_runtime py (some (registered ctx id now)) = builtImage ctx

theorem run_builtImage {ctx : BuildCtx} {outcome : Docker.Outcome}
    (completes : Builder.Completes outcome) (built : Builder.Built outcome) :
    ∃ log repository version pushed,
      BuildTask.run ctx outcome = .ok (log, ⟨some (repository, version), pushed⟩) ∧
      repository ++ ":" ++ version = builtImage ctx ∧
      (truthy ctx.registry = true → pushed = some (builtImage ctx)) := by
  obtain ⟨log, effects, ran, tagged, pushed⟩ := Builder.run_completes ctx completes
  obtain ⟨tag, push⟩ := effects
  obtain rfl := tagged built
  refine ⟨log, _, _, push, ran, rfl, ?_⟩
  intro registry
  rw [registry, if_pos rfl] at pushed
  exact pushed

theorem str_parts (py : PyRepr) (runtime : RuntimeData) : ∃ front middle back,
    runtime.str py = front ++ py.str runtime.docker_name ++ middle ++ py.str runtime.version ++
      back := by
  refine ⟨"runtimeid=" ++ py.str runtime.runtimeid ++ " runtime_name=" ++
      py.str runtime.runtime_name ++ " docker_name=",
    " spec=" ++ py.spec runtime.spec ++ " project_id=" ++ py.str runtime.project_id ++ " version=",
    " created_at=" ++ py.optStr runtime.created_at ++ " registry=" ++ py.optStr runtime.registry ++
      " id=" ++ PyRepr.optNat runtime.id, ?_⟩
  unfold RuntimeData.str
  simp only [String.append_assoc]

theorem str_length (py : PyRepr) (runtime : RuntimeData) :
    runtime.docker_name.length + 1 + runtime.version.length < (runtime.str py).length := by
  obtain ⟨front, middle, back, parts⟩ := str_parts py runtime
  have name := py.quoted runtime.docker_name
  have version := py.quoted runtime.version
  rw [parts]
  simp only [String.length_append]
  omega

theorem runtimeImage_iff (py : PyRepr) (ctx : BuildCtx) (id : Nat) (now : DateTime) :
    runtimeImage py (registered ctx id now) = builtImage ctx ↔ truthy ctx.registry = false := by
  have sameRegistry : (registered ctx id now).registry = ctx.registry := rfl
  unfold runtimeImage builtImage BuildTask.docker_tag
  rw [sameRegistry]
  cases registry : truthy ctx.registry with
  | false =>
      simp only [Bool.false_eq_true, if_false, iff_true]
      rfl
  | true =>
      simp only [if_true, Bool.true_eq_false, iff_false]
      intro same
      have longer : ctx.docker_name.length + 1 + ctx.version.length <
          ((registered ctx id now).str py).length := str_length py (registered ctx id now)
      have lengths := congrArg String.length same
      have colon : ":".length = 1 := rfl
      simp only [String.length_append, colon] at lengths
      omega

/-- All three copies give the image that was built exactly when no registry is set. -/
theorem images_agree_iff (py : PyRepr) (gpu_support : Bool) (ctx : BuildCtx) (id : Nat)
    (now : DateTime) : Agrees py gpu_support ctx id now ↔ truthy ctx.registry = false := by
  constructor
  · intro agrees
    exact (runtimeImage_iff py ctx id now).mp agrees.client
  · intro absent
    have same := (runtimeImage_iff py ctx id now).mpr absent
    exact ⟨same, same, same⟩

/-- With a registry the reference holds the text of the whole record. -/
theorem registry_image_differs :
    ¬∀ (py : PyRepr) (gpu_support : Bool) (ctx : BuildCtx) (id : Nat) (now : DateTime),
      Agrees py gpu_support ctx id now := by
  intro agrees
  have same := (agrees Sample.repr false (Builder.buildCtx (some "registry:5000")) 1
    Sample.morning).client
  exact absurd ((runtimeImage_iff _ _ _ _).mp same) (by decide)

end RuntimeImages

end LabFunctions
