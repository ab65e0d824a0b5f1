import LabFunctions.WorkflowsCore

/-!
The round trip of a workflow through the database: what `register` writes, on either
path, against what `get_by_wfid_prj` reads back.
-/

namespace LabFunctions

namespace Workflows

def ReadsBack (env : Env) (db : Database) (projectid : String) (wfd : WorkflowDataWeb)
    (update : Bool) : Prop :=
  ∀ wfid next, WorkflowsMg.register env db projectid wfd update = .ok (some wfid, next) →
    WorkflowsMg.get_by_wfid_prj next projectid wfid = .ok (some { wfd with wfid := some wfid })

def Readable (env : Env) (db : Database) (projectid : String) (wfd : WorkflowDataWeb) :
    Bool → Prop
  | false => Inserts env db projectid wfd → wfd.schedule.isSome = true
  | true =>
      ∀ wfid, wfd.wfid = some wfid →
        WorkflowModel.Accepted (db.workflows.rows.map (rewritten env wfd)) →
          wfd.schedule.isSome = true ∧
            ∃ row ∈ db.workflows.rows, row.wfid = wfid ∧ row.project_id = some projectid

theorem get_by_wfid_prj_of_mem {db : Database} {projectid wfid : String} {row : WorkflowModel}
    (member : row ∈ db.workflows.rows) (ofProject : row.project_id = some projectid)
    (named : row.wfid = wfid) :
    WorkflowsMg.get_by_wfid_prj db projectid wfid = (WorkflowsMg.model2data row).map some := by
  have found := (WorkflowsMg.find_selectedBy_iff db.workflows projectid wfid row).mpr
    ⟨member, ofProject, named⟩
  simp [WorkflowsMg.get_by_wfid_prj, found]

theorem get_by_wfid_prj_none {db : Database} {projectid wfid : String}
    (missing : ∀ row ∈ db.workflows.rows, row.wfid = wfid → row.project_id ≠ some projectid) :
    WorkflowsMg.get_by_wfid_prj db projectid wfid = .ok none := by
  have notFound : db.workflows.rows.find? (WorkflowsMg.selectedBy projectid wfid) = none := by
    rw [List.find?_eq_none]
    intro row member selected
    obtain ⟨ofProject, named⟩ := WorkflowsMg.selectedBy_iff.mp selected
    exact missing row member named ofProject
  simp [WorkflowsMg.get_by_wfid_prj, notFound]

theorem get_stored_iff {db : Database} {projectid wfid : String} {wfd : WorkflowDataWeb}
    {row : WorkflowModel} (member : row ∈ db.workflows.rows)
    (ofProject : row.project_id = some projectid) (named : row.wfid = wfid)
    (stores : WorkflowsMg.Stores wfd row) :
    WorkflowsMg.get_by_wfid_prj db projectid wfid = .ok (some { wfd with wfid := some wfid }) ↔
      wfd.schedule.isSome = true := by
  rw [get_by_wfid_prj_of_mem member ofProject named]
  rcases Option.eq_none_or_eq_some wfd.schedule with absent | ⟨schedule, present⟩
  · simp [stores.model2data_error absent, absent, Except.map]
  · simp [stores.model2data_ok present, present, named, Except.map]

variable {env : Env} {db : Database} {projectid : String} {wfd : WorkflowDataWeb}

theorem insert_reads_back_iff :
    ReadsBack env db projectid wfd false ↔ Readable env db projectid wfd false := by
  have newRead : ∀ wfid next,
      WorkflowsMg.register env db projectid wfd = .ok (some wfid, next) →
        (WorkflowsMg.get_by_wfid_prj next projectid wfid =
          .ok (some { wfd with wfid := some wfid }) ↔ wfd.schedule.isSome = true) := by
    intro wfid next registered
    obtain ⟨same, _, rows⟩ := WorkflowsMg.register_insert_ok registered
    obtain rfl := Option.some.inj same
    have member : WorkflowsMg.newRow env projectid wfd ∈ next.workflows.rows := by
      rw [rows]
      exact List.mem_append_right _ (List.mem_singleton.mpr rfl)
    exact get_stored_iff member rfl rfl (WorkflowsMg.newRow_stores env projectid wfd)
  constructor
  · intro readsBack inserts
    obtain ⟨⟨wfid, next⟩, registered⟩ := (register_insert_iff env db projectid wfd).mpr inserts
    obtain ⟨rfl, _, _⟩ := WorkflowsMg.register_insert_ok registered
    exact (newRead _ next registered).mp (readsBack _ next registered)
  · intro readable wfid next registered
    have inserts := (register_insert_iff env db projectid wfd).mp ⟨_, registered⟩
    exact (newRead wfid next registered).mpr (readable inserts)

theorem update_reads_back_iff :
    ReadsBack env db projectid wfd true ↔ Readable env db projectid wfd true := by
  constructor
  · intro readsBack wfid named accepted
    obtain ⟨⟨stored, next⟩, registered⟩ := (register_update_iff env db projectid wfd).mpr accepted
    obtain ⟨rfl, _, rows⟩ := WorkflowsMg.register_update_ok registered
    rw [named] at registered
    have read := readsBack wfid next registered
    by_cases present : ∃ row ∈ db.workflows.rows, row.wfid = wfid ∧ row.project_id = some projectid
    · obtain ⟨row, member, same, ofProject⟩ := present
      have updated : WorkflowsMg.updatedRow wfd env.now row ∈ next.workflows.rows := by
        rw [rows]
        exact updatedRow_mem named member same
      have stores := WorkflowsMg.updatedRow_stores wfd env.now row
      exact ⟨(get_stored_iff updated ofProject same stores).mp read, row, member, same, ofProject⟩
    · have missing : ∀ row ∈ next.workflows.rows, row.wfid = wfid →
          row.project_id ≠ some projectid := by
        intro row member same ofProject
        rw [rows] at member
        obtain ⟨old, oldMember, oldSame, rfl⟩ := (mem_rewritten_named named row same).mp member
        exact present ⟨old, oldMember, oldSame, ofProject⟩
      rw [get_by_wfid_prj_none missing] at read
      simp at read
  · intro readable wfid next registered
    have accepted := (register_update_iff env db projectid wfd).mp ⟨_, registered⟩
    obtain ⟨named, _, rows⟩ := WorkflowsMg.register_update_ok registered
    obtain ⟨scheduled, row, member, same, ofProject⟩ := readable wfid named.symm accepted
    have updated : WorkflowsMg.updatedRow wfd env.now row ∈ next.workflows.rows := by
      rw [rows]
      exact updatedRow_mem named.symm member same
    have stores := WorkflowsMg.updatedRow_stores wfd env.now row
    exact (get_stored_iff updated ofProject same stores).mpr scheduled

/-- On both write paths: what was registered is read back unchanged, under its project and
id, exactly when it has a schedule and an update names a workflow of that project. -/
theorem reads_back_iff (env : Env) (db : Database) (projectid : String) (wfd : WorkflowDataWeb)
    (update : Bool) :
    ReadsBack env db projectid wfd update ↔ Readable env db projectid wfd update := by
  cases update with
  | false => exact insert_reads_back_iff
  | true => exact update_reads_back_iff

/-- A body without a schedule is registered, and reading it raises a type error. -/
theorem unscheduled_not_read_back :
    ¬∀ (env : Env) (db : Database) (projectid : String) (wfd : WorkflowDataWeb) (update : Bool),
      ReadsBack env db projectid wfd update := by
  intro readsBack
  have readable := insert_reads_back_iff.mp
    (readsBack Sample.env Sample.db "p" (Sample.body true none) false)
  have inserts : Inserts Sample.env Sample.db "p" (Sample.body true none) := by decide
  exact absurd (readable inserts) (by decide)

end Workflows

end LabFunctions
