import LabFunctions.Context
import LabFunctions.Database
import LabFunctions.Library.Effects
import LabFunctions.Library.Runs
import LabFunctions.Library.Words

/-!
`labfunctions.executors.execid`: the identifier of an execution, the words that each stage signs it
with, and what `pure` finds under them.
-/

namespace LabFunctions.Executors

open Effects Words

structure FirmsTypes where
  start : String := "0"
  build : String := "bld"
  dispatcher : String := "dsp"
  docker : String := "dck"
  web : String := "web"
  local_ : String := "loc"
  machine : String := "mch"

/-- `getattr(types, firm_type)`; `others` are the texts of what a named tuple has besides. -/
def FirmsTypes.getattr (types : FirmsTypes) (others : String → Option String)
    (firm_type : String) : Except Exn String :=
  match firm_type with
  | "start" => .ok types.start
  | "build" => .ok types.build
  | "dispatcher" => .ok types.dispatcher
  | "docker" => .ok types.docker
  | "web" => .ok types.web
  | "local" => .ok types.local_
  | "machine" => .ok types.machine
  | _ =>
      match others firm_type with
      | some text => .ok text
      | none => .error .attributeError

structure ExecID where
  _id : String
  deriving DecidableEq

namespace ExecID

def types : FirmsTypes := {}

/-- `ExecID(execid, size, prefix)`, where `drawn` is what `generate_random(size)` gives. -/
def init {size : Nat} (drawn : NanoId size) (execid pre : Option String) : ExecID :=
  let _id := pyOr execid drawn.text
  if truthy pre then ⟨pyOr pre "" ++ _id⟩ else ⟨_id⟩

def firm_with (firm : String) : Effect Exn ExecID String := act fun self =>
  let _id := firm ++ "." ++ self._id
  (.ok _id, ⟨_id⟩)

def firm_by_type (others : String → Option String) (firm_type : String) :
    Effect Exn ExecID String := do
  let _firm ← lift (types.getattr others firm_type)
  firm_with _firm

/-- `self._id.rsplit(".", maxsplit=1)[1]`, if there is a dot. -/
def pure (self : ExecID) : String :=
  if '.' ∈ self._id.toList then (split '.' self._id).getLast?.getD "" else self._id

def str (self : ExecID) : String := self._id

/-- What happens to an identifier: two methods, and the passing of its text to another process,
which makes an identifier of it anew. -/
inductive Call where
  | firm_with (firm : String)
  | firm_by_type (firm_type : String)
  | rebuild {size : Nat} (drawn : NanoId size)

section

variable (others : String → Option String)

/-- A call that raises is caught by its caller. -/
def step (self : ExecID) : Call → ExecID
  | .firm_with firm => (Effects.run (ExecID.firm_with firm) self).2
  | .firm_by_type firm_type => (Effects.run (ExecID.firm_by_type others firm_type) self).2
  | .rebuild drawn => init drawn (some self.str) none

def Call.firm : Call → Option String
  | .firm_with firm => some firm
  | .firm_by_type firm_type => (types.getattr others firm_type).toOption
  | .rebuild _ => none

end

/-- The firms, latest first, before what the identifier was in the beginning. -/
def signed (firms : List String) (original : String) : String :=
  join '.' (firms.reverse ++ [original])

def prefixed (pre : Option String) (id : String) : String := pre.getD "" ++ id

/-- What an identifier is made of: the id is not empty, and no dot stands in it or in the prefix. -/
structure Origin where
  id : String
  pre : Option String := none
  notEmpty : id ≠ "" := by decide
  clean : '.' ∉ id.toList := by decide
  cleanPre : ∀ text ∈ pre, '.' ∉ text.toList := by decide

def Origin.text (origin : Origin) : String := prefixed origin.pre origin.id

/-- An identifier made of an origin, after some calls. -/
def Origin.after (others : String → Option String) (origin : Origin) {size : Nat}
    (drawn : NanoId size) (calls : List Call) : ExecID :=
  Runs.run (step others) (init drawn (some origin.id) origin.pre) calls

theorem init_eq {size : Nat} (drawn : NanoId size) {id : String} (some_id : id ≠ "")
    (pre : Option String) : init drawn (some id) pre = ⟨prefixed pre id⟩ := by
  have given : pyOr (some id) drawn.text = id := if_neg some_id
  rw [init, given]
  cases pre with
  | none =>
      rw [prefixed, Option.getD_none, String.empty_append]
      rfl
  | some text =>
      rw [prefixed, Option.getD_some]
      by_cases empty : text = ""
      · rw [empty, String.empty_append]
        rfl
      · have present : truthy (some text) = true := by simp [truthy, empty]
        have value : pyOr (some text) "" = text := if_neg empty
        rw [if_pos present, value]

/-- What a call writes before the identifier. -/
theorem step_eq (others : String → Option String) (self : ExecID) (some_id : self._id ≠ "")
    (call : Call) :
    step others self call =
      match call.firm others with
      | some firm => ⟨firm ++ "." ++ self._id⟩
      | none => self := by
  cases call with
  | firm_with firm => rfl
  | firm_by_type firm_type =>
      rw [step, Call.firm, firm_by_type, run_bind, run_lift]
      cases types.getattr others firm_type <;> rfl
  | rebuild drawn =>
      rw [step, str, init_eq drawn some_id none, prefixed, Option.getD_none, String.empty_append]
      rfl

/-! What stands after the last dot. -/

theorem pure_of_clean {self : ExecID} (clean : '.' ∉ self._id.toList) : self.pure = self._id :=
  if_neg clean

/-- A text signed once more has the same piece after its last dot. -/
theorem pure_firmed (firm text : String) : pure ⟨firm ++ "." ++ text⟩ = pure ⟨text⟩ := by
  have dotted : '.' ∈ (firm ++ "." ++ text).toList := by simp
  have pieces : split '.' (firm ++ "." ++ text) = split '.' firm ++ split '.' text :=
    split_separated '.' firm text
  have some : split '.' text ≠ [] := by simp [split]
  rw [pure, if_pos dotted, pieces, List.getLast?_append_of_ne_nil _ some, pure]
  by_cases inside : '.' ∈ text.toList
  · rw [if_pos inside]
  · rw [if_neg inside, split_self inside]
    rfl

theorem signed_nil (original : String) : signed [] original = original := by
  simp [signed, join]

theorem signed_append (firms : List String) (firm original : String) :
    signed (firms ++ [firm]) original = firm ++ "." ++ signed firms original := by
  have some : firms.reverse ++ [original] ≠ [] := by simp
  rw [signed, List.reverse_append, List.reverse_singleton, List.singleton_append, List.cons_append,
    join_cons '.' firm some]
  rfl

theorem signed_ne_empty (firms : List String) {original : String} (some : original ≠ "") :
    signed firms original ≠ "" := by
  induction firms using List.reverseRecOn with
  | nil => rwa [signed_nil]
  | append_singleton front firm ih =>
      rw [signed_append]
      simp

theorem pure_signed (firms : List String) {original : String} (clean : '.' ∉ original.toList) :
    pure ⟨signed firms original⟩ = original := by
  induction firms using List.reverseRecOn with
  | nil =>
      rw [signed_nil]
      exact pure_of_clean clean
  | append_singleton front firm ih => rw [signed_append, pure_firmed, ih]

theorem Origin.text_ne_empty (origin : Origin) : origin.text ≠ "" := by
  intro empty
  exact origin.notEmpty (String.append_eq_empty_iff.mp empty).2

theorem Origin.text_clean (origin : Origin) : '.' ∉ origin.text.toList := by
  rw [text, prefixed, String.toList_append, List.mem_append, not_or]
  refine ⟨?_, origin.clean⟩
  cases given : origin.pre with
  | none => simp
  | some text => exact origin.cleanPre text given

open Runs in
/-- Calls from an identifier on leave their firms before it, and the texts that were passed between
processes on the way are no matter. -/
theorem run_signed (others : String → Option String) {original : String} (some : original ≠ "")
    (firms : List String) (calls : List Call) :
    run (step others) ⟨signed firms original⟩ calls =
      ⟨signed (firms ++ calls.filterMap (Call.firm others)) original⟩ := by
  induction calls generalizing firms with
  | nil => rw [run_nil, List.filterMap_nil, List.append_nil]
  | cons call rest ih =>
      have stepped := step_eq others ⟨signed firms original⟩ (signed_ne_empty firms some) call
      rw [run_cons, stepped, List.filterMap_cons]
      cases call.firm others with
      | none => exact ih firms
      | some firm =>
          dsimp only
          rw [← signed_append, ih, List.append_assoc, List.singleton_append]

theorem Origin.after_eq (others : String → Option String) (origin : Origin) {size : Nat}
    (drawn : NanoId size) (calls : List Call) :
    origin.after others drawn calls =
      ⟨signed (calls.filterMap (Call.firm others)) origin.text⟩ := by
  have signedFirst := run_signed others origin.text_ne_empty [] calls
  rw [signed_nil, List.nil_append] at signedFirst
  rw [after, init_eq drawn origin.notEmpty]
  exact signedFirst

/-- Whatever signs an identifier, and wherever its text is made an identifier anew on the way,
`pure` gives back the prefixed id, and the text is the firms, latest first, before it; so two
executions have the same `pure` only with the same prefixed id. -/
theorem pure_after (others : String → Option String) :
    (∀ (origin : Origin) (size : Nat) (drawn : NanoId size) (calls : List Call),
      (origin.after others drawn calls).pure = origin.text ∧
        (origin.after others drawn calls).str =
          join '.' ((calls.filterMap (Call.firm others)).reverse ++ [origin.text])) ∧
      ∀ (origin other : Origin) (size width : Nat) (drawn : NanoId size) (also : NanoId width)
        (calls later : List Call),
        ((origin.after others drawn calls).pure = (other.after others also later).pure ↔
            origin.text = other.text) ∧
          ((origin.after others drawn calls).pure = (other.after others also later).pure ∧
            origin.pre = other.pre ↔ origin.id = other.id ∧ origin.pre = other.pre) := by
  have found : ∀ (origin : Origin) (size : Nat) (drawn : NanoId size) (calls : List Call),
      (origin.after others drawn calls).pure = origin.text := by
    intro origin size drawn calls
    rw [origin.after_eq]
    exact pure_signed _ origin.text_clean
  refine ⟨?_, ?_⟩
  · intro origin size drawn calls
    refine ⟨found origin size drawn calls, ?_⟩
    rw [origin.after_eq]
    rfl
  · intro origin other size width drawn also calls later
    rw [found, found]
    refine ⟨Iff.rfl, and_congr_left ?_⟩
    intro samePre
    rw [Origin.text, Origin.text, prefixed, prefixed, samePre]
    exact String.append_right_inj _

example :
    let drawn : NanoId 0 := { text := "" }
    (Origin.after (fun _ => none) { id := "x7", pre := some "p" } drawn
      [.firm_with "dck", .rebuild drawn, .firm_by_type "machine"]).str = "mch.dck.px7" := by
  decide

end ExecID

end LabFunctions.Executors
