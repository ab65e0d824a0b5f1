import Mathlib.Logic.Function.Basic
import LabFunctions.Library.Runs

/-!
A store of named values that is kept under keys made of the names, beside the store that is meant,
and when the two cannot be told apart.
-/

namespace Naming

open Runs

universe u v w

variable {ν : Type u} {κ : Type v} {α : Type w}

/-- A value is put under a name, or the name is deleted. -/
structure Request (ν : Type u) (α : Type w) where
  name : ν
  value : Option α

/-- The store as it is kept, and as it is meant. -/
structure Stores (ν : Type u) (κ : Type v) (α : Type w) where
  kept : κ → Option α
  meant : ν → Option α

def empty : Stores ν κ α := ⟨fun _ => none, fun _ => none⟩

section

variable [DecidableEq ν] [DecidableEq κ] (key : ν → κ)

def step (stores : Stores ν κ α) (request : Request ν α) : Stores ν κ α where
  kept := Function.update stores.kept (key request.name) request.value
  meant := Function.update stores.meant request.name request.value

/-- Who asks for a name finds what is meant. -/
def Agrees (stores : Stores ν κ α) : Prop := ∀ name, stores.kept (key name) = stores.meant name

/-- No other name has the same key. -/
def Alone (name : ν) : Prop := ∀ other, key other = key name → other = name

/-- Nothing stands under a key that two names share. -/
structure Sound (stores : Stores ν κ α) : Prop where
  agrees : Agrees key stores
  alone : ∀ name, stores.kept (key name) ≠ none → Alone key name

def Meets (request : Request ν α) : Prop := request.value ≠ none → Alone key request.name

variable {key} {stores : Stores ν κ α} {request : Request ν α}

theorem kept_step (name : ν) : (step key stores request).kept (key name) =
    if key name = key request.name then request.value else stores.kept (key name) :=
  Function.update_apply ..

theorem meant_step (name : ν) : (step key stores request).meant name =
    if name = request.name then request.value else stores.meant name :=
  Function.update_apply ..

theorem sound_step (sound : Sound key stores) (meets : Meets key request) :
    Sound key (step key stores request) := by
  constructor
  · intro name
    rw [kept_step, meant_step]
    by_cases own : name = request.name
    · rw [if_pos own, if_pos (congrArg key own)]
    · rw [if_neg own]
      split
      · rename_i shared
        -- a name that shares its key with another one holds nothing, before and after
        cases given : request.value with
        | some value => exact absurd (meets (by simp [given]) name shared) own
        | none =>
            rw [← sound.agrees name]
            by_contra held
            exact own (sound.alone name (Ne.symm held) request.name shared.symm).symm
      · exact sound.agrees name
  · intro name held
    rw [kept_step] at held
    split at held
    · rename_i shared
      intro other same
      have first := meets held name shared
      have second := meets held other (same.trans shared)
      exact second.trans first.symm
    · exact sound.alone name held

theorem meets_of_agrees (sound : Sound key stores) (agrees : Agrees key (step key stores request)) :
    Meets key request := by
  intro given other shared
  by_contra different
  have after := agrees other
  rw [kept_step, if_pos shared, meant_step, if_neg different] at after
  have held : stores.kept (key other) ≠ none := by rwa [sound.agrees other, ← after]
  exact different (sound.alone other held request.name shared.symm).symm

omit [DecidableEq ν] [DecidableEq κ] in
theorem sound_empty : Sound key (empty : Stores ν κ α) :=
  ⟨fun _ => rfl, fun _ held => absurd rfl held⟩

theorem along_meets_iff (requests : List (Request ν α)) (stores : Stores ν κ α) :
    Along (step key) (fun _ request => Meets key request) stores requests ↔
      ∀ request ∈ requests, Meets key request := by
  induction requests generalizing stores with
  | nil => simp
  | cons request rest ih => rw [along_cons, ih, List.forall_mem_cons]

/-- From empty stores the two stay the same to whoever asks by name exactly when values are only put
under names that have their keys for themselves. -/
theorem agrees_iff (requests : List (Request ν α)) :
    (∀ reached ∈ states (step key) empty requests, Agrees key reached) ↔
      ∀ request ∈ requests, request.value ≠ none → Alone key request.name := by
  have exact_step : ∀ (stores : Stores ν κ α) request, Sound key stores →
      (Sound key (step key stores request) ↔ Meets key request) := by
    intro stores request sound
    exact ⟨fun next => meets_of_agrees sound next.agrees, fun meets => sound_step sound meets⟩
  have restored : ∀ (stores : Stores ν κ α) request, Sound key stores →
      Agrees key (step key stores request) → Sound key (step key stores request) :=
    fun _ _ sound agrees => sound_step sound (meets_of_agrees sound agrees)
  rw [states_iff_invariant (fun _ sound => sound.agrees) restored sound_empty,
    states_iff_along exact_step sound_empty]
  exact along_meets_iff requests empty

end

end Naming
