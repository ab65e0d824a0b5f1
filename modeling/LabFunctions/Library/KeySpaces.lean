import Mathlib.Data.Finset.Basic

/-!
A key space as key-value servers have it: under a key stands a value or a set of names, and each
command writes one key.
-/

universe u

inductive Held (τ : Type u) where
  | value (value : τ)
  | members (names : Finset String)

abbrev KeySpace (τ : Type u) := String → Option (Held τ)

namespace KeySpace

variable {τ : Type u}

def empty : KeySpace τ := fun _ => none

def get (space : KeySpace τ) (key : String) : Option τ :=
  match space key with
  | some (.value value) => some value
  | _ => none

def smembers (space : KeySpace τ) (key : String) : Finset String :=
  match space key with
  | some (.members names) => names
  | _ => ∅

def set (space : KeySpace τ) (key : String) (value : τ) : KeySpace τ :=
  Function.update space key (some (.value value))

def delete (space : KeySpace τ) (key : String) : KeySpace τ := Function.update space key none

def sadd (space : KeySpace τ) (key name : String) : KeySpace τ :=
  Function.update space key (some (.members (insert name (space.smembers key))))

def srem (space : KeySpace τ) (key name : String) : KeySpace τ :=
  Function.update space key (some (.members ((space.smembers key).erase name)))

variable (space : KeySpace τ) (key other name : String) (value : τ)

@[simp] theorem get_empty : (empty : KeySpace τ).get key = none := rfl

@[simp] theorem smembers_empty : (empty : KeySpace τ).smembers key = ∅ := rfl

@[simp] theorem get_set :
    (space.set key value).get other = if other = key then some value else space.get other := by
  by_cases same : other = key <;> simp [get, set, same]

@[simp] theorem get_delete :
    (space.delete key).get other = if other = key then none else space.get other := by
  by_cases same : other = key <;> simp [get, delete, same]

@[simp] theorem get_sadd :
    (space.sadd key name).get other = if other = key then none else space.get other := by
  by_cases same : other = key <;> simp [get, sadd, same]

@[simp] theorem get_srem :
    (space.srem key name).get other = if other = key then none else space.get other := by
  by_cases same : other = key <;> simp [get, srem, same]

@[simp] theorem smembers_set :
    (space.set key value).smembers other = if other = key then ∅ else space.smembers other := by
  by_cases same : other = key <;> simp [smembers, set, same]

@[simp] theorem smembers_delete :
    (space.delete key).smembers other = if other = key then ∅ else space.smembers other := by
  by_cases same : other = key <;> simp [smembers, delete, same]

@[simp] theorem smembers_sadd :
    (space.sadd key name).smembers other =
      if other = key then insert name (space.smembers key) else space.smembers other := by
  by_cases same : other = key
  · subst same
    simp [smembers, sadd]
  · simp [smembers, sadd, same]

@[simp] theorem smembers_srem :
    (space.srem key name).smembers other =
      if other = key then (space.smembers key).erase name else space.smembers other := by
  by_cases same : other = key
  · subst same
    simp [smembers, srem]
  · simp [smembers, srem, same]

end KeySpace
