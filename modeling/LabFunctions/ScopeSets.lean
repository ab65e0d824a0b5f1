import LabFunctions.TokenClaims
import LabFunctions.Library.Keyed

/-!
`scopes.validate` against the pairs of a namespace and an action that a list of scopes names:
which lists of required scopes it checks one by one, and when its answer depends on the
pairs alone.
-/

namespace LabFunctions

namespace Scopes

def ns (scope : String) : String :=
  let name := (Words.split ':' scope).headD ""
  if name = "" then "any" else name

def actions (scope : String) : List String :=
  match (Words.split ':' scope).tail with
  | [] => ["any"]
  | action => action

/-- The scope that decides on a namespace, because later scopes overwrite earlier ones. -/
def deciding (name : String) (scopes : List String) : Option String := Keyed.last ns name scopes

def Named (name : String) (scopes : List String) : Prop := ∃ scope ∈ scopes, ns scope = name

/-- One scope lets another pass: they share an action, or any action is enough. -/
def Allows (held scope : String) : Prop :=
  (∃ action ∈ actions scope, action ∈ actions held) ∨ "any" ∈ actions scope

def Granted (user_scopes : List String) (scope : String) : Prop :=
  ∃ held ∈ user_scopes, ns held = ns scope ∧ Allows held scope

section Reading

theorem split_cons (scope : String) :
    ∃ name action, Words.split ':' scope = name :: action := by
  have some : Words.split ':' scope ≠ [] := by
    simp [Words.split, List.splitOn_eq_splitOnP, List.splitOnP_ne_nil]
  exact List.exists_cons_of_ne_nil some

theorem scope2dict_eq (scopes : List String) :
    scope2dict scopes =
      Runs.run (fun permissions scope => Dict.set permissions (ns scope) (actions scope)) []
        scopes := by
  unfold scope2dict Runs.run
  congr 1
  funext permissions scope
  obtain ⟨name, action, split⟩ := split_cons scope
  rw [split, ns, actions, split]
  cases action <;> rfl

theorem actions_ne_nil (scope : String) : actions scope ≠ [] := by
  unfold actions
  split
  · simp
  · assumption

theorem exists_action (scope : String) : ∃ action, action ∈ actions scope :=
  List.exists_mem_of_ne_nil _ (actions_ne_nil scope)

theorem clean_actions {scope action : String} (member : action ∈ actions scope) :
    ':' ∉ action.toList := by
  unfold actions at member
  split at member
  · rw [List.mem_singleton.mp member]
    decide
  · exact Words.not_mem_of_mem_split (List.mem_of_mem_tail member)

theorem ns_ne_empty (scope : String) : ns scope ≠ "" := by
  unfold ns
  simp only
  split
  · decide
  · assumption

theorem clean_ns (scope : String) : ':' ∉ (ns scope).toList := by
  obtain ⟨name, action, split⟩ := split_cons scope
  have inside : name ∈ Words.split ':' scope := by simp [split]
  have clean := Words.not_mem_of_mem_split inside
  rw [ns, split, List.headD_cons]
  by_cases empty : name = ""
  · simp [empty]
  · simpa [empty] using clean

theorem lookup_scope2dict (scopes : List String) (name : String) :
    (scope2dict scopes).lookup name = (deciding name scopes).map actions := by
  rw [scope2dict_eq]
  have kept : ∀ (permissions : List (String × List String)) (scope : String),
      (Dict.set permissions (ns scope) (actions scope)).lookup name =
        if decide (ns scope = name) then some (actions scope) else permissions.lookup name := by
    intro permissions scope
    by_cases same : ns scope = name
    · simp [same]
    · simp [same, Dict.lookup_set_ne _ _ (Ne.symm same)]
  refine (Keyed.run_latest (fun permissions : List (String × List String) =>
    permissions.lookup name) kept [] scopes).trans ?_
  rw [List.lookup_nil, Option.or_none]
  rfl

theorem deciding_mem {name scope : String} {scopes : List String}
    (found : deciding name scopes = some scope) : scope ∈ scopes ∧ ns scope = name := by
  obtain ⟨member, met⟩ := Keyed.latest_mem found
  exact ⟨member, by simpa using met⟩

theorem deciding_of_named {name : String} {scopes : List String} (named : Named name scopes) :
    ∃ scope, deciding name scopes = some scope := by
  obtain ⟨scope, member, same⟩ := named
  exact Keyed.latest_isSome_of_mem member (by simpa using same)

theorem deciding_isSome (name : String) (scopes : List String) :
    (deciding name scopes).isSome = true ↔ Named name scopes := by
  rw [Option.isSome_iff_exists]
  constructor
  · rintro ⟨scope, found⟩
    exact ⟨scope, deciding_mem found⟩
  · exact deciding_of_named

end Reading

section Validate

theorem nodup_scope2dict (scopes : List String) : ((scope2dict scopes).map Prod.fst).Nodup := by
  have kept : ∀ (permissions : List (String × List String)) (scope : String),
      (permissions.map Prod.fst).Nodup →
        ((Dict.set permissions (ns scope) (actions scope)).map Prod.fst).Nodup :=
    fun _ _ nodup => Dict.nodup_set _ _ nodup
  have initial : (([] : List (String × List String)).map Prod.fst).Nodup := List.nodup_nil
  rw [scope2dict_eq]
  exact Runs.run_kept kept initial scopes

theorem mem_scope2dict {scopes : List String} {entry : String × List String} :
    entry ∈ scope2dict scopes ↔
      ∃ scope, deciding entry.1 scopes = some scope ∧ actions scope = entry.2 := by
  obtain ⟨name, action⟩ := entry
  rw [Dict.mem_iff_lookup (nodup_scope2dict scopes), lookup_scope2dict, Option.map_eq_some_iff]

theorem lookup_eq_none {scopes : List String} {name : String} :
    (scope2dict scopes).lookup name = none ↔ ¬ Named name scopes := by
  rw [lookup_scope2dict, Option.map_eq_none_iff, ← deciding_isSome]
  simp

/-- The check of the names: all of them are held, or the wildcard is among them. -/
def NamesPass (require_all : Bool) (required user_scopes : List String) : Prop :=
  require_all = true →
    (∀ scope ∈ required, Named (ns scope) user_scopes) ∨ Named "any" required

theorem namesPass_iff (require_all : Bool) (required user_scopes : List String) :
    (require_all = true ∧
      (scope2dict required).length ≠ ((scope2dict required).filter fun entry =>
        ((scope2dict user_scopes).lookup entry.1).isSome).length ∧
      (scope2dict required).lookup "any" = none) ↔
      ¬ NamesPass require_all required user_scopes := by
  have names : (scope2dict required).length = ((scope2dict required).filter fun entry =>
        ((scope2dict user_scopes).lookup entry.1).isSome).length ↔
      ∀ scope ∈ required, Named (ns scope) user_scopes := by
    rw [eq_comm, List.length_filter_eq_length_iff]
    constructor
    · intro all scope member
      obtain ⟨last, found⟩ := deciding_of_named ⟨scope, member, rfl⟩
      have held := all (ns scope, actions last) (mem_scope2dict.mpr ⟨last, found, rfl⟩)
      rw [lookup_scope2dict, Option.isSome_map, deciding_isSome] at held
      exact held
    · intro all entry member
      obtain ⟨last, found, _⟩ := mem_scope2dict.mp member
      rw [lookup_scope2dict, Option.isSome_map, deciding_isSome, ← (deciding_mem found).2]
      exact all last (deciding_mem found).1
  rw [NamesPass, lookup_eq_none, ne_eq, names]
  tauto

/-- `validate` in terms of the deciding scopes: the names pass and one of them matches. -/
theorem validate_eq_true (require_all : Bool) (required user_scopes : List String) :
    validate required user_scopes require_all = true ↔
      NamesPass require_all required user_scopes ∧
        ∃ name scope held, deciding name required = some scope ∧
          deciding name user_scopes = some held ∧ Allows held scope := by
  have matched : ∀ entry : String × List String,
      (entry.2.any (fun action =>
          (((scope2dict user_scopes).lookup entry.1).getD []).contains action) ||
        entry.2.contains "any") = true ↔
      (∃ action ∈ entry.2, action ∈ ((scope2dict user_scopes).lookup entry.1).getD []) ∨
        "any" ∈ entry.2 := by
    intro entry
    simp
  by_cases passes : NamesPass require_all required user_scopes
  · have checked := (namesPass_iff require_all required user_scopes).not.mpr (not_not.mpr passes)
    rw [validate, if_neg checked, List.any_eq_true]
    simp only [matched, List.mem_filter, passes, true_and]
    constructor
    · rintro ⟨⟨name, action⟩, ⟨member, held⟩, allowed⟩
      obtain ⟨scope, found, same⟩ := mem_scope2dict.mp member
      rw [lookup_scope2dict, Option.isSome_map, Option.isSome_iff_exists] at held
      obtain ⟨last, kept⟩ := held
      simp only at found same allowed
      rw [lookup_scope2dict, kept, ← same] at allowed
      exact ⟨name, scope, last, found, kept, allowed⟩
    · rintro ⟨name, scope, last, found, kept, allowed⟩
      refine ⟨(name, actions scope), ⟨mem_scope2dict.mpr ⟨scope, found, rfl⟩, ?_⟩, ?_⟩
      · simp [lookup_scope2dict, kept]
      · simpa [lookup_scope2dict, kept, Allows] using allowed
  · have refused := (namesPass_iff require_all required user_scopes).mpr passes
    rw [validate, if_pos refused]
    simp [passes]

end Validate

section Single

def single (name action : String) : String := name ++ String.singleton ':' ++ action

variable {name action : String}

theorem split_single (clean : ':' ∉ name.toList) (cleanAction : ':' ∉ action.toList) :
    Words.split ':' (single name action) = [name, action] := by
  rw [single, Words.split_append clean, Words.split_self cleanAction]

theorem ns_single {scope : String} (cleanAction : ':' ∉ action.toList) :
    ns (single (ns scope) action) = ns scope := by
  have split := split_single (clean_ns scope) cleanAction
  have some := ns_ne_empty scope
  generalize ns scope = name at split some ⊢
  rw [ns, split]
  exact if_neg some

theorem actions_single {scope : String} (cleanAction : ':' ∉ action.toList) :
    actions (single (ns scope) action) = [action] := by
  rw [actions, split_single (clean_ns scope) cleanAction]
  rfl

theorem exists_fresh (taken : List String) : ∃ action, ':' ∉ action.toList ∧ action ∉ taken := by
  let count := (taken.map String.length).sum + 1
  refine ⟨String.ofList (List.replicate count 'x'), ?_, ?_⟩
  · simp
  · intro found
    have bound : (String.ofList (List.replicate count 'x')).length ≤
        (taken.map String.length).sum := List.single_le_sum (by simp) _ (List.mem_map_of_mem found)
    rw [String.length_ofList, List.length_replicate] at bound
    omega

end Single

section RequireAll

/-- One required scope is matched, another is not, and the check of the names does not object. -/
structure Mixed (required user_scopes : List String) : Prop where
  named : (∀ scope ∈ required, Named (ns scope) user_scopes) ∨ Named "any" required
  matched : ∃ name scope held, deciding name required = some scope ∧
    deciding name user_scopes = some held ∧ Allows held scope
  lacking : ∃ scope ∈ required, ¬ Granted user_scopes scope

/-- Required scopes of which one match speaks for all: they ask for no action, or they are of
one namespace and the last of them asks for the least. -/
def Uniform (required : List String) : Prop :=
  (∀ scope ∈ required, "any" ∈ actions scope ∧ ns scope ≠ "any") ∨
    ∀ scope ∈ required, ∀ last ∈ required.getLast?, ns scope = ns last ∧
      ("any" ∈ actions scope ∨
        "any" ∉ actions last ∧ ∀ action ∈ actions last, action ∈ actions scope)

variable {required user_scopes : List String}

theorem granted_iff_not_mixed :
    (validate required user_scopes true = true →
      ∀ scope ∈ required, Granted user_scopes scope) ↔ ¬ Mixed required user_scopes := by
  rw [validate_eq_true]
  constructor
  · intro granted mixed
    obtain ⟨scope, member, lacks⟩ := mixed.lacking
    exact lacks (granted ⟨fun _ => mixed.named, mixed.matched⟩ scope member)
  · rintro unmixed ⟨named, matched⟩ scope member
    by_contra lacks
    exact unmixed ⟨named rfl, matched, scope, member, lacks⟩

theorem deciding_getLast {name : String} (one : ∀ other ∈ required, ns other = name) :
    deciding name required = required.getLast? := by
  have whole : Keyed.under ns name required = required := by
    unfold Keyed.under
    exact List.filter_eq_self.mpr fun other member => by simpa using one other member
  rw [deciding, Keyed.last, whole]

theorem granted_of_uniform (uniform : Uniform required)
    (valid : validate required user_scopes true = true) :
    ∀ scope ∈ required, Granted user_scopes scope := by
  intro scope member
  obtain ⟨named, name, last, held, found, kept, allowed⟩ := (validate_eq_true ..).mp valid
  rcases uniform with free | one
  · obtain ⟨held, inside, same⟩ : Named (ns scope) user_scopes := by
      rcases named rfl with all | ⟨other, inside, wildcard⟩
      · exact all scope member
      · exact absurd wildcard (free other inside).2
    exact ⟨held, inside, same, .inr (free scope member).1⟩
  · obtain ⟨inside, lastName⟩ := deciding_mem found
    obtain ⟨end_, ending⟩ : ∃ end_, required.getLast? = some end_ :=
      ⟨_, List.getLast?_eq_some_getLast (List.ne_nil_of_mem member)⟩
    have names : ∀ other ∈ required, ns other = name := by
      intro other inner
      rw [(one other inner end_ ending).1, ← (one last inside end_ ending).1, lastName]
    have final : required.getLast? = some last := (deciding_getLast names).symm.trans found
    obtain ⟨heldMember, heldName⟩ := deciding_mem kept
    refine ⟨held, heldMember, by rw [heldName, names scope member], ?_⟩
    rcases (one scope member last final).2 with free | ⟨bound, fewer⟩
    · exact .inr free
    · obtain ⟨action, asked, has⟩ := allowed.resolve_right bound
      exact .inl ⟨action, fewer action asked, has⟩

theorem granted_single {action : String} (clean : ':' ∉ action.toList) {last scope : String}
    (granted : Granted [single (ns last) action] scope) (bound : "any" ∉ actions scope) :
    action ∈ actions scope := by
  obtain ⟨held, inside, _, allowed⟩ := granted
  obtain rfl := List.mem_singleton.mp inside
  obtain ⟨shared, asked, has⟩ := allowed.resolve_right bound
  rw [actions_single clean, List.mem_singleton] at has
  exact has ▸ asked

theorem validate_single {action last : String} (clean : ':' ∉ action.toList)
    (one : ∀ scope ∈ required, ns scope = ns last) (final : required.getLast? = some last)
    (allowed : "any" ∈ actions last ∨ action ∈ actions last) :
    validate required [single (ns last) action] true = true := by
  have named : ns (single (ns last) action) = ns last := ns_single clean
  apply (validate_eq_true ..).mpr
  refine ⟨fun _ => .inl ?_, ns last, last, single (ns last) action, ?_, ?_, ?_⟩
  · intro scope member
    exact ⟨_, List.mem_singleton_self _, named.trans (one scope member).symm⟩
  · rw [deciding_getLast one, final]
  · rw [deciding_getLast (by simpa using named)]
    rfl
  · rcases allowed with free | asked
    · exact .inr free
    · exact .inl ⟨action, asked, by simp [actions_single clean]⟩

theorem deciding_append (name : String) (front back : List String) :
    deciding name (front ++ back) = (deciding name back).or (deciding name front) := by
  simp [deciding, Keyed.last, Keyed.under, List.getLast?_append]

theorem allows_self (scope : String) : Allows scope scope := by
  obtain ⟨action, asked⟩ := exists_action scope
  exact .inl ⟨action, asked, asked⟩

theorem validate_partial {other : String} (member : other ∈ required) (action : String)
    (clean : ':' ∉ action.toList) :
    ∃ last ∈ required, ns last = ns other ∧
      validate required (required.map (fun scope => single (ns scope) action) ++ [last]) true =
        true := by
  obtain ⟨last, found⟩ := deciding_of_named ⟨other, member, rfl⟩
  obtain ⟨inside, same⟩ := deciding_mem found
  refine ⟨last, inside, same, (validate_eq_true ..).mpr ⟨fun _ => .inl ?_, ns other, last, last,
    found, ?_, ?_⟩⟩
  · intro scope asked
    refine ⟨single (ns scope) action, ?_, ns_single clean⟩
    exact List.mem_append_left _ (List.mem_map_of_mem asked)
  · have alone : deciding (ns other) [last] = some last := by
      rw [deciding_getLast (by simpa using same)]
      rfl
    rw [deciding_append, alone, Option.some_or]
  · exact allows_self last

theorem validate_wildcard {other : String} (member : other ∈ required)
    (wildcard : Named "any" required) :
    ∃ last ∈ required, ns last = ns other ∧ validate required [last] true = true := by
  obtain ⟨last, found⟩ := deciding_of_named ⟨other, member, rfl⟩
  obtain ⟨inside, same⟩ := deciding_mem found
  refine ⟨last, inside, same, (validate_eq_true ..).mpr ⟨fun _ => .inr wildcard, ns other, last,
    last, found, ?_, allows_self last⟩⟩
  rw [deciding_getLast (by simpa using same)]
  rfl

theorem free_of_granted
    (granted : ∀ user_scopes, validate required user_scopes true = true →
      ∀ scope ∈ required, Granted user_scopes scope)
    {scope other : String} (member : scope ∈ required) (otherMember : other ∈ required)
    (apart : ns other ≠ ns scope) : "any" ∈ actions scope ∧ ns scope ≠ "any" := by
  obtain ⟨action, clean, fresh⟩ := exists_fresh (actions scope)
  obtain ⟨last, inside, same, valid⟩ := validate_partial otherMember action clean
  constructor
  · by_contra bound
    obtain ⟨held, owned, named, allowed⟩ := granted _ valid scope member
    rcases List.mem_append.mp owned with weak | strong
    · obtain ⟨_, _, rfl⟩ := List.mem_map.mp weak
      obtain ⟨shared, asked, has⟩ := allowed.resolve_right bound
      rw [actions_single clean, List.mem_singleton] at has
      exact fresh (has ▸ asked)
    · obtain rfl := List.mem_singleton.mp strong
      exact apart (same.symm.trans named)
  · intro wildcard
    obtain ⟨last, _, same, valid⟩ := validate_wildcard otherMember ⟨scope, member, wildcard⟩
    obtain ⟨held, owned, named, _⟩ := granted _ valid scope member
    obtain rfl := List.mem_singleton.mp owned
    exact apart (same.symm.trans named)

theorem uniform_of_granted
    (granted : ∀ user_scopes, validate required user_scopes true = true →
      ∀ scope ∈ required, Granted user_scopes scope) : Uniform required := by
  by_cases one : ∀ scope ∈ required, ∀ other ∈ required, ns scope = ns other
  · right
    intro scope member last final
    have names : ∀ other ∈ required, ns other = ns last :=
      fun other inside => one other inside last (List.mem_of_getLast? final)
    refine ⟨names scope member, ?_⟩
    by_cases free : "any" ∈ actions scope
    · exact .inl free
    · right
      constructor
      · intro loose
        obtain ⟨action, clean, fresh⟩ := exists_fresh (actions scope)
        have valid := validate_single clean names final (.inl loose)
        exact fresh (granted_single clean (granted _ valid scope member) free)
      · intro action asked
        have clean := clean_actions asked
        have valid := validate_single clean names final (.inr asked)
        exact granted_single clean (granted _ valid scope member) free
  · left
    push Not at one
    obtain ⟨first, firstMember, second, secondMember, apart⟩ := one
    intro scope member
    by_cases same : ns first = ns scope
    · exact free_of_granted granted member secondMember (same ▸ Ne.symm apart)
    · exact free_of_granted granted member firstMember same

/-- With `require_all`, who passes holds every required scope, exactly unless one match stands
in for a scope that is lacking; and for every user exactly where all the scopes are uniform. -/
theorem require_all_met_iff (required : List String) :
    (∀ user_scopes, (validate required user_scopes true = true →
      ∀ scope ∈ required, Granted user_scopes scope) ↔ ¬ Mixed required user_scopes) ∧
    ((∀ user_scopes, validate required user_scopes true = true →
      ∀ scope ∈ required, Granted user_scopes scope) ↔ Uniform required) :=
  ⟨fun _ => granted_iff_not_mixed,
    uniform_of_granted, fun uniform _ valid => granted_of_uniform uniform valid⟩

/-- Reading one project makes up for not writing another. -/
theorem admin_write_lacking :
    ¬ (∀ required user_scopes : List String,
      required.all (fun scope => (Words.split ':' scope).headD "" != "") = true →
        validate required user_scopes true = true →
          ∀ scope ∈ required, Granted user_scopes scope) := by
  intro met
  have granted := met ["user:read", "admin:write"] ["user:read", "admin:read"] (by decide)
    (by decide) "admin:write" (by decide)
  revert granted
  simp only [Granted, Allows]
  decide

end RequireAll

section Pairs

def pairs (scopes : List String) : List (String × String) :=
  scopes.flatMap fun scope => (actions scope).map fun action => (ns scope, action)

def SamePairs (scopes others : List String) : Prop :=
  ∀ pair, pair ∈ pairs scopes ↔ pair ∈ pairs others

theorem mem_pairs {scopes : List String} {name action : String} :
    (name, action) ∈ pairs scopes ↔ ∃ scope ∈ scopes, ns scope = name ∧ action ∈ actions scope := by
  simp only [pairs, List.mem_flatMap, List.mem_map, Prod.mk.injEq]
  constructor
  · rintro ⟨scope, member, _, inside, same, rfl⟩
    exact ⟨scope, member, same, inside⟩
  · rintro ⟨scope, member, same, inside⟩
    exact ⟨scope, member, action, inside, same, rfl⟩

@[simp] theorem pairs_append (front back : List String) :
    pairs (front ++ back) = pairs front ++ pairs back := List.flatMap_append

theorem samePairs_of_perm {scopes others : List String} (perm : scopes.Perm others) :
    SamePairs scopes others :=
  fun _ => (perm.flatMap_right _).mem_iff

theorem samePairs_repeat (front back : List String) (scope : String) :
    SamePairs (front ++ scope :: back) (front ++ scope :: scope :: back) := by
  intro pair
  have apart : ∀ rest, pairs (scope :: rest) = pairs [scope] ++ pairs rest :=
    fun rest => pairs_append [scope] rest
  rw [pairs_append, pairs_append, apart (scope :: back), apart back]
  simp only [List.mem_append]
  tauto

/-- `ns:a:b` names the pairs of `ns:a` and `ns:b`. -/
theorem samePairs_split (front back : List String) {name : String} (clean : ':' ∉ name.toList)
    (first second : String) :
    SamePairs (front ++ single name (single first second) :: back)
      (front ++ single name first :: single name second :: back) := by
  have names : ∀ rest, ns (single name rest) = if name = "" then "any" else name := by
    intro rest
    rw [ns, single, Words.split_append clean, List.headD_cons]
  have others : ∀ rest, actions (single name rest) = Words.split ':' rest := by
    intro rest
    obtain ⟨head, more, split⟩ := split_cons rest
    rw [actions, single, Words.split_append clean, List.tail_cons, split]
  have apart : ∀ scope rest, pairs (scope :: rest) = pairs [scope] ++ pairs rest :=
    fun scope rest => pairs_append [scope] rest
  have alone : ∀ rest, pairs [single name rest] = (Words.split ':' rest).map
      fun action => (if name = "" then "any" else name, action) := by
    intro rest
    rw [pairs, List.flatMap_singleton, names, others]
  intro pair
  rw [pairs_append, pairs_append, apart _ back, apart _ (_ :: back), apart _ back, alone, alone,
    alone, single, Words.split_separated, List.map_append]
  simp only [List.mem_append]
  tauto

theorem named_iff_pairs {name : String} {scopes : List String} :
    Named name scopes ↔ ∃ action, (name, action) ∈ pairs scopes := by
  constructor
  · rintro ⟨scope, member, same⟩
    obtain ⟨action, inside⟩ := exists_action scope
    exact ⟨action, mem_pairs.mpr ⟨scope, member, same, inside⟩⟩
  · rintro ⟨action, inside⟩
    obtain ⟨scope, member, same, _⟩ := mem_pairs.mp inside
    exact ⟨scope, member, same⟩

theorem SamePairs.named {scopes others : List String} (same : SamePairs scopes others)
    (name : String) : Named name scopes ↔ Named name others := by
  simp only [named_iff_pairs, same _]

theorem mem_pairs_of_deciding {name scope action : String} {scopes : List String}
    (found : deciding name scopes = some scope) (inside : action ∈ actions scope) :
    (name, action) ∈ pairs scopes :=
  mem_pairs.mpr ⟨scope, (deciding_mem found).1, (deciding_mem found).2, inside⟩

/-- What `validate` owes a function of two sets, monotone in the second, at all the lists that
name the same pairs as these two. -/
def AsSets (require_all : Bool) (required user_scopes : List String) : Prop :=
  ∀ others owned, SamePairs required others → SamePairs user_scopes owned →
    validate others owned require_all = validate required user_scopes require_all ∧
    ∀ added, validate others owned require_all = true →
      validate others (owned ++ added) require_all = true

/-- No pair is shared and no held namespace is asked for with any action. -/
def Apart (required user_scopes : List String) : Prop :=
  ∀ name action, (name, action) ∈ pairs required → Named name user_scopes →
    action ≠ "any" ∧ (name, action) ∉ pairs user_scopes

/-- Some held namespace is asked for with no action but the wildcard. -/
def Free (required user_scopes : List String) : Prop :=
  ∃ name, Named name required ∧ Named name user_scopes ∧
    ∀ action, (name, action) ∈ pairs required → action = "any"

def Settled (require_all : Bool) (required user_scopes : List String) : Prop :=
  ¬ NamesPass require_all required user_scopes ∨ Apart required user_scopes ∨
    Free required user_scopes

variable {require_all : Bool} {required others user_scopes owned : List String}

theorem namesPass_iff_named : NamesPass require_all required user_scopes ↔
    (require_all = true →
      (∀ name, Named name required → Named name user_scopes) ∨ Named "any" required) := by
  unfold NamesPass
  constructor
  · intro passes always
    refine (passes always).imp_left ?_
    rintro all name ⟨scope, member, rfl⟩
    exact all scope member
  · intro passes always
    exact (passes always).imp_left fun all scope member => all _ ⟨scope, member, rfl⟩

theorem SamePairs.namesPass (same : SamePairs required others)
    (sameUser : SamePairs user_scopes owned) :
    NamesPass require_all others owned ↔ NamesPass require_all required user_scopes := by
  rw [namesPass_iff_named, namesPass_iff_named]
  simp only [same.named, sameUser.named]

theorem namesPass_append (passes : NamesPass require_all required user_scopes)
    (added : List String) : NamesPass require_all required (user_scopes ++ added) := by
  intro always
  refine (passes always).imp_left ?_
  intro all scope member
  obtain ⟨held, inside, same⟩ := all scope member
  exact ⟨held, List.mem_append_left _ inside, same⟩

theorem validate_eq_false_of_apart (apart : Apart required user_scopes) :
    validate required user_scopes require_all = false := by
  rw [Bool.eq_false_iff]
  intro valid
  obtain ⟨_, name, scope, held, found, kept, allowed⟩ := (validate_eq_true ..).mp valid
  have named : Named name user_scopes := ⟨held, deciding_mem kept⟩
  rcases allowed with ⟨action, asked, has⟩ | free
  · exact (apart name action (mem_pairs_of_deciding found asked) named).2
      (mem_pairs_of_deciding kept has)
  · exact (apart name "any" (mem_pairs_of_deciding found free) named).1 rfl

theorem validate_of_free (free : Free required user_scopes) :
    validate required user_scopes require_all = true ↔
      NamesPass require_all required user_scopes := by
  obtain ⟨name, asked, held, wildcard⟩ := free
  rw [validate_eq_true]
  constructor
  · exact And.left
  · intro passes
    obtain ⟨scope, found⟩ := deciding_of_named asked
    obtain ⟨last, kept⟩ := deciding_of_named held
    obtain ⟨action, inside⟩ := exists_action scope
    have any : action = "any" := wildcard action (mem_pairs_of_deciding found inside)
    exact ⟨passes, name, scope, last, found, kept, .inr (any ▸ inside)⟩

theorem SamePairs.apart (same : SamePairs required others) (sameUser : SamePairs user_scopes owned)
    (apart : Apart required user_scopes) : Apart others owned := by
  intro name action asked held
  obtain ⟨bound, free⟩ := apart name action ((same _).mpr asked) ((sameUser.named _).mpr held)
  exact ⟨bound, fun has => free ((sameUser _).mpr has)⟩

theorem SamePairs.free (same : SamePairs required others) (sameUser : SamePairs user_scopes owned)
    (free : Free required user_scopes) : Free others owned := by
  obtain ⟨name, asked, held, wildcard⟩ := free
  exact ⟨name, (same.named _).mp asked, (sameUser.named _).mp held,
    fun action inside => wildcard action ((same _).mpr inside)⟩

theorem free_append (free : Free required user_scopes) (added : List String) :
    Free required (user_scopes ++ added) := by
  obtain ⟨name, asked, ⟨held, inside, same⟩, wildcard⟩ := free
  exact ⟨name, asked, ⟨held, List.mem_append_left _ inside, same⟩, wildcard⟩

theorem asSets_of_settled (settled : Settled require_all required user_scopes) :
    AsSets require_all required user_scopes := by
  intro others owned same sameUser
  rcases settled with fails | apart | free
  · have refused : ∀ {asked held : List String}, ¬ NamesPass require_all asked held →
        validate asked held require_all = false := by
      intro asked held fails
      rw [Bool.eq_false_iff]
      exact fun valid => fails ((validate_eq_true ..).mp valid).1
    have other := refused (fun passes => fails ((same.namesPass sameUser).mp passes))
    rw [other, refused fails]
    exact ⟨rfl, fun _ valid => absurd valid Bool.false_ne_true⟩
  · rw [validate_eq_false_of_apart apart,
      validate_eq_false_of_apart (same.apart sameUser apart)]
    exact ⟨rfl, fun _ valid => absurd valid Bool.false_ne_true⟩
  · have other := same.free sameUser free
    constructor
    · rw [Bool.eq_iff_iff, validate_of_free free, validate_of_free other,
        same.namesPass sameUser]
    · intro added valid
      rw [validate_of_free (free_append other added)]
      exact namesPass_append ((validate_of_free other).mp valid) added

theorem deciding_append_of_named {name : String} (front : List String) {back : List String}
    (named : Named name back) : deciding name (front ++ back) = deciding name back := by
  obtain ⟨scope, found⟩ := deciding_of_named named
  rw [deciding_append, found, Option.some_or]

def singles (scopes : List String) (meets : String → Bool) : List String :=
  ((pairs scopes).filter fun pair => meets pair.2).map fun pair => single pair.1 pair.2

variable {meets : String → Bool}

theorem mem_singles {scopes : List String} {scope : String}
    (member : scope ∈ singles scopes meets) :
    ∃ action, (ns scope, action) ∈ pairs scopes ∧ meets action = true ∧
      actions scope = [action] := by
  obtain ⟨⟨name, action⟩, inside, rfl⟩ := List.mem_map.mp member
  obtain ⟨named, met⟩ := List.mem_filter.mp inside
  obtain ⟨source, _, rfl, has⟩ := mem_pairs.mp named
  simp only
  rw [ns_single (clean_actions has), actions_single (clean_actions has)]
  exact ⟨action, named, met, rfl⟩

theorem named_singles {scopes : List String} {name action : String}
    (inside : (name, action) ∈ pairs scopes) (met : meets action = true) :
    Named name (singles scopes meets) := by
  obtain ⟨source, _, rfl, has⟩ := mem_pairs.mp inside
  refine ⟨single (ns source) action, ?_, ns_single (clean_actions has)⟩
  exact List.mem_map.mpr ⟨_, List.mem_filter.mpr ⟨inside, met⟩, rfl⟩

theorem samePairs_singles (scopes : List String) (meets : String → Bool) :
    SamePairs scopes (scopes ++ singles scopes meets) := by
  rintro ⟨name, action⟩
  rw [pairs_append, List.mem_append]
  constructor
  · exact .inl
  · rintro (inside | copied)
    · exact inside
    · obtain ⟨scope, member, rfl, has⟩ := mem_pairs.mp copied
      obtain ⟨only, named, _, alone⟩ := mem_singles member
      rw [alone, List.mem_singleton] at has
      exact has ▸ named

theorem deciding_singles (meets : String → Bool) {scopes : List String} {name action : String}
    (inside : (name, action) ∈ pairs scopes) (met : meets action = true) :
    ∃ scope only, deciding name (scopes ++ singles scopes meets) = some scope ∧
      actions scope = [only] ∧ meets only = true := by
  have named := named_singles inside met
  obtain ⟨scope, found⟩ := deciding_of_named named
  obtain ⟨only, _, good, alone⟩ := mem_singles (deciding_mem found).1
  exact ⟨scope, only, (deciding_append_of_named scopes named).trans found, alone, good⟩

/-- Lists with the pairs of these two, and a shared or free action decides. -/
theorem exists_valid (passes : NamesPass require_all required user_scopes)
    (shared : ¬ Apart required user_scopes) :
    ∃ others owned, SamePairs required others ∧ SamePairs user_scopes owned ∧
      validate others owned require_all = true := by
  unfold Apart at shared
  push Not at shared
  obtain ⟨name, action, asked, held, meets⟩ := shared
  let chosen : String → Bool := fun other => other = action
  obtain ⟨scope, only, found, alone, same⟩ := deciding_singles chosen asked (by simp [chosen])
  obtain rfl : only = action := by simpa [chosen] using same
  have others := samePairs_singles required chosen
  by_cases wildcard : only = "any"
  · obtain ⟨last, kept⟩ := deciding_of_named held
    have unchanged : SamePairs user_scopes user_scopes := fun _ => Iff.rfl
    refine ⟨_, _, others, unchanged,
      (validate_eq_true ..).mpr ⟨?_, name, scope, last, found, kept, ?_⟩⟩
    · exact (others.namesPass unchanged).mpr passes
    · exact .inr (by simp [alone, wildcard])
  · obtain ⟨last, owned, kept, single, sameOwned⟩ :=
      deciding_singles chosen (meets wildcard) (by simp [chosen])
    obtain rfl : owned = only := by simpa [chosen] using sameOwned
    have held := samePairs_singles user_scopes chosen
    refine ⟨_, _, others, held, (validate_eq_true ..).mpr ⟨?_, name, scope, last, found, kept, ?_⟩⟩
    · exact (others.namesPass held).mpr passes
    · exact .inl ⟨owned, by simp [alone], by simp [single]⟩

/-- An added scope for each held namespace, with an action nobody asks for. -/
theorem exists_refused (bound : ¬ Free required user_scopes) :
    ∃ others added, SamePairs required others ∧
      validate others (user_scopes ++ added) require_all = false := by
  let asks : String → Bool := fun action => action != "any"
  obtain ⟨action, clean, fresh⟩ := exists_fresh ((pairs required).map Prod.snd)
  let added := user_scopes.map fun scope => single (ns scope) action
  have others := samePairs_singles required asks
  refine ⟨_, added, others, ?_⟩
  rw [Bool.eq_false_iff]
  intro valid
  obtain ⟨_, name, scope, held, found, kept, allowed⟩ := (validate_eq_true ..).mp valid
  have addedName : ∀ {owned}, owned ∈ added → Named (ns owned) user_scopes ∧
      actions owned = [action] := by
    intro owned member
    obtain ⟨source, inside, rfl⟩ := List.mem_map.mp member
    exact ⟨⟨source, inside, (ns_single clean).symm⟩, actions_single clean⟩
  have heldName : Named name user_scopes := by
    obtain ⟨inside, rfl⟩ := deciding_mem kept
    rcases List.mem_append.mp inside with old | new
    · exact ⟨held, old, rfl⟩
    · exact (addedName new).1
  obtain ⟨source, inside, rfl⟩ := heldName
  have coming : Named (ns source) added :=
    ⟨_, List.mem_map_of_mem inside, ns_single clean⟩
  rw [deciding_append_of_named _ coming] at kept
  have only := (addedName (deciding_mem kept).1).2
  have askedName : Named (ns source) required :=
    (others.named _).mpr ⟨scope, deciding_mem found⟩
  obtain ⟨asked, pair, notAny⟩ : ∃ asked, (ns source, asked) ∈ pairs required ∧ asked ≠ "any" := by
    by_contra none
    push Not at none
    exact bound ⟨_, askedName, ⟨source, inside, rfl⟩, none⟩
  obtain ⟨last, one, decides, alone, met⟩ :=
    deciding_singles asks pair (by simpa [asks] using notAny)
  obtain rfl : last = scope := Option.some.inj (decides.symm.trans found)
  rcases allowed with ⟨shared, wanted, has⟩ | free
  · rw [only, List.mem_singleton] at has
    have named := (others _).mpr (mem_pairs_of_deciding found wanted)
    exact fresh (has ▸ List.mem_map_of_mem named)
  · rw [alone, List.mem_singleton] at free
    simp [asks, ← free] at met

theorem settled_of_asSets (sets : AsSets require_all required user_scopes) :
    Settled require_all required user_scopes := by
  by_contra unsettled
  simp only [Settled, not_or, not_not] at unsettled
  obtain ⟨passes, shared, bound⟩ := unsettled
  have unchanged : SamePairs user_scopes user_scopes := fun _ => Iff.rfl
  obtain ⟨others, owned, same, sameUser, valid⟩ := exists_valid passes shared
  obtain ⟨refusing, added, sameAsked, refused⟩ := exists_refused bound
  have answers := (sets others owned same sameUser).1.symm.trans valid
  have still := sets refusing user_scopes sameAsked unchanged
  have grows := still.2 added (still.1.trans answers)
  rw [refused] at grows
  exact Bool.false_ne_true grows

/-- `validate` answers for the pairs of two lists, and no added scope takes a right away, exactly
where no action decides: a name is missing, nothing is shared, or the wildcard is enough. -/
theorem asSets_iff (require_all : Bool) (required user_scopes : List String) :
    AsSets require_all required user_scopes ↔ Settled require_all required user_scopes :=
  ⟨settled_of_asSets, asSets_of_settled⟩

/-- The order of two scopes, the way they are joined, and one scope more change the answer. -/
theorem read_write_overwritten :
    validate ["user:read"] ["user:write", "user:read"] = true ∧
      validate ["user:read"] ["user:read", "user:write"] = false ∧
      validate ["user:read"] ["user:read:write"] = true ∧
      validate ["user:read"] ["user:read"] = true ∧
      ¬ AsSets true ["user:read"] ["user:write", "user:read"] := by
  refine ⟨by decide, by decide, by decide, by decide, ?_⟩
  intro sets
  have unchanged : SamePairs ["user:read"] ["user:read"] := fun _ => Iff.rfl
  have permuted : SamePairs ["user:write", "user:read"] ["user:read", "user:write"] :=
    samePairs_of_perm (List.Perm.swap ..)
  have same := (sets _ _ unchanged permuted).1
  revert same
  decide

end Pairs

end Scopes

end LabFunctions
