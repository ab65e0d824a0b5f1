import LabFunctions.Context
import LabFunctions.Database
import LabFunctions.Library.Lines
import Mathlib.Data.List.Forall2

/-!
`labfunctions.secrets` and the part of `labfunctions.runtimes.bundler` that hands the variables of
a client over to the container in which its notebooks run.
-/

namespace LabFunctions

open Lines

/-- What is used of `cryptography.fernet`. A token is URL-safe base64, and a draw is what an
encryption takes from the clock and the random source. -/
structure Fernet where
  Key : Type
  Draw : Type
  text : Key → String
  parse : String → Option Key
  encrypt : Key → Draw → List UInt8 → String
  decrypt : Key → String → Option (List UInt8)
  text_ne : ∀ key, text key ≠ ""
  parse_text : ∀ key, parse (text key) = some key
  decrypt_encrypt : ∀ key draw data, decrypt key (encrypt key draw data) = some data
  token : ∀ key draw data, ∀ character ∈ (encrypt key draw data).toList,
    (character.isAlphanum || character == '-' || character == '_' || character == '=') = true

inductive Variable where
  | str (text : String)
  | bytes (data : List UInt8)

def utf8 (text : String) : List UInt8 := text.toUTF8.data.toList

namespace Secrets

structure Machine where
  getenv : String → Option String
  files : String → Option String

def _parse_var_line (line : String) : Except Exn (String × String) :=
  match line.toList.dropWhile (· != '=') with
  | [] => .error (.otherError "list index out of range")
  | _ :: v =>
      .ok (String.ofList (line.toList.takeWhile (· != '=')),
        strip (· == '\n') (String.ofList (v.filter (· != '"'))))

/-- The loop of `_open_vars_file`. -/
def parseLines (vars_ : List (String × String)) : List String → Except Exn (List (String × String))
  | [] => .ok vars_
  | line :: rest =>
      match _parse_var_line line with
      | .error failure => .error failure
      | .ok (k, v) => parseLines (Dict.set vars_ k v) rest

def _open_vars_file (machine : Machine) (vars_file : String) :
    Except Exn (List (String × String)) :=
  match machine.files vars_file with
  | none => .ok []
  | some text => parseLines [] (lines text)

/-- The comprehension that decrypts; `decrypt` of a token that is not valid raises. -/
def decrypted (fernet : Fernet) (f : fernet.Key) :
    List (String × String) → Except Exn (List (String × Variable))
  | [] => .ok []
  | (k, v) :: rest =>
      match fernet.decrypt f v, decrypted fernet f rest with
      | some data, .ok vars => .ok ((k, .bytes data) :: vars)
      | _, _ => .error .invalidTokenError

def inFolder (base_path : Option String) (file : String) : String :=
  if truthy base_path then pyOr base_path "" ++ "/" ++ file else file

def load (fernet : Fernet) (machine : Machine) (base_path : Option String) :
    Except Exn (List (String × Variable)) :=
  let priv_key := machine.getenv Defaults.PRIVKEY_VAR_NAME
  if truthy priv_key then
    match fernet.parse (pyOr priv_key "") with
    | none => .error (.otherError "Fernet key must be 32 url-safe base64-encoded bytes.")
    | some f =>
        match _open_vars_file machine (inFolder base_path Defaults.SECRETS_FILENAME) with
        | .error failure => .error failure
        | .ok _vars => decrypted fernet f _vars
  else
    let _file := (machine.getenv Defaults.NBVARS_VAR_NAME).getD "local.nbvars"
    if truthy base_path then
      (_open_vars_file machine (inFolder base_path _file)).map fun _nbvars =>
        _nbvars.map fun (k, v) => (k, .str v)
    else .error (.otherError "local variable '_nbvars' referenced before assignment")

/-- The draws are named by the variables, whose names are distinct. -/
def encrypt_nbvars (fernet : Fernet) (draws : String → fernet.Draw) (private_key : fernet.Key) :
    List (String × Variable) → Except Exn (List (String × String))
  | [] => .ok []
  | (_, .bytes _) :: _ => .error .attributeError
  | (k, .str v) :: rest =>
      match encrypt_nbvars fernet draws private_key rest with
      | .error failure => .error failure
      | .ok _nbvars => .ok ((k, fernet.encrypt private_key (draws k) (utf8 v)) :: _nbvars)

def write_secrets (fernet : Fernet) (draws : String → fernet.Draw) (private_key : fernet.Key)
    (nbvars_dict : List (String × Variable)) : Except Exn String :=
  (encrypt_nbvars fernet draws private_key nbvars_dict).map fun _vars =>
    Words.join '\n' (_vars.map fun (key, value) => key ++ "=" ++ value)

/-- The container is given the private key of the project and the file that was bundled. -/
def container (fernet : Fernet) (private_key : fernet.Key) (base_path : Option String)
    (secrets : String) : Machine where
  getenv name := if name = Defaults.PRIVKEY_VAR_NAME then some (fernet.text private_key) else none
  files path :=
    if path = inFolder base_path Defaults.SECRETS_FILENAME then some secrets else none

/-- What the client loads, and what the container loads from the file that is written of it. -/
def handOver (fernet : Fernet) (draws : String → fernet.Draw) (private_key : fernet.Key)
    (client : Machine) (base_path home : Option String) :
    Except Exn (List (String × Variable) × List (String × Variable)) := do
  let nbvars ← load fernet client base_path
  let secrets ← write_secrets fernet draws private_key nbvars
  let vars ← load fernet (container fernet private_key home secrets) home
  return (nbvars, vars)

def SameDict (left right : List (String × Variable)) : Prop :=
  ∀ key, left.lookup key = right.lookup key

/-- A key that a line of a file can hold ahead of its first `=`. -/
structure CleanKey (key : String) : Prop where
  noEquals : '=' ∉ key.toList
  line : IsLine key

theorem parse_cut {key : String} (clean : '=' ∉ key.toList) (rest : String) :
    _parse_var_line (key ++ "=" ++ rest) =
      .ok (key, strip (· == '\n') (String.ofList (rest.toList.filter (· != '"')))) := by
  have equals : "=".toList = ['='] := rfl
  have shown : (key ++ "=" ++ rest).toList = key.toList ++ '=' :: rest.toList := by
    rw [String.toList_append, String.toList_append, equals, List.append_assoc, List.singleton_append]
  have ahead : ∀ character ∈ key.toList, (character != '=') = true := by
    intro character member
    simpa using fun same : character = '=' => clean (same ▸ member)
  have taken : (key.toList ++ '=' :: rest.toList).takeWhile (· != '=') = key.toList := by
    rw [List.takeWhile_append_of_pos ahead, List.takeWhile_cons_of_neg (by decide), List.append_nil]
  have left : (key.toList ++ '=' :: rest.toList).dropWhile (· != '=') = '=' :: rest.toList := by
    rw [List.dropWhile_append_of_pos ahead, List.dropWhile_cons_of_neg (by decide)]
  rw [_parse_var_line, shown, left, taken, String.ofList_toList]

/-- A text that the reader of a line leaves as it is. -/
structure CleanValue (value : String) : Prop where
  noQuote : '"' ∉ value.toList
  line : IsLine value

theorem parse_entry {key value : String} (clean : '=' ∉ key.toList) (kept : CleanValue value) :
    _parse_var_line (key ++ "=" ++ value) = .ok (key, value) ∧
      _parse_var_line (key ++ "=" ++ value ++ "\n") = .ok (key, value) := by
  have quotes : value.toList.filter (· != '"') = value.toList := by
    apply List.filter_eq_self.mpr
    intro character member
    simpa using fun same : character = '"' => kept.noQuote (same ▸ member)
  have ends : strip (· == '\n') value = value := by
    apply strip_eq_self
    intro character member
    simpa using fun same : character = '\n' => kept.line.noFeed (same ▸ member)
  constructor
  · rw [parse_cut clean, quotes, String.ofList_toList, ends]
  · have feed : (value ++ "\n").toList.filter (· != '"') = (value ++ String.singleton '\n').toList := by
      rw [String.toList_append, List.filter_append, quotes]
      simp
    rw [String.append_assoc, parse_cut clean, feed, String.ofList_toList,
      strip_append_blank _ (by decide), ends]

/-! What the client loads. -/

structure CleanVars (vars : List (String × String)) : Prop where
  distinct : (vars.map Prod.fst).Nodup
  keys : ∀ entry ∈ vars, CleanKey entry.1

theorem cleanKey_of_parse {line body k v : String} (isLine : IsLine body)
    (ends : line = body ++ "\n" ∨ line = body) (parsed : _parse_var_line line = .ok (k, v)) :
    CleanKey k := by
  unfold _parse_var_line at parsed
  split at parsed
  · simp at parsed
  · rename_i separator rest found
    simp only [Except.ok.injEq, Prod.mk.injEq] at parsed
    obtain ⟨rfl, _⟩ := parsed
    have inBody : line.toList.takeWhile (· != '=') = body.toList.takeWhile (· != '=') := by
      rcases ends with rfl | rfl
      · have feed : "\n".toList = ['\n'] := rfl
        have equals : '=' ∈ body.toList := by
          by_contra absent
          have all : ∀ character ∈ body.toList, (character != '=') = true := by
            intro character member
            simpa using fun same : character = '=' => absent (same ▸ member)
          have nothing : (['\n'] : List Char).dropWhile (· != '=') = [] := by decide
          rw [String.toList_append, List.dropWhile_append_of_pos all, feed, nothing] at found
          exact absurd found (by simp)
        rw [String.toList_append, List.takeWhile_append, if_neg]
        intro whole
        have same := (List.takeWhile_prefix (· != '=') (l := body.toList)).eq_of_length whole
        exact absurd (List.takeWhile_eq_self_iff.mp same '=' equals) (by decide)
      · rfl
    rw [inBody]
    have inside : ∀ character ∈ body.toList.takeWhile (· != '='), character ∈ body.toList :=
      fun character member => (List.takeWhile_prefix _).subset member
    refine ⟨?_, ?_, ?_⟩
    · intro equals
      rw [String.toList_ofList] at equals
      exact absurd (List.mem_takeWhile_imp equals) (by decide)
    · intro feed
      rw [String.toList_ofList] at feed
      exact isLine.noFeed (inside _ feed)
    · intro carriage
      rw [String.toList_ofList] at carriage
      exact isLine.noReturn (inside _ carriage)

theorem clean_parseLines {found : List String} {vars loaded : List (String × String)}
    (fromText : ∀ line ∈ found, ∃ body, IsLine body ∧ (line = body ++ "\n" ∨ line = body))
    (clean : CleanVars vars) (parsed : parseLines vars found = .ok loaded) : CleanVars loaded := by
  induction found generalizing vars with
  | nil =>
      obtain rfl := Except.ok.inj parsed
      exact clean
  | cons line rest ih =>
      rw [parseLines] at parsed
      split at parsed
      · simp at parsed
      · rename_i k v first
        obtain ⟨body, isLine, ends⟩ := fromText line (List.mem_cons_self ..)
        refine ih (fun later member => fromText later (List.mem_cons_of_mem _ member)) ?_ parsed
        refine ⟨Dict.nodup_set k v clean.distinct, ?_⟩
        intro entry member
        rcases Dict.mem_set member with old | new
        · exact clean.keys entry old
        · exact new ▸ cleanKey_of_parse isLine ends first

theorem parseLines_total {found : List String} (pairs : ∀ line ∈ found, '=' ∈ line.toList)
    (vars : List (String × String)) : ∃ loaded, parseLines vars found = .ok loaded := by
  induction found generalizing vars with
  | nil => exact ⟨vars, rfl⟩
  | cons line rest ih =>
      have equals := pairs line (List.mem_cons_self ..)
      rw [parseLines, _parse_var_line]
      split
      · rename_i failure failed
        split at failed
        · rename_i none
          have stays := List.dropWhile_eq_nil_iff.mp none '=' equals
          exact absurd stays (by decide)
        · simp at failed
      · exact ih (fun later member => pairs later (List.mem_cons_of_mem _ member)) _

theorem parseLines_ne_nil {found : List String} {vars loaded : List (String × String)}
    (some : vars ≠ [] ∨ found ≠ []) (parsed : parseLines vars found = .ok loaded) :
    loaded ≠ [] := by
  induction found generalizing vars with
  | nil =>
      obtain rfl := Except.ok.inj parsed
      simpa using some
  | cons line rest ih =>
      rw [parseLines] at parsed
      split at parsed
      · simp at parsed
      · refine ih (.inl ?_) parsed
        cases vars with
        | nil => exact List.cons_ne_nil _ _
        | cons first others =>
            rw [Dict.set]
            split <;> exact List.cons_ne_nil _ _

/-! What the container loads. -/

section Container

variable {fernet : Fernet} {draws : String → fernet.Draw} {private_key : fernet.Key}

def tokens (draws : String → fernet.Draw) (private_key : fernet.Key)
    (vars : List (String × String)) : List (String × String) :=
  vars.map fun (k, v) => (k, fernet.encrypt private_key (draws k) (utf8 v))

def asText (vars : List (String × String)) : List (String × Variable) :=
  vars.map fun (k, v) => (k, .str v)

def asBytes (vars : List (String × String)) : List (String × Variable) :=
  vars.map fun (k, v) => (k, .bytes (utf8 v))

theorem encrypt_asText (vars : List (String × String)) :
    encrypt_nbvars fernet draws private_key (asText vars) = .ok (tokens draws private_key vars) := by
  induction vars with
  | nil => rfl
  | cons entry rest ih =>
      simp only [asText, List.map_cons, encrypt_nbvars]
      rw [← asText, ih]
      rfl

theorem decrypted_tokens (vars : List (String × String)) :
    decrypted fernet private_key (tokens draws private_key vars) = .ok (asBytes vars) := by
  induction vars with
  | nil => rfl
  | cons entry rest ih =>
      simp only [tokens, List.map_cons, decrypted, fernet.decrypt_encrypt]
      rw [← tokens, ih]
      rfl

theorem clean_token (key : String) (data : List UInt8) :
    CleanValue (fernet.encrypt private_key (draws key) data) := by
  have absent : ∀ character : Char, (character.isAlphanum || character == '-' || character == '_' ||
      character == '=') = false →
        character ∉ (fernet.encrypt private_key (draws key) data).toList := by
    intro character other member
    rw [fernet.token private_key (draws key) data character member] at other
    exact absurd other (by decide)
  exact ⟨absent '"' (by decide), ⟨absent '\n' (by decide), absent '\r' (by decide)⟩⟩

/-- Lines that parse to the entries of a dictionary are read as that dictionary. -/
theorem parseLines_entries {found : List String} {vars entries : List (String × String)}
    (distinct : ((vars ++ entries).map Prod.fst).Nodup)
    (parsed : List.Forall₂ (fun line entry => _parse_var_line line = .ok entry) found entries) :
    parseLines vars found = .ok (vars ++ entries) := by
  induction parsed generalizing vars with
  | nil => simp [parseLines]
  | @cons line entry found entries first rest ih =>
      obtain ⟨k, v⟩ := entry
      have fresh : ∀ old ∈ vars, old.1 ≠ k := by
        intro old member same
        rw [List.map_append, List.map_cons] at distinct
        exact (List.nodup_append.mp distinct).2.2 old.1 (List.mem_map_of_mem member) k
          (List.mem_cons_self ..) same
      have moved : vars ++ (k, v) :: entries = vars ++ [(k, v)] ++ entries := by simp
      rw [parseLines, first]
      simp only
      rw [Dict.set_fresh _ _ fresh, moved]
      exact ih (moved ▸ distinct)

def shown (entry : String × String) : String := entry.1 ++ "=" ++ entry.2

/-- The lines of a written dictionary parse to its entries, the last without a newline. -/
theorem parse_joined {entries : List (String × String)}
    (clean : ∀ entry ∈ entries, CleanKey entry.1 ∧ CleanValue entry.2) :
    List.Forall₂ (fun line entry => _parse_var_line line = .ok entry)
      (lines (Words.join '\n' (entries.map shown))) entries := by
  have isLine : ∀ entry ∈ entries, IsLine (shown entry) := by
    intro entry member
    obtain ⟨key, value⟩ := clean entry member
    exact (key.line.append (by decide)).append value.line
  rcases List.eq_nil_or_concat entries with rfl | ⟨front, last, rfl⟩
  · exact List.Forall₂.nil
  · rw [List.concat_eq_append] at clean isLine ⊢
    have some : shown last ≠ "" := by
      intro empty
      have equals : '=' ∈ (shown last).toList := by simp [shown]
      rw [empty] at equals
      exact absurd equals (by decide)
    have frontLines : ∀ text ∈ front.map shown, IsLine text := by
      intro text member
      obtain ⟨entry, inside, rfl⟩ := List.mem_map.mp member
      exact isLine entry (List.mem_append_left _ inside)
    have lastInside : last ∈ front ++ [last] := List.mem_append_right _ (List.mem_singleton.mpr rfl)
    rw [List.map_append, List.map_singleton, lines_join frontLines (isLine last lastInside) some]
    apply List.rel_append
    · rw [List.map_map, List.forall₂_map_left_iff, List.forall₂_same]
      intro entry inside
      obtain ⟨key, value⟩ := clean entry (List.mem_append_left _ inside)
      exact (parse_entry key.noEquals value).2
    · obtain ⟨key, value⟩ := clean last lastInside
      exact List.Forall₂.cons (parse_entry key.noEquals value).1 List.Forall₂.nil

theorem parse_secrets {vars : List (String × String)} (clean : CleanVars vars) :
    parseLines [] (lines (Words.join '\n' ((tokens draws private_key vars).map shown))) =
      .ok (tokens draws private_key vars) := by
  have names : (tokens draws private_key vars).map Prod.fst = vars.map Prod.fst := by
    simp [tokens]
  have entries : ∀ entry ∈ tokens draws private_key vars,
      CleanKey entry.1 ∧ CleanValue entry.2 := by
    intro entry member
    obtain ⟨⟨k, v⟩, inside, rfl⟩ := List.mem_map.mp member
    exact ⟨clean.keys (k, v) inside, clean_token k _⟩
  apply parseLines_entries _ (parse_joined entries)
  rw [List.nil_append, names]
  exact clean.distinct

theorem load_container {vars : List (String × String)} (clean : CleanVars vars)
    (home : Option String) :
    load fernet (container fernet private_key home
      (Words.join '\n' ((tokens draws private_key vars).map shown))) home = .ok (asBytes vars) := by
  have key : (container fernet private_key home
      (Words.join '\n' ((tokens draws private_key vars).map shown))).getenv
        Defaults.PRIVKEY_VAR_NAME = some (fernet.text private_key) := by
    simp [container]
  have set : truthy (some (fernet.text private_key)) = true :=
    truthy_iff.mpr ⟨_, rfl, fernet.text_ne private_key⟩
  unfold load
  simp only [key, set, if_true, pyOr_of_ne_empty (fernet.text_ne private_key), fernet.parse_text]
  simp only [_open_vars_file, container, if_true, parse_secrets clean, decrypted_tokens]

end Container

/-- A client that has no private key in its environment, and whose file of variables is made of
lines `KEY=VALUE`. -/
structure Client where
  machine : Machine
  base_path : String
  text : String
  unset : truthy (machine.getenv Defaults.PRIVKEY_VAR_NAME) = false
  based : base_path ≠ ""
  stored : machine.files (base_path ++ "/" ++
    (machine.getenv Defaults.NBVARS_VAR_NAME).getD "local.nbvars") = some text
  pairs : ∀ line ∈ lines text, '=' ∈ line.toList

theorem load_client (fernet : Fernet) (client : Client) :
    ∃ vars, CleanVars vars ∧ (vars = [] ↔ client.text = "") ∧
      load fernet client.machine (some client.base_path) = .ok (asText vars) := by
  obtain ⟨vars, parsed⟩ := parseLines_total client.pairs []
  have based : truthy (some client.base_path) = true := truthy_iff.mpr ⟨_, rfl, client.based⟩
  refine ⟨vars, ?_, ?_, ?_⟩
  · apply clean_parseLines (fun line member => body_of_mem_lines member) _ parsed
    exact ⟨List.nodup_nil, fun entry member => absurd member List.not_mem_nil⟩
  · rw [← lines_eq_nil_iff]
    constructor
    · intro none
      by_contra some
      exact parseLines_ne_nil (.inr some) parsed none
    · intro none
      rw [none, parseLines] at parsed
      exact (Except.ok.inj parsed).symm
  · unfold load
    simp only [client.unset, based, Bool.false_eq_true, if_false, if_true, inFolder,
      pyOr_of_ne_empty client.based, _open_vars_file, client.stored, parsed]
    rfl

theorem sameDict_iff (vars : List (String × String)) :
    SameDict (asBytes vars) (asText vars) ↔ vars = [] := by
  constructor
  · intro same
    cases vars with
    | nil => rfl
    | cons entry rest =>
        have first := same entry.1
        simp [asBytes, asText] at first
  · rintro rfl
    exact fun _ => rfl

/-- The container is given every variable of the client under its name, but as the bytes of its
text. So the two dictionaries are the same exactly when the file of variables is empty. -/
theorem secrets_handed_over_iff (fernet : Fernet) (draws : String → fernet.Draw)
    (private_key : fernet.Key) (client : Client) (home : Option String) :
    ∃ vars, handOver fernet draws private_key client.machine (some client.base_path) home =
        .ok (asText vars, asBytes vars) ∧
      (SameDict (asBytes vars) (asText vars) ↔ client.text = "") := by
  obtain ⟨vars, clean, empty, loaded⟩ := load_client fernet client
  refine ⟨vars, ?_, (sameDict_iff vars).trans empty⟩
  have written : write_secrets fernet draws private_key (asText vars) =
      .ok (Words.join '\n' ((tokens draws private_key vars).map shown)) := by
    rw [write_secrets, encrypt_asText]
    rfl
  simp only [handOver, loaded, written, bind, Except.bind, load_container clean home]
  rfl

/-! A file with the one variable `A=1`; a token is two letters a byte. -/

namespace Sample

def letters (byte : UInt8) : List Char :=
  [Char.ofNat (97 + byte.toNat / 16), Char.ofNat (97 + byte.toNat % 16)]

def bytesOf : List Char → List UInt8
  | high :: low :: rest =>
      UInt8.ofNat ((high.toNat - 97) * 16 + (low.toNat - 97)) :: bytesOf rest
  | _ => []

theorem letter (digit : Fin 16) : (Char.ofNat (97 + digit)).toNat = 97 + digit ∧
    (Char.ofNat (97 + digit)).isAlphanum = true := by
  revert digit
  decide

theorem bytesOf_letters (data : List UInt8) : bytesOf (data.flatMap letters) = data := by
  induction data with
  | nil => rfl
  | cons byte rest ih =>
      have bound := byte.toNat_lt
      have high := (letter ⟨byte.toNat / 16, by omega⟩).1
      have low := (letter ⟨byte.toNat % 16, by omega⟩).1
      have whole : (97 + byte.toNat / 16 - 97) * 16 + (97 + byte.toNat % 16 - 97) = byte.toNat := by
        omega
      simp only [List.flatMap_cons, letters, List.cons_append, List.nil_append, bytesOf]
      rw [ih, high, low, whole, UInt8.ofNat_toNat]

def fernet : Fernet where
  Key := Unit
  Draw := Unit
  text _ := "key"
  parse text := if text = "key" then some () else none
  encrypt _ _ data := String.ofList (data.flatMap letters)
  decrypt _ token := some (bytesOf token.toList)
  text_ne _ := by decide
  parse_text _ := rfl
  decrypt_encrypt _ _ data := by rw [String.toList_ofList, bytesOf_letters]
  token _ _ data character member := by
    rw [String.toList_ofList] at member
    obtain ⟨byte, _, inside⟩ := List.mem_flatMap.mp member
    have bound := byte.toNat_lt
    have high := (letter ⟨byte.toNat / 16, by omega⟩).2
    have low := (letter ⟨byte.toNat % 16, by omega⟩).2
    simp only [letters, List.mem_cons, List.not_mem_nil, or_false] at inside
    rcases inside with rfl | rfl
    · simp [high]
    · simp [low]

def client : Client where
  machine := { getenv := fun _ => none
               files := fun path => if path = "lab/local.nbvars" then some "A=1" else none }
  base_path := "lab"
  text := "A=1"
  unset := rfl
  based := by decide
  stored := rfl
  pairs := by decide

end Sample

theorem variables_become_bytes : ¬∀ (fernet : Fernet) (draws : String → fernet.Draw)
    (private_key : fernet.Key) (client : Client) (home : Option String),
    ∃ own given, handOver fernet draws private_key client.machine (some client.base_path) home =
        .ok (own, given) ∧ SameDict given own := by
  intro kept
  obtain ⟨own, given, loaded, same⟩ := kept Sample.fernet (fun _ => ()) () Sample.client none
  have found : handOver Sample.fernet (fun _ => ()) () Sample.client.machine (some "lab") none =
      .ok ([("A", .str "1")], [("A", .bytes [49])]) := rfl
  obtain ⟨rfl, rfl⟩ := Prod.mk.inj (Except.ok.inj (loaded.symm.trans found))
  exact absurd (same "A") (by simp)

end Secrets

end LabFunctions
