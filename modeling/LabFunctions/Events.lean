import LabFunctions.Context
import LabFunctions.Library.Lines

/-!
`labfunctions.types.events` and the text side of `labfunctions.events`: an event as the text of
an event stream, and the event that is read back from it.
-/

namespace LabFunctions

open Lines

structure EventSSE where
  data : String
  event : Option String := none
  id : Option String := none
  deriving DecidableEq, Repr

structure ValidationError where
  loc : String
  msg : String
  deriving DecidableEq, Repr

/-- The characters that `str.strip` takes off. -/
def isspace (character : Char) : Bool :=
  let code := character.toNat
  (9 ≤ code && code ≤ 13) || (28 ≤ code && code ≤ 32) || code == 0x85 || code == 0xA0 ||
    code == 0x1680 || (0x2000 ≤ code && code ≤ 0x200A) || code == 0x2028 || code == 0x2029 ||
    code == 0x202F || code == 0x205F || code == 0x3000

def startswith (line start : String) : Bool := start.toList.isPrefixOf line.toList

/-- `line.split(":", maxsplit=1)[1].strip()`. -/
def fieldValue (line : String) : String :=
  strip isspace (String.ofList ((line.toList.dropWhile (· != ':')).drop 1))

namespace EventManager

def format_sse (evt : EventSSE) : String :=
  let msg := "data: " ++ evt.data ++ "\n\n"
  let msg := match evt.event with
    | some event => "event: " ++ event ++ "\n" ++ msg
    | none => msg
  match evt.id with
  | some id => "id: " ++ id ++ "\n" ++ msg
  | none => msg

/-- The variables of the loop in `from_sse2event`. -/
structure Fields where
  event : Option String := none
  id : Option String := none
  data : Option String := none
  deriving DecidableEq, Repr

def readLine (fields : Fields) (line : String) : Fields :=
  if startswith line "data:" then { fields with data := some (fieldValue line) }
  else if startswith line "event:" then { fields with event := some (fieldValue line) }
  else if startswith line "id:" then { fields with id := some (fieldValue line) }
  else fields

def from_sse2event (msg : String) : Except ValidationError EventSSE :=
  let fields := (Words.split '\n' msg).foldl readLine {}
  match fields.data with
  | some data => .ok { data, event := fields.event, id := fields.id }
  | none => .error ⟨"data", "none is not an allowed value"⟩

end EventManager

namespace Events

open EventManager

/-- One line, as `strip` leaves it. -/
structure Clean (text : String) : Prop where
  oneLine : '\n' ∉ text.toList
  stripped : strip isspace text = text

structure CleanEvent (evt : EventSSE) : Prop where
  data : Clean evt.data
  event : ∀ event, evt.event = some event → Clean event
  id : ∀ id, evt.id = some id → Clean id

instance (text : String) : Decidable (Clean text) :=
  decidable_of_iff ('\n' ∉ text.toList ∧ strip isspace text = text)
    ⟨fun facts => ⟨facts.1, facts.2⟩, fun clean => ⟨clean.oneLine, clean.stripped⟩⟩

theorem clean_fieldValue (msg : String) {line : String} (member : line ∈ Words.split '\n' msg) :
    Clean (fieldValue line) := by
  refine ⟨?_, strip_strip _⟩
  intro found
  have rest := mem_of_mem_strip found
  rw [String.toList_ofList] at rest
  have inLine := (List.dropWhile_suffix _).subset (List.mem_of_mem_drop rest)
  exact Words.not_mem_of_mem_split member inLine

/-- What the loop of `from_sse2event` keeps. -/
def CleanFields (fields : Fields) : Prop :=
  (∀ data, fields.data = some data → Clean data) ∧
    (∀ event, fields.event = some event → Clean event) ∧
    ∀ id, fields.id = some id → Clean id

theorem cleanFields_readLine {fields : Fields} {line : String} (clean : CleanFields fields)
    (value : Clean (fieldValue line)) : CleanFields (readLine fields line) := by
  obtain ⟨data, event, id⟩ := clean
  have taken : ∀ text, some (fieldValue line) = some text → Clean text := by
    intro text same
    exact Option.some.inj same ▸ value
  unfold readLine
  split
  next isData => exact ⟨taken, event, id⟩
  next =>
    split
    next isEvent => exact ⟨data, taken, id⟩
    next =>
      split
      next isId => exact ⟨data, event, taken⟩
      next => exact ⟨data, event, id⟩

theorem cleanFields_foldl {fields : Fields} {lines : List String} (clean : CleanFields fields)
    (values : ∀ line ∈ lines, Clean (fieldValue line)) :
    CleanFields (lines.foldl readLine fields) := by
  induction lines generalizing fields with
  | nil => exact clean
  | cons line rest ih =>
      apply ih (cleanFields_readLine clean (values line (List.mem_cons_self ..)))
      intro later member
      exact values later (List.mem_cons_of_mem _ member)

/-- Whatever is read is clean, so nothing else can come back as it was. -/
theorem cleanEvent_of_from_sse2event {msg : String} {evt : EventSSE}
    (read : from_sse2event msg = .ok evt) : CleanEvent evt := by
  have start : CleanFields {} := ⟨by simp, by simp, by simp⟩
  have clean := cleanFields_foldl start fun line member => clean_fieldValue msg member
  unfold from_sse2event at read
  dsimp only at read
  split at read
  next data found =>
    cases read
    exact ⟨clean.1 data found, clean.2.1, clean.2.2⟩
  next missing => cases read

theorem fieldValue_field (name : String) (plain : ':' ∉ name.toList) (text : String) :
    fieldValue (name ++ ": " ++ text) = strip isspace text := by
  have colon : ": ".toList = [':', ' '] := rfl
  have skipped : (name ++ ": " ++ text).toList.dropWhile (· != ':') = ':' :: ' ' :: text.toList := by
    rw [String.toList_append, String.toList_append, colon, List.append_assoc,
      List.dropWhile_append_of_pos]
    · rfl
    · intro character member
      simpa using fun (same : character = ':') => plain (same ▸ member)
  unfold fieldValue
  rw [skipped, List.drop_one, List.tail_cons, strip_blank rfl]

section Lines

variable (fields : Fields) (text : String)

theorem readLine_data :
    readLine fields ("data: " ++ text) = { fields with data := some (strip isspace text) } := by
  have named : "data: ".toList = ['d', 'a', 't', 'a', ':', ' '] := rfl
  have value : fieldValue ("data: " ++ text) = strip isspace text :=
    fieldValue_field "data" (by decide) text
  simp [readLine, startswith, named, value]

theorem readLine_event :
    readLine fields ("event: " ++ text) = { fields with event := some (strip isspace text) } := by
  have named : "event: ".toList = ['e', 'v', 'e', 'n', 't', ':', ' '] := rfl
  have value : fieldValue ("event: " ++ text) = strip isspace text :=
    fieldValue_field "event" (by decide) text
  simp [readLine, startswith, named, value]

theorem readLine_id :
    readLine fields ("id: " ++ text) = { fields with id := some (strip isspace text) } := by
  have named : "id: ".toList = ['i', 'd', ':', ' '] := rfl
  have value : fieldValue ("id: " ++ text) = strip isspace text :=
    fieldValue_field "id" (by decide) text
  simp [readLine, startswith, named, value]

@[simp] theorem readLine_empty : readLine fields "" = fields := rfl

end Lines

/-- The lines of `format_sse`, up to the empty one that ends the message. -/
def fieldLines (evt : EventSSE) : List String :=
  (evt.id.map ("id: " ++ ·)).toList ++ (evt.event.map ("event: " ++ ·)).toList ++
    ["data: " ++ evt.data]

theorem format_sse_eq (evt : EventSSE) :
    format_sse evt = String.join ((fieldLines evt).map (· ++ "\n")) ++ "\n" := by
  obtain ⟨data, event, id⟩ := evt
  cases event <;> cases id <;> simp [format_sse, fieldLines, String.append_assoc]

theorem fieldLines_oneLine {evt : EventSSE} (clean : CleanEvent evt) :
    ∀ line ∈ fieldLines evt, '\n' ∉ line.toList := by
  intro line member
  simp only [fieldLines, List.mem_append, Option.mem_toList, Option.map_eq_some_iff,
    List.mem_singleton] at member
  rcases member with (⟨id, given, rfl⟩ | ⟨event, given, rfl⟩) | rfl
  · simpa using (clean.id id given).oneLine
  · simpa using (clean.event event given).oneLine
  · simpa using clean.data.oneLine

theorem foldl_fieldLines {evt : EventSSE} (clean : CleanEvent evt) :
    (fieldLines evt).foldl readLine {} = ⟨evt.event, evt.id, some evt.data⟩ := by
  obtain ⟨data, event, id⟩ := evt
  have dataKept := clean.data.stripped
  have eventKept := fun text given => (clean.event text given).stripped
  have idKept := fun text given => (clean.id text given).stripped
  cases event <;> cases id <;>
    simp_all [fieldLines, readLine_data, readLine_event, readLine_id]

theorem from_sse2event_format_sse {evt : EventSSE} (clean : CleanEvent evt) :
    from_sse2event (format_sse evt) = .ok evt := by
  have lines : Words.split '\n' (format_sse evt) = fieldLines evt ++ ["", ""] := by
    rw [format_sse_eq]
    exact Words.split_join_append (fieldLines_oneLine clean) "\n"
  unfold from_sse2event
  rw [lines, List.foldl_append, foldl_fieldLines clean]
  rfl

/-- An event survives its text exactly when every text in it is one line without blanks at its
ends. -/
theorem sse_round_trip_iff (evt : EventSSE) :
    from_sse2event (format_sse evt) = .ok evt ↔ CleanEvent evt :=
  ⟨cleanEvent_of_from_sse2event, from_sse2event_format_sse⟩

theorem sse_data_of_two_lines :
    from_sse2event (format_sse { data := "a\nb" }) = .ok { data := "a" } ∧
      from_sse2event (format_sse { data := "a\nb" }) ≠ .ok { data := "a\nb" } := by
  decide

end Events

end LabFunctions
