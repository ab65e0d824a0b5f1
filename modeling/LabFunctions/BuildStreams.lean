import LabFunctions.Builder
import LabFunctions.Library.Framing
import LabFunctions.TokenClaims

/-!
`docker_low_build` on the bytes docker sends: JSON records that end in CRLF, cut into chunks
that need not be the records.
-/

namespace LabFunctions

namespace BuildStreams

/-- JSON documents as docker writes them, one record each, and `json.loads`, which accepts a
record and neither a part of it nor a record with another behind. -/
structure Documents where
  Document : Type
  text : Document → String
  record : Document → List (String × Json)
  loads : String → Option Json
  loads_text : ∀ document, loads (text document) = some (.dict (record document))
  loads_empty : loads "" = none
  loads_part : ∀ document part more, more ≠ [] → part ++ more = (text document).toList →
    loads (String.ofList part) = none
  loads_extra : ∀ document more, '\x7b' ∈ more →
    loads (String.ofList ((text document).toList ++ more)) = none
  opens : ∀ document, (text document).toList.head? = some '\x7b'
  oneLine : ∀ document, ∀ item ∈ (text document).toList, item ≠ '\r' ∧ item ≠ '\n'

def ends (item : Char) : Bool := item == '\r' || item == '\n'

def terminator : List Char := ['\r', '\n']

/-- `.strip("\r\n")` -/
def strip (text : String) : String := String.ofList (Framing.strip ends text.toList)

/-- `key in json_output` -/
def includes (key : String) : Json → Except Exn Bool
  | .dict entries => .ok (entries.lookup key).isSome
  | .list items => .ok (items.any fun item => PyJwt.isText item == some key)
  | .str text => .ok (decide (key.toList <:+: text.toList))
  | _ => .error (.typeError "argument is not iterable")

/-- `json_output[key]` -/
def item (key : String) : Json → Except Exn Json
  | .dict entries =>
      match entries.lookup key with
      | some value => .ok value
      | none => .error (.keyError key)
  | _ => .error (.typeError "indices must be integers")

/-- What one document adds to the log, and whether it is an error. -/
def read (json_output : Json) : Except Exn (String × Bool) := do
  if ← includes "stream" json_output then
    match ← item "stream" json_output with
    | .str text => return (text, false)
    | _ => throw .attributeError
  else if ← includes "errorDetail" json_output then
    match ← item "error" json_output with
    | .str text => return (text, true)
    | _ => throw (.typeError "can only concatenate str")
  else return ("", false)

def complaint : String := "Error parsing output from docker image build:\x7boutput\x7d\n"

def complete : String := "Docker image build complete.\n"

variable (loads : String → Option Json)

def output (chunk : ByteArray) : Option Json := do
  let output ← String.fromUTF8? chunk
  loads (strip output)

/-- One turn of the loop; decoding and parsing raise a `ValueError`. -/
def said (chunk : ByteArray) : Except Exn (String × Bool) :=
  match output loads chunk with
  | none => .ok (complaint, true)
  | some json_output => read json_output

def step (log : Docker.BuildLowLog) (chunk : ByteArray) : Except Exn Docker.BuildLowLog := do
  let (message, error) ← said loads chunk
  return { logs := log.logs ++ message, error := log.error || error }

def docker_low_build (chunks : List ByteArray) : Except Exn Docker.BuildLowLog := do
  let log ← chunks.foldlM (step loads) { logs := "", error := false }
  return { log with logs := log.logs ++ complete }

section Loop

variable {loads}

def log (parts : List (String × Bool)) : Docker.BuildLowLog where
  logs := String.join (parts.map Prod.fst) ++ complete
  error := parts.any Prod.snd

/-- What every turn heard, if none of them raises. -/
def Said (turns : List (Except Exn (String × Bool))) (parts : List (String × Bool)) : Prop :=
  turns = parts.map .ok

theorem said_cons {turn : Except Exn (String × Bool)} {turns : List (Except Exn (String × Bool))}
    {parts : List (String × Bool)} :
    Said (turn :: turns) parts ↔ ∃ part rest, turn = .ok part ∧ Said turns rest ∧
      parts = part :: rest := by
  unfold Said
  cases parts with
  | nil => simp
  | cons part rest => simp

theorem foldlM_step (before after : Docker.BuildLowLog) (chunks : List ByteArray) :
    chunks.foldlM (step loads) before = .ok after ↔
      ∃ parts, Said (chunks.map (said loads)) parts ∧
        after = { logs := before.logs ++ String.join (parts.map Prod.fst)
                  error := before.error || parts.any Prod.snd } := by
  induction chunks generalizing before with
  | nil => simp [Said, pure, Except.pure, eq_comm]
  | cons chunk rest ih =>
      rw [List.foldlM_cons, List.map_cons]
      cases turn : said loads chunk with
      | error failure =>
          have stops : step loads before chunk = .error failure := by
            rw [step, turn]
            rfl
          rw [stops]
          simp [said_cons, bind, Except.bind]
      | ok part =>
          have goes : step loads before chunk =
              .ok { logs := before.logs ++ part.1, error := before.error || part.2 } := by
            rw [step, turn]
            rfl
          rw [goes]
          refine (ih _).trans ?_
          simp only [said_cons, Except.ok.injEq]
          constructor
          · rintro ⟨parts, heard, rfl⟩
            refine ⟨part :: parts, ⟨part, parts, rfl, heard, rfl⟩, ?_⟩
            simp [String.join_cons, String.append_assoc, Bool.or_assoc]
          · rintro ⟨_, ⟨_, parts, rfl, heard, rfl⟩, rfl⟩
            refine ⟨parts, heard, ?_⟩
            simp [String.join_cons, String.append_assoc, Bool.or_assoc]

theorem docker_low_build_eq_ok {chunks : List ByteArray} {result : Docker.BuildLowLog} :
    docker_low_build loads chunks = .ok result ↔
      ∃ parts, Said (chunks.map (said loads)) parts ∧ result = log parts := by
  have closes : docker_low_build loads chunks = .ok result ↔
      ∃ after, chunks.foldlM (step loads) { logs := "", error := false } = .ok after ∧
        result = { after with logs := after.logs ++ complete } := by
    unfold docker_low_build
    cases chunks.foldlM (step loads) { logs := "", error := false } with
    | error failure => simp [bind, Except.bind]
    | ok after => simp [bind, Except.bind, pure, Except.pure, eq_comm]
  rw [closes]
  simp only [foldlM_step]
  constructor
  · rintro ⟨_, ⟨parts, heard, rfl⟩, rfl⟩
    exact ⟨parts, heard, by simp [log]⟩
  · rintro ⟨parts, heard, rfl⟩
    exact ⟨_, ⟨parts, heard, rfl⟩, by simp [log]⟩

/-- What a turn makes of an output of docker, in the words of `Docker.docker_low_build`. -/
def heardAs : Docker.Output → String × Bool
  | .stream text => (text, false)
  | .errorDetail error => (error, true)
  | .other => ("", false)
  | .unparsable _ => (complaint, true)

theorem readOutput_eq (before : Docker.BuildLowLog) (output : Docker.Output) :
    Docker.readOutput before output =
      { logs := before.logs ++ (heardAs output).1
        error := before.error || (heardAs output).2 } := by
  cases output <;> simp [Docker.readOutput, heardAs, complaint]

theorem foldl_readOutput (before : Docker.BuildLowLog) (outputs : List Docker.Output) :
    outputs.foldl Docker.readOutput before =
      { logs := before.logs ++ String.join ((outputs.map heardAs).map Prod.fst)
        error := before.error || (outputs.map heardAs).any Prod.snd } := by
  induction outputs generalizing before with
  | nil => simp
  | cons output rest ih =>
      rw [List.foldl_cons, ih, readOutput_eq]
      simp [String.join_cons, String.append_assoc, Bool.or_assoc]

/-- The loop over the bytes is the loop over the outputs they are read as. -/
theorem docker_low_build_outputs {chunks : List ByteArray} {outputs : List Docker.Output}
    (heard : Said (chunks.map (said loads)) (outputs.map heardAs)) :
    docker_low_build loads chunks = .ok (Docker.docker_low_build outputs) := by
  refine docker_low_build_eq_ok.mpr ⟨_, heard, ?_⟩
  rw [Docker.docker_low_build, foldl_readOutput]
  simp [log, complete]

end Loop

section Records

/-- A record that says what the loop asks it for, as a text. -/
def Readable (record : List (String × Json)) : Prop :=
  match record.lookup "stream" with
  | some value => (PyJwt.isText value).isSome = true
  | none => (record.lookup "errorDetail").isSome = true →
      ∃ text, record.lookup "error" = some (.str text)

def Failed (record : List (String × Json)) : Prop := (record.lookup "errorDetail").isSome = true

/-- The three keys, in the order the loop looks at them. -/
theorem read_dict (record : List (String × Json)) : read (.dict record) =
    match record.lookup "stream" with
    | some value =>
        match PyJwt.isText value with
        | some text => .ok (text, false)
        | none => .error .attributeError
    | none =>
        match record.lookup "errorDetail" with
        | none => .ok ("", false)
        | some _ =>
            match record.lookup "error" with
            | none => .error (.keyError "error")
            | some value =>
                match PyJwt.isText value with
                | some text => .ok (text, true)
                | none => .error (.typeError "can only concatenate str") := by
  unfold read
  simp only [includes, item, bind, Except.bind]
  cases record.lookup "stream" with
  | some value => cases value <;> rfl
  | none =>
      cases record.lookup "errorDetail" with
      | none => rfl
      | some detail =>
          cases record.lookup "error" with
          | none => rfl
          | some value => cases value <;> rfl

theorem isText_eq_some {value : Json} {text : String} :
    PyJwt.isText value = some text ↔ value = .str text := by
  cases value <;> simp [PyJwt.isText]

theorem read_dict_iff (record : List (String × Json)) :
    (∃ part, read (.dict record) = .ok part) ↔ Readable record := by
  rw [read_dict, Readable]
  cases record.lookup "stream" with
  | some value => cases text : PyJwt.isText value <;> simp [text]
  | none =>
      cases record.lookup "errorDetail" with
      | none => simp
      | some detail =>
          cases record.lookup "error" with
          | none => simp
          | some value =>
              simp only [Option.some.injEq, ← isText_eq_some]
              cases PyJwt.isText value <;> simp

/-- A record that is read is an error if it has an `errorDetail` and no `stream`. -/
theorem read_error_iff {record : List (String × Json)} {part : String × Bool}
    (heard : read (.dict record) = .ok part) :
    part.2 = true ↔ Failed record ∧ record.lookup "stream" = none := by
  rw [read_dict] at heard
  unfold Failed
  cases stream : record.lookup "stream" with
  | some value =>
      rw [stream] at heard
      cases text : PyJwt.isText value with
      | none => simp [text] at heard
      | some text =>
          simp only [text, Except.ok.injEq] at heard
          simp [← heard]
  | none =>
      rw [stream] at heard
      cases detail : record.lookup "errorDetail" with
      | none =>
          simp only [detail, Except.ok.injEq] at heard
          simp [← heard]
      | some detail =>
          cases error : record.lookup "error" with
          | none => simp [detail, error] at heard
          | some value =>
              cases text : PyJwt.isText value with
              | none => simp [detail, error, text] at heard
              | some text =>
                  simp only [detail, error, text, Except.ok.injEq] at heard
                  simp [← heard]

end Records

section Cuttings

variable (docs : Documents)

def utf8 (text : List Char) : ByteArray := (String.ofList text).toByteArray

def frame (document : docs.Document) : List Char := (docs.text document).toList

def sent (documents : List docs.Document) : ByteArray :=
  utf8 (Framing.stream terminator (documents.map (frame docs)))

def joined : List ByteArray → ByteArray
  | [] => ByteArray.empty
  | chunk :: rest => chunk ++ joined rest

/-- A way to cut the bytes of some documents into chunks that are not empty. -/
structure Cutting (documents : List docs.Document) where
  chunks : List ByteArray
  filled : ∀ chunk ∈ chunks, chunk ≠ ByteArray.empty
  whole : joined chunks = sent docs documents

/-- Every chunk is one document, but for what stands between documents. -/
def Whole (documents : List docs.Document) (chunks : List ByteArray) : Prop :=
  List.Forall₂ (fun document chunk =>
    ∃ piece, Framing.Framed ends (frame docs document) piece ∧ chunk = utf8 piece) documents chunks

def lines (documents : List docs.Document) : List ByteArray :=
  documents.map fun document => utf8 (frame docs document ++ terminator)

variable {docs} {documents : List docs.Document}

theorem terminates : ∀ item ∈ terminator, ends item = true :=
  List.all_eq_true.mp (by decide)

theorem clean_frame (document : docs.Document) :
    ∀ item ∈ frame docs document, ends item = false := by
  intro item member
  obtain ⟨notReturn, notLine⟩ := docs.oneLine document item member
  simp [ends, notReturn, notLine]

theorem frame_ne_nil (document : docs.Document) : frame docs document ≠ [] := by
  intro empty
  have starts := docs.opens document
  rw [frame] at empty
  rw [empty] at starts
  cases starts

theorem whole_lines (documents : List docs.Document) :
    Whole docs documents (lines docs documents) := by
  unfold Whole lines
  rw [List.forall₂_map_right_iff]
  refine List.forall₂_same.mpr fun document _ => ⟨_, ⟨[], terminator, by simp, terminates, rfl⟩, ?_⟩
  simp

theorem decode_utf8 (text : List Char) :
    String.fromUTF8? (utf8 text) = some (String.ofList text) := by
  have valid : (utf8 text).IsValidUTF8 := (String.ofList text).isValidUTF8
  unfold String.fromUTF8?
  rw [dif_pos valid]
  rfl

theorem output_framed {document : docs.Document} {piece : List Char}
    (framed : Framing.Framed ends (frame docs document) piece) :
    output docs.loads (utf8 piece) = some (.dict (docs.record document)) := by
  have stripped := Framing.strip_framed (clean_frame document) framed
  have text : strip (String.ofList piece) = docs.text document := by
    rw [strip, String.toList_ofList, stripped]
    exact String.ofList_toList
  unfold output
  rw [decode_utf8]
  exact (congrArg docs.loads text).trans (docs.loads_text document)

theorem said_whole {chunks : List ByteArray} (whole : Whole docs documents chunks) :
    chunks.map (said docs.loads) =
      documents.map fun document => read (.dict (docs.record document)) := by
  induction whole with
  | nil => rfl
  | cons first _ ih =>
      obtain ⟨piece, framed, rfl⟩ := first
      rw [List.map_cons, List.map_cons, ih, said, output_framed framed]

theorem decode_eq_some {chunk : ByteArray} {text : String}
    (decoded : String.fromUTF8? chunk = some text) : chunk = utf8 text.toList := by
  unfold String.fromUTF8? at decoded
  split at decoded
  · rw [utf8, String.ofList_toList, ← Option.some.inj decoded]
    rfl
  · cases decoded

theorem split_text {text whole : List Char} {rest : ByteArray}
    (cut : utf8 text ++ rest = utf8 whole) :
    ∃ more, text ++ more = whole ∧ rest = utf8 more := by
  unfold utf8 at cut ⊢
  simp only [String.toByteArray_ofList] at cut ⊢
  obtain ⟨more, rfl⟩ := List.isPrefix_of_utf8Encode_append_eq_utf8Encode rest cut
  refine ⟨more, rfl, ?_⟩
  rw [List.utf8Encode_append] at cut
  exact (ByteArray.append_right_inj _).mp cut

theorem output_of_text {chunk : ByteArray} {text : String}
    (decoded : String.fromUTF8? chunk = some text) :
    output docs.loads chunk = docs.loads (strip text) := by
  rw [output, decoded]
  rfl

/-- A chunk at the front of what is left of the bytes cannot be read, or it is the next
document, and what is left then starts with nothing but an end of line. -/
theorem chunk_cases {lead : List Char} {chunk rest : ByteArray}
    (leads : ∀ item ∈ lead, ends item = true)
    (cut : chunk ++ rest = utf8 (lead ++ Framing.stream terminator (documents.map (frame docs)))) :
    output docs.loads chunk = none ∨
      ∃ document others later, documents = document :: others ∧
        (∃ piece, Framing.Framed ends (frame docs document) piece ∧ chunk = utf8 piece) ∧
        (∀ item ∈ later, ends item = true) ∧
        rest = utf8 (later ++ Framing.stream terminator (others.map (frame docs))) := by
  cases decoded : String.fromUTF8? chunk with
  | none =>
      left
      rw [output, decoded]
      rfl
  | some text =>
      have bytes := decode_eq_some decoded
      rw [bytes] at cut
      obtain ⟨more, whole, rfl⟩ := split_text cut
      have clean : ∀ frame_ ∈ documents.map (frame docs), ∀ item ∈ frame_, ends item = false := by
        intro frame_ member
        obtain ⟨document, _, rfl⟩ := List.mem_map.mp member
        exact clean_frame document
      have filled : ∀ frame_ ∈ documents.map (frame docs), frame_ ≠ [] := by
        intro frame_ member
        obtain ⟨document, _, rfl⟩ := List.mem_map.mp member
        exact frame_ne_nil document
      rw [output_of_text decoded, strip]
      rcases Framing.piece_cases leads terminates clean filled whole with
        empty | ⟨_, _, split, found⟩
      · left
        rw [empty]
        exact docs.loads_empty
      · obtain ⟨document, others, rfl, rfl, rfl⟩ := List.map_eq_cons_iff.mp split
        rcases found with ⟨missing, some, part⟩ | ⟨framed, later, laters, rfl⟩ |
          ⟨extra, next, first, stripped, member, starts, inside⟩
        · exact .inl (docs.loads_part document _ missing some part)
        · exact .inr ⟨document, others, later, rfl, ⟨_, framed, bytes⟩, laters, rfl⟩
        · left
          obtain ⟨following, _, rfl⟩ := List.mem_map.mp member
          obtain rfl : '\x7b' = first :=
            Option.some.inj ((docs.opens following).symm.trans starts)
          rw [stripped]
          exact docs.loads_extra document extra inside

/-- The first chunk that is not a document cannot be read. -/
theorem whole_or_unread {chunks : List ByteArray} {lead : List Char}
    (leads : ∀ item ∈ lead, ends item = true)
    (cut : joined chunks = utf8 (lead ++ Framing.stream terminator (documents.map (frame docs)))) :
    Whole docs documents chunks ∨ ∃ chunk ∈ chunks, output docs.loads chunk = none := by
  induction chunks generalizing documents lead with
  | nil =>
      cases documents with
      | nil => exact .inl .nil
      | cons document others =>
          have none :
              lead ++ Framing.stream terminator ((document :: others).map (frame docs)) = [] :=
            String.ofList_eq_empty_iff.mp (String.toByteArray_inj.mp cut.symm)
          rw [List.map_cons, Framing.stream_cons] at none
          simp [frame_ne_nil] at none
  | cons chunk rest ih =>
      rcases chunk_cases leads cut with
        unread | ⟨document, others, later, rfl, framed, laters, left_⟩
      · exact .inr ⟨chunk, List.mem_cons_self .., unread⟩
      · rcases ih laters left_ with whole | ⟨other, member, unread⟩
        · exact .inl (.cons framed whole)
        · exact .inr ⟨other, List.mem_cons_of_mem _ member, unread⟩

end Cuttings

section Delivery

variable (docs : Documents) (documents : List docs.Document)

def HasError : Prop := ∃ document ∈ documents, Failed (docs.record document)

/-- The build returns, its flag tells whether a document has an `errorDetail`, and its text is
the one that the lines of the stream give. -/
def Delivers (chunks : List ByteArray) : Prop :=
  ∃ result other, docker_low_build docs.loads chunks = .ok result ∧
    docker_low_build docs.loads (lines docs documents) = .ok other ∧
    (result.error = true ↔ HasError docs documents) ∧ result.logs = other.logs

/-- The loop can read every document, and an error stands in one without a `stream`. -/
structure Plain : Prop where
  readable : ∀ document ∈ documents, Readable (docs.record document)
  shown : HasError docs documents → ∃ document ∈ documents,
    Failed (docs.record document) ∧ (docs.record document).lookup "stream" = none

/-- A stream with an error whose chunks are no documents, and still add up to the same text,
with the complaints about them. -/
def Coincides (chunks : List ByteArray) : Prop :=
  ¬ Whole docs documents chunks ∧ HasError docs documents ∧
    ∃ parts others, Said (chunks.map (said docs.loads)) parts ∧
      Said (documents.map fun document => read (.dict (docs.record document))) others ∧
      String.join (parts.map Prod.fst) = String.join (others.map Prod.fst)

variable {docs documents}

theorem said_lines (documents : List docs.Document) :
    (lines docs documents).map (said docs.loads) =
      documents.map fun document => read (.dict (docs.record document)) :=
  said_whole (whole_lines documents)

theorem log_eq_iff (parts others : List (String × Bool)) :
    (log parts).logs = (log others).logs ↔
      String.join (parts.map Prod.fst) = String.join (others.map Prod.fst) := by
  unfold log
  exact String.append_left_inj _

theorem delivers_iff (chunks : List ByteArray) :
    Delivers docs documents chunks ↔
      ∃ parts others, Said (chunks.map (said docs.loads)) parts ∧
        Said (documents.map fun document => read (.dict (docs.record document))) others ∧
        (parts.any Prod.snd = true ↔ HasError docs documents) ∧
        String.join (parts.map Prod.fst) = String.join (others.map Prod.fst) := by
  unfold Delivers
  simp only [docker_low_build_eq_ok, said_lines]
  constructor
  · rintro ⟨_, _, ⟨parts, heard, rfl⟩, ⟨others, told, rfl⟩, flag, text⟩
    exact ⟨parts, others, heard, told, flag, (log_eq_iff _ _).mp text⟩
  · rintro ⟨parts, others, heard, told, flag, text⟩
    exact ⟨_, _, ⟨parts, heard, rfl⟩, ⟨others, told, rfl⟩, flag, (log_eq_iff _ _).mpr text⟩

theorem exists_said_iff (documents : List docs.Document) :
    (∃ parts, Said (documents.map fun document => read (.dict (docs.record document))) parts) ↔
      ∀ document ∈ documents, Readable (docs.record document) := by
  induction documents with
  | nil => simp [Said]
  | cons document rest ih =>
      rw [List.forall_mem_cons, ← ih, ← read_dict_iff, List.map_cons]
      simp only [said_cons]
      constructor
      · rintro ⟨_, part, others, first, told, rfl⟩
        exact ⟨⟨part, first⟩, others, told⟩
      · rintro ⟨⟨part, first⟩, others, told⟩
        exact ⟨_, part, others, first, told, rfl⟩

theorem any_said_iff {parts : List (String × Bool)}
    (told : Said (documents.map fun document => read (.dict (docs.record document))) parts) :
    parts.any Prod.snd = true ↔ ∃ document ∈ documents,
      Failed (docs.record document) ∧ (docs.record document).lookup "stream" = none := by
  induction documents generalizing parts with
  | nil =>
      obtain rfl : parts = [] := by simpa [Said, eq_comm] using told
      simp
  | cons document rest ih =>
      rw [List.map_cons, said_cons] at told
      obtain ⟨part, others, first, later, rfl⟩ := told
      rw [List.any_cons, Bool.or_eq_true, ih later, read_error_iff first]
      simp

theorem delivers_whole {chunks : List ByteArray} (whole : Whole docs documents chunks) :
    Delivers docs documents chunks ↔ Plain docs documents := by
  rw [delivers_iff, said_whole whole]
  constructor
  · rintro ⟨parts, others, heard, told, flag, _⟩
    refine ⟨(exists_said_iff documents).mp ⟨parts, heard⟩, fun failed => ?_⟩
    exact (any_said_iff heard).mp (flag.mpr failed)
  · intro plain
    obtain ⟨parts, heard⟩ := (exists_said_iff documents).mpr plain.readable
    refine ⟨parts, parts, heard, heard, ?_, rfl⟩
    rw [any_said_iff heard]
    constructor
    · rintro ⟨document, member, failed, _⟩
      exact ⟨document, member, failed⟩
    · exact plain.shown

theorem any_unread {chunks : List ByteArray} {parts : List (String × Bool)}
    (unread : ∃ chunk ∈ chunks, output docs.loads chunk = none)
    (heard : Said (chunks.map (said docs.loads)) parts) : parts.any Prod.snd = true := by
  obtain ⟨chunk, member, none⟩ := unread
  have turn : said docs.loads chunk = .ok (complaint, true) := by rw [said, none]
  have inside : said docs.loads chunk ∈ parts.map Except.ok := heard ▸ List.mem_map_of_mem member
  obtain ⟨part, found, same⟩ := List.mem_map.mp inside
  obtain rfl := Except.ok.inj (same.trans turn)
  exact List.any_eq_true.mpr ⟨_, found, rfl⟩

end Delivery

/-- The flag is right and the text is that of the lines exactly where each chunk is one document
that the loop can read, and no `stream` hides the errors; or by coincidence. -/
theorem build_delivers_iff (docs : Documents) (documents : List docs.Document)
    (cutting : Cutting docs documents) :
    Delivers docs documents cutting.chunks ↔
      Whole docs documents cutting.chunks ∧ Plain docs documents ∨
        Coincides docs documents cutting.chunks := by
  have cut : joined cutting.chunks =
      utf8 ([] ++ Framing.stream terminator (documents.map (frame docs))) := cutting.whole
  by_cases whole : Whole docs documents cutting.chunks
  · rw [delivers_whole whole]
    simp [whole, Coincides]
  · have unread := (whole_or_unread (by simp) cut).resolve_left whole
    rw [delivers_iff]
    simp only [whole, false_and, false_or, Coincides, not_false_eq_true, true_and]
    constructor
    · rintro ⟨parts, others, heard, told, flag, text⟩
      exact ⟨flag.mp (any_unread unread heard), parts, others, heard, told, text⟩
    · rintro ⟨failed, parts, others, heard, told, text⟩
      exact ⟨parts, others, heard, told, iff_of_true (any_unread unread heard) failed, text⟩

namespace Sample

def line : String := "\x7b\"stream\": \"Step 1\"\x7d"

def record : List (String × Json) := [("stream", .str "Step 1")]

def docs : Documents where
  Document := Unit
  text _ := line
  record _ := record
  loads text := if text = line then some (.dict record) else none
  loads_text _ := if_pos rfl
  loads_empty := if_neg (by decide)
  loads_part _ part more some cut := by
    refine if_neg fun same => some ?_
    rw [← same, String.toList_ofList] at cut
    exact List.append_cancel_left (cut.trans (List.append_nil part).symm)
  loads_extra _ more inside := by
    refine if_neg fun same => ?_
    have cut : line.toList ++ more = line.toList := by
      rw [← String.toList_ofList (l := line.toList ++ more)]
      exact congrArg String.toList same
    rw [List.append_right_eq_self.mp cut] at inside
    exact absurd inside (by decide)
  opens _ := rfl
  oneLine _ item member := by
    have clean : (line.toList.all fun item => item != '\r' && item != '\n') = true := by decide
    simpa using List.all_eq_true.mp clean item member

def together : Cutting docs [(), ()] where
  chunks := [sent docs [(), ()]]
  filled := by decide
  whole := by
    simp [joined]

end Sample

/-- A build without an error is reported as failed when two of its lines arrive in one chunk. -/
theorem two_lines_unread :
    ¬ Delivers Sample.docs [(), ()] Sample.together.chunks := by
  intro delivers
  have apart : ¬ Whole Sample.docs [(), ()] Sample.together.chunks := by
    intro whole
    cases whole.length_eq
  have unread := (whole_or_unread (by simp) (show joined Sample.together.chunks =
    utf8 ([] ++ Framing.stream terminator (List.map (frame Sample.docs) [(), ()])) from
      Sample.together.whole)).resolve_left apart
  obtain ⟨parts, _, heard, _, flag, _⟩ := (delivers_iff _).mp delivers
  obtain ⟨document, _, failed⟩ := flag.mp (any_unread unread heard)
  have clean : ¬ Failed Sample.record := by
    unfold Failed
    decide
  exact clean failed

end BuildStreams

end LabFunctions
