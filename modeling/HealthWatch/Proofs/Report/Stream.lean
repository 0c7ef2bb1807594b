import HealthWatch.Proofs.Bytes
import HealthWatch.Proofs.Json.Meaning
import HealthWatch.Report.Event
import HealthWatch.Report.Frame

/-! # The stream of messages

Whoever reads the stream of messages can split it at the line ends and read each line by itself, and
so knows the messages. A status event is read back from its message as it was reported. Both are
joined in `stream_recovers`.
-/

namespace HealthWatch

open Json Json.Written

/-! ## Status events -/

namespace StatusEvent

def spelled (event : StatusEvent) : List (String × Tree) :=
  [("type", .string (spell event.kind)), ("container_id", .string (spell event.container)),
    ("status", .string (spell event.status)), ("exit_code", .number (.ofInt event.exitCode)),
    ("timestamp", .number (.ofInt event.timestamp))]

/-- An event is encoded as an object without blanks. -/
theorem encode_eq (event : StatusEvent) : event.encode = (Document.compact event.spelled).text := by
  apply String.toList_injective
  rw [Document.toList_compact]
  simp [encode, spelled, member, encodeText, Tree.text, quoted_spell, Literal.text_ofInt]

/-- An event whose numbers are of their widths is read back from its text. -/
theorem parse_encode {event : StatusEvent}
    (exitCode : -0x80000000 ≤ event.exitCode ∧ event.exitCode ≤ 0x7FFFFFFF)
    (timestamp : -0x8000000000000000 ≤ event.timestamp ∧ event.timestamp ≤ 0x7FFFFFFFFFFFFFFF) :
    parse event.encode = .ok event := by
  have read : record.ofText event.encode = .ok (event.kind, event.container, event.status,
      event.exitCode, event.timestamp, ()) := by
    rw [encode_eq, Record.ofText_eq_ok (by decide) (by decide)]
    refine ⟨event.spelled, event.spelled, [], entries?_compact _, .of_eq (List.append_nil _).symm,
      ?_, nofun, fun _ => rfl⟩
    exact ⟨_, _, rfl, textOf?_spell _, _, _, rfl, textOf?_spell _, _, _, rfl, textOf?_spell _,
      _, _, rfl, Tree.data?_ofInt _ exitCode, _, _, rfl, Tree.data?_ofInt _ timestamp, rfl⟩
  rw [parse, read]

end StatusEvent

/-! ## Messages -/

structure Message where
  type : Int32
  payload : String
  deriving DecidableEq

namespace Message

def spelled (message : Message) : List (String × Tree) :=
  [("data", .number (.ofInt message.type.toInt)), ("message", .string (spell message.payload))]

/-- The object that stands for a message. -/
def object (message : Message) : String := (Document.compact message.spelled).text

def frame (message : Message) : String := Frame.encode message.type.toInt message.payload

/-- A message goes out as its object and a line end. -/
theorem frame_eq (message : Message) : message.frame = message.object ++ "\n" := by
  apply String.toList_injective
  rw [object, String.toList_append, Document.toList_compact]
  simp [frame, Frame.encode, spelled, encodeText, Tree.text, quoted_spell, Literal.text_ofInt]
  rfl

/-- The object holds no control character, and so no line end. -/
theorem printable_object (message : Message) : ∀ c ∈ message.object.toList, ' ' ≤ c := by
  rw [object, Document.toList_compact]
  simp only [spelled, List.map_cons, List.map_nil, List.intercalate_cons_cons,
    List.intercalate_singleton, List.forall_mem_cons, List.forall_mem_append, Tree.text,
    ← quoted_spell]
  exact ⟨⟨by decide,
    ⟨⟨quoted_printable _, by decide, Literal.printable _⟩, by decide, List.forall_mem_nil _⟩,
    quoted_printable _, by decide, quoted_printable _⟩, by decide, List.forall_mem_nil _⟩

/-- What one line of the stream tells whoever reads it. -/
structure Shows (line : Bytes) (message : Message) : Prop where
  nonempty : line ≠ []
  /-- No byte of the line is a line end or another control character. -/
  printable : ∀ byte ∈ line, 0x20 ≤ byte
  /-- The line is an object with exactly two members, which are the type and the payload. -/
  object : ∃ text number, line.text? = some text ∧ number.integer? = some message.type.toInt ∧
    Value.ofText text =
      .ok (.object [("data", .number number), ("message", .string message.payload)])

/-- The object of a message is read back as its type and its payload. -/
theorem ofText_object (message : Message) :
    ∃ number, number.integer? = some message.type.toInt ∧ Value.ofText message.object =
      .ok (.object [("data", .number number), ("message", .string message.payload)]) := by
  have low := message.type.le_toInt
  have high := message.type.toInt_lt
  have kept : kept? (Literal.ofInt message.type.toInt) = some message.type.toInt :=
    Option.filter_eq_some_iff.mpr ⟨Literal.integer?_ofInt _, decide_eq_true (by omega)⟩
  have nothing : Ends [] := nofun
  obtain ⟨read, whole⟩ := number_of_kept? (Literal.ofInt message.type.toInt) nothing kept
  rw [List.append_nil] at read
  have number : (Literal.ofInt message.type.toInt).number? = some _ :=
    congrArg (fun result => result.toOption.map Prod.fst) read
  refine ⟨_, whole, Value.ofText_eq_ok_iff.mpr (Value.stands_compact ?_)⟩
  rw [spelled, List.mapM_cons, List.mapM_cons, Tree.value?, number, Tree.value?, textOf?_spell]
  rfl

/-- The bytes of a message without the line end. -/
def line (message : Message) : Bytes := Bytes.ofText message.object

/-- The line of a message shows that message. -/
theorem shows_line (message : Message) : Shows message.line message := by
  obtain ⟨number, type, read⟩ := message.ofText_object
  have printable : ∀ byte ∈ message.line, 0x20 ≤ byte := by
    intro byte member
    by_cases small : byte.toNat < 0x80
    · obtain ⟨c, present, same⟩ := Bytes.exists_char member small
      have notControl : 32 ≤ c.toNat := message.printable_object c present
      exact UInt8.le_iff_toNat_le.mpr (same ▸ notControl)
    · -- A byte of a longer character is above all of these.
      exact UInt8.le_iff_toNat_le.mpr (Nat.le_trans (by decide) (Nat.le_of_not_lt small))
  refine ⟨?_, printable, message.object, number, Bytes.text?_ofText _, type, read⟩
  intro empty
  rw [line, Bytes.ofText_eq, object, Document.toList_compact, List.cons_append,
    List.flatMap_cons] at empty
  exact String.utf8EncodeChar_ne_nil (List.append_eq_nil_iff.mp empty).1

/-- One line is that of one message at most. -/
theorem Shows.unique {line : Bytes} {first second : Message} (shows₁ : Shows line first)
    (shows₂ : Shows line second) : first = second := by
  obtain ⟨text, number, same, type, read⟩ := shows₁.object
  obtain ⟨_, _, same', type', read'⟩ := shows₂.object
  cases same.symm.trans same'
  obtain ⟨rfl, payload⟩ : number = _ ∧ first.payload = second.payload := by
    simpa using read.symm.trans read'
  have types := Int32.toInt_inj.mp (Option.some.inj (type.symm.trans type'))
  cases first
  cases second
  cases types
  cases payload
  rfl

def bytes (message : Message) : Bytes := Bytes.ofText message.frame

/-- The bytes of a message are its line and one line end. -/
theorem bytes_eq (message : Message) : message.bytes = message.line ++ [0x0A] := by
  have lineEnd : Bytes.ofText "\n" = [0x0A] := by
    rw [Bytes.ofText_eq]
    decide
  rw [bytes, frame_eq, Bytes.ofText_append, lineEnd, line]

/-- The bytes of messages, one after the other. -/
def stream (messages : List Message) : Bytes := messages.flatMap bytes

/-- Split at the line ends, a stream is one line for each message and nothing behind the last. -/
theorem splitOn_stream (messages : List Message) :
    (stream messages).splitOn 0x0A = messages.map line ++ [[]] := by
  have noLineEnd : ∀ text ∈ messages.map line, 0x0A ∉ text := by
    intro text member inside
    obtain ⟨message, -, rfl⟩ := List.mem_map.mp member
    exact absurd (message.shows_line.printable _ inside) (by decide)
  rw [stream, funext bytes_eq, ← Bytes.splitOn_flatMap noLineEnd, List.flatMap_map]

/-- Two messages with one line are the same. -/
theorem line_injective {first second : Message} (same : first.line = second.line) :
    first = second :=
  first.shows_line.unique (same ▸ second.shows_line)

/-- A stream is that of no other messages. -/
theorem stream_inj {first second : List Message} :
    stream first = stream second ↔ first = second := by
  constructor
  · intro same
    have lines : first.map line ++ [[]] = second.map line ++ [[]] := by
      rw [← splitOn_stream, ← splitOn_stream, same]
    exact (List.map_inj_right fun _ _ => line_injective).mp (List.append_cancel_right lines)
  · rintro rfl
    rfl

/-- What the stream of messages tells whoever reads it. -/
structure Recovers (messages : List Message) : Prop where
  lines : (stream messages).splitOn 0x0A = messages.map line ++ [[]]
  shows : ∀ message ∈ messages, Shows message.line message
  unique : ∀ others, stream others = stream messages ↔ others = messages

/-- **What a stream of messages tells.** It can be split at its line ends, and every line gives back
the message that it was made of. -/
theorem recovers (messages : List Message) : Recovers messages where
  lines := splitOn_stream messages
  shows message _ := message.shows_line
  unique _ := stream_inj

end Message

/-! ## Reports -/

/-- A status that is reported at a moment. -/
structure Report where
  container : String
  status : Status
  exitCode : Int32
  now : Int

namespace Report

def event (report : Report) : StatusEvent :=
  .of report.container report.status report.exitCode.toInt report.now

/-- The bytes that go out for a report. -/
def bytes (report : Report) : Bytes :=
  Bytes.ofText (Frame.encode Frame.statusType report.event.encode)

def message (report : Report) : Message := ⟨2, report.event.encode⟩

/-- The bytes of reports are the stream of their messages. -/
theorem flatMap_bytes (reports : List Report) :
    reports.flatMap bytes = Message.stream (reports.map message) := by
  rw [Message.stream, List.flatMap_map]
  rfl

/-- A reported event is read back from the payload of its message. -/
theorem parse_payload (report : Report) :
    StatusEvent.parse report.message.payload = .ok report.event := by
  have low := report.exitCode.le_toInt
  have high := report.exitCode.toInt_lt
  apply StatusEvent.parse_encode
  · simp only [event, StatusEvent.of]
    omega
  · simp only [event, StatusEvent.of, StatusEvent.lastMoment]
    omega

/-- What the bytes of reports tell whoever reads them. -/
structure Recovers (reports : List Report) : Prop where
  messages : reports.flatMap bytes = Message.stream (reports.map message)
  shown : Message.Recovers (reports.map message)
  events : ∀ report ∈ reports, StatusEvent.parse report.message.payload = .ok report.event
  unique : ∀ others : List Report, others.flatMap bytes = reports.flatMap bytes ↔
    others.map event = reports.map event

/-- **What a stream of reports tells.** Its lines are one for each report in their order, and every
line gives back the event of its report. -/
theorem recovers (reports : List Report) : Recovers reports := by
  have read (reports : List Report) : (reports.map event).map some =
      (reports.map message).map fun message => (StatusEvent.parse message.payload).toOption := by
    simp only [List.map_map, Function.comp_def, parse_payload]
    rfl
  refine ⟨flatMap_bytes reports, Message.recovers _, fun report _ => report.parse_payload, ?_⟩
  intro others
  constructor
  · intro same
    rw [flatMap_bytes, flatMap_bytes, Message.stream_inj] at same
    have events := read others
    rw [same, ← read reports] at events
    exact (List.map_inj_right fun _ _ => Option.some.inj).mp events
  · intro same
    have written (reports : List Report) : reports.flatMap bytes =
        (reports.map event).flatMap fun event =>
          Bytes.ofText (Frame.encode Frame.statusType event.encode) := by
      rw [List.flatMap_map]
      rfl
    rw [written, written, same]

end Report

end HealthWatch
