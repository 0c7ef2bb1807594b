import HealthWatch.Proofs.Report.Stream
import HealthWatch.Report.Channel

/-! # What reaches the parent

However the descriptor takes the bytes of the messages sent, what has gone through is whole frames
in order and, once a send has failed or is still under way, a part of one more
(`Channel.frames_sendAll`). The first failure closes the channel for good.
-/

namespace HealthWatch

/-! ## Writing bytes -/

namespace WriteAttempt

/-- How many bytes an attempt is ready to take. -/
def count : WriteAttempt → Nat
  | accepted count => count
  | interrupted | failed _ => 0

/-- The fault of an attempt that fails or takes nothing. -/
def fault? : WriteAttempt → Option IoFault
  | accepted count => if count = 0 then some .wroteNothing else none
  | interrupted => none
  | failed fault => some fault

/-- A faulty attempt takes nothing. -/
theorem count_of_fault {attempt : WriteAttempt} {fault : IoFault}
    (faulty : attempt.fault? = some fault) : attempt.count = 0 := by
  cases attempt with
  | accepted count =>
      by_cases none : count = 0
      · exact none
      · rw [fault?, if_neg none] at faulty
        cases faulty
  | interrupted | failed => rfl

end WriteAttempt

/-- How many bytes attempts are ready to take together. -/
def room : List WriteAttempt → Nat
  | [] => 0
  | attempt :: attempts => attempt.count + room attempts

/-- Attempts without a fault that are not interrupted take a byte each. -/
theorem countP_le_room {attempts : List WriteAttempt}
    (sound : ∀ attempt ∈ attempts, attempt.fault? = none) :
    attempts.countP (· ≠ .interrupted) ≤ room attempts := by
  induction attempts with
  | nil => exact Nat.le_refl 0
  | cons attempt attempts ih =>
      obtain ⟨first, others⟩ := List.forall_mem_cons.mp sound
      have rest := ih others
      rw [room]
      cases attempt with
      | accepted count =>
          have some : ¬count = 0 := by
            intro none
            rw [WriteAttempt.fault?, if_pos none] at first
            cases first
          rw [List.countP_cons_of_pos (by rfl), WriteAttempt.count]
          omega
      | interrupted =>
          rw [List.countP_cons_of_neg (by decide)]
          omega
      | failed fault => cases first

/-- What came of writing bytes, told by the attempts that were made. -/
structure Writing.ComesOf (writing : Writing) (bytes : Bytes) (made : List WriteAttempt) :
    Prop where
  /-- As many of the bytes were taken as the attempts were ready to take. -/
  taken : writing.taken = bytes.take (room made)
  /-- No attempt is made when all bytes have been taken, or behind a faulty one. -/
  needed : ∀ before attempt after, made = before ++ attempt :: after →
    room before < bytes.length ∧ ∀ earlier ∈ before, earlier.fault? = none
  /-- Writing succeeds exactly when the attempts take all the bytes. -/
  whole : writing.result = some (.ok ()) ↔ bytes.length ≤ room made
  /-- Writing fails exactly when an attempt fails or takes nothing, and with its fault. -/
  broken : ∀ fault, writing.result = some (.error fault) ↔
    made.findSome? WriteAttempt.fault? = some fault
  /-- Writing goes on only when there is no further attempt. -/
  waits : writing.result = none → writing.unused = []

namespace Writing.ComesOf

variable {writing : Writing} {bytes : Bytes} {made : List WriteAttempt}

/-- A faulty attempt is the last one, and takes nothing. -/
theorem of_fault {attempt : WriteAttempt} {fault : IoFault} (nonempty : bytes ≠ [])
    (faulty : attempt.fault? = some fault) (unused : List WriteAttempt) :
    ComesOf ⟨[], some (.error fault), unused⟩ bytes [attempt] := by
  have size : 0 < bytes.length := List.length_pos_iff.mpr nonempty
  have none : room [attempt] = 0 := WriteAttempt.count_of_fault faulty
  constructor
  case taken => rw [none, List.take_zero]
  case needed =>
    intro before other after same
    cases before with
    | nil => exact ⟨size, nofun⟩
    | cons head before => cases before <;> cases same
  case whole =>
    rw [none]
    exact ⟨nofun, fun fits => absurd fits (Nat.not_le_of_lt size)⟩
  case broken =>
    intro other
    rw [List.findSome?_cons, faulty]
    simp
  case waits => exact nofun

/-- An attempt without a fault leaves the rest of the bytes to the attempts behind it. -/
theorem cons (nonempty : bytes ≠ []) (attempt : WriteAttempt) (sound : attempt.fault? = none)
    (rest : writing.ComesOf (bytes.drop attempt.count) made) :
    ComesOf { writing with taken := bytes.take attempt.count ++ writing.taken } bytes
      (attempt :: made) := by
  have size : 0 < bytes.length := List.length_pos_iff.mpr nonempty
  constructor
  case taken =>
    dsimp only
    rw [rest.taken, room, List.take_add]
  case needed =>
    intro before other after same
    cases before with
    | nil => exact ⟨size, nofun⟩
    | cons head before =>
        obtain ⟨rfl, behind⟩ := List.cons.inj same
        obtain ⟨left, others⟩ := rest.needed before other after behind
        rw [List.length_drop] at left
        rw [room]
        exact ⟨by omega, List.forall_mem_cons.mpr ⟨sound, others⟩⟩
  case whole =>
    rw [rest.whole, room, List.length_drop]
    omega
  case broken =>
    intro fault
    rw [rest.broken, List.findSome?_cons, sound]
  case waits => exact rest.waits

/-- Writing fails when one of its attempts is faulty, and only then. -/
theorem exists_error_iff (comes : writing.ComesOf bytes made) :
    (∃ fault, writing.result = some (.error fault)) ↔
      ∃ attempt ∈ made, attempt.fault? ≠ none := by
  have some : made.findSome? WriteAttempt.fault? ≠ none ↔
      ∃ attempt ∈ made, attempt.fault? ≠ none := by
    rw [Ne, List.findSome?_eq_none_iff]
    simp
  rw [← some, ← Option.isSome_iff_ne_none, Option.isSome_iff_exists]
  exact exists_congr comes.broken

/-- Writing goes on only as long as fewer attempts than bytes were not interrupted. -/
theorem few (comes : writing.ComesOf bytes made) (pending : writing.result = none) :
    made.countP (· ≠ .interrupted) < bytes.length := by
  apply Nat.lt_of_not_le
  intro enough
  have sound : ∀ attempt ∈ made, attempt.fault? = none := by
    intro attempt member
    by_contra faulty
    obtain ⟨fault, failed⟩ := comes.exists_error_iff.mpr ⟨attempt, member, faulty⟩
    rw [pending] at failed
    cases failed
  have fits := comes.whole.mpr (enough.trans (countP_le_room sound))
  rw [pending] at fits
  cases fits

end Writing.ComesOf

/-- Writing makes the first of the attempts, and comes to what they make of it. -/
theorem writeAll_comesOf (bytes : Bytes) (attempts : List WriteAttempt) :
    ∃ made, attempts = made ++ (writeAll bytes attempts).unused ∧
      (writeAll bytes attempts).ComesOf bytes made := by
  fun_induction writeAll bytes attempts with
  | case1 attempts =>
      refine ⟨[], rfl, rfl, ?_, ⟨fun _ => Nat.le_refl 0, fun _ => rfl⟩, ?_, nofun⟩
      · intro before attempt after same
        cases before <;> cases same
      · intro fault
        constructor <;> intro impossible <;> cases impossible
  | case2 byte more =>
      refine ⟨[], rfl, rfl, ?_, ⟨nofun, nofun⟩, ?_, fun _ => rfl⟩
      · intro before attempt after same
        cases before <;> cases same
      · intro fault
        constructor <;> intro impossible <;> cases impossible
  | case3 bytes attempts nonempty ih =>
      obtain ⟨made, split, comes⟩ := ih
      exact ⟨.interrupted :: made, congrArg (List.cons _) split,
        .cons nonempty .interrupted rfl comes⟩
  | case4 bytes fault attempts nonempty =>
      exact ⟨[.failed fault], rfl, .of_fault nonempty rfl _⟩
  | case5 bytes attempts nonempty =>
      exact ⟨[.accepted 0], rfl, .of_fault nonempty rfl _⟩
  | case6 bytes count attempts nonempty some writing ih =>
      obtain ⟨made, split, comes⟩ := ih
      exact ⟨.accepted count :: made, congrArg (List.cons _) split,
        .cons nonempty (.accepted count) (if_neg some) comes⟩

/-! ## Sending messages -/

/-- One send, with the attempts before it and what came of it. -/
structure Sent where
  message : Message
  attempts : List WriteAttempt
  channel : Channel
  writing : Writing

namespace Sent

def succeeded (sent : Sent) : Bool := sent.writing.result matches some (.ok _)

def failed (sent : Sent) : Bool := sent.writing.result matches some (.error _)

/-- The attempts that the send has made: those before it that it has not left unused. -/
def made (sent : Sent) : List WriteAttempt :=
  sent.attempts.take (sent.attempts.length - sent.writing.unused.length)

/-- A send that has made the first of its attempts, and has come to what they make of it. -/
structure Attempted (sent : Sent) : Prop where
  split : sent.attempts = sent.made ++ sent.writing.unused
  comes : sent.writing.ComesOf sent.message.bytes sent.made

/-- A send that the descriptor keeps waiting: every attempt has been made, and those that were not
interrupted are too few. -/
structure Waits (sent : Sent) : Prop where
  result : sent.writing.result = none
  unused : sent.writing.unused = []
  few : sent.attempts.countP (· ≠ .interrupted) < sent.message.bytes.length

/-- A send that succeeded and left the channel open. -/
structure Whole (sent : Sent) : Prop where
  attempted : sent.Attempted
  succeeded : sent.succeeded = true
  remains : sent.channel.closed = false

/-- The first send that did not succeed. It has failed and closed the channel, or is still under
way. -/
structure Broken (sent : Sent) : Prop where
  attempted : sent.Attempted
  broken : sent.succeeded = false
  closes : sent.channel.closed = sent.failed

/-- A send to a channel that has been closed. -/
structure Refused (sent : Sent) : Prop where
  result : ∃ fault, sent.writing.result = some (.error fault) ∧ fault.kind = "BrokenPipe" ∧
    fault.message = "sync pipe is closed"
  nothing : sent.writing.taken = []
  untouched : sent.writing.unused = sent.attempts
  remains : sent.channel.closed = true

section Results

variable {sent : Sent}

/-- A send succeeds when its writing returns without a fault. -/
theorem succeeded_iff : sent.succeeded = true ↔ sent.writing.result = some (.ok ()) := by
  rw [succeeded]
  rcases sent.writing.result with _ | fault | ⟨⟩ <;> simp

/-- A send fails when its writing returns a fault. -/
theorem failed_iff : sent.failed = true ↔ ∃ fault, sent.writing.result = some (.error fault) := by
  rw [failed]
  rcases sent.writing.result with _ | fault | ⟨⟩ <;> simp

theorem made_of_split {first : List WriteAttempt}
    (split : sent.attempts = first ++ sent.writing.unused) : sent.made = first := by
  rw [made, split, List.length_append, Nat.add_sub_cancel, List.take_left]

end Results

namespace Attempted

variable {sent : Sent}

/-- Writing the frame of its message is what a send attempts. -/
theorem of_writeAll (message : Message) (attempts : List WriteAttempt) (channel : Channel) :
    Attempted ⟨message, attempts, channel, writeAll message.bytes attempts⟩ := by
  obtain ⟨first, split, comes⟩ := writeAll_comesOf message.bytes attempts
  let sent : Sent := ⟨message, attempts, channel, writeAll message.bytes attempts⟩
  have made : sent.made = first := made_of_split split
  refine ⟨?_, ?_⟩
  · rw [made]
    exact split
  · rw [made]
    exact comes

/-- A send fails exactly when one of its attempts fails or takes nothing. -/
theorem failed_iff (attempted : sent.Attempted) :
    sent.failed = true ↔ ∃ attempt ∈ sent.made, attempt.fault? ≠ none :=
  Sent.failed_iff.trans attempted.comes.exists_error_iff

/-- A send that has no result waits for the descriptor. -/
theorem waits (attempted : sent.Attempted) (pending : sent.writing.result = none) :
    sent.Waits := by
  have unused := attempted.comes.waits pending
  have all := attempted.split
  rw [unused, List.append_nil] at all
  refine ⟨pending, unused, ?_⟩
  rw [all]
  exact attempted.comes.few pending

end Attempted

/-- A send that succeeds has written its whole frame. -/
theorem Whole.frame {sent : Sent} (whole : sent.Whole) :
    sent.writing.taken = sent.message.bytes := by
  have fits := whole.attempted.comes.whole.mp (succeeded_iff.mp whole.succeeded)
  rw [whole.attempted.comes.taken, List.take_of_length_le fits]

/-- A send that succeeded has not failed. -/
theorem Whole.not_failed {sent : Sent} (whole : sent.Whole) : sent.failed = false := by
  have result := succeeded_iff.mp whole.succeeded
  rw [failed, result]

/-- A send that does not succeed has written a part of its frame. -/
theorem Broken.part {sent : Sent} (broken : sent.Broken) :
    sent.writing.taken <+: sent.message.bytes ∧ sent.writing.taken ≠ sent.message.bytes := by
  have comes := broken.attempted.comes
  have short : room sent.made < sent.message.bytes.length := by
    apply Nat.lt_of_not_le
    intro fits
    have succeeded := broken.broken
    rw [succeeded_iff.mpr (comes.whole.mpr fits)] at succeeded
    cases succeeded
  rw [comes.taken]
  refine ⟨List.take_prefix _ _, fun whole => ?_⟩
  have size := congrArg List.length whole
  rw [List.length_take] at size
  omega

/-- A refused send has failed. -/
theorem Refused.failed {sent : Sent} (refused : sent.Refused) :
    sent.failed = true ∧ sent.succeeded = false := by
  obtain ⟨fault, result, -⟩ := refused.result
  rw [Sent.failed, succeeded, result]
  exact ⟨rfl, rfl⟩

theorem Refused.made_eq_nil {sent : Sent} (refused : sent.Refused) : sent.made = [] :=
  made_of_split refused.untouched.symm

/-- The first send that does not succeed has failed or is still under way. -/
theorem Broken.failed_or_waits {sent : Sent} (broken : sent.Broken) :
    sent.failed = true ∨ sent.Waits := by
  rcases result : sent.writing.result with _ | fault | ⟨⟩
  · exact .inr (broken.attempted.waits result)
  · exact .inl (failed_iff.mpr ⟨fault, result⟩)
  · have succeeded := broken.broken
    rw [succeeded_iff.mpr result] at succeeded
    cases succeeded

/-- What stands behind the sends that succeeded: nothing, or the first that did not and the sends
that it had refused. -/
def Stops (stop : List Sent) : Prop :=
  stop = [] ∨ ∃ first later, stop = first :: later ∧ first.Broken ∧
    (∀ sent ∈ later, sent.Refused) ∧ (first.failed = false → later = [])

end Sent

namespace Channel

/-- Sends messages one after the other. A send that has not returned keeps the others from being
begun. -/
def sendAll : Channel → List Message → List WriteAttempt → List Sent
  | _, [], _ => []
  | channel, message :: rest, attempts =>
      let (channel, writing) := channel.send message.type.toInt message.payload attempts
      let sent : Sent := ⟨message, attempts, channel, writing⟩
      match writing.result with
      | none => [sent]
      | some _ => sent :: channel.sendAll rest writing.unused

/-- A closed channel makes no attempt and refuses the message. -/
theorem send_of_closed (type : Int) (payload : String) (attempts : List WriteAttempt) :
    send ⟨true⟩ type payload attempts =
      (⟨true⟩, ⟨[], some (.error .closedChannel), attempts⟩) := rfl

/-- What came of a send to a closed channel. -/
theorem refused_of_closed (message : Message) (attempts : List WriteAttempt) :
    Sent.Refused ⟨message, attempts, ⟨true⟩, [], some (.error .closedChannel), attempts⟩ :=
  ⟨⟨.closedChannel, rfl, rfl, rfl⟩, rfl, rfl, rfl⟩

/-- A send over an open channel writes its frame. -/
theorem send_of_open (message : Message) (attempts : List WriteAttempt) :
    send ⟨false⟩ message.type.toInt message.payload attempts =
      (⟨(writeAll message.bytes attempts).result matches some (.error _)⟩,
        writeAll message.bytes attempts) := by
  have sending : send ⟨false⟩ message.type.toInt message.payload attempts =
      match (writeAll message.bytes attempts).result with
      | some (.error _) => (⟨true⟩, writeAll message.bytes attempts)
      | _ => (⟨false⟩, writeAll message.bytes attempts) := rfl
  rw [sending]
  rcases (writeAll message.bytes attempts).result with _ | fault | ⟨⟩ <;> rfl

/-- Over an open channel or a closed one, a send leaves the attempts that it has not made. -/
theorem split_of_send (channel : Channel) (message : Message) (attempts : List WriteAttempt) :
    let (after, writing) := channel.send message.type.toInt message.payload attempts
    attempts = Sent.made ⟨message, attempts, after, writing⟩ ++ writing.unused := by
  obtain ⟨closed⟩ := channel
  cases closed with
  | true =>
      rw [send_of_closed]
      dsimp only
      rw [(refused_of_closed message attempts).made_eq_nil]
      rfl
  | false =>
      rw [send_of_open]
      exact (Sent.Attempted.of_writeAll message attempts _).split

/-- A closed channel refuses every send. -/
theorem sendAll_of_closed (messages : List Message) (attempts : List WriteAttempt) :
    ∀ sent ∈ sendAll ⟨true⟩ messages attempts, sent.Refused := by
  induction messages with
  | nil => exact nofun
  | cons message messages ih =>
      intro sent member
      rw [sendAll, send_of_closed] at member
      rcases List.mem_cons.mp member with rfl | member
      · exact refused_of_closed message attempts
      · exact ih sent member

/-- Sends over an open channel write whole frames up to the first that does not succeed. -/
theorem sendAll_split (messages : List Message) (attempts : List WriteAttempt) :
    ∃ whole stop, sendAll ⟨false⟩ messages attempts = whole ++ stop ∧
      (∀ sent ∈ whole, sent.Whole) ∧ Sent.Stops stop := by
  induction messages generalizing attempts with
  | nil => exact ⟨[], [], rfl, nofun, .inl rfl⟩
  | cons message messages ih =>
      have attempted := Sent.Attempted.of_writeAll message attempts
      rw [sendAll, send_of_open]
      generalize writeAll message.bytes attempts = writing at attempted ⊢
      obtain ⟨taken, result, unused⟩ := writing
      rcases result with _ | fault | ⟨⟩
      · refine ⟨[], _, rfl, nofun, .inr ⟨_, [], rfl, ?_, nofun, fun _ => rfl⟩⟩
        exact ⟨attempted _, rfl, rfl⟩
      · refine ⟨[], _, rfl, nofun, .inr ⟨_, _, rfl, ?_, sendAll_of_closed _ _, nofun⟩⟩
        exact ⟨attempted _, rfl, rfl⟩
      · obtain ⟨whole, stop, split, sent, stopped⟩ := ih unused
        refine ⟨_ :: whole, stop, congrArg (List.cons _) split, ?_, stopped⟩
        exact List.forall_mem_cons.mpr ⟨⟨attempted _, rfl, rfl⟩, sent⟩

/-- The messages are sent in order, and all of them unless one has to wait. -/
theorem sendAll_begins (channel : Channel) (messages : List Message)
    (attempts : List WriteAttempt) :
    ∃ rest, messages = (channel.sendAll messages attempts).map (·.message) ++ rest ∧
      (rest = [] ∨ ∃ sent ∈ channel.sendAll messages attempts, sent.writing.result = none) := by
  induction messages generalizing channel attempts with
  | nil => exact ⟨[], rfl, .inl rfl⟩
  | cons message messages ih =>
      rw [sendAll]
      generalize channel.send message.type.toInt message.payload attempts = sending
      obtain ⟨channel, taken, result, unused⟩ := sending
      cases result with
      | none => exact ⟨messages, rfl, .inr ⟨_, List.mem_singleton_self _, rfl⟩⟩
      | some result =>
          obtain ⟨rest, same, waiting⟩ := ih channel unused
          refine ⟨rest, congrArg (List.cons message) same, waiting.imp_right ?_⟩
          rintro ⟨sent, member, pending⟩
          exact ⟨sent, List.mem_cons_of_mem _ member, pending⟩

/-- A send begins with the attempts that the sends before it have not made. -/
theorem sendAll_spends {channel : Channel} {messages : List Message} {attempts : List WriteAttempt}
    {before later : List Sent} {sent : Sent}
    (same : channel.sendAll messages attempts = before ++ sent :: later) :
    attempts = before.flatMap Sent.made ++ sent.attempts := by
  induction messages generalizing channel attempts before with
  | nil => cases before <;> cases same
  | cons message messages ih =>
      have split := split_of_send channel message attempts
      rw [sendAll] at same
      generalize channel.send message.type.toInt message.payload attempts = sending at same split
      obtain ⟨channel, taken, result, unused⟩ := sending
      cases before with
      | nil => cases result <;> cases (List.cons.inj same).1 <;> rfl
      | cons first before =>
          cases result with
          | none => cases before <;> cases (List.cons.inj same).2
          | some result =>
              obtain ⟨rfl, rest⟩ := List.cons.inj same
              have left := ih rest
              rw [List.flatMap_cons, List.append_assoc, ← left]
              exact split

/-- What has reached the parent after messages were sent, and what became of the channel. -/
structure Frames (messages : List Message) (attempts : List WriteAttempt) (log : List Sent) :
    Prop where
  /-- The messages were sent in order, and all of them unless one has to wait. -/
  begins : ∃ rest, messages = log.map (·.message) ++ rest ∧
    (rest = [] ∨ ∃ sent ∈ log, sent.writing.result = none)
  /-- The frames of the sends that succeeded went through, in order, and behind them at most a part
  of the first that did not. -/
  through : ∃ part, log.flatMap (·.writing.taken) =
      (log.filter Sent.succeeded).flatMap (·.message.bytes) ++ part ∧
    (part = [] ∨ ∃ first, log.find? (!Sent.succeeded ·) = some first ∧
      part <+: first.message.bytes ∧ part ≠ first.message.bytes)
  /-- A send writes its whole frame, fails and closes the channel, or waits for the descriptor. -/
  ends : ∀ sent ∈ log, (sent.succeeded = true ∧ sent.writing.taken = sent.message.bytes) ∨
    (sent.failed = true ∧ sent.channel.closed = true) ∨ sent.Waits
  /-- A send begins with the attempts that the sends before it have not made. -/
  spends : ∀ before sent later, log = before ++ sent :: later →
    attempts = before.flatMap Sent.made ++ sent.attempts
  /-- As long as no send has failed, a send makes the first attempts that there are, as many as it
  needs. It succeeds exactly when they take its whole frame, and fails exactly when one of them
  fails or takes nothing. -/
  attempted : ∀ before sent later, log = before ++ sent :: later →
    (∀ earlier ∈ before, earlier.failed = false) → sent.Attempted
  /-- The channel is closed from the first failure on. -/
  closes : ∀ before sent later, log = before ++ sent :: later →
    (sent.channel.closed = true ↔ ∃ earlier ∈ before ++ [sent], earlier.failed = true)
  /-- The channel is closed from the first attempt on that failed or took nothing. -/
  breaks : ∀ before sent later, log = before ++ sent :: later →
    (sent.channel.closed = true ↔
      ∃ earlier ∈ before ++ [sent], ∃ attempt ∈ earlier.made, attempt.fault? ≠ none)
  /-- Behind the first failure every send is refused and the descriptor is left alone. -/
  refuses : ∀ before sent later, log = before ++ sent :: later →
    (∃ earlier ∈ before, earlier.failed = true) → sent.Refused

section Frames

variable {whole stop : List Sent} (sent : ∀ sent ∈ whole, sent.Whole) (stopped : Sent.Stops stop)

include sent stopped in
/-- What has reached the parent is the frames of the sends that succeeded and a part of the next
one. -/
theorem through_of_split : ∃ part, (whole ++ stop).flatMap (·.writing.taken) =
      ((whole ++ stop).filter Sent.succeeded).flatMap (·.message.bytes) ++ part ∧
    (part = [] ∨ ∃ first, (whole ++ stop).find? (!Sent.succeeded ·) = some first ∧
      part <+: first.message.bytes ∧ part ≠ first.message.bytes) := by
  have frames : whole.flatMap (·.writing.taken) = whole.flatMap (·.message.bytes) := by
    rw [List.flatMap_def, List.flatMap_def]
    exact congrArg List.flatten
      (List.map_congr_left fun current member => (sent current member).frame)
  have kept : whole.filter Sent.succeeded = whole :=
    List.filter_eq_self.mpr fun current member => (sent current member).succeeded
  have noneFound : whole.find? (!Sent.succeeded ·) = none :=
    List.find?_eq_none.mpr fun current member => by simp [(sent current member).succeeded]
  rcases stopped with rfl | ⟨first, later, rfl, broken, refused, -⟩
  · exact ⟨[], by simp only [List.append_nil, kept, frames], .inl rfl⟩
  · have silent : later.flatMap (·.writing.taken) = [] :=
      List.flatMap_eq_nil_iff.mpr fun current member => (refused current member).nothing
    have dropped : later.filter Sent.succeeded = [] :=
      List.filter_eq_nil_iff.mpr fun current member => by simp [(refused current member).failed.2]
    refine ⟨first.writing.taken, ?_, .inr ⟨first, ?_, broken.part⟩⟩
    · rw [List.filter_append, kept, List.filter_cons_of_neg (by simp [broken.broken]), dropped,
        List.flatMap_append, frames, List.flatMap_cons, silent, List.append_nil, List.append_nil]
    · rw [List.find?_append, noneFound, List.find?_cons_of_pos (by simp [broken.broken])]
      rfl

include sent stopped in
/-- A send wrote its frame like all before it, is the first that did not, or was refused. -/
theorem place_of_split {before later : List Sent} {current : Sent}
    (same : whole ++ stop = before ++ current :: later) :
    (∀ earlier ∈ before, earlier.Whole) ∧ (current.Whole ∨ current.Broken) ∨
      (∃ earlier ∈ before, earlier.failed = true) ∧ current.Refused := by
  rcases List.append_eq_append_iff.mp same with ⟨skipped, rfl, rest⟩ | ⟨more, rfl, rest⟩
  · rcases stopped with rfl | ⟨first, others, rfl, broken, refused, alone⟩
    · cases skipped <;> cases rest
    · cases skipped with
      | nil =>
          cases (List.cons.inj rest).1
          rw [List.append_nil]
          exact .inl ⟨sent, .inr broken⟩
      | cons head skipped =>
          obtain ⟨rfl, rfl⟩ := List.cons.inj rest
          have failed : first.failed = true := by
            cases failed : first.failed with
            | true => rfl
            | false => cases skipped <;> cases alone failed
          exact .inr ⟨⟨first, by simp, failed⟩, refused current (by simp)⟩
  · refine .inl ⟨fun earlier member => sent earlier (List.mem_append_left _ member), ?_⟩
    cases more with
    | nil =>
        rcases stopped with rfl | ⟨first, others, rfl, broken, -⟩
        · cases rest
        · cases (List.cons.inj rest).1
          exact .inr broken
    | cons head more =>
        cases (List.cons.inj rest).1
        exact .inl (sent current (by simp))

include sent stopped in
/-- Every send has succeeded with its whole frame, failed and left the channel closed, or is
waiting. -/
theorem ends_of_split : ∀ sent ∈ whole ++ stop,
    (sent.succeeded = true ∧ sent.writing.taken = sent.message.bytes) ∨
      (sent.failed = true ∧ sent.channel.closed = true) ∨ sent.Waits := by
  intro current member
  obtain ⟨before, later, same⟩ := List.append_of_mem member
  rcases place_of_split sent stopped same with ⟨-, whole | broken⟩ | ⟨-, refused⟩
  · exact .inl ⟨whole.succeeded, whole.frame⟩
  · rcases broken.failed_or_waits with failed | waits
    · exact .inr (.inl ⟨failed, broken.closes.trans failed⟩)
    · exact .inr (.inr waits)
  · exact .inr (.inl ⟨refused.failed.1, refused.remains⟩)

include sent stopped in
/-- Up to any of the sends, the channel is closed when one of them has failed. -/
theorem closes_of_split {before later : List Sent} {current : Sent}
    (same : whole ++ stop = before ++ current :: later) :
    current.channel.closed = true ↔ ∃ earlier ∈ before ++ [current], earlier.failed = true := by
  have place := place_of_split sent stopped same
  have own : current.channel.closed = current.failed := by
    rcases place with ⟨-, whole | broken⟩ | ⟨-, refused⟩
    · exact whole.remains.trans whole.not_failed.symm
    · exact broken.closes
    · exact refused.remains.trans refused.failed.1.symm
  rw [own]
  refine ⟨fun failed => ⟨current, by simp, failed⟩, ?_⟩
  rintro ⟨earlier, member, failed⟩
  rcases List.mem_append.mp member with member | member
  · rcases place with ⟨whole, -⟩ | ⟨-, refused⟩
    · cases (whole earlier member).not_failed.symm.trans failed
    · exact refused.failed.1
  · cases List.mem_singleton.mp member
    exact failed

include sent stopped in
/-- As long as no send has failed, the next one makes its attempts and comes to what they make of
it. -/
theorem attempted_of_split {before later : List Sent} {current : Sent}
    (same : whole ++ stop = before ++ current :: later)
    (unfailed : ∀ earlier ∈ before, earlier.failed = false) : current.Attempted := by
  rcases place_of_split sent stopped same with ⟨-, whole | broken⟩ | ⟨⟨earlier, member, failed⟩, -⟩
  · exact whole.attempted
  · exact broken.attempted
  · cases (unfailed earlier member).symm.trans failed

include sent stopped in
/-- Up to any of the sends, the channel is closed when one of their attempts was faulty. -/
theorem breaks_of_split {before later : List Sent} {current : Sent}
    (same : whole ++ stop = before ++ current :: later) :
    current.channel.closed = true ↔
      ∃ earlier ∈ before ++ [current], ∃ attempt ∈ earlier.made, attempt.fault? ≠ none := by
  constructor
  · intro closed
    -- A refused send makes no attempt; the faulty one belongs to the first send that failed.
    have failed := (closes_of_split sent stopped same).mp closed
    obtain ⟨first, found⟩ := Option.isSome_iff_exists.mp (List.find?_isSome.mpr failed)
    obtain ⟨failed, front, back, split, sound⟩ := List.find?_eq_some_iff_append.mp found
    have there : whole ++ stop = front ++ first :: (back ++ later) := by
      rw [same, ← List.singleton_append, ← List.append_assoc, split, List.append_assoc,
        List.cons_append]
    refine ⟨first, List.mem_of_find?_eq_some found, ?_⟩
    rcases place_of_split sent stopped there with ⟨-, whole | broken⟩ | ⟨⟨earlier, member, too⟩, -⟩
    · cases whole.not_failed.symm.trans failed
    · exact broken.attempted.failed_iff.mp failed
    · have not := sound earlier member
      rw [too] at not
      cases not
  · rintro ⟨earlier, member, faulty⟩
    refine (closes_of_split sent stopped same).mpr ⟨earlier, member, ?_⟩
    have listed : earlier ∈ whole ++ stop := by
      rw [same, ← List.singleton_append, ← List.append_assoc]
      exact List.mem_append_left _ member
    obtain ⟨front, back, there⟩ := List.append_of_mem listed
    rcases place_of_split sent stopped there with ⟨-, whole | broken⟩ | ⟨-, refused⟩
    · exact whole.attempted.failed_iff.mpr faulty
    · exact broken.attempted.failed_iff.mpr faulty
    · exact refused.failed.1

include sent stopped in
/-- Once a send has failed, every later one is refused. -/
theorem refuses_of_split {before later : List Sent} {current : Sent}
    (same : whole ++ stop = before ++ current :: later)
    (closed : ∃ earlier ∈ before, earlier.failed = true) : current.Refused := by
  obtain ⟨earlier, member, failed⟩ := closed
  rcases place_of_split sent stopped same with ⟨whole, -⟩ | ⟨-, refused⟩
  · cases (whole earlier member).not_failed.symm.trans failed
  · exact refused

end Frames

/-- Messages sent over an open channel reach the parent as whole frames up to the first failure,
which closes the channel for good. A send fails exactly when one of the attempts that it makes fails
or takes nothing. -/
theorem frames_sendAll (messages : List Message) (attempts : List WriteAttempt) :
    Frames messages attempts (sendAll ⟨false⟩ messages attempts) := by
  have begins := sendAll_begins ⟨false⟩ messages attempts
  have spends (before : List Sent) (current : Sent) (later : List Sent) :
      sendAll ⟨false⟩ messages attempts = before ++ current :: later →
        attempts = before.flatMap Sent.made ++ current.attempts := sendAll_spends
  obtain ⟨whole, stop, split, sent, stopped⟩ := sendAll_split messages attempts
  rw [split] at begins spends ⊢
  constructor
  case begins => exact begins
  case through => exact through_of_split sent stopped
  case ends => exact ends_of_split sent stopped
  case spends => exact spends
  case attempted => exact fun _ _ _ => attempted_of_split sent stopped
  case closes => exact fun _ _ _ => closes_of_split sent stopped
  case breaks => exact fun _ _ _ => breaks_of_split sent stopped
  case refuses => exact fun _ _ _ => refuses_of_split sent stopped

end Channel

end HealthWatch
