import HealthWatch.Proofs.Json.OpenRecords
import HealthWatch.Report.Event

/-! # What status events are accepted

A status event is read from an object by the members that have one of its five names. Each of them
has to be there once, with a value of its kind, however the name and the value are written. What the
other members are, how many and where they stand makes no difference (`StatusEvent.receives`).
-/

namespace HealthWatch

namespace StatusEvent

open Json Json.Written

/-- The members of an object spell out an event: each of the five names stands there once, with a
value of its kind. -/
structure Spells (members : List (Member Tree)) (event : StatusEvent) : Prop where
  /-- The names of all members stand for texts. -/
  named : ∀ member ∈ members, member.name?.isSome
  kind : HasOnce members "type" Tree.string? event.kind
  container : HasOnce members "container_id" Tree.string? event.container
  status : HasOnce members "status" Tree.string? event.status
  exitCode : HasOnce members "exit_code" Tree.integer? event.exitCode ∧
    -0x80000000 ≤ event.exitCode ∧ event.exitCode ≤ 0x7FFFFFFF
  timestamp : HasOnce members "timestamp" Tree.integer? event.timestamp ∧
    -0x8000000000000000 ≤ event.timestamp ∧ event.timestamp ≤ 0x7FFFFFFFFFFFFFFF

/-- A member whose name stands for a text, but for none of the names that an event has. -/
def Foreign (member : Member Tree) : Prop :=
  ∃ name, member.name? = some name ∧ name ∉ record.fields.names

variable {members : List (Member Tree)} {event : StatusEvent}

/-- An event is read exactly from an object that holds its record. -/
theorem parse_eq_ok {payload : String} : parse payload = .ok event ↔
    record.ofText payload = .ok (event.kind, event.container, event.status, event.exitCode,
      event.timestamp, ()) := by
  unfold parse
  cases record.ofText payload with
  | error error => exact ⟨nofun, nofun⟩
  | ok filled =>
      obtain ⟨kind, container, status, exitCode, timestamp, ⟨⟩⟩ := filled
      cases event
      simp

/-- Members spell out an event exactly when all names stand for texts and each field is held
once. -/
theorem spells_iff : Spells members event ↔ (∀ member ∈ members, member.name?.isSome) ∧
    record.fields.HeldOnce (event.kind, event.container, event.status, event.exitCode,
      event.timestamp, ()) members := by
  constructor
  · intro held
    obtain ⟨named, kind, container, status, exitCode, timestamp⟩ := held
    exact ⟨named, kind, container, status, hasOnce_integer.mpr exitCode,
      hasOnce_integer.mpr timestamp, trivial⟩
  · intro held
    obtain ⟨named, kind, container, status, exitCode, timestamp, -⟩ := held
    exact ⟨named, kind, container, status, hasOnce_integer.mp exitCode,
      hasOnce_integer.mp timestamp⟩

/-- An event is read exactly from an object that spells it out. -/
theorem parse_eq_ok_iff_spells {document : Document} :
    parse document.text = .ok event ↔ Spells document.members event := by
  rw [parse_eq_ok, Record.ofText_eq_ok_of_open rfl (by decide) (by decide), spells_iff]

/-- Members by other names, and the order of all members, do not change what is spelled out. -/
theorem spells_congr {others foreign : List (Member Tree)}
    (unknown : ∀ member ∈ foreign, Foreign member) (same : others.Perm (members ++ foreign)) :
    Spells others event ↔ Spells members event := by
  rw [spells_iff, spells_iff]
  apply and_congr
  · have texts : ∀ member ∈ foreign, member.name?.isSome := by
      intro member present
      obtain ⟨name, named, -⟩ := unknown member present
      exact Option.isSome_of_eq_some named
    simp only [same.mem_iff, List.forall_mem_append, and_iff_left texts]
  · apply Fields.heldOnce_congr
    intro name known
    have none : (foreign.filter fun member => member.name? = some name) = [] := by
      apply List.filter_eq_nil_iff.mpr
      intro member present
      obtain ⟨other, named, fresh⟩ := unknown member present
      rw [decide_eq_true_eq, named]
      exact fun same => fresh (Option.some.inj same ▸ known)
    have filtered := same.filter fun member => member.name? = some name
    rwa [List.filter_append, none, List.append_nil] at filtered

/-- What reading an event from an object comes to. -/
structure Receives (document : Document) : Prop where
  /-- The event that is read is the one that the members spell out. -/
  accepted : ∀ event, parse document.text = .ok event ↔ Spells document.members event
  /-- Any members by other names may be put anywhere among them, and all of them in another
  order. -/
  unmoved : ∀ (other : Document) (foreign : List (Member Tree)),
    (∀ member ∈ foreign, Foreign member) → other.members.Perm (document.members ++ foreign) →
      (parse other.text).toOption = (parse document.text).toOption

/-- **How an event is read.** Exactly the objects that spell it out are read as it, in any order of
their members, and members with other names make no difference. -/
theorem receives (document : Document) : Receives document where
  accepted _ := parse_eq_ok_iff_spells
  unmoved other foreign unknown same := by
    apply Option.ext
    intro event
    rw [toOption_eq_some, toOption_eq_some, parse_eq_ok_iff_spells, parse_eq_ok_iff_spells,
      spells_congr unknown same]

end StatusEvent

end HealthWatch
