import HealthWatch.Proofs.Json.Records

/-! # Records that are not closed

A record that is not closed is read from an object that has each of its fields once. The members by
other names, and the order of all members, make no difference (`Record.ofText_eq_ok_of_open`,
`Fields.heldOnce_congr`).
-/

namespace HealthWatch.Json

open Written

/-- Exactly one member has the name, and what it holds stands for this value. -/
def HasOnce {α : Type} (members : List (Member Tree)) (name : String) (stands : Tree → Option α)
    (value : α) : Prop :=
  ∃ member, members.filter (fun member => member.name? = some name) = [member] ∧
    stands member.value.value = some value

section HasOnce

variable {α : Type} {members : List (Member Tree)} {name : String} {stands : Tree → Option α}
  {value : α}

/-- Only the members with the name count, and not in which order they come. -/
theorem hasOnce_congr {others : List (Member Tree)}
    (same : (members.filter fun member => member.name? = some name).Perm
      (others.filter fun member => member.name? = some name)) :
    HasOnce members name stands value ↔ HasOnce others name stands value := by
  apply exists_congr
  intro member
  apply and_congr_left'
  rw [← List.perm_singleton, ← List.perm_singleton]
  exact ⟨same.symm.trans, same.trans⟩

/-- An object has an integer of a range once when it has an integer once and that lies in the
range. -/
theorem hasOnce_integer {range : String} {low high value : Int} :
    HasOnce members name (·.data? (.integer range low high)) value ↔
      HasOnce members name Tree.integer? value ∧ low ≤ value ∧ value ≤ high := by
  simp only [HasOnce, Tree.data?, Option.filter_eq_some_iff, decide_eq_true_eq]
  constructor
  · intro held
    obtain ⟨member, only, stands, inside⟩ := held
    exact ⟨⟨member, only, stands⟩, inside⟩
  · intro held
    obtain ⟨⟨member, only, stands⟩, inside⟩ := held
    exact ⟨member, only, stands, inside⟩

end HasOnce

/-! ## Entries by name -/

section Entries

variable {member : Member Tree} {members : List (Member Tree)} {entries : List (String × Tree)}

/-- The entries of an object are those of its members, one for one. -/
theorem entries?_cons_eq_some : entries? (member :: members) = some entries ↔
    ∃ name others, member.name? = some name ∧ entries? members = some others ∧
      entries = (name, member.value.value) :: others := by
  rw [entries?_cons, Option.bind_eq_some_iff]
  apply exists_congr
  intro name
  rw [Option.map_eq_some_iff]
  constructor
  · intro held
    obtain ⟨named, others, listed, same⟩ := held
    exact ⟨others, named, listed, same.symm⟩
  · intro held
    obtain ⟨others, named, listed, same⟩ := held
    exact ⟨named, others, listed, same.symm⟩

/-- An object has entries when all its names stand for texts. -/
theorem exists_entries?_iff :
    (∃ entries, entries? members = some entries) ↔ ∀ member ∈ members, member.name?.isSome := by
  induction members with
  | nil => exact ⟨fun _ => List.forall_mem_nil _, fun _ => ⟨[], rfl⟩⟩
  | cons member members ih =>
      rw [List.forall_mem_cons, ← ih, Option.isSome_iff_exists]
      constructor
      · intro held
        obtain ⟨entries, listed⟩ := held
        obtain ⟨name, others, named, listed, -⟩ := entries?_cons_eq_some.mp listed
        exact ⟨⟨name, named⟩, others, listed⟩
      · intro held
        obtain ⟨⟨name, named⟩, others, listed⟩ := held
        exact ⟨_, entries?_cons_eq_some.mpr ⟨name, others, named, listed, rfl⟩⟩

/-- The entries with a name are those of the members with it. -/
theorem filter_entries (listed : entries? members = some entries) (name : String) :
    entries.filter (·.1 = name) =
      (members.filter fun member => member.name? = some name).map
        fun member => (name, member.value.value) := by
  induction members generalizing entries with
  | nil =>
      cases listed
      rfl
  | cons member members ih =>
      obtain ⟨own, others, named, later, rfl⟩ := entries?_cons_eq_some.mp listed
      by_cases same : own = name
      · rw [List.filter_cons_of_pos (by simpa using same),
          List.filter_cons_of_pos (by simpa [named] using same), List.map_cons, ih later, same]
      · rw [List.filter_cons_of_neg (by simpa using same),
          List.filter_cons_of_neg (by simpa [named] using same), ih later]

/-- Leaving out the members with a name leaves out the entries with it. -/
theorem entries?_filter_ne (listed : entries? members = some entries) (name : String) :
    entries? (members.filter fun member => member.name? ≠ some name) =
      some (entries.filter (·.1 ≠ name)) := by
  induction members generalizing entries with
  | nil =>
      cases listed
      rfl
  | cons member members ih =>
      obtain ⟨own, others, named, later, rfl⟩ := entries?_cons_eq_some.mp listed
      by_cases same : own = name
      · rw [List.filter_cons_of_neg (by simpa [named] using same),
          List.filter_cons_of_neg (by simpa using same), ih later]
      · rw [List.filter_cons_of_pos (by simpa [named] using same),
          List.filter_cons_of_pos (by simpa using same)]
        exact entries?_cons_eq_some.mpr ⟨own, _, named, ih later, rfl⟩

/-- A field comes to hold a value exactly when the object has it once. -/
theorem takeOwn?_entries (listed : entries? members = some entries) {name : String} {kind : Kind}
    {value : kind.Data} :
    Fields.takeOwn? kind none (entries.filter (·.1 = name)) = some (some value) ↔
      HasOnce members name (·.data? kind) value := by
  rw [Fields.takeOwn?_eq_some, filter_entries listed]
  constructor
  · intro held
    obtain ⟨entry, only, stands⟩ := held
    obtain ⟨member, own, rfl⟩ := List.map_eq_singleton_iff.mp only
    exact ⟨member, own, stands⟩
  · intro held
    obtain ⟨member, only, stands⟩ := held
    exact ⟨_, List.map_eq_singleton_iff.mpr ⟨member, only, rfl⟩, stands⟩

end Entries

/-! ## Records that are not closed -/

namespace Fields

/-- The members have the value of every field once. -/
def HeldOnce : (fields : Fields) → fields.Filled → List (Member Tree) → Prop
  | [], _, _ => True
  | field :: rest, (value, values), members =>
      HasOnce members field.1 (·.data? field.2) value ∧ HeldOnce rest values members

/-- Only the members with names of fields count, and not in which order they come. -/
theorem heldOnce_congr {fields : Fields} {filled : fields.Filled}
    {members others : List (Member Tree)}
    (same : ∀ name ∈ fields.names, (members.filter fun member => member.name? = some name).Perm
      (others.filter fun member => member.name? = some name)) :
    fields.HeldOnce filled members ↔ fields.HeldOnce filled others := by
  induction fields with
  | nil => exact Iff.rfl
  | cons field fields ih =>
      obtain ⟨own, later⟩ := List.forall_mem_cons.mp same
      exact and_congr (hasOnce_congr own) (ih later)

/-- The members without one name are all that count for fields with other names. -/
theorem heldOnce_filter_ne {fields : Fields} {filled : fields.Filled}
    {members : List (Member Tree)} {name : String} (fresh : name ∉ fields.names) :
    fields.HeldOnce filled (members.filter fun member => member.name? ≠ some name) ↔
      fields.HeldOnce filled members := by
  apply heldOnce_congr
  intro other known
  have distinct : other ≠ name := fun same => fresh (same ▸ known)
  rw [List.filter_filter]
  apply List.Perm.of_eq
  apply List.filter_congr
  intro member _
  by_cases named : member.name? = some other
  · simp [named, distinct]
  · simp [named]

/-- The fields of a record that is not closed are filled exactly when the object has every one of
them once. -/
theorem filled_iff_heldOnce {fields : Fields} (distinct : fields.names.Nodup)
    {members : List (Member Tree)} {entries : List (String × Tree)}
    (listed : entries? members = some entries) (filled : fields.Filled) :
    (takeAll? false fields fields.unfilled entries).bind fields.complete? = some filled ↔
      fields.HeldOnce filled members := by
  induction fields generalizing members entries with
  | nil => exact (filled_nil false entries).trans ⟨fun _ => trivial, fun _ closed => nomatch closed⟩
  | cons field fields ih =>
      obtain ⟨fresh, distinct⟩ := List.nodup_cons.mp distinct
      obtain ⟨value, values⟩ := filled
      rw [filled_cons, takeOwn?_entries listed, ih distinct (entries?_filter_ne listed field.1),
        heldOnce_filter_ne fresh]
      exact Iff.rfl

end Fields

/-- A record that is not closed is read from an object exactly when all names stand for texts and
every field is there once with its value. The other members make no difference. -/
theorem Record.ofText_eq_ok_of_open {record : Record} (isOpen : record.closed = false)
    (narrow : ∀ field ∈ record.fields, field.2.Narrow) (distinct : record.fields.names.Nodup)
    {document : Document} {filled : record.fields.Filled} :
    record.ofText document.text = .ok filled ↔
      (∀ member ∈ document.members, member.name?.isSome) ∧
        record.fields.HeldOnce filled document.members := by
  rw [← toOption_eq_some, record.toOption_ofText narrow, held?, isOpen, gather_eq,
    ← exists_entries?_iff, Option.bind_assoc, Option.bind_eq_some_iff]
  constructor
  · intro held
    obtain ⟨entries, listed, filled⟩ := held
    exact ⟨⟨entries, listed⟩, (Fields.filled_iff_heldOnce distinct listed _).mp filled⟩
  · intro held
    obtain ⟨⟨entries, listed⟩, held⟩ := held
    exact ⟨entries, listed, (Fields.filled_iff_heldOnce distinct listed _).mpr held⟩

end HealthWatch.Json
