import HealthWatch.Toml.Document
import Mathlib.Data.List.Nodup

/-! # The keys of a document

No key stands twice in the table that a document stands for (`Toml.distinct_parse`), however its
entries are spread over dotted keys and headers.
-/

namespace HealthWatch.Toml

namespace Entries

variable {key other : String} {value : Value} {entries : Entries}

/-- No key stands twice. -/
def Distinct (entries : Entries) : Prop := (entries.map Prod.fst).Nodup

/-- Nothing is found exactly for keys that no entry has. -/
theorem find?_eq_none : entries.find? key = none ↔ ∀ entry ∈ entries, entry.1 ≠ key := by
  induction entries with
  | nil => simp [find?]
  | cons entry rest ih =>
      rw [find?, List.forall_mem_cons, ← ih]
      by_cases same : entry.1 = key <;> simp [same]

theorem find?_cons_self : find? key ((key, value) :: entries) = some value := if_pos rfl

theorem find?_cons_of_ne (differ : other ≠ key) :
    find? key ((other, value) :: entries) = entries.find? key :=
  if_neg differ

/-- Replacing a value leaves the keys. -/
theorem map_fst_replace : (entries.replace key value).map Prod.fst = entries.map Prod.fst := by
  induction entries with
  | nil => rfl
  | cons entry rest ih =>
      rw [replace]
      split
      · rename_i same
        rw [List.map_cons, List.map_cons, same]
      · rw [List.map_cons, List.map_cons, ih]

namespace Distinct

theorem nil : Distinct [] := List.nodup_nil

/-- Keys stay distinct when a value is replaced. -/
theorem replace (distinct : entries.Distinct) : (entries.replace key value).Distinct := by
  rw [Distinct, map_fst_replace]
  exact distinct

theorem erase (distinct : entries.Distinct) : (entries.erase key).Distinct :=
  distinct.sublist (List.filter_sublist.map _)

/-- Keys stay distinct when one is added that was not there. -/
theorem concat (distinct : entries.Distinct) (new : entries.find? key = none) :
    Distinct (entries ++ [(key, value)]) := by
  have apart : key ∉ entries.map Prod.fst := by
    intro member
    obtain ⟨entry, member, same⟩ := List.mem_map.mp member
    exact find?_eq_none.mp new entry member same
  rw [Distinct, List.map_append]
  exact List.Nodup.append distinct (List.nodup_singleton key)
    (List.disjoint_singleton.mpr apart)

theorem of_cons (distinct : Distinct ((key, value) :: entries)) : entries.Distinct :=
  (List.nodup_cons.mp distinct).2

theorem find?_eq_none_of_cons (distinct : Distinct ((key, value) :: entries)) :
    entries.find? key = none := by
  refine find?_eq_none.mpr fun entry member same => (List.nodup_cons.mp distinct).1 ?_
  exact List.mem_map.mpr ⟨entry, member, same⟩

/-- A change somewhere below keeps the keys apart, if it does so where it is made. -/
theorem changeAt {α : Type} {inside byDots : Bool} {origin : Origin} {path : List String}
    {change : Origin → Entries → Option (α × Entries)} {result : α} {after : Entries}
    (distinct : entries.Distinct)
    (kept : ∀ origin below result after, Distinct below →
      change origin below = some (result, after) → Distinct after)
    (changed : entries.changeAt inside byDots origin path change = some (result, after)) :
    after.Distinct := by
  cases path with
  | nil => exact kept _ _ _ _ distinct changed
  | cons key path =>
      -- Here an entry is replaced, or one with a new key is put behind the others.
      rw [Entries.changeAt] at changed
      dsimp only at changed
      split at changed
      · rename_i new
        obtain ⟨_, -, ⟨⟩⟩ := Option.map_eq_some_iff.mp changed
        exact distinct.concat new
      · split at changed
        · cases changed
        · split at changed
          · cases changed
          · obtain ⟨_, -, ⟨⟩⟩ := Option.map_eq_some_iff.mp changed
            exact distinct.replace
      · split at changed
        · split at changed
          · cases changed
          · obtain ⟨_, -, ⟨⟩⟩ := Option.map_eq_some_iff.mp changed
            exact distinct.replace
        · cases changed
      · split at changed
        · cases changed
        · obtain ⟨_, -, ⟨⟩⟩ := Option.map_eq_some_iff.mp changed
          exact distinct.replace
      · cases changed

/-- A dotted key keeps the keys of every table distinct. -/
theorem addDotted? {inside : Bool} {path : List String} {after : Entries}
    (distinct : entries.Distinct) (added : entries.addDotted? inside path key value = some after) :
    after.Distinct := by
  rw [Entries.addDotted?] at added
  obtain ⟨⟨_, _⟩, changed, rfl⟩ := Option.map_eq_some_iff.mp added
  refine distinct.changeAt ?_ changed
  intro origin below result after distinct change
  split at change
  · cases change
  · obtain ⟨_, added, ⟨⟩⟩ := Option.map_eq_some_iff.mp change
    rw [add?] at added
    split at added
    · cases added
    · rename_i new
      cases added
      exact distinct.concat new

end Distinct

end Entries

namespace Draft

variable {draft after : Draft} {path : List String} {key : String}

/-- The keys of the document's own table stand apart, be it the current table or not. -/
structure Distinct (draft : Draft) : Prop where
  root : draft.root.Distinct
  current : draft.place = none → draft.current.Distinct

namespace Distinct

theorem empty : Draft.empty.Distinct := ⟨.nil, fun _ => .nil⟩

/-- Closing a draft gives a table with distinct keys. -/
theorem close (distinct : draft.Distinct) {root : Entries} (closed : draft.close = some root) :
    root.Distinct := by
  rw [Draft.close] at closed
  split at closed
  · rename_i place
    cases closed
    exact distinct.current place
  -- Two kinds of headers: in both the table is put behind the others or in the place of one.
  all_goals
    obtain ⟨⟨_, _⟩, changed, rfl⟩ := Option.map_eq_some_iff.mp closed
    refine distinct.root.changeAt ?_ changed
    intro origin below result after distinct change
    split at change
    · rename_i new
      cases change
      exact distinct.concat new
    · first
        | cases change
          exact distinct.replace
        | split at change
          · cases change
          · cases change
            exact distinct.replace
    · cases change

/-- Opening a table keeps the keys distinct. -/
theorem openTable (distinct : draft.Distinct) (opened : draft.openTable path key = some after) :
    after.Distinct := by
  rw [Draft.openTable] at opened
  split at opened
  · cases opened
  · rename_i closed
    obtain ⟨⟨_, _⟩, changed, rfl⟩ := Option.map_eq_some_iff.mp opened
    refine ⟨(distinct.close closed).changeAt ?_ changed, nofun⟩
    intro origin below result after distinct change
    split at change
    · cases change
      exact distinct
    · cases change
      exact distinct.erase
    · cases change

/-- Opening an element of an array of tables keeps the keys distinct. -/
theorem openElement (distinct : draft.Distinct)
    (opened : draft.openElement path key = some after) : after.Distinct := by
  rw [Draft.openElement] at opened
  split at opened
  · cases opened
  · rename_i closed
    obtain ⟨⟨_, _⟩, changed, rfl⟩ := Option.map_eq_some_iff.mp opened
    refine ⟨(distinct.close closed).changeAt ?_ changed, nofun⟩
    intro origin below result after distinct change
    split at change
    · rename_i new
      cases change
      exact distinct.concat new
    · cases change
      exact distinct
    · cases change

/-- Adding a value keeps the keys distinct. -/
theorem add (distinct : draft.Distinct) {value : Value}
    (added : draft.add path key value = some after) : after.Distinct := by
  rw [Draft.add] at added
  obtain ⟨current, more, rfl⟩ := Option.map_eq_some_iff.mp added
  exact ⟨distinct.root, fun place => (distinct.current place).addDotted? more⟩

/-- Whatever is read from a line, the keys stay distinct. -/
theorem line (distinct : draft.Distinct) {text rest : List Char}
    (read : draft.line text = some (after, rest)) : after.Distinct := by
  unfold Draft.line at read
  split at read
  · split at read
    · split at read
      · rename_i opened _
        cases read
        exact distinct.openElement opened
      · cases read
    · cases read
  · split at read
    · split at read
      · rename_i opened _
        cases read
        exact distinct.openTable opened
      · cases read
    · cases read
  iterate 3
    · obtain ⟨_, -, ⟨⟩⟩ := Option.map_eq_some_iff.mp read
      exact distinct
  · split at read
    · split at read
      · cases read
      · split at read
        · rename_i added _
          cases read
          exact distinct.add added
        · cases read
    · cases read

/-- Whatever is read from the lines, the keys of the table are distinct. -/
theorem lines (distinct : draft.Distinct) {fuel : Nat} {text : List Char} {table : Entries}
    (read : draft.lines fuel text = some table) : table.Distinct := by
  induction fuel generalizing draft text with
  | zero => cases read
  | succ fuel ih =>
      rw [Draft.lines] at read
      split at read
      · exact distinct.close read
      · split at read
        · rename_i line
          exact ih (distinct.line line) read
        · cases read

end Distinct

end Draft

/-- The keys of a parsed document are distinct. -/
theorem distinct_parse {document : String} {table : Entries}
    (parsed : parse document = some table) : table.Distinct :=
  Draft.Distinct.empty.lines parsed

end HealthWatch.Toml
