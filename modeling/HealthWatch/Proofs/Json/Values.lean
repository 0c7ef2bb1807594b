import Mathlib.Data.List.DropRight
import HealthWatch.Json.Value
import HealthWatch.Proofs.Json.Entries

/-! # Reading values

A value is read as what its first character announces, an object member by member
(`Value.gives_object`). Of the members with one key the last counts (`Value.last?_of_counts`).
-/

namespace HealthWatch.Json

open Written

/-- Reads a member into the ones gathered so far, last first. -/
def Value.member (depth : Nat) (gathered : List (String × Value)) (key : String)
    (text : List Char) : Except Fault (List (String × Value) × List Char) :=
  match colon text with
  | .ok rest =>
      match Value.read depth rest with
      | .ok (value, rest) => .ok ((key, value) :: gathered, rest)
      | .error fault => .error fault
  | .error fault => .error fault

/-- The blanks in front of a value make no difference. -/
theorem Value.read_skipBlanks (depth : Nat) (text : List Char) :
    Value.read depth (skipBlanks text) = Value.read depth text := by
  have solid : skipBlanks (skipBlanks text) = skipBlanks text :=
    List.dropWhile_idempotent isBlank text
  rw [Value.read.eq_def, Value.read.eq_def]
  dsimp only
  rw [solid]

/-- Behind a brace an object is read, whose members are kept in their order. -/
theorem Value.read_brace (depth : Nat) {text rest : List Char}
    (opened : skipBlanks text = '\x7b' :: rest) :
    Value.read (depth + 1) text =
      match Json.members (Value.member depth) (rest.length + 1) true [] rest with
      | .ok (gathered, rest) => .ok (.object gathered.reverse, rest)
      | .error fault => .error fault := by
  rw [← Value.read_skipBlanks, opened]
  rfl

/-- Behind a quote a string is read. -/
theorem Value.read_quote (depth : Nat) {text rest : List Char}
    (opened : skipBlanks text = '"' :: rest) :
    Value.read depth text =
      match stringBody [] rest with
      | .ok (value, rest) => .ok (.string value, rest)
      | .error fault => .error fault := by
  rw [← Value.read_skipBlanks, opened]
  cases depth <;> rfl

/-- From a digit or a sign on, a number is read. -/
theorem Value.read_number (depth : Nat) {text rest : List Char} {c : Char}
    (opened : skipBlanks text = c :: rest) (starts : startsNumber c = true) :
    Value.read depth text =
      match Json.number (c :: rest) with
      | .ok (value, rest) => .ok (.number value, rest)
      | .error fault => .error fault := by
  rw [Value.read.eq_def]
  dsimp only
  rw [opened]
  split
  case h_1 nothing => cases nothing
  case h_8 begins =>
    cases begins
    exact if_pos starts
  -- No word, string, list or object begins like a number.
  all_goals
    rename_i begins
    cases begins
    cases starts

/-- Behind a bracket a list is read. -/
theorem Value.read_bracket (depth : Nat) {text rest : List Char}
    (opened : skipBlanks text = '[' :: rest) :
    Value.read (depth + 1) text =
      match elements (Value.read depth) (rest.length + 1) true [] rest with
      | .ok (values, rest) => .ok (.list values, rest)
      | .error fault => .error fault := by
  rw [← Value.read_skipBlanks, opened]
  rfl

/-- An object is read member by member. -/
theorem Value.gives_object (depth : Nat) {entries : List (Member Tree)}
    {step : List (String × Value) → String → Tree → Option (List (String × Value))}
    (reads : ReadsMembers (Value.member depth) step entries) (before inside : List Blank)
    (rest : List Char) :
    Gives (Value.read (depth + 1) (blanks before ++ ((Tree.object inside entries).text ++ rest)))
      ((gather step [] entries).map fun gathered => .object gathered.reverse) rest := by
  have enough := length_lt_text inside (entries.map Member.text) '\x7d' rest
  rw [List.length_map] at enough
  have read := gives_members reads enough [] inside rest
  rw [Value.read_brace depth (skipBlanks_object before inside entries rest)]
  cases gathered : gather step [] entries with
  | none =>
      rw [gathered] at read
      obtain ⟨fault, refused⟩ := read
      exact ⟨fault, by rw [refused]⟩
  | some values =>
      rw [gathered] at read
      have taken : members _ _ true _ _ = .ok (values, rest) := read
      rw [taken]
      rfl

namespace Value

variable {members : List (String × Value)} {key : String} {value : Value}

/-- No member has the key. -/
def Lacks (members : List (String × Value)) (key : String) : Prop :=
  ∀ member ∈ members, member.1 ≠ key

/-- The last member with the key has the value. -/
def Counts (members : List (String × Value)) (key : String) (value : Value) : Prop :=
  ∃ before after, members = before ++ (key, value) :: after ∧ Lacks after key

/-- Members with other keys leave what was found. -/
theorem foldl_of_lacks (lacks : Lacks members key) (found : Option Value) :
    members.foldl (fun found member => if member.1 = key then some member.2 else found) found =
      found := by
  induction members with
  | nil => rfl
  | cons member members ih =>
      obtain ⟨other, lacks⟩ := List.forall_mem_cons.mp lacks
      rw [List.foldl_cons, if_neg other]
      exact ih lacks

theorem last?_of_lacks (lacks : Lacks members key) : last? members key = none :=
  foldl_of_lacks lacks none

/-- The value found for a key is that of the last member with it. -/
theorem last?_of_counts (counts : Counts members key value) :
    last? members key = some value := by
  obtain ⟨before, after, rfl, lacks⟩ := counts
  rw [last?, List.foldl_append, List.foldl_cons, if_pos rfl]
  exact foldl_of_lacks lacks _

/-- A key is had by no member, or one member with it is the last. -/
theorem lacks_or_counts (members : List (String × Value)) (key : String) :
    Lacks members key ∨ ∃ value, Counts members key value := by
  induction members with
  | nil => exact .inl (List.forall_mem_nil _)
  | cons member members ih =>
      obtain lacks | ⟨value, before, after, rfl, lacks⟩ := ih
      · obtain ⟨name, value⟩ := member
        by_cases named : name = key
        · subst named
          exact .inr ⟨value, [], members, rfl, lacks⟩
        · exact .inl (List.forall_mem_cons.mpr ⟨named, lacks⟩)
      · exact .inr ⟨value, member :: before, after, rfl, lacks⟩

end Value

end HealthWatch.Json
