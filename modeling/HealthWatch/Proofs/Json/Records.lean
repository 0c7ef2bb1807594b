import HealthWatch.Proofs.Except
import HealthWatch.Proofs.Json.Skipped

/-! # Reading written records

A record is read from an object by what its members stand for, never by how they are written. Of the
members, one belongs to each field and has a value of the field's kind; the members left are those
that a record which is not closed passes over (`ofText_eq_ok`).
-/

namespace HealthWatch.Json

open Written

/-! ## Values of fields -/

namespace Written

/-- Only strings begin with a quote. -/
theorem Tree.exists_string {tree : Tree} (begins : tree.begins '"' = true) :
    ∃ pieces, tree = string pieces := by
  cases tree with
  | string pieces => exact ⟨pieces, rfl⟩
  | boolean value => cases value <;> cases begins
  | _ => cases begins

/-- Only lists begin with a bracket. -/
theorem Tree.exists_list {tree : Tree} (begins : tree.begins '[' = true) :
    ∃ inside elements, tree = list inside elements := by
  cases tree with
  | list inside elements => exact ⟨inside, elements, rfl⟩
  | boolean value => cases value <;> cases begins
  | _ => cases begins

/-- Only numbers begin as numbers do. -/
theorem Tree.exists_number {tree : Tree} {c : Char} (begins : tree.begins c = true)
    (starts : startsNumber c = true) : ∃ literal, tree = number literal := by
  cases tree with
  | number literal => exact ⟨literal, rfl⟩
  | boolean value => cases value <;> cases of_decide_eq_true begins <;> cases starts
  | _ =>
      cases of_decide_eq_true begins
      cases starts

/-- The value that a field of a kind has, if a value of that kind is written. -/
def Tree.data? (tree : Tree) : (kind : Kind) → Option kind.Data
  | .text => tree.string?
  | .texts => tree.strings?
  | .integer _ low high => tree.integer?.filter fun whole => decide (low ≤ whole ∧ whole ≤ high)

end Written

/-- Whole numbers of the kind are among those that are kept exact. -/
def Kind.Narrow : Kind → Prop
  | .integer _ low high => -0x8000000000000000 ≤ low ∧ high ≤ 0xFFFFFFFFFFFFFFFF
  | _ => True

instance : DecidablePred Kind.Narrow
  | .text => .isTrue trivial
  | .texts => .isTrue trivial
  | .integer _ low high =>
      inferInstanceAs (Decidable (-0x8000000000000000 ≤ low ∧ high ≤ 0xFFFFFFFFFFFFFFFF))

/-- Blanks in front of a field's value make no difference. -/
theorem Kind.read_blanks (kind : Kind) (between : List Blank) (text : List Char) :
    kind.read (blanks between ++ text) = kind.read text := by
  cases kind with
  | text => simp only [Kind.read, readText, skipBlanks_blanks]
  | texts => simp only [Kind.read, readTexts, skipBlanks_blanks]
  | integer name low high => simp only [Kind.read, readInteger, skipBlanks_blanks]

/-- A written value is read as a text exactly when it is a string that stands for one. -/
theorem gives_readText (tree : Tree) (rest : List Char) :
    Gives (readText (tree.text ++ rest)) tree.string? rest := by
  obtain ⟨c, more, same, begins⟩ := tree.exists_text
  by_cases quote : c = '"'
  · subst quote
    obtain ⟨pieces, rfl⟩ := Tree.exists_string begins
    rw [Tree.text, quoted]
    simp only [List.append_assoc, List.cons_append, List.nil_append]
    exact gives_quoted pieces rest
  · have nothing : tree.string? = none := by
      cases tree with
      | string pieces => exact absurd (of_decide_eq_true begins) quote
      | _ => rfl
    rw [nothing, same, List.cons_append, readText, skipBlanks_cons (Tree.solid_of_begins begins).1]
    split
    · rename_i first
      exact absurd (List.cons.inj first).1 quote
    · exact ⟨_, rfl⟩

/-- A written value is read as a list of texts exactly when it is a list of such strings. -/
theorem gives_readTexts (tree : Tree) (rest : List Char) :
    Gives (readTexts (tree.text ++ rest)) tree.strings? rest := by
  obtain ⟨c, more, same, begins⟩ := tree.exists_text
  by_cases bracket : c = '['
  · subst bracket
    obtain ⟨inside, entries, rfl⟩ := Tree.exists_list begins
    have reads : ReadsElements readText Tree.string? entries :=
      fun entry _ rest _ => gives_readText entry.value rest
    have enough := length_lt_text inside (entries.map Padded.text) ']' rest
    rw [List.length_map] at enough
    have read := gives_elements reads enough inside rest
    rw [Tree.text_list]
    simp only [List.append_assoc, List.cons_append, List.nil_append] at read ⊢
    exact read
  · have nothing : tree.strings? = none := by
      cases tree with
      | list inside elements => exact absurd (of_decide_eq_true begins) bracket
      | _ => rfl
    rw [nothing, same, List.cons_append, readTexts, skipBlanks_cons (Tree.solid_of_begins begins).1]
    split
    · rename_i first
      exact absurd (List.cons.inj first).1 bracket
    · exact ⟨_, rfl⟩

/-- A written value is read as an integer exactly when it is a whole number in the range. -/
theorem gives_readInteger (name : String) {low high : Int} (tree : Tree) {rest : List Char}
    (narrow : (Kind.integer name low high).Narrow) (ends : Ends rest) :
    Gives (readInteger name low high (tree.text ++ rest)) (tree.data? (.integer name low high))
      rest := by
  obtain ⟨c, more, same, begins⟩ := tree.exists_text
  by_cases starts : startsNumber c = true
  · obtain ⟨literal, rfl⟩ := Tree.exists_number begins starts
    have text : literal.text = c :: more := by rw [← same, Tree.text]
    rw [same, List.cons_append, readInteger, skipBlanks_cons (Tree.solid_of_begins begins).1]
    dsimp only
    rw [if_pos starts, ← List.cons_append, ← text]
    cases kept : kept? literal with
    | some whole =>
        obtain ⟨read, integer⟩ := number_of_kept? literal ends kept
        have stands : literal.integer? = some whole := (Option.filter_eq_some_iff.mp kept).1
        simp only [read, integer, Tree.data?, Tree.integer?, stands, Option.filter_some,
          decide_eq_true_eq]
        split
        · rfl
        · exact ⟨_, rfl⟩
    | none =>
        have notWhole := notWhole_of_not_kept? literal ends kept
        have nothing : (Tree.number literal).data? (.integer name low high) = none := by
          rw [kept?, Option.filter_eq_none_iff] at kept
          apply Option.filter_eq_none_iff.mpr
          intro whole stands inside
          rw [decide_eq_true_eq] at inside
          exact kept whole stands (decide_eq_true
            ⟨Int.le_trans narrow.1 inside.1, Int.le_trans inside.2 narrow.2⟩)
        rw [nothing]
        cases read : number (literal.text ++ rest) with
        | error fault => exact ⟨fault, rfl⟩
        | ok taken => exact ⟨_, by simp only [notWhole taken.1 taken.2 read]; rfl⟩
  · have nothing : tree.data? (.integer name low high) = none := by
      cases tree with
      | number literal => exact absurd begins starts
      | _ => rfl
    rw [nothing, same, List.cons_append, readInteger,
      skipBlanks_cons (Tree.solid_of_begins begins).1]
    exact ⟨_, by dsimp only; rw [if_neg starts]⟩

/-- A written value is read for a field as the value that the field's kind makes of it. -/
theorem gives_read {kind : Kind} (narrow : kind.Narrow) (tree : Tree) {rest : List Char}
    (ends : Ends rest) : Gives (kind.read (tree.text ++ rest)) (tree.data? kind) rest := by
  cases kind with
  | text => exact gives_readText tree rest
  | texts => exact gives_readTexts tree rest
  | integer name low high => exact gives_readInteger name tree narrow ends

/-! ## Members -/

namespace Fields

/-- What the fields hold once a member has been taken: a field takes one member with its name, and
`closed` says whether a member with another name is refused. -/
def take? (closed : Bool) :
    (fields : Fields) → fields.Partial → String → Tree → Option fields.Partial
  | [], _, _, _ => if closed then none else some ()
  | field :: rest, (value, values), key, tree =>
      if key = field.1 then
        if value.isSome then none else (tree.data? field.2).map fun data => (some data, values)
      else (take? closed rest values key tree).map fun values => (value, values)

/-- What becomes of a member that is no field: it is refused or passed over. -/
def Settles (closed : Bool) (other : Except Fault (List Char)) (rest : List Char) : Prop :=
  if closed then ∃ fault, other = .error fault else other = .ok rest

/-- A member goes to the field with its name, which refuses a second one, and to what becomes of the
others if there is no such field. -/
theorem gives_readMember {closed : Bool} (fields : Fields)
    (narrow : ∀ field ∈ fields, field.2.Narrow) (values : fields.Partial) (key : String)
    (member : Member Tree) {rest : List Char} (ends : Ends rest)
    {other : Except Fault (List Char)} (settles : Settles closed other rest) :
    Gives (fields.readMember other values key (member.afterKey ++ rest))
      (fields.take? closed values key member.value.value) rest := by
  induction fields with
  | nil =>
      cases closed with
      | true =>
          obtain ⟨fault, rfl⟩ := settles
          exact ⟨fault, rfl⟩
      | false =>
          have passed : other = .ok rest := settles
          rw [passed]
          rfl
  | cons field fields ih =>
      obtain ⟨value, values⟩ := values
      unfold readMember take?
      by_cases named : key = field.1
      · rw [if_pos named, if_pos named]
        cases value with
        | some value => exact ⟨_, rfl⟩
        | none =>
            have read := gives_read (narrow field (.head _)) member.value.value ends
            simp only [Member.afterKey, List.append_assoc, List.cons_append, colon_text,
              Kind.read_blanks, Option.isSome_none, Bool.false_eq_true, ↓reduceIte]
            cases data : member.value.value.data? field.2 with
            | none =>
                rw [data] at read
                obtain ⟨fault, refused⟩ := read
                exact ⟨fault, by rw [refused]⟩
            | some value =>
                rw [data] at read
                have taken : field.2.read (member.value.value.text ++ rest) = .ok (value, rest) :=
                  read
                rw [taken]
                rfl
      · rw [if_neg named, if_neg named]
        have others := ih (fun other member => narrow other (.tail _ member)) values
        cases taken : take? closed fields values key member.value.value with
        | none =>
            rw [taken] at others
            obtain ⟨fault, refused⟩ := others
            exact ⟨fault, by rw [refused]⟩
        | some filled =>
            rw [taken] at others
            have taken : readMember other fields values key (member.afterKey ++ rest) =
              .ok (filled, rest) := others
            rw [taken]
            rfl

/-- The values of all fields, if every field has one. -/
def complete? (fields : Fields) (values : fields.Partial) : Option fields.Filled :=
  (fields.complete values).toOption

end Fields

namespace Record

variable (record : Record)

/-- A member that is no field is refused by a closed record, and passed over by any other whatever
it holds. -/
theorem settles_otherMember (key : String) (member : Member Tree) {rest : List Char}
    (ends : Ends rest) :
    Fields.Settles record.closed (record.otherMember key (member.afterKey ++ rest)) rest := by
  unfold Fields.Settles otherMember
  split
  · exact ⟨_, rfl⟩
  · have passed := skipValue_tree member.value.value member.value.before ends
    simp only [Member.afterKey, List.append_assoc, List.cons_append, colon_text, passed]

/-- What the members of an object hold for the record. -/
def held? (members : List (Member Tree)) : Option record.fields.Filled :=
  (gather (record.fields.take? record.closed) record.fields.unfilled members).bind
    record.fields.complete?

/-- The reader of one member of the record's objects. -/
def member (values : record.fields.Partial) (key : String) (text : List Char) :
    Except Fault (record.fields.Partial × List Char) :=
  record.fields.readMember (record.otherMember key text) values key text

/-- Behind a brace the record is read member by member and then has to be complete. -/
theorem read_brace {text rest : List Char} (opened : skipBlanks text = '\x7b' :: rest) :
    record.read text =
      match members record.member (rest.length + 1) true record.fields.unfilled rest with
      | .error fault => .error fault
      | .ok (values, rest) =>
          match record.fields.complete values with
          | .ok filled => .ok (filled, rest)
          | .error name => .error (.here (.mismatch (.missingField name)) rest) := by
  rw [Record.read, opened]
  rfl

/-- An object is read as what its members hold for the record. -/
theorem gives_read (narrow : ∀ field ∈ record.fields, field.2.Narrow) (before inside : List Blank)
    (entries : List (Member Tree)) (rest : List Char) :
    Gives (record.read (blanks before ++ ((Tree.object inside entries).text ++ rest)))
      (record.held? entries) rest := by
  have reads : ReadsMembers record.member (record.fields.take? record.closed) entries := by
    intro entry _ values key rest ends
    exact record.fields.gives_readMember narrow values key entry ends
      (record.settles_otherMember key entry ends)
  have enough := length_lt_text inside (entries.map Member.text) '\x7d' rest
  rw [List.length_map] at enough
  have read := gives_members reads enough record.fields.unfilled inside rest
  rw [record.read_brace (skipBlanks_object before inside entries rest), held?]
  cases gathered : gather (record.fields.take? record.closed) record.fields.unfilled entries with
  | none =>
      rw [gathered] at read
      obtain ⟨fault, refused⟩ := read
      exact ⟨fault, by rw [refused]⟩
  | some values =>
      rw [gathered] at read
      have taken : members _ _ true _ _ = .ok (values, rest) := read
      rw [taken, Option.bind_some, Fields.complete?]
      dsimp only
      cases record.fields.complete values with
      | error name => exact ⟨_, rfl⟩
      | ok filled => rfl

/-- A document gives what its members hold for the record. -/
theorem toOption_ofText (narrow : ∀ field ∈ record.fields, field.2.Narrow) (document : Document) :
    (record.ofText document.text).toOption = record.held? document.members := by
  have read := record.gives_read narrow document.before document.inside document.members
    (blanks document.after)
  have ended : skipBlanks (blanks document.after) = [] := by
    rw [← List.append_nil (blanks document.after), skipBlanks_blanks]
    rfl
  rw [ofText, Json.document, Document.text, String.toList_ofList, List.append_assoc]
  cases held : record.held? document.members with
  | none =>
      rw [held] at read
      obtain ⟨fault, refused⟩ := read
      rw [refused]
      rfl
  | some filled =>
      rw [held] at read
      have taken : record.read _ = .ok (filled, blanks document.after) := read
      rw [taken]
      dsimp only
      rw [ended]
      rfl

end Record

/-! ## What the members hold -/

/-- The names and the values of the members of an object, if every name stands for a text. -/
def entries? (members : List (Member Tree)) : Option (List (String × Tree)) :=
  members.mapM fun member => member.name?.map fun name => (name, member.value.value)

/-- The entries are made member by member, each by its name. -/
theorem entries?_cons (member : Member Tree) (members : List (Member Tree)) :
    entries? (member :: members) =
      member.name?.bind fun name =>
        (entries? members).map fun entries => (name, member.value.value) :: entries := by
  rw [entries?, List.mapM_cons, ← entries?]
  cases member.name? with
  | none => rfl
  | some name => cases entries? members <;> rfl

/-- A member whose name stands for nothing spoils an object, wherever it is. -/
theorem gather_eq {σ : Type} (step : σ → String → Tree → Option σ) (gathered : σ)
    (members : List (Member Tree)) :
    gather step gathered members = (entries? members).bind fun entries =>
      entries.foldlM (fun gathered entry => step gathered entry.1 entry.2) gathered := by
  induction members generalizing gathered with
  | nil => rfl
  | cons member members ih =>
      rw [gather_cons, entries?_cons]
      cases member.name? with
      | none => rfl
      | some name =>
          simp only [Option.bind_some, ih]
          cases entries? members with
          | none =>
              cases step gathered name member.value.value <;> rfl
          | some entries => rfl

namespace Fields

/-- The entries are those of the fields, in their order, with the values that the fields have. -/
def Spelled : (fields : Fields) → fields.Filled → List (String × Tree) → Prop
  | [], _, entries => entries = []
  | field :: rest, (value, values), entries =>
      ∃ tree others, entries = (field.1, tree) :: others ∧ tree.data? field.2 = some value ∧
        Spelled rest values others

/-- Entries that spell the fields have the fields' names in their order. -/
theorem Spelled.names {fields : Fields} {filled : fields.Filled} {entries : List (String × Tree)}
    (spelled : fields.Spelled filled entries) : entries.map Prod.fst = fields.names := by
  induction fields generalizing entries with
  | nil =>
      cases spelled
      rfl
  | cons field fields ih =>
      obtain ⟨tree, others, rfl, -, spelled⟩ := spelled
      rw [List.map_cons, ih spelled]
      rfl

/-- What is held once the entries have been taken one after the other. -/
def takeAll? (closed : Bool) (fields : Fields) (values : fields.Partial)
    (entries : List (String × Tree)) : Option fields.Partial :=
  entries.foldlM (fun values entry => fields.take? closed values entry.1 entry.2) values

/-- What a single field holds once values for it have been taken one after the other. -/
def takeOwn? (kind : Kind) (value : Option kind.Data) (entries : List (String × Tree)) :
    Option (Option kind.Data) :=
  entries.foldlM (fun value entry =>
    if value.isSome then none else (entry.2.data? kind).map some) value

theorem takeOwn?_cons (kind : Kind) (value : Option kind.Data) (entry : String × Tree)
    (entries : List (String × Tree)) :
    takeOwn? kind value (entry :: entries) =
      (if value.isSome then none else (entry.2.data? kind).map some).bind fun value =>
        takeOwn? kind value entries := rfl

theorem takeAll?_cons (closed : Bool) (fields : Fields) (values : fields.Partial)
    (entry : String × Tree) (entries : List (String × Tree)) :
    takeAll? closed fields values (entry :: entries) =
      (fields.take? closed values entry.1 entry.2).bind fun values =>
        takeAll? closed fields values entries := rfl

/-- A field comes to hold a value exactly when one entry is there for it and has that value. -/
theorem takeOwn?_eq_some {kind : Kind} {entries : List (String × Tree)} {value : kind.Data} :
    takeOwn? kind none entries = some (some value) ↔
      ∃ entry, entries = [entry] ∧ entry.2.data? kind = some value := by
  cases entries with
  | nil =>
      constructor
      · intro held
        cases held
      · rintro ⟨entry, nothing, -⟩
        cases nothing
  | cons entry others =>
      have first : takeOwn? kind none (entry :: others) =
          (entry.2.data? kind).bind fun value => takeOwn? kind (some value) others := by
        rw [takeOwn?_cons]
        cases entry.2.data? kind <;> rfl
      rw [first]
      cases others with
      | nil =>
          constructor
          · intro held
            obtain ⟨data, stands, same⟩ := Option.bind_eq_some_iff.mp held
            cases same
            exact ⟨entry, rfl, stands⟩
          · rintro ⟨other, same, stands⟩
            cases same
            rw [stands]
            rfl
      | cons other others =>
          constructor
          · intro held
            obtain ⟨data, -, same⟩ := Option.bind_eq_some_iff.mp held
            cases same
          · rintro ⟨other, same, -⟩
            cases same

/-- The entries with a field's name are taken by that field, and all others by the fields behind
it. -/
theorem takeAll?_fields (closed : Bool) (field : String × Kind) (fields : Fields)
    (value : Option field.2.Data) (values : fields.Partial) (entries : List (String × Tree)) :
    takeAll? closed (field :: fields) (value, values) entries =
      (takeOwn? field.2 value (entries.filter (·.1 = field.1))).bind fun value =>
        (takeAll? closed fields values (entries.filter (·.1 ≠ field.1))).map fun values =>
          (value, values) := by
  induction entries generalizing value values with
  | nil => rfl
  | cons entry entries ih =>
      rw [takeAll?_cons, take?]
      by_cases own : entry.1 = field.1
      · rw [if_pos own, List.filter_cons_of_pos (by simpa using own),
          List.filter_cons_of_neg (by simpa using own), takeOwn?_cons]
        cases value with
        | some value => rfl
        | none =>
            cases entry.2.data? field.2 with
            | none => rfl
            | some data => exact ih (some data) values
      · rw [if_neg own, List.filter_cons_of_neg (by simpa using own),
          List.filter_cons_of_pos (by simpa using own), takeAll?_cons]
        cases take? closed fields values entry.1 entry.2 with
        | none => cases takeOwn? field.2 value _ <;> rfl
        | some values => exact ih value values

/-- The fields are complete when the first has a value and the others are complete. -/
theorem complete?_cons (field : String × Kind) (fields : Fields) (value : Option field.2.Data)
    (values : fields.Partial) :
    complete? (field :: fields) (value, values) =
      value.bind fun value => (complete? fields values).map fun values => (value, values) := by
  unfold complete?
  rw [complete.eq_def]
  cases value with
  | none => rfl
  | some value => 
      dsimp only
      cases complete fields values <;> rfl

/-- Entries that belong to no field are refused by a closed record and no other. -/
theorem filled_nil (closed : Bool) (entries : List (String × Tree)) :
    (takeAll? closed [] (unfilled []) entries).bind (complete? []) = some () ↔
      (closed = true → entries = []) := by
  cases closed with
  | true =>
      cases entries with
      | nil => exact ⟨fun _ _ => rfl, fun _ => rfl⟩
      | cons entry entries =>
          constructor
          · intro held
            cases held
          · intro none
            cases none rfl
  | false =>
      constructor
      · rintro _ ⟨⟩
      · rintro -
        induction entries with
        | nil => rfl
        | cons entry entries ih => exact ih

/-- The fields are filled exactly when the first is, by its own entries, and the others are, by the
entries left. -/
theorem filled_cons (closed : Bool) (field : String × Kind) (fields : Fields)
    (entries : List (String × Tree)) (value : field.2.Data) (values : fields.Filled) :
    (takeAll? closed (field :: fields) (unfilled (field :: fields)) entries).bind
        (complete? (field :: fields)) = some (value, values) ↔
      takeOwn? field.2 none (entries.filter (·.1 = field.1)) = some (some value) ∧
        (takeAll? closed fields fields.unfilled (entries.filter (·.1 ≠ field.1))).bind
          fields.complete? = some values := by
  rw [unfilled, takeAll?_fields]
  cases takeOwn? field.2 none (entries.filter (·.1 = field.1)) with
  | none => simp
  | some own =>
      cases takeAll? closed fields fields.unfilled (entries.filter (·.1 ≠ field.1)) with
      | none => simp
      | some others =>
          simp only [Option.bind_some, Option.map_some, complete?_cons]
          cases own with
          | none => simp
          | some own => cases complete? fields others <;> simp

/-- One entry alone has its name exactly when it is the only one left by that name. -/
theorem perm_cons_iff {entries : List (String × Tree)} (entry : String × Tree)
    (rest : List (String × Tree)) :
    (entries.Perm (entry :: rest) ∧ ∀ other ∈ rest, other.1 ≠ entry.1) ↔
      entries.filter (·.1 = entry.1) = [entry] ∧ (entries.filter (·.1 ≠ entry.1)).Perm rest := by
  constructor
  · rintro ⟨same, apart⟩
    have none : rest.filter (·.1 = entry.1) = [] :=
      List.filter_eq_nil_iff.mpr fun other member => by simpa using apart other member
    have all : rest.filter (·.1 ≠ entry.1) = rest :=
      List.filter_eq_self.mpr fun other member => by simpa using apart other member
    constructor
    · have own := same.filter (·.1 = entry.1)
      rw [List.filter_cons_of_pos (by simp), none] at own
      exact List.perm_singleton.mp own
    · have foreign := same.filter (·.1 ≠ entry.1)
      rwa [List.filter_cons_of_neg (by simp), all] at foreign
  · rintro ⟨own, foreign⟩
    constructor
    · have split := List.filter_append_perm (·.1 = entry.1) entries
      rw [own] at split
      simp only [← decide_not] at split
      exact split.symm.trans (foreign.cons entry)
    · intro other member
      exact of_decide_eq_true (List.mem_filter.mp (foreign.mem_iff.mpr member)).2

/-- Entries fill the fields exactly when they are, in some order, one for each field and others that
belong to no field. -/
theorem filled_iff (closed : Bool) {fields : Fields} (distinct : fields.names.Nodup)
    (entries : List (String × Tree)) (filled : fields.Filled) :
    (takeAll? closed fields fields.unfilled entries).bind fields.complete? = some filled ↔
      ∃ spelled others, entries.Perm (spelled ++ others) ∧ fields.Spelled filled spelled ∧
        (∀ other ∈ others, other.1 ∉ fields.names) ∧ (closed = true → others = []) := by
  induction fields generalizing entries with
  | nil =>
      rw [filled_nil]
      constructor
      · intro none
        exact ⟨[], entries, .refl _, rfl, fun _ _ => List.not_mem_nil, none⟩
      · rintro ⟨_, others, same, rfl, -, none⟩ isClosed
        rw [List.nil_append, none isClosed] at same
        exact same.eq_nil
  | cons field fields ih =>
      obtain ⟨value, values⟩ := filled
      obtain ⟨fresh, distinct⟩ := List.nodup_cons.mp distinct
      rw [filled_cons, takeOwn?_eq_some, ih distinct]
      constructor
      · rintro ⟨⟨⟨name, tree⟩, own, stands⟩, spelled, others, foreign, listed, unknown, none⟩
        have named : name = field.1 := by
          have : (name, tree) ∈ entries.filter (·.1 = field.1) := own ▸ List.mem_singleton_self _
          exact of_decide_eq_true (List.mem_filter.mp this).2
        subst named
        obtain ⟨same, apart⟩ := (perm_cons_iff (field.1, tree) _).mpr ⟨own, foreign⟩
        refine ⟨(field.1, tree) :: spelled, others, same,
          ⟨tree, spelled, rfl, stands, listed⟩, ?_, none⟩
        intro other member known
        rcases List.mem_cons.mp known with named | known
        · exact apart other (List.mem_append_right _ member) named
        · exact unknown other member known
      · rintro ⟨_, others, same, ⟨tree, spelled, rfl, stands, listed⟩, unknown, none⟩
        have apart : ∀ other ∈ spelled ++ others, other.1 ≠ field.1 := by
          intro other member named
          rcases List.mem_append.mp member with member | member
          · have known := List.mem_map_of_mem (f := Prod.fst) member
            rw [listed.names, named] at known
            exact fresh known
          · exact unknown other member (List.mem_cons.mpr (.inl named))
        obtain ⟨own, foreign⟩ :=
          (perm_cons_iff (field.1, tree) (spelled ++ others)).mp ⟨same, apart⟩
        exact ⟨⟨_, own, stands⟩, spelled, others, foreign, listed,
          fun other member known => unknown other member (.tail _ known), none⟩

end Fields

namespace Record

/-- The members of an object hold a record: in some order, one for each field and, if the record is
not closed, others that belong to no field. -/
def Holds (record : Record) (members : List (Member Tree)) (filled : record.fields.Filled) : Prop :=
  ∃ entries spelled others, entries? members = some entries ∧ entries.Perm (spelled ++ others) ∧
    record.fields.Spelled filled spelled ∧ (∀ other ∈ others, other.1 ∉ record.fields.names) ∧
    (record.closed = true → others = [])

variable {record : Record}

/-- What the members hold for the record is stated without the order in which they are read. -/
theorem held?_eq_some (distinct : record.fields.names.Nodup) {members : List (Member Tree)}
    {filled : record.fields.Filled} :
    record.held? members = some filled ↔ record.Holds members filled := by
  rw [held?, gather_eq, Holds]
  cases entries? members with
  | none =>
      constructor
      · intro held
        cases held
      · rintro ⟨entries, spelled, others, same, -⟩
        cases same
  | some entries =>
      rw [Option.bind_some]
      refine (Fields.filled_iff record.closed distinct entries filled).trans ?_
      constructor
      · rintro ⟨spelled, others, held⟩
        exact ⟨entries, spelled, others, rfl, held⟩
      · rintro ⟨_, spelled, others, same, held⟩
        cases same
        exact ⟨spelled, others, held⟩

/-- A record is read from an object exactly when the members of the object hold it. -/
theorem ofText_eq_ok (narrow : ∀ field ∈ record.fields, field.2.Narrow)
    (distinct : record.fields.names.Nodup) {document : Document} {filled : record.fields.Filled} :
    record.ofText document.text = .ok filled ↔ record.Holds document.members filled := by
  rw [← held?_eq_some distinct, ← record.toOption_ofText narrow, toOption_eq_some]

end Record

end HealthWatch.Json
