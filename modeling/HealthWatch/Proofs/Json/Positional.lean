import HealthWatch.Proofs.Json.Meaning

/-! # Records in lists

A record is also read from a list that holds one value for each field, in the order of the fields
and no others (`Fields.gives_list`). A closed record is read from objects, from such lists and from
nothing else (`Record.ofText_eq_ok_iff`).
-/

namespace HealthWatch.Json

open Written

/-! ## Written lists -/

namespace Fields

/-- The values that elements give to the fields in their order, if there is one for each field and
no other. -/
def listed? : (fields : Fields) → List (Padded Tree) → Option fields.Filled
  | [], [] => some ()
  | field :: fields, entry :: entries =>
      (entry.value.data? field.2).bind fun value =>
        (listed? fields entries).map fun values => (value, values)
  | _, _ => none

/-- The elements are values for the fields, in their order. -/
def Lined : (fields : Fields) → fields.Filled → List (Padded Tree) → Prop
  | [], _, elements => elements = []
  | field :: rest, (value, values), elements =>
      ∃ first others, elements = first :: others ∧ first.value.data? field.2 = some value ∧
        Lined rest values others

/-- Elements fill the fields exactly when they are values for them in their order. -/
theorem listed?_eq_some {fields : Fields} {elements : List (Padded Tree)}
    {filled : fields.Filled} :
    fields.listed? elements = some filled ↔ fields.Lined filled elements := by
  induction fields generalizing elements with
  | nil =>
      cases elements with
      | nil => exact ⟨fun _ => rfl, fun _ => rfl⟩
      | cons first others => exact ⟨nofun, nofun⟩
  | cons field fields ih =>
      obtain ⟨value, values⟩ := filled
      cases elements with
      | nil => exact ⟨nofun, nofun⟩
      | cons first others =>
          rw [listed?, Option.bind_eq_some_iff]
          constructor
          · rintro ⟨_, data, mapped⟩
            obtain ⟨_, listed, ⟨⟩⟩ := Option.map_eq_some_iff.mp mapped
            exact ⟨first, others, rfl, data, ih.mp listed⟩
          · rintro ⟨_, _, ⟨⟩, data, lined⟩
            exact ⟨value, data, by rw [ih.mpr lined]; rfl⟩

variable {short : Nat → Mismatch}

/-- Reads the value of a field and then those of the others. -/
def listFrom (short : Nat → Mismatch) (field : String × Kind) (fields : Fields) (index : Nat)
    (text : List Char) : Except Fault (Filled (field :: fields) × List Char) :=
  match field.2.read text with
  | .error fault => .error fault
  | .ok (value, rest) =>
      match readList short fields (index + 1) rest with
      | .ok (values, rest) => .ok ((value, values), rest)
      | .error fault => .error fault

theorem endList_blanks (between : List Blank) (text : List Char) :
    endList (blanks between ++ text) = endList text := by
  rw [endList, skipBlanks_blanks, endList]

/-- A list ends with its bracket and in no other way. -/
theorem skipBlanks_of_endList {text rest : List Char} (ended : endList text = .ok rest) :
    skipBlanks text = ']' :: rest := by
  rw [endList] at ended
  split at ended
  · cases ended
  · rename_i closed
    cases ended
    exact closed
  · split at ended <;> cases ended
  · cases ended

/-- Behind the last field only the bracket may follow. -/
theorem readList_nil_refuses {index : Nat} {text : List Char} {c : Char} {more : List Char}
    (begins : skipBlanks text = c :: more) (another : c ≠ ']') :
    ∃ fault, readList short [] index text = .error fault := by
  rw [readList]
  cases ended : endList text with
  | error fault => exact ⟨fault, rfl⟩
  | ok rest =>
      rw [skipBlanks_of_endList ended] at begins
      exact absurd (List.cons.inj begins).1.symm another

theorem readList_blanks (fields : Fields) (index : Nat) (between : List Blank)
    (text : List Char) :
    readList short fields index (blanks between ++ text) = readList short fields index text := by
  cases fields with
  | nil => rw [readList, endList_blanks, readList]
  | cons field fields => rw [readList, skipBlanks_blanks, readList]

/-- How a field's element is looked for: the list may be at its end or hold an element, which needs
a comma in front unless it is the first. -/
theorem readList_cons (field : String × Kind) (fields : Fields) (index : Nat)
    (text : List Char) :
    readList short (field :: fields) index text =
      match skipBlanks text with
      | [] => .error (.here .endOfList [])
      | ']' :: rest => .error (.here (.mismatch (short index)) (closeList (']' :: rest)))
      | c :: rest =>
          if index = 0 then listFrom short field fields index (c :: rest)
          else if c = ',' then
            match skipBlanks rest with
            | [] => .error (.here .endOfValue [])
            | ']' :: rest => .error (.peek .trailingComma (']' :: rest))
            | next => listFrom short field fields index next
          else .error (.peek .expectedListSeparator (c :: rest)) := by
  rfl

/-- The first element needs no comma in front. -/
theorem readList_first (field : String × Kind) (fields : Fields) (entry : Padded Tree)
    (rest : List Char) :
    readList short (field :: fields) 0 (entry.text ++ rest) =
      listFrom short field fields 0 (entry.value.text ++ (blanks entry.after ++ rest)) := by
  obtain ⟨c, more, same, begins⟩ := entry.value.exists_text
  have notClose := (Tree.solid_of_begins begins).2.1
  rw [Padded.text, List.append_assoc, List.append_assoc, readList_cons, skipBlanks_tree, same,
    List.cons_append]
  split
  · rename_i nothing
    cases nothing
  · rename_i closes
    exact absurd (List.cons.inj closes).1 notClose
  · rename_i begins
    cases begins
    exact if_pos rfl

/-- Behind a comma, the value of the next field has to follow. -/
theorem readList_comma (field : String × Kind) (fields : Fields) {index : Nat}
    (later : 0 < index) (text : List Char) :
    readList short (field :: fields) index (',' :: text) =
      match skipBlanks text with
      | [] => .error (.here .endOfValue [])
      | ']' :: rest => .error (.peek .trailingComma (']' :: rest))
      | next => listFrom short field fields index next :=
  (if_neg (Nat.ne_of_gt later)).trans (if_pos rfl)

/-- Every later element is read behind a comma. -/
theorem readList_next (field : String × Kind) (fields : Fields) {index : Nat}
    (later : 0 < index) (entry : Padded Tree) (rest : List Char) :
    readList short (field :: fields) index (',' :: (entry.text ++ rest)) =
      listFrom short field fields index (entry.value.text ++ (blanks entry.after ++ rest)) := by
  obtain ⟨c, more, same, begins⟩ := entry.value.exists_text
  have notClose := (Tree.solid_of_begins begins).2.1
  rw [readList_comma field fields later, Padded.text, List.append_assoc, List.append_assoc,
    skipBlanks_tree, same, List.cons_append]
  split
  · rename_i nothing
    cases nothing
  · rename_i closes
    exact absurd (List.cons.inj closes).1 notClose
  · rfl

/-- A field takes the first element, and the fields behind it the others. -/
theorem gives_listFrom {field : String × Kind} {fields : Fields} {index : Nat}
    (narrow : field.2.Narrow) (entry : Padded Tree) {entries : List (Padded Tree)}
    {after rest : List Char} (ends : Ends after)
    (others : Gives (readList short fields (index + 1) after) (fields.listed? entries) rest) :
    Gives (listFrom short field fields index (entry.value.text ++ after))
      (listed? (field :: fields) (entry :: entries)) rest := by
  have first := gives_read narrow entry.value ends
  rw [listFrom, listed?]
  cases data : entry.value.data? field.2 with
  | none =>
      rw [data] at first
      obtain ⟨fault, refused⟩ := first
      exact ⟨fault, by rw [refused]⟩
  | some value =>
      rw [data] at first
      have taken : field.2.read (entry.value.text ++ after) = .ok (value, after) := first
      rw [taken]
      dsimp only
      exact others.map (fun values taken => by rw [taken]) fun fault refused => by rw [refused]

/-- The elements behind the first are read as the values that they give to the other fields. -/
theorem gives_separatedList (fields : Fields) (narrow : ∀ field ∈ fields, field.2.Narrow)
    {index : Nat} (later : 0 < index) (entries : List (Padded Tree)) (rest : List Char) :
    Gives (readList short fields index (separated (entries.map Padded.text) ++ ']' :: rest))
      (fields.listed? entries) rest := by
  induction fields generalizing index entries with
  | nil =>
      cases entries with
      | nil => rfl
      | cons entry entries => exact readList_nil_refuses (skipBlanks_cons rfl _) (by decide)
  | cons field fields ih =>
      cases entries with
      | nil => exact ⟨_, rfl⟩
      | cons entry entries =>
          rw [List.map_cons, separated, List.flatMap_cons, ← separated, List.append_assoc,
            List.cons_append, readList_next field fields later]
          refine gives_listFrom (narrow field (.head _)) entry (ends_after _ _ (.inl rfl) rest) ?_
          rw [readList_blanks]
          exact ih (fun other member => narrow other (.tail _ member)) (Nat.succ_pos _) entries

/-- A list is read as the values that its elements give to the fields. -/
theorem gives_list (fields : Fields) (narrow : ∀ field ∈ fields, field.2.Narrow)
    (inside : List Blank) (entries : List (Padded Tree)) (rest : List Char) :
    Gives
      (readList short fields 0
        (blanks inside ++ [','].intercalate (entries.map Padded.text) ++ ']' :: rest))
      (fields.listed? entries) rest := by
  rw [List.append_assoc, readList_blanks]
  cases entries with
  | nil =>
      cases fields with
      | nil => rfl
      | cons field fields => exact ⟨_, rfl⟩
  | cons entry entries =>
      rw [List.map_cons, intercalate_cons, List.append_assoc]
      cases fields with
      | nil =>
          obtain ⟨c, more, same, begins⟩ := entry.value.exists_text
          have notClose := (Tree.solid_of_begins begins).2.1
          have opened := skipBlanks_tree entry.before entry.value
            (blanks entry.after ++ (separated (entries.map Padded.text) ++ ']' :: rest))
          rw [same, List.cons_append] at opened
          rw [Padded.text, List.append_assoc, List.append_assoc, same, List.cons_append]
          exact readList_nil_refuses opened notClose
      | cons field fields =>
          rw [readList_first]
          refine gives_listFrom (narrow field (.head _)) entry (ends_after _ _ (.inl rfl) rest) ?_
          rw [readList_blanks]
          exact gives_separatedList fields (fun other member => narrow other (.tail _ member))
            (Nat.succ_pos _) entries rest

end Fields

/-! ## What is read was written -/

/-- What is read as a value of a kind is written as a value. -/
theorem Kind.readsTrees (kind : Kind) : ReadsTrees kind.read := by
  have texts : ReadsTrees readText := by
    intro text value rest read
    obtain ⟨before, same⟩ := exists_blanks text
    rw [readText] at read
    split at read
    · rename_i opened
      obtain ⟨pieces, rfl⟩ := exists_pieces read
      refine ⟨before, .string pieces, ?_⟩
      rw [same, opened, Tree.text, quoted]
      simp
    · cases read
  intro text value rest read
  obtain ⟨before, same⟩ := exists_blanks text
  cases kind with
  | text => exact texts text value rest read
  | texts =>
      rw [Kind.read, readTexts] at read
      split at read
      · rename_i opened
        obtain ⟨inside, entries, rfl⟩ := exists_elements texts read
        refine ⟨before, .list inside entries, ?_⟩
        rw [same, opened, Tree.text_list]
        simp
      · cases read
  | integer name low high =>
      rw [Kind.read, readInteger] at read
      split at read
      · cases read
      · rename_i opened
        split at read
        · split at read
          · cases read
          · rename_i taken
            obtain ⟨literal, written⟩ := exists_literal taken
            refine ⟨before, .number literal, ?_⟩
            rw [same, opened, Tree.text, written]
            split at read
            · split at read
              · cases read
                rfl
              · cases read
            · cases read
        · cases read

namespace Fields

variable {short : Nat → Mismatch}

/-- An element and the others behind it. -/
theorem exists_listFrom {field : String × Kind} {fields : Fields} {index : Nat}
    {values : Filled (field :: fields)} {text rest : List Char} (between : List Blank)
    (others : ∀ {values : fields.Filled} {text : List Char},
      readList short fields (index + 1) text = .ok (values, rest) →
      ∃ (after : List Blank) (entries : List (Padded Tree)),
        text = blanks after ++ (separated (entries.map Padded.text) ++ ']' :: rest))
    (taken : listFrom short field fields index text = .ok (values, rest)) :
    ∃ (entry : Padded Tree) (entries : List (Padded Tree)), blanks between ++ text =
      entry.text ++ (separated (entries.map Padded.text) ++ ']' :: rest) := by
  rw [listFrom] at taken
  split at taken
  · cases taken
  · rename_i first
    split at taken
    · rename_i more
      cases taken
      obtain ⟨before, tree, rfl⟩ := field.2.readsTrees _ _ _ first
      obtain ⟨after, entries, rfl⟩ := others more
      refine ⟨⟨between ++ before, tree, after⟩, entries, ?_⟩
      simp only [Padded.text, blanks_append, List.append_assoc]
    · cases taken

/-- What is read as the values of the other fields is written as elements with commas in front. -/
theorem exists_separatedList {fields : Fields} {index : Nat} (later : 0 < index)
    {values : fields.Filled} {text rest : List Char}
    (taken : readList short fields index text = .ok (values, rest)) :
    ∃ (after : List Blank) (entries : List (Padded Tree)),
      text = blanks after ++ (separated (entries.map Padded.text) ++ ']' :: rest) := by
  induction fields generalizing index text with
  | nil =>
      obtain ⟨after, same⟩ := exists_blanks text
      rw [readList] at taken
      split at taken
      · rename_i ended
        cases taken
        exact ⟨after, [], by rw [same, skipBlanks_of_endList ended]; rfl⟩
      · cases taken
  | cons field fields ih =>
      obtain ⟨after, same⟩ := exists_blanks text
      rw [readList_cons] at taken
      split at taken
      · cases taken
      · cases taken
      · rename_i c left _ opened
        rw [if_neg (Nat.ne_of_gt later)] at taken
        split at taken
        · rename_i comma
          obtain ⟨between, blank⟩ := exists_blanks left
          have next : listFrom short field fields index (skipBlanks left) = .ok (values, rest) := by
            split at taken
            · cases taken
            · cases taken
            · exact taken
          obtain ⟨entry, entries, entered⟩ :=
            exists_listFrom between (ih (Nat.succ_pos index)) next
          refine ⟨after, entry :: entries, ?_⟩
          rw [same, opened, comma, blank, entered, List.map_cons, separated_cons]
          simp only [List.append_assoc, List.cons_append]
        · cases taken

/-- What is read as the values of fields is written as the elements of a list. -/
theorem exists_list {fields : Fields} {values : fields.Filled} {text rest : List Char}
    (taken : readList short fields 0 text = .ok (values, rest)) :
    ∃ (inside : List Blank) (entries : List (Padded Tree)),
      text = blanks inside ++ [','].intercalate (entries.map Padded.text) ++ ']' :: rest := by
  obtain ⟨inside, same⟩ := exists_blanks text
  cases fields with
  | nil =>
      rw [readList] at taken
      split at taken
      · rename_i ended
        cases taken
        exact ⟨inside, [], by rw [same, skipBlanks_of_endList ended]; simp⟩
      · cases taken
  | cons field fields =>
      rw [readList_cons] at taken
      split at taken
      · cases taken
      · cases taken
      · rename_i opened
        rw [if_pos rfl, ← opened] at taken
        obtain ⟨entry, entries, entered⟩ :=
          exists_listFrom [] (exists_separatedList (Nat.succ_pos 0)) taken
        have begins : skipBlanks text = _ := entered
        refine ⟨inside, entry :: entries, ?_⟩
        rw [same, begins, List.map_cons, intercalate_cons]
        simp only [List.append_assoc]

/-- A member that belongs to a field is written as a colon and a value, if all others are
refused. -/
theorem exists_afterKey {fields : Fields} {other : Except Fault (List Char)}
    (refused : ∃ fault, other = .error fault) {values last : fields.Partial} {key : String}
    {text rest : List Char} (taken : fields.readMember other values key text = .ok (last, rest)) :
    ∃ (after before : List Blank) (tree : Tree),
      text = blanks after ++ ':' :: (blanks before ++ (tree.text ++ rest)) := by
  obtain ⟨fault, rfl⟩ := refused
  induction fields with
  | nil => cases taken
  | cons field fields ih =>
      obtain ⟨value, values⟩ := values
      unfold readMember at taken
      split at taken
      · split at taken
        · cases taken
        · split at taken
          · cases taken
          · rename_i colon
            obtain ⟨after, rfl⟩ := exists_colon colon
            split at taken
            · rename_i read
              cases taken
              obtain ⟨before, tree, rfl⟩ := field.2.readsTrees _ _ _ read
              exact ⟨after, before, tree, rfl⟩
            · cases taken
      · split at taken
        · rename_i read
          cases taken
          exact ih read
        · cases taken

end Fields

/-! ## Records -/

namespace Record

variable (record : Record)

/-- What a list with too few elements is told. -/
def short (length : Nat) : Mismatch :=
  .wrongLength length (record.name ++ " with " ++ toString record.fields.length ++ " elements")

/-- Behind a bracket the record is read from a list. -/
theorem read_bracket {text rest : List Char} (opened : skipBlanks text = '[' :: rest) :
    record.read text = record.fields.readList record.short 0 rest := by
  rw [Record.read, opened]
  rfl

/-- What is neither a list nor an object holds no record. -/
theorem read_refuses {text rest : List Char} {c : Char} (opened : skipBlanks text = c :: rest)
    (notList : c ≠ '[') (notObject : c ≠ '\x7b') : ∃ fault, record.read text = .error fault := by
  rw [Record.read, opened]
  split
  · rename_i begins
    exact absurd (List.cons.inj begins).1 notList
  · rename_i begins
    exact absurd (List.cons.inj begins).1 notObject
  · exact ⟨_, rfl⟩

/-- What a written value holds for the record. -/
def data? : Tree → Option record.fields.Filled
  | .list _ elements => record.fields.listed? elements
  | .object _ members => record.held? members
  | _ => none

variable {record}

/-- A written value is read as what it holds for the record. -/
theorem gives_data (narrow : ∀ field ∈ record.fields, field.2.Narrow) (before : List Blank)
    (tree : Tree) (rest : List Char) :
    Gives (record.read (blanks before ++ (tree.text ++ rest))) (record.data? tree) rest := by
  have opened := skipBlanks_tree before tree rest
  cases tree with
  | list inside entries =>
      have opened : skipBlanks (blanks before ++ ((Tree.list inside entries).text ++ rest)) =
          '[' :: (blanks inside ++ [','].intercalate (entries.map Padded.text) ++ ']' :: rest) := by
        rw [skipBlanks_tree, Tree.text_list]
        simp only [List.append_assoc, List.cons_append, List.nil_append]
      rw [record.read_bracket opened]
      exact record.fields.gives_list narrow inside entries rest
  | object inside entries => exact record.gives_read narrow before inside entries rest
  | null =>
      rw [Tree.text] at opened ⊢
      exact record.read_refuses opened (by decide) (by decide)
  | boolean value =>
      cases value <;> rw [Tree.text] at opened ⊢ <;>
        exact record.read_refuses opened (by decide) (by decide)
  | number literal =>
      obtain ⟨c, more, same, starts⟩ := literal.exists_text
      rw [Tree.text, same] at opened ⊢
      exact record.read_refuses opened (ne_of_startsNumber starts rfl)
        (ne_of_startsNumber starts rfl)
  | string pieces =>
      rw [Tree.text, quoted] at opened ⊢
      exact record.read_refuses opened (by decide) (by decide)

/-- A closed record reads a member only where a colon and a value are written. -/
theorem readsAfterKeys (closed : record.closed = true) : ReadsAfterKeys record.member := by
  intro values key text last rest read
  refine Fields.exists_afterKey ?_ read
  rw [otherMember, if_pos closed]
  exact ⟨_, rfl⟩

/-- What is read as a closed record is written as a value. -/
theorem readsTrees (closed : record.closed = true) : ReadsTrees record.read := by
  intro text filled rest read
  obtain ⟨before, same⟩ := exists_blanks text
  rw [Record.read] at read
  split at read
  · rename_i opened
    obtain ⟨inside, entries, rfl⟩ := Fields.exists_list read
    refine ⟨before, .list inside entries, ?_⟩
    rw [same, opened, Tree.text_list]
    simp
  · rename_i opened
    dsimp only at read
    split at read
    · cases read
    · rename_i taken
      split at read
      · cases read
        obtain ⟨inside, entries, rfl⟩ := exists_members (readsAfterKeys closed) taken
        refine ⟨before, .object inside entries, ?_⟩
        rw [same, opened, Tree.text_object]
        simp
      · cases read
  · cases read

/-- Exactly the texts that hold a closed record are read, objects and lists alike. -/
theorem ofText_eq_ok_iff (closed : record.closed = true)
    (narrow : ∀ field ∈ record.fields, field.2.Narrow) {text : String}
    {filled : record.fields.Filled} :
    record.ofText text = .ok filled ↔
      ∃ written : Padded Tree, text = String.ofList written.text ∧
        record.data? written.value = some filled :=
  document_eq_ok_iff (readsTrees closed) fun tree before rest _ =>
    gives_data narrow before tree rest

end Record

end HealthWatch.Json
