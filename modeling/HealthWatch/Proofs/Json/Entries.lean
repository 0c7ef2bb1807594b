import HealthWatch.Proofs.Json.Lexemes

/-! # Reading written lists and objects

The entries of a written list or object are read one after the other, whatever blanks stand
between them: `gives_elements` and `gives_members` reduce reading all of them to reading each.
-/

namespace HealthWatch.Json

open Written

namespace Written

/-- An element of a list with the blanks around it. -/
def Padded.text (element : Padded Tree) : List Char :=
  blanks element.before ++ element.value.text ++ blanks element.after

/-- What follows the key of a member: a colon and the value. -/
def Member.afterKey (member : Member Tree) : List Char :=
  blanks member.key.after ++ ':' :: blanks member.value.before ++ member.value.value.text

/-- A member of an object with the blanks around it. -/
def Member.text (member : Member Tree) : List Char :=
  blanks member.key.before ++ quoted member.key.value ++ member.afterKey ++
    blanks member.value.after

/-- A list is written as its elements with commas between them, in brackets. -/
theorem Tree.text_list (inside : List Blank) (elements : List (Padded Tree)) :
    (Tree.list inside elements).text =
      '[' :: blanks inside ++ [','].intercalate (elements.map Padded.text) ++ [']'] := by
  rw [Tree.text]
  rfl

/-- An object is written as its members with commas between them, in braces. -/
theorem Tree.text_object (inside : List Blank) (members : List (Member Tree)) :
    (Tree.object inside members).text =
      '\x7b' :: blanks inside ++ [','].intercalate (members.map Member.text) ++ ['\x7d'] := by
  rw [Tree.text]
  congr 4
  funext member
  simp only [Member.text, Member.afterKey, List.append_assoc, List.cons_append]

/-- Entries after the first, each with the comma in front of it. -/
def separated (entries : List (List Char)) : List Char := entries.flatMap (',' :: ·)

/-- Behind the first entry every other entry has a comma in front. -/
theorem intercalate_cons (first : List Char) (entries : List (List Char)) :
    [','].intercalate (first :: entries) = first ++ separated entries := by
  induction entries generalizing first with
  | nil => rw [List.intercalate_singleton, separated, List.flatMap_nil, List.append_nil]
  | cons next rest ih =>
      rw [List.intercalate_cons_cons, ih, separated, separated, List.flatMap_cons]
      simp only [List.append_assoc, List.cons_append, List.nil_append]

/-- There are no more entries than characters, since each brings its comma. -/
theorem length_le_separated (entries : List (List Char)) :
    entries.length ≤ (separated entries).length := by
  induction entries with
  | nil => exact Nat.zero_le _
  | cons entry entries ih =>
      simp only [separated, List.flatMap_cons, List.cons_append, List.length_cons,
        List.length_append] at ih ⊢
      omega

/-- The number of entries is bounded by the length of the text, which is the fuel of its readers. -/
theorem length_le_intercalate (entries : List (List Char)) :
    entries.length ≤ ([','].intercalate entries).length + 1 := by
  cases entries with
  | nil => exact Nat.zero_le _
  | cons first entries =>
      have := length_le_separated entries
      rw [intercalate_cons, List.length_append, List.length_cons]
      omega

/-- An entry is no longer than the text that it stands in. -/
theorem length_le_of_mem {entry : List Char} {entries : List (List Char)}
    (member : entry ∈ entries) :
    entry.length ≤ ([','].intercalate entries).length := by
  cases entries with
  | nil => cases member
  | cons first entries =>
      rw [intercalate_cons, List.length_append]
      cases member with
      | head => omega
      | tail _ member =>
          obtain ⟨before, after, rfl⟩ := List.append_of_mem member
          simp only [separated, List.flatMap_append, List.flatMap_cons, List.length_append,
            List.length_cons, List.cons_append]
          omega

/-- There are fewer entries than characters from the first to the closing bracket or brace. -/
theorem length_lt_text (inside : List Blank) (entries : List (List Char)) (close : Char)
    (rest : List Char) :
    entries.length <
      (blanks inside ++ [','].intercalate entries ++ close :: rest).length + 1 := by
  have := length_le_intercalate entries
  simp only [List.length_append, List.length_cons]
  omega

/-- Behind a value come blanks and then a comma or what closes the list or the object. -/
theorem ends_after (after : List Blank) (entries : List (List Char)) {close : Char}
    (closes : close = ']' ∨ close = '\x7d') (rest : List Char) :
    Ends (blanks after ++ (separated entries ++ close :: rest)) := by
  intro c first
  cases after with
  | cons blank more =>
      cases first
      cases blank <;> exact .inl rfl
  | nil =>
      cases entries with
      | nil =>
          cases first
          rcases closes with rfl | rfl
          · exact .inr (.inr (.inl rfl))
          · exact .inr (.inr (.inr rfl))
      | cons next more =>
          cases first
          exact .inr (.inl rfl)

/-- The first character of a number is a minus or a digit. -/
theorem Literal.exists_text (literal : Literal) :
    ∃ c more, literal.text = c :: more ∧ startsNumber c = true := by
  obtain ⟨c, more, same, isDigit⟩ := literal.whole.exists_chars
  rw [Literal.text, same]
  cases literal.isNegative with
  | true => exact ⟨_, _, rfl, rfl⟩
  | false => exact ⟨_, _, rfl, by rw [startsNumber, isDigit, Bool.or_true]⟩

/-- What a number starts with differs from every character that starts no number. -/
theorem ne_of_startsNumber {c other : Char} (starts : startsNumber c = true)
    (not : startsNumber other = false) : c ≠ other := by
  rintro rfl
  rw [starts] at not
  cases not

/-- No number starts with a blank. -/
theorem isBlank_of_startsNumber {c : Char} (starts : startsNumber c = true) :
    isBlank c = false := by
  simp only [isBlank, Bool.or_eq_false_iff, decide_eq_false_iff_not]
  exact ⟨⟨⟨ne_of_startsNumber starts rfl, ne_of_startsNumber starts rfl⟩,
    ne_of_startsNumber starts rfl⟩, ne_of_startsNumber starts rfl⟩

/-- Whether a value can begin with a character. -/
def Tree.begins : Tree → Char → Bool
  | null, c => c = 'n'
  | boolean true, c => c = 't'
  | boolean false, c => c = 'f'
  | number _, c => startsNumber c
  | string _, c => c = '"'
  | list _ _, c => c = '['
  | object _ _, c => c = '\x7b'

/-- A written value is never empty, and its first character tells what it is. -/
theorem Tree.exists_text (tree : Tree) :
    ∃ c more, tree.text = c :: more ∧ tree.begins c = true := by
  cases tree with
  | null => exact ⟨_, _, by rw [Tree.text], rfl⟩
  | boolean value => cases value <;> exact ⟨_, _, by rw [Tree.text], rfl⟩
  | number literal =>
      obtain ⟨c, more, same, starts⟩ := literal.exists_text
      exact ⟨c, more, by rw [Tree.text, same], starts⟩
  | string pieces => exact ⟨_, _, by rw [Tree.text, quoted]; rfl, rfl⟩
  | list inside elements => exact ⟨_, _, by rw [Tree.text_list]; rfl, rfl⟩
  | object inside members => exact ⟨_, _, by rw [Tree.text_object]; rfl, rfl⟩

/-- No value begins with a blank or with what closes a list or an object. -/
theorem Tree.solid_of_begins {tree : Tree} {c : Char} (begins : tree.begins c = true) :
    isBlank c = false ∧ c ≠ ']' ∧ c ≠ '\x7d' := by
  cases tree with
  | number literal =>
      exact ⟨isBlank_of_startsNumber begins, ne_of_startsNumber begins rfl,
        ne_of_startsNumber begins rfl⟩
  | boolean value => cases value <;> cases of_decide_eq_true begins <;> decide
  | _ => cases of_decide_eq_true begins; decide

/-- A reader that skips blanks stops at the first character of a value. -/
theorem skipBlanks_tree (before : List Blank) (tree : Tree) (rest : List Char) :
    skipBlanks (blanks before ++ (tree.text ++ rest)) = tree.text ++ rest := by
  obtain ⟨c, more, same, begins⟩ := tree.exists_text
  rw [skipBlanks_blanks, same, List.cons_append, skipBlanks_cons (Tree.solid_of_begins begins).1]

end Written

/-! ## Lists -/

section Elements

variable {α : Type} {element : Reader α} {meaning : Tree → Option α} {entries : List (Padded Tree)}

/-- The reader of elements is right about each of the entries. -/
def ReadsElements (element : Reader α) (meaning : Tree → Option α)
    (entries : List (Padded Tree)) : Prop :=
  ∀ entry ∈ entries, ∀ rest, Ends rest →
    Gives (element (entry.value.text ++ rest)) (meaning entry.value) rest

theorem elements_blanks (fuel : Nat) (first : Bool) (read : List α) (between : List Blank)
    (text : List Char) :
    elements element fuel first read (blanks between ++ text) =
      elements element fuel first read text := by
  cases fuel with
  | zero => rfl
  | succ fuel => simp only [elements, skipBlanks_blanks]

theorem elements_close (fuel : Nat) (first : Bool) (read : List α) (rest : List Char) :
    elements element (fuel + 1) first read (']' :: rest) = .ok (read.reverse, rest) := by
  simp only [elements, skipBlanks_cons (c := ']') rfl]

/-- Reads an element and then the others. -/
def elementsFrom (element : Reader α) (fuel : Nat) (read : List α) (text : List Char) :
    Except Fault (List α × List Char) :=
  andThen (element text) fun value rest => elements element fuel false (value :: read) rest

/-- The first element needs no comma in front. -/
theorem elements_first (fuel : Nat) (read : List α) (entry : Padded Tree) (rest : List Char) :
    elements element (fuel + 1) true read (entry.text ++ rest) =
      elementsFrom element fuel read (entry.value.text ++ (blanks entry.after ++ rest)) := by
  obtain ⟨c, more, same, begins⟩ := entry.value.exists_text
  have notClose := (Tree.solid_of_begins begins).2.1
  rw [Padded.text, List.append_assoc, List.append_assoc, elements, skipBlanks_tree, same]
  simp only [List.cons_append, ↓reduceIte]
  rfl

/-- Behind a comma, an element has to follow. -/
theorem elements_comma (fuel : Nat) (read : List α) (text : List Char) :
    elements element (fuel + 1) false read (',' :: text) =
      match skipBlanks text with
      | [] => .error (.here .endOfValue [])
      | ']' :: rest => .error (.peek .trailingComma (']' :: rest))
      | next => elementsFrom element fuel read next := rfl

/-- Every later element is read behind a comma. -/
theorem elements_next (fuel : Nat) (read : List α) (entry : Padded Tree) (rest : List Char) :
    elements element (fuel + 1) false read (',' :: (entry.text ++ rest)) =
      elementsFrom element fuel read (entry.value.text ++ (blanks entry.after ++ rest)) := by
  obtain ⟨c, more, same, begins⟩ := entry.value.exists_text
  have notClose := (Tree.solid_of_begins begins).2.1
  rw [Padded.text, List.append_assoc, List.append_assoc, elements_comma, skipBlanks_tree, same,
    List.cons_append]
  split
  · rename_i nothing
    cases nothing
  · rename_i closes
    exact absurd (List.cons.inj closes).1 notClose
  · rfl

/-- An element read in front of the others comes before them in the list. -/
theorem mapM_cons_map (meaning : Tree → Option α) (read : List α) (entry : Padded Tree)
    (entries : List (Padded Tree)) :
    ((entry :: entries).mapM fun entry => meaning entry.value).map (read.reverse ++ ·) =
      (meaning entry.value).bind fun value =>
        (entries.mapM fun entry => meaning entry.value).map ((value :: read).reverse ++ ·) := by
  rw [List.mapM_cons]
  cases meaning entry.value with
  | none => rfl
  | some value =>
      cases entries.mapM fun entry => meaning entry.value with
      | none => rfl
      | some values => simp

/-- The elements after the first are read one by one. -/
theorem gives_separated (reads : ReadsElements element meaning entries) {fuel : Nat}
    (enough : entries.length < fuel) (read : List α) (rest : List Char) :
    Gives (elements element fuel false read (separated (entries.map Padded.text) ++ ']' :: rest))
      ((entries.mapM fun entry => meaning entry.value).map (read.reverse ++ ·)) rest := by
  induction entries generalizing fuel read with
  | nil =>
      cases fuel with
      | zero => cases enough
      | succ fuel =>
          show Gives (elements element (fuel + 1) false read (']' :: rest)) _ _
          rw [elements_close]
          simp [Gives]
  | cons entry entries ih =>
      cases fuel with
      | zero => cases enough
      | succ fuel =>
          have others := fun value => ih (fun other member => reads other (.tail _ member))
            (Nat.lt_of_succ_lt_succ enough) (value :: read)
          rw [List.map_cons, separated, List.flatMap_cons, ← separated, List.append_assoc,
            List.cons_append, elements_next, mapM_cons_map]
          apply Gives.andThen (reads entry (.head _) _ (ends_after _ _ (.inl rfl) rest))
          intro value
          rw [elements_blanks]
          exact others value

/-- A list is read element by element. -/
theorem gives_elements (reads : ReadsElements element meaning entries) {fuel : Nat}
    (enough : entries.length < fuel) (inside : List Blank) (rest : List Char) :
    Gives
      (elements element fuel true []
        (blanks inside ++ [','].intercalate (entries.map Padded.text) ++ ']' :: rest))
      (entries.mapM fun entry => meaning entry.value) rest := by
  rw [List.append_assoc, elements_blanks]
  cases fuel with
  | zero => cases enough
  | succ fuel =>
      cases entries with
      | nil =>
          show Gives (elements element (fuel + 1) true [] (']' :: rest)) _ _
          rw [elements_close]
          rfl
      | cons entry entries =>
          have others := fun value => gives_separated
            (fun other member => reads other (.tail _ member)) (Nat.lt_of_succ_lt_succ enough)
            [value] rest
          have all := mapM_cons_map meaning [] entry entries
          simp only [List.reverse_nil, List.nil_append, Option.map_id_fun', id] at all
          rw [List.map_cons, intercalate_cons, List.append_assoc, elements_first, all]
          apply Gives.andThen (reads entry (.head _) _ (ends_after _ _ (.inl rfl) rest))
          intro value
          rw [elements_blanks]
          exact others value

end Elements

/-! ## Objects -/

section Members

variable {σ : Type} {member : σ → String → List Char → Except Fault (σ × List Char)}
  {step : σ → String → Tree → Option σ} {entries : List (Member Tree)}

/-- The reader of members is right about what follows the key of each of the entries. -/
def ReadsMembers (member : σ → String → List Char → Except Fault (σ × List Char))
    (step : σ → String → Tree → Option σ) (entries : List (Member Tree)) : Prop :=
  ∀ entry ∈ entries, ∀ gathered key rest, Ends rest →
    Gives (member gathered key (entry.afterKey ++ rest)) (step gathered key entry.value.value) rest

/-- What is gathered from the members of an object, in their order. -/
def gather (step : σ → String → Tree → Option σ) (gathered : σ) (entries : List (Member Tree)) :
    Option σ :=
  entries.foldlM (fun gathered entry =>
    entry.name?.bind fun key => step gathered key entry.value.value) gathered

theorem gather_cons (gathered : σ) (entry : Member Tree) (entries : List (Member Tree)) :
    gather step gathered (entry :: entries) =
      entry.name?.bind fun key =>
        (step gathered key entry.value.value).bind fun gathered =>
          gather step gathered entries := by
  rw [gather, List.foldlM_cons]
  exact Option.bind_assoc _ _ _

theorem members_blanks (fuel : Nat) (first : Bool) (gathered : σ) (between : List Blank)
    (text : List Char) :
    members member fuel first gathered (blanks between ++ text) =
      members member fuel first gathered text := by
  cases fuel with
  | zero => rfl
  | succ fuel => simp only [members, skipBlanks_blanks]

theorem members_close (fuel : Nat) (first : Bool) (gathered : σ) (rest : List Char) :
    members member (fuel + 1) first gathered ('\x7d' :: rest) = .ok (gathered, rest) := by
  simp only [members, skipBlanks_cons (c := '\x7d') rfl]

/-- Reads a member whose opening quote has been read, and then the others. -/
def membersFrom (member : σ → String → List Char → Except Fault (σ × List Char)) (fuel : Nat)
    (gathered : σ) (text : List Char) : Except Fault (σ × List Char) :=
  andThen (stringBody [] text) fun key rest =>
    andThen (member gathered key rest) fun gathered rest => members member fuel false gathered rest

/-- A member is read as its key and its value, and then come the others. -/
theorem membersFrom_eq (fuel : Nat) (gathered : σ) (text : List Char) :
    membersFrom member fuel gathered text =
      match stringBody [] text with
      | .ok (key, rest) =>
          match member gathered key rest with
          | .ok (gathered, rest) => members member fuel false gathered rest
          | .error fault => .error fault
      | .error fault => .error fault := by
  rw [membersFrom]
  cases stringBody [] text with
  | error fault => rfl
  | ok key => rfl

/-- The first member needs no comma in front. -/
theorem members_first (fuel : Nat) (gathered : σ) (text : List Char) :
    members member (fuel + 1) true gathered ('"' :: text) =
      membersFrom member fuel gathered text := by
  rw [membersFrom_eq]
  rfl

/-- Every later member is read behind a comma and any blanks. -/
theorem members_next (fuel : Nat) (gathered : σ) (before : List Blank) (text : List Char) :
    members member (fuel + 1) false gathered (',' :: (blanks before ++ '"' :: text)) =
      membersFrom member fuel gathered text := by
  rw [members, membersFrom_eq, skipBlanks_cons (c := ',') rfl]
  split
  · rename_i nothing
    cases nothing
  · rename_i closes
    exact absurd (List.cons.inj closes).1 (by decide)
  · rename_i same
    obtain ⟨rfl, rfl⟩ := List.cons.inj same
    rw [if_neg Bool.false_ne_true, if_pos rfl, skipBlanks_blanks, skipBlanks_cons (c := '"') rfl]
    rfl

/-- The key and the value of a member are read, and then the members behind it. -/
theorem gives_membersFrom (reads : ReadsMembers member step entries) {entry : Member Tree}
    (present : entry ∈ entries) {fuel : Nat} (gathered : σ) {after rest : List Char}
    (ends : Ends after) {others : σ → Option σ}
    (more : ∀ gathered, Gives (members member fuel false gathered after) (others gathered) rest) :
    Gives
      (membersFrom member fuel gathered
        (entry.key.value.flatMap Piece.text ++ '"' :: (entry.afterKey ++ after)))
      (entry.name?.bind fun key => (step gathered key entry.value.value).bind others) rest := by
  apply Gives.andThen (gives_quoted entry.key.value (entry.afterKey ++ after))
  intro key
  exact Gives.andThen (reads entry present gathered key after ends) more

/-- The members after the first are read one by one. -/
theorem gives_separatedMembers (reads : ReadsMembers member step entries) {fuel : Nat}
    (enough : entries.length < fuel) (gathered : σ) (rest : List Char) :
    Gives
      (members member fuel false gathered (separated (entries.map Member.text) ++ '\x7d' :: rest))
      (gather step gathered entries) rest := by
  induction entries generalizing fuel gathered with
  | nil =>
      cases fuel with
      | zero => cases enough
      | succ fuel => exact members_close fuel false gathered rest
  | cons entry entries ih =>
      cases fuel with
      | zero => cases enough
      | succ fuel =>
          rw [gather_cons, List.map_cons, separated, List.flatMap_cons, ← separated,
            List.append_assoc, List.cons_append, Member.text, quoted]
          simp only [List.append_assoc, List.cons_append, List.nil_append]
          rw [members_next]
          apply gives_membersFrom reads (.head _) gathered (ends_after _ _ (.inr rfl) rest)
          intro gathered
          rw [members_blanks]
          exact ih (fun other member => reads other (.tail _ member))
            (Nat.lt_of_succ_lt_succ enough) gathered

/-- An object is read member by member. -/
theorem gives_members (reads : ReadsMembers member step entries) {fuel : Nat}
    (enough : entries.length < fuel) (gathered : σ) (inside : List Blank) (rest : List Char) :
    Gives
      (members member fuel true gathered
        (blanks inside ++ [','].intercalate (entries.map Member.text) ++ '\x7d' :: rest))
      (gather step gathered entries) rest := by
  rw [List.append_assoc, members_blanks]
  cases fuel with
  | zero => cases enough
  | succ fuel =>
      cases entries with
      | nil => exact members_close fuel true gathered rest
      | cons entry entries =>
          rw [gather_cons, List.map_cons, intercalate_cons, Member.text, quoted]
          simp only [List.append_assoc, List.cons_append, List.nil_append]
          rw [members_blanks, members_first]
          apply gives_membersFrom reads (.head _) gathered (ends_after _ _ (.inr rfl) rest)
          intro gathered
          rw [members_blanks]
          exact gives_separatedMembers (fun other member => reads other (.tail _ member))
            (Nat.lt_of_succ_lt_succ enough) gathered rest

/-- Behind the blanks, an object starts with its brace. -/
theorem skipBlanks_object (before inside : List Blank) (entries : List (Member Tree))
    (rest : List Char) :
    skipBlanks (blanks before ++ ((Tree.object inside entries).text ++ rest)) =
      '\x7b' ::
        (blanks inside ++ [','].intercalate (entries.map Member.text) ++ '\x7d' :: rest) := by
  rw [skipBlanks_tree, Tree.text_object]
  simp only [List.append_assoc, List.cons_append, List.nil_append]

end Members

end HealthWatch.Json
