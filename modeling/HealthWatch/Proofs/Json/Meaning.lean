import HealthWatch.Proofs.Json.Canonical
import HealthWatch.Proofs.Json.Soundness
import HealthWatch.Proofs.Json.Values

/-! # What written values stand for

A written value stands for a value (`Tree.value?`), or for none: its brackets can be nested too
deep, a number of it can be too large, and a half of a character can stand alone. A text is read
as a value exactly when it is one written value, with blanks around it, that stands for that
value (`Value.ofText_eq_ok_iff`).
-/

namespace HealthWatch.Json

open Written

/-! ## Numbers -/

/-- What a number is read as does not depend on what stands behind it. -/
def Settled (read : List Char → Except Fault (Number × List Char)) : Prop :=
  ∃ value : Option Number, ∀ rest, Ends rest → Gives (read rest) value rest

/-- A float is made without looking at what follows. -/
theorem settled_floatOf (isNegative : Bool) (significand : Nat) (power : Int) :
    Settled (floatOf isNegative significand power) := by
  cases magnitude : (Binary64.ofNat significand).bind fun number => scaleTen 4 number power with
  | none =>
      refine ⟨none, fun rest _ => ⟨.here .numberOutOfRange rest, ?_⟩⟩
      rw [floatOf, magnitude]
  | some magnitude' =>
      refine ⟨some (.float isNegative magnitude'), fun rest _ => ?_⟩
      rw [floatOf, magnitude]
      rfl

/-- Two readers that agree on everything that may follow are settled together. -/
theorem Settled.congr {read other : List Char → Except Fault (Number × List Char)}
    (settled : Settled other) (same : ∀ rest, Ends rest → read rest = other rest) :
    Settled read := by
  obtain ⟨value, gives⟩ := settled
  refine ⟨value, fun rest ends => ?_⟩
  rw [same rest ends]
  exact gives rest ends

/-- What a power of ten comes to, by its digits. -/
def shifted (isNegative : Bool) (significand : Nat) (power : Int) (down : Bool) :
    Nat × List Char → List Char → Except Fault (Number × List Char)
  | (shift, []), rest =>
      floatOf isNegative significand (if down then power - shift else power + shift) rest
  | (_, _ :: beyond), rest =>
      if significand ≠ 0 ∧ !down then .error ⟨.numberOutOfRange, width beyond + width rest⟩
      else .ok (.float isNegative ⟨0, Binary64.minExponent⟩, rest)

/-- The digits of a power are all taken, and what the power comes to is decided by them. -/
theorem powerDigits_chars (isNegative : Bool) (significand : Nat) (power : Int) (down : Bool)
    (digits : Digits) {rest : List Char} (stops : NoDigit rest) :
    powerDigits isNegative significand power down (digits.chars ++ rest) =
      shifted isNegative significand power down (appendDigits maxPower 0 digits.chars) rest := by
  have taken := takeWhile_digits digits stops
  have left := dropWhile_digits digits stops
  obtain ⟨c, more, same, isDigit⟩ := digits.exists_chars
  rw [same, List.cons_append] at taken left ⊢
  rw [powerDigits]
  dsimp only
  rw [if_neg (by simp [isDigit]), taken, left]
  cases appendDigits maxPower 0 (c :: more) with
  | mk shift beyond => cases beyond <;> rfl

/-- The digits of a power settle the number. -/
theorem settled_powerDigits (isNegative : Bool) (significand : Nat) (power : Int) (down : Bool)
    (digits : Digits) :
    Settled fun rest => powerDigits isNegative significand power down (digits.chars ++ rest) := by
  have settled : Settled (shifted isNegative significand power down
      (appendDigits maxPower 0 digits.chars)) := by
    cases appendDigits maxPower 0 digits.chars with
    | mk shift beyond =>
        cases beyond with
        | nil => exact settled_floatOf _ _ _
        | cons c beyond =>
            by_cases large : significand ≠ 0 ∧ !down
            · exact ⟨none, fun rest _ => ⟨_, if_pos large⟩⟩
            · exact ⟨some _, fun rest _ => if_neg large⟩
  exact settled.congr fun rest ends => powerDigits_chars _ _ _ _ digits ends.noDigit

/-- A power without a sign goes upwards. -/
theorem powerPart_digits (isNegative : Bool) (significand : Nat) (power : Int) (digits : Digits)
    (rest : List Char) :
    powerPart isNegative significand power (digits.chars ++ rest) =
      powerDigits isNegative significand power false (digits.chars ++ rest) := by
  obtain ⟨c, more, same, isDigit⟩ := digits.exists_chars
  rw [same, List.cons_append]
  unfold powerPart
  split
  · rename_i plus
    cases plus
    cases isDigit
  · rename_i minus
    cases minus
    cases isDigit
  · rfl

/-- A power of ten settles the number, with or without a sign. -/
theorem settled_powerPart (isNegative : Bool) (significand : Nat) (power : Int)
    (written : Power) :
    Settled fun rest => powerPart isNegative significand power (written.shift ++ rest) := by
  obtain ⟨isUpper, sign, digits⟩ := written
  cases sign with
  | some minus => cases minus <;> exact settled_powerDigits _ _ _ _ digits
  | none =>
      exact (settled_powerDigits isNegative significand power false digits).congr
        fun rest _ => powerPart_digits isNegative significand power digits rest

/-- A fraction settles the number, with or without a power of ten. -/
theorem settled_fractionPart (isNegative : Bool) (significand : Nat) (power : Int)
    (digits : Digits) (written : Option Power) :
    Settled fun rest => fractionPart isNegative significand power
      (digits.chars ++ (written.elim [] Power.text ++ rest)) := by
  have nonempty : digits.chars.isEmpty = false := List.isEmpty_eq_false_iff.mpr digits.nonempty
  let kept := appendDigits maxSignificand significand digits.chars
  let scale : Int := power - (digits.chars.length - kept.2.length : Nat)
  cases written with
  | some written =>
      refine (settled_powerPart isNegative kept.1 scale written).congr fun rest ends => ?_
      have stops := noDigit_power ends (some written)
      unfold fractionPart
      rw [takeWhile_digits digits stops, dropWhile_digits digits stops]
      dsimp only
      rw [nonempty]
      obtain ⟨isUpper, sign, shift⟩ := written
      cases isUpper <;> rfl
  | none =>
      refine (settled_floatOf isNegative kept.1 scale).congr fun rest ends => ?_
      have stops := ends.noDigit
      unfold fractionPart
      rw [Option.elim_none, List.nil_append, takeWhile_digits digits stops,
        dropWhile_digits digits stops]
      dsimp only
      rw [nonempty, if_neg Bool.false_ne_true]
      split
      · exact absurd rfl (ends.head_ne _ _ rfl).2.1
      · exact absurd rfl (ends.head_ne _ _ rfl).2.2
      · rfl

/-- All that follows the digits before the point settles the number. -/
theorem settled_afterDigits (literal : Literal) :
    Settled fun rest =>
      afterDigits literal.isNegative literal.whole.chars (literal.tail ++ rest) := by
  obtain ⟨isNegative, whole, noLeadingZero, fraction, power⟩ := literal
  let kept := appendDigits maxSignificand 0 whole.chars
  cases fraction with
  | some digits =>
      refine (settled_fractionPart isNegative kept.1 kept.2.length digits power).congr
        fun rest _ => ?_
      simp only [Literal.tail, Option.elim_some, List.cons_append, List.append_assoc, afterDigits]
      rfl
  | none =>
      cases power with
      | some written =>
          refine (settled_powerPart isNegative kept.1 kept.2.length written).congr fun rest _ => ?_
          obtain ⟨isUpper, sign, digits⟩ := written
          cases isUpper <;> rfl
      | none =>
          have settled : Settled fun rest =>
              if kept.2.isEmpty then .ok (wholeNumber isNegative kept.1, rest)
              else floatOf isNegative kept.1 kept.2.length rest := by
            by_cases exact' : kept.2.isEmpty = true
            · exact ⟨some _, fun rest _ => if_pos exact'⟩
            · exact (settled_floatOf isNegative kept.1 kept.2.length).congr
                fun rest _ => if_neg exact'
          refine settled.congr fun rest ends => ?_
          show afterDigits isNegative whole.chars rest = _
          unfold afterDigits
          dsimp only
          split
          · exact absurd rfl (ends.head_ne _ _ rfl).1
          · exact absurd rfl (ends.head_ne _ _ rfl).2.1
          · exact absurd rfl (ends.head_ne _ _ rfl).2.2
          · rfl

namespace Written

/-- The number that a literal stands for, unless it is too large for one. -/
def Literal.number? (literal : Literal) : Option Number :=
  (number literal.text).toOption.map Prod.fst

/-- A literal is read as the number that it stands for, and refused if it is too large for one. -/
theorem Literal.gives_number (literal : Literal) {rest : List Char} (ends : Ends rest) :
    Gives (number (literal.text ++ rest)) literal.number? rest := by
  obtain ⟨value, settled⟩ := (settled_afterDigits literal).congr
    fun rest ends => number_text literal ends
  have alone : Gives (number literal.text) value [] := by
    have gives := settled [] (by simp [Ends])
    dsimp only at gives
    rwa [List.append_nil] at gives
  have same : literal.number? = value := by
    rw [Literal.number?]
    cases value with
    | none =>
        obtain ⟨fault, refused⟩ := alone
        rw [refused]
        rfl
    | some value =>
        have taken : number literal.text = .ok (value, []) := alone
        rw [taken]
        rfl
  rw [same]
  exact settled rest ends

/-- The value that a written value stands for, unless its brackets and braces are nested more
than `depth` deep, or something in it stands for nothing. -/
def Tree.value? : Nat → Tree → Option Value
  | _, null => some .null
  | _, boolean value => some (.boolean value)
  | _, number literal => literal.number?.map .number
  | _, string pieces => (textOf? pieces).map .string
  | 0, _ => none
  | depth + 1, list _ elements =>
      (elements.mapM fun element : Padded Tree => element.value.value? depth).map .list
  | depth + 1, object _ members =>
      (members.mapM fun member : Member Tree =>
        member.name?.bind fun key =>
          (member.value.value.value? depth).map (key, ·)).map .object

/-- The key and the value of a member. -/
def Member.value? (depth : Nat) (member : Member Tree) : Option (String × Value) :=
  member.name?.bind fun key => (member.value.value.value? depth).map (key, ·)

theorem Tree.value?_object (depth : Nat) (inside : List Blank) (members : List (Member Tree)) :
    (Tree.object inside members).value? (depth + 1) =
      (members.mapM (Member.value? depth)).map .object :=
  rfl

theorem Member.value?_compact (depth : Nat) (key : String) (tree : Tree) :
    (Member.compact key tree).value? depth = (tree.value? depth).map (key, ·) := by
  rw [Member.value?, Member.name?, Member.compact, textOf?_spell, Option.bind_some]

end Written

/-! ## Reading what was written -/

/-- A reader that goes by another one and makes something of its value. -/
theorem Gives.map {α β : Type} {result : Except Fault (α × List Char)} {value : Option α}
    {rest : List Char} (gives : Gives result value rest) {f : α → β}
    {mapped : Except Fault (β × List Char)}
    (taken : ∀ value, result = .ok (value, rest) → mapped = .ok (f value, rest))
    (refused : ∀ fault, result = .error fault → mapped = .error fault) :
    Gives mapped (value.map f) rest := by
  cases value with
  | none =>
      obtain ⟨fault, same⟩ := gives
      exact ⟨fault, refused fault same⟩
  | some value => exact taken value gives

/-- A reader that takes a value gives that value. -/
theorem Gives.value_eq {α : Type} {taken : α} {value : Option α} {left rest : List Char}
    (gives : Gives (.ok (taken, left)) value rest) : value = some taken := by
  cases value with
  | none =>
      obtain ⟨fault, refused⟩ := gives
      cases refused
  | some value =>
      have same : Except.ok (taken, left) = Except.ok (value, rest) := gives
      cases same
      rfl

/-- Blanks may stand behind a value. -/
theorem ends_blanks (after : List Blank) : Ends (blanks after) := by
  intro c first
  cases after with
  | nil => cases first
  | cons blank more =>
      cases first
      cases blank <;> exact .inl rfl

theorem skipBlanks_eq_nil (after : List Blank) : skipBlanks (blanks after) = [] := by
  have skipped := skipBlanks_blanks after []
  rwa [List.append_nil] at skipped

/-- A whole document is read when it is one written value, with blanks around it, that means
something to the reader of values. -/
theorem document_eq_ok_iff {α : Type} {read : Reader α} {meaning : Tree → Option α}
    (sound : ReadsTrees read)
    (gives : ∀ (tree : Tree) (before : List Blank) (rest : List Char), Ends rest →
      Gives (read (blanks before ++ (tree.text ++ rest))) (meaning tree) rest)
    {text : String} {value : α} :
    document read text = .ok value ↔
      ∃ written : Padded Tree, text = String.ofList written.text ∧
        meaning written.value = some value := by
  constructor
  · intro done
    rw [document] at done
    split at done
    · cases done
    · rename_i taken
      split at done
      · rename_i ended
        cases done
        obtain ⟨after, blank⟩ := exists_blanks _
        rw [ended, List.append_nil] at blank
        subst blank
        obtain ⟨before, tree, same⟩ := sound _ _ _ taken
        have meant := gives tree before (blanks after) (ends_blanks after)
        rw [← same, taken] at meant
        refine ⟨⟨before, tree, after⟩, ?_, meant.value_eq⟩
        rw [Padded.text, List.append_assoc, ← same, String.ofList_toList]
      · cases done
  · rintro ⟨⟨before, tree, after⟩, rfl, meant⟩
    have taken := gives tree before (blanks after) (ends_blanks after)
    rw [meant] at taken
    have taken : read (Padded.text ⟨before, tree, after⟩) = .ok (value, blanks after) := by
      rw [Padded.text, List.append_assoc]
      exact taken
    rw [document, String.toList_ofList, taken]
    dsimp only
    rw [skipBlanks_eq_nil]

namespace Value

variable (depth : Nat)

/-- The reader of values at depth is right about a written value. -/
def Understands (tree : Tree) : Prop :=
  ∀ (before : List Blank) rest, Ends rest →
    Gives (Value.read depth (blanks before ++ (tree.text ++ rest))) (tree.value? depth) rest

/-- Numbers are understood at every depth. -/
theorem understands_number (literal : Literal) : Understands depth (.number literal) := by
  intro before rest ends
  have gives := literal.gives_number ends
  obtain ⟨c, more, same, starts⟩ := literal.exists_text
  have opened : skipBlanks (blanks before ++ ((Tree.number literal).text ++ rest)) =
      c :: (more ++ rest) := by
    rw [skipBlanks_tree, Tree.text, same, List.cons_append]
  rw [same, List.cons_append] at gives
  rw [Value.read_number depth opened starts, Tree.value?]
  exact gives.map (fun value taken => by rw [taken]) fun fault refused => by rw [refused]

/-- Strings are understood at every depth. -/
theorem understands_string (pieces : List Piece) : Understands depth (.string pieces) := by
  intro before rest _
  have opened : skipBlanks (blanks before ++ ((Tree.string pieces).text ++ rest)) =
      '"' :: (pieces.flatMap Piece.text ++ '"' :: rest) := by
    rw [skipBlanks_tree, Tree.text, quoted]
    simp only [List.cons_append, List.append_assoc, List.nil_append]
  rw [Value.read_quote depth opened, Tree.value?]
  exact (gives_quoted pieces rest).map (fun value taken => by rw [taken])
    fun fault refused => by rw [refused]

/-- The empty value is understood at every depth. -/
theorem understands_null : Understands depth .null := by
  intro before rest _
  have opened := skipBlanks_tree before .null rest
  rw [Tree.text] at opened ⊢
  rw [← Value.read_skipBlanks, opened]
  cases depth <;> rfl

/-- The two truth values are understood at every depth. -/
theorem understands_boolean (value : Bool) : Understands depth (.boolean value) := by
  intro before rest _
  have opened := skipBlanks_tree before (.boolean value) rest
  rw [← Value.read_skipBlanks, opened]
  cases depth <;> cases value <;> rw [Tree.text] <;> rfl

/-- A list is understood if its elements are, one level further in. -/
theorem understands_list (inside : List Blank) (entries : List (Padded Tree))
    (deeper : ∀ tree, Understands depth tree) :
    Understands (depth + 1) (.list inside entries) := by
  intro before rest _
  have opened : skipBlanks (blanks before ++ ((Tree.list inside entries).text ++ rest)) =
      '[' :: (blanks inside ++ [','].intercalate (entries.map Padded.text) ++ ']' :: rest) := by
    rw [skipBlanks_tree, Tree.text_list]
    simp only [List.append_assoc, List.cons_append, List.nil_append]
  have enough := length_lt_text inside (entries.map Padded.text) ']' rest
  rw [List.length_map] at enough
  have reads : ReadsElements (Value.read depth) (Tree.value? depth) entries :=
    fun entry _ rest ends => deeper entry.value [] rest ends
  rw [Value.read_bracket depth opened, Tree.value?]
  exact (gives_elements reads enough inside rest).map (fun values taken => by rw [taken])
    fun fault refused => by rw [refused]

/-- The members of an object gathered last first are its members in their order. -/
theorem gather_value? (gathered : List (String × Value)) (entries : List (Member Tree)) :
    gather (fun gathered key tree => (tree.value? depth).map fun value => (key, value) :: gathered)
        gathered entries =
      (entries.mapM (Member.value? depth)).map fun members => members.reverse ++ gathered := by
  induction entries generalizing gathered with
  | nil => rfl
  | cons entry entries ih =>
      rw [gather_cons, List.mapM_cons, Member.value?]
      cases entry.name? with
      | none => rfl
      | some key =>
          cases entry.value.value.value? depth with
          | none => rfl
          | some value =>
              simp only [Option.bind_some, Option.map_some, ih]
              cases entries.mapM (Member.value? depth) with
              | none => rfl
              | some members => simp

/-- An object is understood if the values of its members are, one level further in. -/
theorem understands_object (inside : List Blank) (entries : List (Member Tree))
    (deeper : ∀ tree, Understands depth tree) :
    Understands (depth + 1) (.object inside entries) := by
  intro before rest _
  have reads : ReadsMembers (Value.member depth)
      (fun gathered key tree => (tree.value? depth).map fun value => (key, value) :: gathered)
      entries := by
    intro entry _ gathered key rest ends
    have gives := deeper entry.value.value entry.value.before rest ends
    have colon := colon_text entry.key.after
      (blanks entry.value.before ++ (entry.value.value.text ++ rest))
    simp only [Member.afterKey, Value.member, List.append_assoc, List.cons_append, colon]
    exact gives.map (fun value taken => by rw [taken]) fun fault refused => by rw [refused]
  have gives := Value.gives_object depth reads before inside rest
  rw [gather_value?, Option.map_map] at gives
  rw [Tree.value?_object]
  have same : ((fun gathered : List (String × Value) => Value.object gathered.reverse) ∘
      fun members => members.reverse ++ []) = Value.object := by
    funext members
    simp
  rwa [same] at gives

/-- A written value is read as what it stands for. -/
theorem understands (tree : Tree) : Understands depth tree := by
  -- Whatever stands inside brackets is read one level less deep, so the induction is on the depth
  -- and for all written values at once.
  induction depth generalizing tree with
  | zero =>
      cases tree with
      | null => exact understands_null 0
      | boolean value => exact understands_boolean 0 value
      | number literal => exact understands_number 0 literal
      | string pieces => exact understands_string 0 pieces
      | list inside elements =>
          intro before rest _
          have opened := skipBlanks_tree before (.list inside elements) rest
          rw [Tree.text_list] at opened ⊢
          rw [← Value.read_skipBlanks, opened]
          exact ⟨_, rfl⟩
      | object inside members =>
          intro before rest _
          have opened := skipBlanks_tree before (.object inside members) rest
          rw [Tree.text_object] at opened ⊢
          rw [← Value.read_skipBlanks, opened]
          exact ⟨_, rfl⟩
  | succ depth ih =>
      cases tree with
      | null => exact understands_null _
      | boolean value => exact understands_boolean _ value
      | number literal => exact understands_number _ literal
      | string pieces => exact understands_string _ pieces
      | list inside elements => exact understands_list depth inside elements ih
      | object inside members => exact understands_object depth inside members ih

/-! ## Everything that is read was written -/

/-- What is read as a word begins with the letters of that word. -/
theorem exists_word {letters text rest : List Char} {value last : Value}
    (read : (match word letters text with
      | .ok rest => Except.ok (value, rest)
      | .error fault => .error fault) = Except.ok (ε := Fault) (last, rest)) :
    text = letters ++ rest := by
  split at read
  · rename_i same
    cases read
    exact eq_of_word same
  · cases read

/-- If values are read only where they are written, so are members of objects. -/
theorem readsAfterKeys {depth : Nat} (sound : ReadsTrees (Value.read depth)) :
    ReadsAfterKeys (Value.member depth) := by
  intro gathered key text last rest read
  unfold Value.member at read
  split at read
  · rename_i colon
    obtain ⟨after, rfl⟩ := exists_colon colon
    split at read
    · rename_i value
      cases read
      obtain ⟨before, tree, rfl⟩ := sound _ _ _ value
      exact ⟨after, before, tree, rfl⟩
    · cases read
  · cases read

/-- What is read behind blanks begins with a written value, if that holds of what is nested. -/
theorem exists_tree (deeper : ∀ less, depth = less + 1 → ReadsTrees (Value.read less))
    {text rest : List Char} {value : Value} (read : Value.read depth text = .ok (value, rest)) :
    ∃ tree : Tree, skipBlanks text = tree.text ++ rest := by
  rw [Value.read.eq_def] at read
  dsimp only at read
  split at read
  case h_1 => cases read
  case h_2 opened => exact ⟨.null, by rw [opened, exists_word read, Tree.text]; rfl⟩
  case h_3 opened => exact ⟨.boolean true, by rw [opened, exists_word read, Tree.text]; rfl⟩
  case h_4 opened => exact ⟨.boolean false, by rw [opened, exists_word read, Tree.text]; rfl⟩
  case h_5 opened =>
    split at read
    · rename_i taken
      cases read
      obtain ⟨pieces, rfl⟩ := exists_pieces taken
      exact ⟨.string pieces, by rw [opened, Tree.text, quoted]; simp⟩
    · cases read
  case h_6 opened =>
    cases depth with
    | zero => cases read
    | succ less =>
        dsimp only at read
        split at read
        · rename_i taken
          cases read
          obtain ⟨inside, entries, rfl⟩ := exists_elements (deeper less rfl) taken
          exact ⟨.list inside entries, by rw [opened, Tree.text_list]; simp⟩
        · cases read
  case h_7 opened =>
    cases depth with
    | zero => cases read
    | succ less =>
        dsimp only at read
        split at read
        · rename_i taken
          cases read
          obtain ⟨inside, entries, rfl⟩ := exists_members (readsAfterKeys (deeper less rfl)) taken
          exact ⟨.object inside entries, by rw [opened, Tree.text_object]; simp⟩
        · cases read
  case h_8 opened =>
    split at read
    · split at read
      · rename_i taken
        cases read
        obtain ⟨literal, same⟩ := exists_literal taken
        exact ⟨.number literal, by rw [opened, same, Tree.text]⟩
      · cases read
    · cases read

/-- What is read as a value is written as one. -/
theorem readsTrees : ReadsTrees (Value.read depth) := by
  induction depth with
  | zero =>
      intro text value rest read
      obtain ⟨before, same⟩ := exists_blanks text
      obtain ⟨tree, written⟩ := exists_tree 0 (fun _ none => by cases none) read
      exact ⟨before, tree, written ▸ same⟩
  | succ depth ih =>
      intro text value rest read
      obtain ⟨before, same⟩ := exists_blanks text
      obtain ⟨tree, written⟩ := exists_tree (depth + 1) (fun _ one => by cases one; exact ih) read
      exact ⟨before, tree, written ▸ same⟩

/-- The text is one written value, with blanks around it, that stands for the value. -/
def Stands (text : String) (value : Value) : Prop :=
  ∃ document : Padded Tree,
    text = String.ofList document.text ∧ document.value.value? maxDepth = some value

/-- Exactly the texts that stand for a value are read, and as that value. -/
theorem ofText_eq_ok_iff {text : String} {value : Value} :
    Value.ofText text = .ok value ↔ Stands text value :=
  document_eq_ok_iff (readsTrees maxDepth) (understands maxDepth)

/-- An object without blanks stands for the keys and the values of its members. -/
theorem stands_compact {members : List (String × Tree)} {values : List (String × Value)}
    (stand : members.mapM (fun member => (member.2.value? 126).map (member.1, ·)) = some values) :
    Stands (Document.compact members).text (.object values) := by
  refine ⟨⟨[], .object [] (Document.compact members).members, []⟩, rfl, ?_⟩
  rw [maxDepth, Tree.value?_object, Document.compact, List.mapM_map]
  simp only [Function.comp_def, Member.value?_compact, stand, Option.map_some]

end Value

end HealthWatch.Json
