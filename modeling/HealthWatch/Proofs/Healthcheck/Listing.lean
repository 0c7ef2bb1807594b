import HealthWatch.Proofs.Bytes
import HealthWatch.Proofs.Healthcheck.Values
import HealthWatch.Supervisor

/-! # What is shown of a healthcheck

The text that shows a healthcheck has one line for each of its values, and whoever reads it knows
them all: no arguments look like others (`Text.Quoted.encodeAll_injective`), whatever they hold and
whichever characters are shown as they are. That is because each part of the line with the command
says itself where it ends (`Text.Delimits`), from the single character up to the whole list.
-/

namespace HealthWatch

namespace Text

/-! ## Digits -/

/-- Digits are told apart by their characters. -/
theorem digitChar_inj {first second : Nat} (small : first < 16) (small' : second < 16)
    (same : Nat.digitChar first = Nat.digitChar second) : first = second := by
  have all : ∀ first < 16, ∀ second < 16,
      Nat.digitChar first = Nat.digitChar second → first = second := by decide
  exact all first small second small' same

variable {base : Nat}

/-- Numbers are told apart by their digits. -/
theorem toDigits_injective (large : 1 < base) (few : base ≤ 16) :
    Function.Injective (Nat.toDigits base) := by
  intro first
  induction first using Nat.strongRecOn with
  | ind first ih =>
      intro second same
      rw [Nat.toDigits_eq_if large, Nat.toDigits_eq_if (n := second) large] at same
      have leading (number : Nat) : Nat.toDigits base number ≠ [] := Nat.toDigits_ne_nil
      split at same <;> split at same
      · exact digitChar_inj (by omega) (by omega) (List.singleton_inj.mp same)
      · exact absurd (List.append_eq_singleton_iff.mp same.symm) (by simp [leading])
      · exact absurd (List.append_eq_singleton_iff.mp same) (by simp [leading])
      · obtain ⟨front, last⟩ := List.append_inj' same rfl
        have quotient := ih (first / base) (Nat.div_lt_self (by omega) large) front
        have bound (number : Nat) : number % base < 16 :=
          Nat.lt_of_lt_of_le (Nat.mod_lt _ (by omega)) few
        have remainder := digitChar_inj (bound first) (bound second) (List.singleton_inj.mp last)
        rw [← Nat.div_add_mod first base, quotient, remainder, Nat.div_add_mod]

/-- The characters of a number are digits. -/
theorem exists_digit_of_mem (large : 1 < base) {number : Nat} {c : Char}
    (member : c ∈ Nat.toDigits base number) : ∃ digit, c = Nat.digitChar digit := by
  induction number using Nat.strongRecOn with
  | ind number ih =>
      rw [Nat.toDigits_eq_if large] at member
      split at member
      · exact ⟨number, List.mem_singleton.mp member⟩
      · cases List.mem_append.mp member with
        | inl front => exact ih (number / base) (Nat.div_lt_self (by omega) large) front
        | inr last => exact ⟨number % base, List.mem_singleton.mp last⟩

/-- The number of a character holds digits only. -/
theorem notMem_hexOf {c : Char} (c' : Char)
    (digit : ∀ number, Nat.digitChar number ≠ c') : c' ∉ hexOf c := by
  intro member
  obtain ⟨number, same⟩ := exists_digit_of_mem (by decide) member
  exact digit number same.symm

/-! ## Codes that say where they end -/

/-- A way to write values one after the other, up to a character that ends them all. -/
structure Delimits {α : Type} (write : α → List Char) (stop : Char) : Prop where
  /-- What is written of a value says which value it is and where it ends. -/
  apart : ∀ {first second : α} {rest following : List Char},
    write first ++ rest = write second ++ following → first = second ∧ rest = following
  /-- What is written of a value does not begin like the end. -/
  goesOn : ∀ (value : α) (rest following : List Char), write value ++ rest ≠ stop :: following

/-- Values that are written up to the end are told apart, and so is what follows the end. -/
theorem Delimits.flatMap {α : Type} {write : α → List Char} {stop : Char}
    (delimits : Delimits write stop) {firsts seconds : List α} {rest following : List Char}
    (same : firsts.flatMap write ++ stop :: rest = seconds.flatMap write ++ stop :: following) :
    firsts = seconds ∧ rest = following := by
  induction firsts generalizing seconds with
  | nil =>
      cases seconds with
      | nil => exact ⟨rfl, List.tail_eq_of_cons_eq same⟩
      | cons second seconds =>
          rw [List.flatMap_cons, List.append_assoc] at same
          exact absurd same.symm (delimits.goesOn second _ _)
  | cons first firsts ih =>
      cases seconds with
      | nil =>
          rw [List.flatMap_cons, List.append_assoc] at same
          exact absurd same (delimits.goesOn first _ _)
      | cons second seconds =>
          simp only [List.flatMap_cons, List.append_assoc] at same
          obtain ⟨head, tail⟩ := delimits.apart same
          obtain ⟨values, ends⟩ := ih tail
          exact ⟨by rw [head, values], ends⟩

namespace Quoted

/-! ## Characters -/

/-- The characters with a short name, and their names. -/
def names : List (Char × Char) :=
  [('\x00', '0'), ('\t', 't'), ('\r', 'r'), ('\n', 'n'), ('"', '"'), ('\\', '\\')]

/-- How a character may stand inside quotes, whichever characters are shown as they are. -/
inductive Stands (c : Char) : List Char → Prop
  | name {short : Char} (named : (c, short) ∈ names) : Stands c ['\\', short]
  | itself (unnamed : ∀ short, (c, short) ∉ names) : Stands c [c]
  | codePoint : Stands c (['\\', 'u', '\x7b'] ++ hexOf c ++ ['\x7d'])

/-- A character with a short name is written by this name. -/
theorem encodeChar_of_named {c short : Char} (plain : Char → Bool) (named : (c, short) ∈ names) :
    encodeChar plain c = ['\\', short] := by
  simp only [names, List.mem_cons, Prod.mk.injEq, List.not_mem_nil, or_false] at named
  obtain ⟨rfl, rfl⟩ | ⟨rfl, rfl⟩ | ⟨rfl, rfl⟩ | ⟨rfl, rfl⟩ | ⟨rfl, rfl⟩ | ⟨rfl, rfl⟩ := named
  all_goals rfl

/-- A character without a short name is written as it is, or by its number. -/
theorem encodeChar_of_unnamed {c : Char} (plain : Char → Bool)
    (unnamed : ∀ short, (c, short) ∉ names) :
    encodeChar plain c =
      if plain c then [c] else ['\\', 'u', '\x7b'] ++ hexOf c ++ ['\x7d'] := by
  have different {other : Char} (short : Char) (named : (other, short) ∈ names) : c ≠ other := by
    intro same
    exact unnamed short (same ▸ named)
  unfold encodeChar
  rw [if_neg (different '0' (by decide)), if_neg (different 't' (by decide)),
    if_neg (different 'r' (by decide)), if_neg (different 'n' (by decide)),
    if_neg (different '"' (by decide)), if_neg (different '\\' (by decide))]

/-- What a character is written as stands for this character. -/
theorem stands_encodeChar (plain : Char → Bool) (c : Char) : Stands c (encodeChar plain c) := by
  by_cases named : ∃ short, (c, short) ∈ names
  · obtain ⟨short, named⟩ := named
    rw [encodeChar_of_named plain named]
    exact .name named
  · have unnamed := not_exists.mp named
    rw [encodeChar_of_unnamed plain unnamed]
    split
    · exact .itself unnamed
    · exact .codePoint

namespace Stands

variable {c d : Char} {code other rest following : List Char}

/-- A character that stands as itself does not begin like an escape. -/
theorem ne_backslash (unnamed : ∀ short, (c, short) ∉ names) : c ≠ '\\' := by
  intro same
  exact unnamed '\\' (by rw [same]; decide)

/-- No short name is the letter that begins a number, or an end of a line. -/
theorem name_ne {short : Char} (named : (c, short) ∈ names) : short ≠ 'u' ∧ short ≠ '\n' := by
  have all : ∀ entry ∈ names, entry.2 ≠ 'u' ∧ entry.2 ≠ '\n' := by decide
  exact all _ named

/-- Characters are told apart by their short names. -/
theorem name_inj {short : Char} (named : (c, short) ∈ names) (named' : (d, short) ∈ names) :
    c = d := by
  have all : ∀ entry ∈ names, ∀ entry' ∈ names, entry.2 = entry'.2 → entry.1 = entry'.1 := by
    decide
  exact all _ named _ named' rfl

/-- The brace ends the digits, so two code points in braces are read digit by digit. -/
theorem codePoint_inj (same : hexOf c ++ '\x7d' :: rest = hexOf d ++ '\x7d' :: following) :
    c = d ∧ rest = following := by
  have brace (c : Char) : '\x7d' ∉ hexOf c := notMem_hexOf _ fun _ => Nat.digitChar_ne _ rfl
  have parts := congrArg (List.splitOn '\x7d') same
  rw [List.splitOn_append_cons_self_of_not_mem (brace c),
    List.splitOn_append_cons_self_of_not_mem (brace d)] at parts
  have digits : hexOf c = hexOf d := List.head_eq_of_cons_eq parts
  rw [digits] at same
  exact ⟨Char.toNat_inj.mp (toDigits_injective (by decide) (by decide) digits),
    List.tail_eq_of_cons_eq (List.append_cancel_left same)⟩

/-- What stands for a character says which it is and where it ends. -/
theorem apart (stands : Stands c code) (stands' : Stands d other)
    (same : code ++ rest = other ++ following) : c = d ∧ rest = following := by
  cases stands with
  | name named =>
      obtain ⟨different, -⟩ := name_ne named
      cases stands' with
      | name named' =>
          obtain ⟨rfl, ends⟩ := List.cons.inj (List.tail_eq_of_cons_eq same)
          exact ⟨name_inj named named', ends⟩
      | itself unnamed => exact absurd (List.head_eq_of_cons_eq same).symm (ne_backslash unnamed)
      | codePoint =>
          exact absurd (List.head_eq_of_cons_eq (List.tail_eq_of_cons_eq same)) different
  | itself unnamed =>
      have begins := ne_backslash unnamed
      cases stands' with
      | name named => exact absurd (List.head_eq_of_cons_eq same) begins
      | itself => exact List.cons.inj same
      | codePoint => exact absurd (List.head_eq_of_cons_eq same) begins
  | codePoint =>
      cases stands' with
      | name named =>
          obtain ⟨different, -⟩ := name_ne named
          exact absurd (List.head_eq_of_cons_eq (List.tail_eq_of_cons_eq same)).symm different
      | itself unnamed => exact absurd (List.head_eq_of_cons_eq same).symm (ne_backslash unnamed)
      | codePoint =>
          simp only [List.append_assoc, List.singleton_append] at same
          exact codePoint_inj (List.append_cancel_left same)

/-- No character stands as something that begins like the end of the quotes. -/
theorem ne_quote (stands : Stands c code) : code ++ rest ≠ '"' :: following := by
  intro same
  cases stands with
  | name named => exact absurd (List.head_eq_of_cons_eq same) (by decide)
  | itself unnamed =>
      have begins : c = '"' := List.head_eq_of_cons_eq same
      exact unnamed '"' (by rw [begins]; decide)
  | codePoint => exact absurd (List.head_eq_of_cons_eq same) (by decide)

/-- What stands for a character does not end the line. -/
theorem noLineEnd (stands : Stands c code) : '\n' ∉ code := by
  intro member
  cases stands with
  | name named =>
      obtain ⟨-, different⟩ := name_ne named
      simp only [List.mem_cons, List.not_mem_nil, or_false] at member
      exact member.elim (by decide) fun same => different same.symm
  | itself unnamed =>
      have same : '\n' = c := List.mem_singleton.mp member
      exact unnamed 'n' (by rw [← same]; decide)
  | codePoint =>
      have digits : '\n' ∉ hexOf c := notMem_hexOf _ fun _ => Nat.digitChar_ne _ rfl
      simp only [List.mem_append, List.mem_cons, List.not_mem_nil, digits, or_false] at member
      revert member
      decide

end Stands

/-! ## Texts in quotes -/

variable (plain : Char → Bool)

/-- Characters that are written one after the other are told apart, up to the closing quote. -/
theorem delimits_encodeChar : Delimits (encodeChar plain) '"' where
  apart same := (stands_encodeChar plain _).apart (stands_encodeChar plain _) same
  goesOn c _ _ := (stands_encodeChar plain c).ne_quote

theorem encode_append (text rest : List Char) :
    encode plain text ++ rest = '"' :: (text.flatMap (encodeChar plain) ++ '"' :: rest) := by
  rw [encode, List.append_assoc, List.cons_append, List.singleton_append]

/-- A quoted text that follows another in brackets. -/
def encodeNext (text : List Char) : List Char := [',', ' '] ++ encode plain text

/-- Texts that are written one after the other are told apart, up to the closing bracket. -/
theorem delimits_encodeNext : Delimits (encodeNext plain) ']' where
  apart same := by
    simp only [encodeNext, List.append_assoc, encode_append] at same
    exact (delimits_encodeChar plain).flatMap
      (List.tail_eq_of_cons_eq (List.append_cancel_left same))
  goesOn _ _ _ same := absurd (List.head_eq_of_cons_eq same) (by decide)

/-- Texts with commas between them are the first one and the others with a comma before each. -/
theorem intercalate_cons {α : Type} (comma first : List α) (texts : List (List α)) :
    comma.intercalate (first :: texts) = first ++ texts.flatMap (comma ++ ·) := by
  induction texts generalizing first with
  | nil => rw [List.intercalate_singleton, List.flatMap_nil, List.append_nil]
  | cons next texts ih =>
      rw [List.intercalate_cons_cons, ih, List.flatMap_cons]
      simp only [List.append_assoc]

theorem encodeAll_cons (text : List Char) (texts : List (List Char)) :
    encodeAll plain (text :: texts) =
      '[' :: (encode plain text ++ texts.flatMap (encodeNext plain) ++ [']']) := by
  rw [encodeAll, List.map_cons, intercalate_cons, List.flatMap_map, List.cons_append]
  rfl

/-- Arguments that are shown the same are the same. -/
theorem encodeAll_injective : Function.Injective (encodeAll plain) := by
  have opens (text : List Char) (texts : List (List Char)) :
      encodeAll plain [] ≠ encodeAll plain (text :: texts) := by
    rw [encodeAll_cons]
    intro same
    exact absurd (List.head_eq_of_cons_eq (List.tail_eq_of_cons_eq same)) (by decide)
  intro firsts seconds same
  cases firsts with
  | nil =>
      cases seconds with
      | nil => rfl
      | cons second seconds => exact absurd same (opens second seconds)
  | cons first firsts =>
      cases seconds with
      | nil => exact absurd same.symm (opens first firsts)
      | cons second seconds =>
          rw [encodeAll_cons, encodeAll_cons] at same
          -- With a comma in front of the first text too, every text is written in the same way.
          have all := congrArg ([',', ' '] ++ ·) (List.tail_eq_of_cons_eq same)
          simp only [← List.append_assoc] at all
          change (first :: firsts).flatMap (encodeNext plain) ++ [']'] =
            (second :: seconds).flatMap (encodeNext plain) ++ [']'] at all
          exact ((delimits_encodeNext plain).flatMap all).1

/-- A text is written on one line. -/
theorem noLineEnd_encode (text : List Char) : '\n' ∉ encode plain text := by
  have inside : '\n' ∉ text.flatMap (encodeChar plain) := by
    intro member
    obtain ⟨c, -, member⟩ := List.mem_flatMap.mp member
    exact (stands_encodeChar plain c).noLineEnd member
  simp only [encode, List.mem_cons, List.mem_append, inside, Char.reduceEq, List.not_mem_nil,
    or_false, not_false_eq_true]

/-- A list of texts is written on one line. -/
theorem noLineEnd_encodeAll (texts : List (List Char)) : '\n' ∉ encodeAll plain texts := by
  cases texts with
  | nil =>
      change '\n' ∉ ['[', ']']
      decide
  | cons text texts =>
      rw [encodeAll_cons]
      simp only [encodeNext, List.mem_cons, List.mem_append, List.mem_flatMap, noLineEnd_encode,
        Char.reduceEq, List.not_mem_nil, or_false, and_false, exists_false, not_false_eq_true]

end Quoted

end Text

namespace Healthcheck

/-! ## Listings -/

variable (plain : Char → Bool)

/-- The text that shows a healthcheck, with a table of the characters shown as they are. -/
def shown (check : Healthcheck) : List Char := (check.lines plain).flatMap (· ++ ['\n'])

/-- No line of a listing holds an end of a line. -/
theorem noLineEnd_lines (check : Healthcheck) : ∀ line ∈ check.lines plain, '\n' ∉ line := by
  have number (value : UInt32) : '\n' ∉ Nat.toDigits 10 value.toNat := fun member =>
    absurd (Nat.isDigit_of_mem_toDigits (by decide) (by decide) member) (by decide)
  simp only [lines, List.forall_mem_cons, List.mem_append, not_or, number,
    Text.Quoted.noLineEnd_encodeAll, not_false_eq_true, and_true]
  exact ⟨by decide, by decide, by decide, by decide, by decide, List.forall_mem_nil _⟩

/-- A listing falls apart into its lines. -/
theorem splitOn_shown (check : Healthcheck) :
    (check.shown plain).splitOn '\n' = check.lines plain ++ [[]] :=
  Bytes.splitOn_flatMap (check.noLineEnd_lines plain)

/-- Numbers that are shown the same are the same. -/
theorem number_inj {first second : UInt32}
    (same : Nat.toDigits 10 first.toNat = Nat.toDigits 10 second.toNat) : first = second :=
  UInt32.toNat_inj.mp (Text.toDigits_injective (by decide) (by decide) same)

/-- Listings are told apart by the values that they show, and by all of them. -/
theorem shown_inj {check other : Healthcheck} :
    check.shown plain = other.shown plain ↔
      check.test = other.test ∧ check.interval = other.interval ∧ check.timeout = other.timeout ∧
        check.startPeriod = other.startPeriod ∧ check.retries = other.retries := by
  constructor
  · intro same
    have lines : check.lines plain ++ [[]] = other.lines plain ++ [[]] := by
      rw [← splitOn_shown, ← splitOn_shown, same]
    have lines := List.append_cancel_right lines
    simp only [Healthcheck.lines, List.cons.injEq, List.append_cancel_left_eq,
      List.append_cancel_right_eq, and_true] at lines
    obtain ⟨test, interval, timeout, startPeriod, retries⟩ := lines
    have test := Text.Quoted.encodeAll_injective plain test
    exact ⟨(List.map_inj_right fun _ _ => String.toList_inj.mp).mp test, number_inj interval,
      number_inj timeout, number_inj startPeriod, number_inj retries⟩
  · intro held
    obtain ⟨test, interval, timeout, startPeriod, retries⟩ := held
    rw [shown, shown, lines, lines, test, interval, timeout, startPeriod, retries]

theorem Made.enabled {check : Healthcheck} (made : check.Made) : check.enabled = true :=
  (Bool.and_eq_true_iff.mp made.runnable).1

/-- What is shown of a healthcheck, whichever characters the table shows as they are. -/
structure Legible (check : Healthcheck) : Prop where
  /-- Whatever the command holds, the text is five lines, each with a line end behind it. -/
  lines : ∀ plain, (check.lines plain).length = 5 ∧ (∀ line ∈ check.lines plain, '\n' ∉ line) ∧
    (check.shown plain).splitOn '\n' = check.lines plain ++ [[]]
  /-- Another text is the same exactly if all values are. -/
  values : ∀ plain (other : Healthcheck), check.shown plain = other.shown plain ↔
    check.test = other.test ∧ check.interval = other.interval ∧ check.timeout = other.timeout ∧
      check.startPeriod = other.startPeriod ∧ check.retries = other.retries
  /-- Among the healthchecks that were made of checked values, only this one has its text. -/
  unique : check.Made → ∀ plain (other : Healthcheck), other.Made →
    (check.shown plain = other.shown plain ↔ check = other)
  /-- The program prints this text, with its own table. -/
  printed : (Supervisor.Inspection.healthcheck check).text =
    String.ofList (check.shown Text.isPlain)

/-- **What a listing tells.** It has five lines, each with one value of the healthcheck, and two
healthchecks with one listing have the same values. -/
theorem legible (check : Healthcheck) : Legible check where
  lines plain := ⟨rfl, check.noLineEnd_lines plain, check.splitOn_shown plain⟩
  values plain _ := shown_inj plain
  unique made plain other made' := by
    rw [shown_inj]
    constructor
    · intro held
      obtain ⟨test, interval, timeout, startPeriod, retries⟩ := held
      have enabled : check.enabled = other.enabled := made.enabled.trans made'.enabled.symm
      cases check
      cases other
      congr
    · intro same
      rw [same]
      exact ⟨rfl, rfl, rfl, rfl, rfl⟩
  printed := rfl

end Healthcheck

end HealthWatch
