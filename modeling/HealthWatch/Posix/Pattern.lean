import HealthWatch.Posix.Utility

/-! # Patterns

The patterns by which a shell chooses: a star stands for anything, a question mark for one
character, and brackets for one of several.
-/

namespace HealthWatch.Posix.Pattern

/-- A part of a pattern. -/
inductive Part
  | char (char : Char)
  | anyChar
  | anything
  /-- A character that is in the set, or one that is not. -/
  | oneOf (set : List Char) (expected : Bool)
  deriving DecidableEq, Repr

/-- The parts that characters without quotes stand for. `fuel` bounds their number. -/
def partsOf : Nat → List Char → List Part
  | fuel + 1, '*' :: rest => .anything :: partsOf fuel rest
  | fuel + 1, '?' :: rest => .anyChar :: partsOf fuel rest
  | fuel + 1, '[' :: rest =>
      match rest.span (· ≠ ']') with
      | ('!' :: first :: set, _ :: rest) =>
          .oneOf (Utility.setOf (first :: set)) false :: partsOf fuel rest
      | (first :: set, _ :: rest) =>
          .oneOf (Utility.setOf (first :: set)) true :: partsOf fuel rest
      | _ => .char '[' :: partsOf fuel rest
  | fuel + 1, char :: rest => .char char :: partsOf fuel rest
  | _, _ => []

/-- Whether a text is one that a pattern stands for. -/
def fits : List Part → List Char → Bool
  | [], text => text.isEmpty
  | .anything :: parts, text =>
      (List.range (text.length + 1)).any fun skipped => fits parts (text.drop skipped)
  | _ :: _, [] => false
  | .char expected :: parts, char :: text => char == expected && fits parts text
  | .anyChar :: parts, _ :: text => fits parts text
  | .oneOf set expected :: parts, char :: text => set.contains char == expected && fits parts text

end HealthWatch.Posix.Pattern
