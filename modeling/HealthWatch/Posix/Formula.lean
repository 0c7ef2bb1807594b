import HealthWatch.Posix.Signal

/-! # Formulas of integers

The formulas that a shell calculates. `Formula.value` reads the operators by their strength,
weakest first; operators of one strength are taken from left to right.
-/

namespace HealthWatch.Posix.Formula

/-- Why a formula has no value. -/
inductive Fault
  | divisionByZero
  | malformed
  deriving DecidableEq, Repr

/-- What is said about a fault. -/
def Fault.message : Fault → String
  | divisionByZero => "division by zero"
  | malformed => "expecting primary"

/-- A part of a formula. -/
inductive Part
  | number (value : Int)
  | operator (text : String)
  deriving DecidableEq, Repr

/-- The operators, longer ones first. -/
def operators : List String :=
  ["&&", "||", "==", "!=", "<=", ">=", "+", "-", "*", "/", "%", "<", ">", "!", "(", ")"]

/-- The number of a truth. -/
def ofTruth (truth : Bool) : Int := if truth then 1 else 0

/-- What an operator makes of two numbers; nothing can be divided by zero. -/
def combine (operator : String) (left right : Int) : Except Fault Int :=
  match operator with
  | "||" => .ok (ofTruth (left != 0 || right != 0))
  | "&&" => .ok (ofTruth (left != 0 && right != 0))
  | "==" => .ok (ofTruth (left == right))
  | "!=" => .ok (ofTruth (left != right))
  | "<" => .ok (ofTruth (left < right))
  | "<=" => .ok (ofTruth (left ≤ right))
  | ">" => .ok (ofTruth (left > right))
  | ">=" => .ok (ofTruth (left ≥ right))
  | "+" => .ok (left + right)
  | "-" => .ok (left - right)
  | "*" => .ok (left * right)
  | "/" => if right = 0 then .error .divisionByZero else .ok (left.tdiv right)
  | "%" => if right = 0 then .error .divisionByZero else .ok (left.tmod right)
  | _ => .error .malformed

/-- The operators of each strength, weakest first. -/
def strengths : List (List String) :=
  [["||"], ["&&"], ["==", "!="], ["<", "<=", ">", ">="], ["+", "-"], ["*", "/", "%"]]

/-- The parts of a formula whose names have the given values. `fuel` bounds their number. -/
def split (valueOf : List Char → Int) : Nat → List Char → Option (List Part)
  | _, [] => some []
  | 0, _ => none
  | fuel + 1, char :: rest =>
      if char = ' ' ∨ char = '\t' ∨ char = '\n' then split valueOf fuel rest
      else if char = '$' then
        let (digits, left) := rest.span Char.isDigit
        if digits = [] then split valueOf fuel rest
        else (split valueOf fuel left).map (.number (valueOf digits) :: ·)
      else if char.isDigit then
        let (digits, rest) := (char :: rest).span Char.isDigit
        match Signal.number? digits with
        | some number => (split valueOf fuel rest).map (.number number :: ·)
        | none => none
      else if char.isAlpha ∨ char = '_' ∨ char = '#' ∨ char = '?' then
        let (name, rest) := rest.span fun other => other.isAlphanum || other == '_'
        (split valueOf fuel rest).map (.number (valueOf (char :: name)) :: ·)
      else
        match operators.find? fun text => text.toList.isPrefixOf (char :: rest) with
        | some text =>
            (split valueOf fuel ((char :: rest).drop text.length)).map (.operator text :: ·)
        | none => none

mutual

/-- A formula of the given strengths and the parts that follow it. -/
def levelAt : Nat → List (List String) → List Part → Except Fault (Int × List Part)
  | 0, _, _ => .error .malformed
  | fuel + 1, [], parts => atomAt fuel parts
  | fuel + 1, strength :: stronger, parts =>
      match levelAt fuel stronger parts with
      | .ok (left, rest) => restAt fuel strength stronger left rest
      | .error fault => .error fault

/-- The operators of one strength that follow a value, with their right operands. -/
def restAt : Nat → List String → List (List String) → Int → List Part →
    Except Fault (Int × List Part)
  | 0, _, _, _, _ => .error .malformed
  | fuel + 1, strength, stronger, left, .operator text :: rest =>
      if strength.contains text then
        match levelAt fuel stronger rest with
        | .ok (right, rest) =>
            match combine text left right with
            | .ok value => restAt fuel strength stronger value rest
            | .error fault => .error fault
        | .error fault => .error fault
      else .ok (left, .operator text :: rest)
  | _ + 1, _, _, left, rest => .ok (left, rest)

/-- A number, a formula in parentheses, or one of these with a sign. -/
def atomAt : Nat → List Part → Except Fault (Int × List Part)
  | 0, _ => .error .malformed
  | _ + 1, .number value :: rest => .ok (value, rest)
  | fuel + 1, .operator text :: rest =>
      if text = "(" then
        match levelAt fuel strengths rest with
        | .ok (value, .operator ")" :: rest) => .ok (value, rest)
        | .ok _ => .error .malformed
        | .error fault => .error fault
      else
        match atomAt fuel rest with
        | .ok (value, rest) =>
            if text = "-" then .ok (-value, rest)
            else if text = "+" then .ok (value, rest)
            else if text = "!" then .ok (ofTruth (value == 0), rest)
            else .error .malformed
        | .error fault => .error fault
  | _ + 1, [] => .error .malformed

end

/-- The value of a formula. An empty formula is zero. -/
def value (valueOf : List Char → Int) (formula : List Char) : Except Fault Int :=
  match split valueOf formula.length formula with
  | none => .error .malformed
  | some [] => .ok 0
  | some parts =>
      match levelAt (8 * parts.length + 8) strengths parts with
      | .ok (value, []) => .ok value
      | .ok _ => .error .malformed
      | .error fault => .error fault

end HealthWatch.Posix.Formula
