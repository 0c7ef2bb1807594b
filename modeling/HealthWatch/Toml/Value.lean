import HealthWatch.Binary64.Decimal
import HealthWatch.Mismatch

/-! # TOML values

A document is a table. Its entries keep the order in which they were first written, and each
table remembers how it came about, because that decides what may still be added to it.
-/

namespace HealthWatch.Toml

/-- A number with a fraction or a power of ten. -/
inductive Float
  | finite (isNegative : Bool) (magnitude : Binary64)
  | infinite (isNegative : Bool)
  | notANumber
  deriving DecidableEq, Repr

/-- Floats are always written around a decimal point. -/
def floatStyle : DecimalStyle := ⟨fun _ => true⟩

/-- A float in words. -/
def Float.words : Float → String
  | finite isNegative magnitude => magnitude.text floatStyle isNegative
  | infinite isNegative => if isNegative then "-inf" else "inf"
  | notANumber => "NaN"

/-- How a table came about. -/
inductive Origin
  /-- It has a header of its own, or is written in braces. -/
  | stated
  /-- The header of a table below it names it. -/
  | implied
  /-- A dotted key names it. -/
  | dotted
  deriving DecidableEq, Repr

/-- A value of a document. -/
inductive Value
  | string (text : String)
  | integer (value : Int)
  | float (value : Float)
  | boolean (value : Bool)
  /-- A date, a time, or both. -/
  | datetime
  | array (elements : List Value)
  /-- A table written in braces, or made by dotted keys inside one. -/
  | inline (origin : Origin) (entries : List (String × Value))
  /-- A table of the document. -/
  | table (origin : Origin) (entries : List (String × Value))
  /-- The tables that share a header with doubled brackets. -/
  | tables (elements : List (List (String × Value)))

/-- The entries of a table. -/
abbrev Entries := List (String × Value)

/-- What a value is found to be when another was expected. -/
def Value.found : Value → Found
  | string text => .text text
  | integer value => .integer value
  | float value => .float value.words
  | boolean value => .boolean value
  | datetime | inline _ _ | table _ _ => .map
  | array _ | tables _ => .sequence

namespace Entries

/-- The value under a key. -/
def find? (key : String) : Entries → Option Value
  | [] => none
  | (other, value) :: rest => if other = key then some value else find? key rest

/-- The entries with the value under a key replaced where it stands. -/
def replace (key : String) (value : Value) : Entries → Entries
  | [] => []
  | (other, old) :: rest =>
      if other = key then (key, value) :: rest else (other, old) :: replace key value rest

/-- The entries without a key. -/
def erase (key : String) (entries : Entries) : Entries :=
  entries.filter fun entry => entry.1 ≠ key

/-- Adds an entry at the end, if the key is new. -/
def add? (key : String) (value : Value) (entries : Entries) : Option Entries :=
  match find? key entries with
  | some _ => none
  | none => some (entries ++ [(key, value)])

/-- Changes the table that a path leads to, starting from a table with the given origin. Tables
missing on the way are made. By dotted keys no table with a header of its own is entered.
`inside` says whether the tables are those of a table in braces. -/
def changeAt {α : Type} (inside byDots : Bool) :
    Origin → List String → Entries → (Origin → Entries → Option (α × Entries)) →
      Option (α × Entries)
  | origin, [], entries, change => change origin entries
  | _, key :: path, entries, change =>
      let wrap (origin : Origin) (below : Entries) : Value :=
        if inside then .inline origin below else .table origin below
      let enter (origin : Origin) (below : Entries) : Option (α × Entries) :=
        if byDots ∧ origin = .stated then none
        else
          (changeAt inside byDots origin path below change).map fun (result, below) =>
            (result, replace key (wrap origin below) entries)
      match find? key entries with
      | none =>
          let origin := if byDots then .dotted else .implied
          (changeAt inside byDots origin path [] change).map fun (result, below) =>
            (result, entries ++ [(key, wrap origin below)])
      | some (.table origin below) => if inside then none else enter origin below
      | some (.inline origin below) => if inside then enter origin below else none
      | some (.tables elements) =>
          match elements.reverse with
          | [] => none
          | last :: before =>
              (changeAt inside byDots .stated path last change).map fun (result, last) =>
                (result, replace key (.tables (before.reverse ++ [last])) entries)
      | some _ => none

/-- Adds a value under a dotted key. A key with one part may not go into a table made by
dotted keys, nor one with more parts into any other. -/
def addDotted? (inside : Bool) (path : List String) (key : String) (value : Value)
    (entries : Entries) : Option Entries :=
  (changeAt inside true .stated path entries fun origin below =>
    if (origin = .dotted) = path.isEmpty then none
    else (add? key value below).map fun below => ((), below)).map Prod.snd

end Entries

end HealthWatch.Toml
