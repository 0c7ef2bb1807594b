import HealthWatch.Toml.Lexeme

/-! # TOML documents

`Toml.parse` gives the table that a document stands for, or nothing when the document is not
well formed: a key or a table that is given twice makes it malformed too.
-/

namespace HealthWatch.Toml

/-- Reads entries of a table in braces, the opening brace having been read. -/
def inlineEntries (value : Reader Value) : Nat → Bool → Entries → Reader Entries
  | 0, _, _, _ => none
  | fuel + 1, first, entries, text =>
      let one (text : List Char) : Option (Entries × List Char) :=
        match key text with
        | some ((path, last), '=' :: rest) =>
            match value (skipBlanks rest) with
            | none => none
            | some (added, rest) =>
                match entries.addDotted? true path last added with
                | none => none
                | some entries => inlineEntries value fuel false entries rest
        | _ => none
      match skipBlanks text with
      | '\x7d' :: rest => some (entries, rest)
      | ',' :: rest => if first then none else one rest
      | text => if first then one text else none

/-- Reads the elements of an array, the opening bracket having been read. -/
def arrayElements (value : Reader Value) : Nat → Bool → List Value → Reader (List Value)
  | 0, _, _, _ => none
  | fuel + 1, first, elements, text =>
      let one (text : List Char) : Option (List Value × List Char) :=
        match value text with
        | some (element, rest) => arrayElements value fuel false (element :: elements) rest
        | none => none
      match skipLines (text.length + 1) text with
      | none => none
      | some (']' :: rest) => some (elements.reverse, rest)
      | some (',' :: rest) =>
          if first then none
          else
            match skipLines (rest.length + 1) rest with
            | none => none
            | some (']' :: rest) => some (elements.reverse, rest)
            | some text => one text
      | some text => if first then one text else none

/-- The deepest nesting of brackets and braces in a value. -/
def maxDepth : Nat := 79

/-- Reads a value nested at most `depth` deep. -/
def value : Nat → Reader Value
  | _, [] => none
  | depth, c :: rest =>
      if c = '"' ∨ c = '\'' then
        (string (c :: rest)).map fun (text, rest) => (.string text, rest)
      else if c = '[' then
        match depth with
        | 0 => none
        | depth + 1 =>
            (arrayElements (value depth) (rest.length + 1) true [] rest).map
              fun (elements, rest) => (.array elements, rest)
      else if c = '\x7b' then
        match depth with
        | 0 => none
        | depth + 1 =>
            (inlineEntries (value depth) (rest.length + 1) true [] rest).map
              fun (entries, rest) => (.inline .stated entries, rest)
      else
        match c :: rest with
        | 't' :: 'r' :: 'u' :: 'e' :: rest => some (.boolean true, rest)
        | 'f' :: 'a' :: 'l' :: 's' :: 'e' :: rest => some (.boolean false, rest)
        | text =>
            match datetime text with
            | some result => some result
            | none => number text

/-- A document that is being read: its tables so far, and the table that entries go to. -/
structure Draft where
  root : Entries
  /-- Where the current table will stand, and whether it is one of several with its header;
  nothing for the table of the document itself. -/
  place : Option (List String × String × Bool)
  current : Entries

namespace Draft

/-- Nothing has been read. -/
def empty : Draft := ⟨[], none, []⟩

/-- The tables with the current one put in its place. -/
def close (draft : Draft) : Option Entries :=
  match draft.place with
  | none => some draft.current
  | some (path, key, true) =>
      (Entries.changeAt false false .stated path draft.root fun _ entries =>
        match entries.find? key with
        | none => some ((), entries ++ [(key, .tables [draft.current])])
        | some (.tables elements) =>
            some ((), entries.replace key (.tables (elements ++ [draft.current])))
        | some _ => none).map Prod.snd
  | some (path, key, false) =>
      (Entries.changeAt false false .stated path draft.root fun _ entries =>
        match entries.find? key with
        | none => some ((), entries ++ [(key, .table .stated draft.current)])
        | some (.table origin _) =>
            if origin = .stated then none
            else some ((), entries.replace key (.table .stated draft.current))
        | some _ => none).map Prod.snd

/-- Begins the table with a header. A table that deeper headers have implied is taken up with
what it holds. -/
def openTable (draft : Draft) (path : List String) (key : String) : Option Draft :=
  match draft.close with
  | none => none
  | some root =>
      (Entries.changeAt false false .stated path root fun _ entries =>
        match entries.find? key with
        | none => some ([], entries)
        | some (.table .implied below) => some (below, entries.erase key)
        | some _ => none).map fun (current, root) => ⟨root, some (path, key, false), current⟩

/-- Begins the next of several tables with one header. -/
def openElement (draft : Draft) (path : List String) (key : String) : Option Draft :=
  match draft.close with
  | none => none
  | some root =>
      (Entries.changeAt false false .stated path root fun _ entries =>
        match entries.find? key with
        | none => some ((), entries ++ [(key, .tables [])])
        | some (.tables _) => some ((), entries)
        | some _ => none).map fun (_, root) => ⟨root, some (path, key, true), []⟩

/-- Adds an entry to the current table. -/
def add (draft : Draft) (path : List String) (key : String) (value : Value) : Option Draft :=
  (draft.current.addDotted? false path key value).map fun current => { draft with current }

/-- Reads the line of a header, an entry or nothing, and gives the draft after it. -/
def line (draft : Draft) (text : List Char) : Option (Draft × List Char) :=
  match text with
  | '[' :: '[' :: rest =>
      match key rest with
      | some ((path, last), ']' :: ']' :: rest) =>
          match draft.openElement path last, endOfLine rest with
          | some draft, some rest => some (draft, rest)
          | _, _ => none
      | _ => none
  | '[' :: rest =>
      match key rest with
      | some ((path, last), ']' :: rest) =>
          match draft.openTable path last, endOfLine rest with
          | some draft, some rest => some (draft, rest)
          | _, _ => none
      | _ => none
  | '#' :: _ | '\n' :: _ | '\r' :: _ => (endOfLine text).map (draft, ·)
  | _ =>
      match key text with
      | some ((path, last), '=' :: rest) =>
          match value maxDepth (skipBlanks rest) with
          | none => none
          | some (added, rest) =>
              match draft.add path last added, endOfLine rest with
              | some draft, some rest => some (draft, rest)
              | _, _ => none
      | _ => none

/-- Reads all lines that are left. -/
def lines : Nat → Draft → List Char → Option Entries
  | 0, _, _ => none
  | fuel + 1, draft, text =>
      match skipBlanks text with
      | [] => draft.close
      | text =>
          match draft.line text with
          | some (draft, rest) => lines fuel draft rest
          | none => none

end Draft

/-- The table that a document stands for. A byte order mark at the start is passed over. -/
def parse (document : String) : Option Entries :=
  let text := match document.toList with
    | '\uFEFF' :: rest => rest
    | text => text
  Draft.empty.lines (text.length + 1) text

end HealthWatch.Toml
