import HealthWatch.Bytes
import HealthWatch.IoFault

/-! # Files

Reading a file gives its bytes or the fault that the operating system reports. `FileTree`
is a finite tree of directories in which paths are looked up component by component, and
`Reader` is any way of reading files by their path.
-/

namespace HealthWatch

/-- A way of reading whole files. -/
abbrev FileReader := Bytes → Except IoFault Bytes

/-- The content of a file as text. -/
def FileReader.text (read : FileReader) (path : Bytes) : Except IoFault String :=
  match read path with
  | .error fault => .error fault
  | .ok content =>
      match content.text? with
      | some text => .ok text
      | none => .error .notText

namespace Path

/-- The byte between the components of a path. -/
def separator : UInt8 := 0x2F

/-- A path below a directory. -/
def join (directory : Bytes) (name : String) : Bytes :=
  let needed := directory.getLast?.any (· ≠ separator)
  directory ++ (if needed then [separator] else []) ++ Bytes.ofText name

/-- The parts of a path between separators, empty ones included. -/
def parts (path : Bytes) : List Bytes := path.splitOn separator

/-- The name for the directory itself. -/
def here : Bytes := [0x2E]

/-- The name for the directory above. -/
def above : Bytes := [0x2E, 0x2E]

/-- Whether the path begins at the root. -/
def isAbsolute (path : Bytes) : Bool := path.head? = some separator

/-- The components that tell one path from another: repeated separators and names for the
directory itself do not count, except such a name at the start of a relative path. -/
def components (path : Bytes) : List Bytes :=
  let named := (parts path).filter fun part => part ≠ [] ∧ part ≠ here
  if isAbsolute path then [separator] :: named
  else if (parts path).head? = some here then here :: named
  else named

end Path

/-- A file, or a directory with its entries. -/
inductive FileTree
  | file (content : Bytes)
  | directory (entries : List (Bytes × FileTree))

namespace FileTree

/-- The longest name of an entry. -/
def maxName : Nat := 255

/-- The longest path. -/
def maxPath : Nat := 4095

/-- The entry of a directory with a name. -/
def child? (name : Bytes) : List (Bytes × FileTree) → Option FileTree
  | [] => none
  | (other, tree) :: rest => if other = name then some tree else child? name rest

/-- The tree with a file or directory put below it; directories on the way are made. -/
def insert (tree : FileTree) : List Bytes → FileTree → FileTree
  | [], leaf => leaf
  | name :: path, leaf =>
      match tree with
      | file content => file content
      | directory entries =>
          let below := ((child? name entries).getD (directory [])).insert path leaf
          directory ((entries.filter fun entry => entry.1 ≠ name) ++ [(name, below)])

/-- What the parts of a path lead to from `tree`. `above` holds the directories above it, the
nearest first. An empty part at the end asks for a directory, as the name for the directory
itself does. -/
def walk : List FileTree → FileTree → List Bytes → Except IoFault FileTree
  | _, tree, [] => .ok tree
  | above, tree, part :: rest =>
      match tree with
      | file _ => .error .notADirectory
      | directory entries =>
          if part = [] ∨ part = Path.here then walk above tree rest
          else if part = Path.above then
            match above with
            | [] => walk [] tree rest
            | parent :: more => walk more parent rest
          else if maxName < part.length then .error .nameTooLong
          else
            match child? part entries with
            | some next => walk (tree :: above) next rest
            | none => .error .notFound

/-- Reads a file by its path. Relative paths begin in the working directory, whose own
absolute path is `home`. -/
def read (root : FileTree) (home : List Bytes) (path : Bytes) : Except IoFault Bytes :=
  if path.contains 0 then .error .nulInPath
  else if path = [] then .error .notFound
  else if maxPath < path.length then .error .nameTooLong
  else
    let start := if Path.isAbsolute path then [] else home
    match walk [] root (start ++ Path.parts path) with
    | .error fault => .error fault
    | .ok (directory _) => .error .isADirectory
    | .ok (file content) => .ok content

end FileTree

end HealthWatch
