import HealthWatch.Posix.Flow
import HealthWatch.Posix.Signal

/-! # Utilities

The small programs that every system has, as functions of their arguments, of the moment at
which they start and of what comes through their standard input. Arguments and scripts are
read byte by byte: a character here stands for the byte with its number.
-/

namespace HealthWatch.Posix

/-- A byte string as characters, one for each byte. -/
def charsOf (bytes : Bytes) : List Char := bytes.map fun byte => Char.ofNat byte.toNat

/-- The bytes that characters below 256 stand for. -/
def bytesOf (chars : List Char) : Bytes := chars.map fun char => UInt8.ofNat char.toNat

/-- What running a utility comes to. -/
structure Effect where
  status : Nat
  /-- When it ends, if it does. -/
  ends : Option Nat
  output : Flow
  complaint : List Char
  /-- What is left of its standard input. -/
  left : Flow

/-- A utility: its arguments, its start and its input. -/
abbrev Utility := List (List Char) → Nat → Flow → Effect

namespace Utility

/-- Ends at once. -/
def ending (status : Nat) : Utility := fun _ start input =>
  ⟨status, some start, .nothing, [], input⟩

/-- Ends at once with a complaint. -/
def complaining (status : Nat) (complaint : String) : Utility := fun _ start input =>
  ⟨status, some start, .nothing, complaint.toList, input⟩

/-- Writes a text and ends at once. -/
def writing (status : Nat) (text : List Char) : Utility := fun _ start input =>
  ⟨status, some start, ⟨[(start, bytesOf text)], none, start⟩, [], input⟩

/-- Passes a changed flow on until its end. -/
def passing (change : Bytes → Bytes) (source : Flow) : Utility := fun _ start _ =>
  let flow := (source.since start).map change
  match flow.pattern with
  | some _ => ⟨0, none, flow, [], .nothing⟩
  | none => ⟨0, some flow.closed, flow, [], .nothing⟩

/-- The value of an octal digit. -/
def octal? (char : Char) : Option Nat :=
  if '0' ≤ char ∧ char ≤ '7' then some (char.toNat - '0'.toNat) else none

/-- At most `count` octal digits, their value, and what follows. -/
def octals : Nat → Nat → List Char → Nat × List Char
  | count + 1, value, char :: rest =>
      match octal? char with
      | some digit => octals count (value * 8 + digit) rest
      | none => (value, char :: rest)
  | _, value, rest => (value, rest)

/-- The character that a letter after a backslash stands for. -/
def escape? (letter : Char) : Option Char :=
  (List.lookup letter
    [('n', '\n'), ('t', '\t'), ('r', '\r'), ('a', '\x07'), ('b', '\x08'), ('f', '\x0c'),
      ('v', '\x0b'), ('\\', '\\')])

/-- A text with its backslash escapes carried out. `fuel` bounds the number of characters;
octal escapes have a leading zero in front of at most three digits when `leading` is set. -/
def unescape (leading : Bool) : Nat → List Char → List Char
  | fuel + 1, '\\' :: letter :: rest =>
      match escape? letter with
      | some char => char :: unescape leading fuel rest
      | none =>
          if (octal? letter).isSome && (!leading || letter == '0') then
            let (value, rest) := octals 3 0 (if leading then rest else letter :: rest)
            Char.ofNat (value % 256) :: unescape leading fuel rest
          else '\\' :: letter :: unescape leading fuel rest
  | fuel + 1, char :: rest => char :: unescape leading fuel rest
  | _, rest => rest

/-- The words of a list with blanks between them. -/
def joined (words : List (List Char)) : List Char := [' '].intercalate words

/-- Writes its arguments on one line. -/
def echo (escapes : Bool) : Utility := fun arguments start input =>
  let (newline, words) := match arguments with
    | ['-', 'n'] :: rest => ([], rest)
    | _ => (['\n'], arguments)
  let line := joined words
  let line := if escapes then unescape true line.length line else line
  writing 0 (line ++ newline) arguments start input

/-- One pass of a format over arguments: what is written, and the arguments not used. -/
def formatOnce : List Char → List (List Char) → List Char × List (List Char)
  | '%' :: '%' :: rest, arguments =>
      let (text, left) := formatOnce rest arguments
      ('%' :: text, left)
  | '%' :: letter :: rest, arguments =>
      let argument := arguments.head?.getD (if letter = 's' then [] else ['0'])
      let (text, left) := formatOnce rest (arguments.drop 1)
      (argument ++ text, left)
  | char :: rest, arguments =>
      let (text, left) := formatOnce rest arguments
      (char :: text, left)
  | [], arguments => ([], arguments)

/-- A format over all arguments; it is used again as long as it takes some of them. -/
def formatAll (format : List Char) : Nat → List (List Char) → List Char
  | 0, _ => []
  | fuel + 1, arguments =>
      let (text, left) := formatOnce format arguments
      if left.isEmpty ∨ left.length = arguments.length then text
      else text ++ formatAll format fuel left

/-- Writes its arguments in a format. -/
def printf : Utility := fun arguments start input =>
  match arguments with
  | [] => complaining 2 "printf: usage: printf format [arg ...]\n" arguments start input
  | format :: words =>
      let format := unescape false format.length format
      writing 0 (formatAll format (words.length + 1) words) arguments start input

/-- Milliseconds of a decimal number with at most one point and perhaps a unit. -/
def milliseconds? (text : List Char) : Option Nat :=
  let (whole, rest) := text.span Char.isDigit
  let (places, unit) := match rest with
    | '.' :: rest => rest.span Char.isDigit
    | rest => ([], rest)
  let scale : Option Nat := match unit with
    | [] | ['s'] => some 1
    | ['m'] => some 60
    | ['h'] => some 3600
    | ['d'] => some 86400
    | _ => none
  if whole = [] ∧ places = [] then none
  else
    let digits (text : List Char) : Nat := (Signal.number? text).getD 0
    scale.map fun scale =>
      (digits whole * 1000 + digits ((places ++ ['0', '0', '0']).take 3)) * scale

/-- Where a program that was called in a wrong way says more about itself. -/
def advice (program : String) : String :=
  "Try '" ++ program ++ " --help' for more information.\n"

/-- Waits for the sum of its arguments. -/
def sleep : Utility := fun arguments start input =>
  match arguments with
  | [] => complaining 1 ("sleep: missing operand\n" ++ advice "sleep") arguments start input
  | _ =>
      match arguments.find? fun argument => (milliseconds? argument).isNone with
      | some wrong =>
          complaining 1
            ("sleep: invalid time interval '" ++ String.ofList wrong ++ "'\n" ++ advice "sleep")
            arguments start input
      | none =>
          let total := (arguments.filterMap milliseconds?).foldl (· + ·) 0
          ⟨0, some (start + total), .nothing, [], input⟩

/-- What reading a device gives. -/
def device? (path : List Char) (input : Flow) : Option Flow :=
  if path = "-".toList ∨ path = "/dev/stdin".toList then some input
  else if path = "/dev/null".toList then some .nothing
  else if path = "/dev/zero".toList then some (.forever [0])
  else none

/-- The complaint about a file that does not exist. -/
def missing (program : String) (path : List Char) : String :=
  program ++ ": " ++ String.ofList path ++ ": No such file or directory\n"

/-- Passes on its input, or one file. -/
def cat : Utility := fun arguments start input =>
  match arguments with
  | [] => passing id input arguments start input
  | path :: _ =>
      match device? path input with
      | some flow => passing id flow arguments start input
      | none => complaining 1 (missing "cat" path) arguments start input

/-- Passes on the first bytes of a flow. -/
def firstBytes (count : Nat) (source : Flow) : Utility := fun _ start input =>
  let (taken, last) := source.take count start
  ⟨0, some last, ⟨taken, none, last⟩, [], input⟩

/-- How many bytes a text reaches up to the end of some of its lines. -/
def lengthOfLines : Nat → List Char → Nat
  | 0, _ => 0
  | _, [] => 0
  | lines + 1, char :: rest =>
      if char = '\n' then 1 + lengthOfLines lines rest else 1 + lengthOfLines (lines + 1) rest

/-- The lines that are passed on unless something else is asked for. -/
def defaultLines : Nat := 10

/-- The most bytes that are looked through for lines. -/
def window : Nat := 65536

/-- Passes on the first lines of a flow. -/
def firstLines (count : Nat) (source : Flow) : Utility := fun arguments start input =>
  let seen := ((source.take window start).1.flatMap Prod.snd)
  firstBytes (lengthOfLines count (charsOf seen)) source arguments start input

/-- Passes on the beginning of its input or of one file. -/
def head : Utility := fun arguments start input =>
  let (limit, files) : Option (Bool × Nat) × List (List Char) := match arguments with
    | ['-', 'c'] :: count :: files => ((Signal.number? count).map (true, ·), files)
    | ['-', 'n'] :: count :: files => ((Signal.number? count).map (false, ·), files)
    | ('-' :: 'c' :: count) :: files => ((Signal.number? count).map (true, ·), files)
    | ('-' :: 'n' :: count) :: files => ((Signal.number? count).map (false, ·), files)
    | ('-' :: digit :: count) :: files => ((Signal.number? (digit :: count)).map (false, ·), files)
    | files => (some (false, defaultLines), files)
  let path := files.head?.getD ['-']
  match limit, device? path input with
  | none, _ => complaining 1 "head: invalid number of bytes\n" arguments start input
  | _, none =>
      complaining 1 ("head: cannot open '" ++ String.ofList path ++
        "' for reading: No such file or directory\n") arguments start input
  | some (true, count), some flow => firstBytes count flow arguments start input
  | some (false, count), some flow => firstLines count flow arguments start input

/-- The characters of a range. -/
def rangeOf (first last : Char) : List Char :=
  (List.range (last.toNat + 1 - first.toNat)).map fun offset => Char.ofNat (first.toNat + offset)

/-- A set of characters, with ranges. -/
def setOf : List Char → List Char
  | first :: '-' :: last :: rest => rangeOf first last ++ setOf rest
  | char :: rest => char :: setOf rest
  | [] => []

/-- The character that stands at the place of another in a second set, whose last character
stands for all places after it. -/
def translate (sources targets : List Char) (char : Char) : Char :=
  match sources.idxOf? char, targets.getLast? with
  | some place, some last => targets.getD place last
  | _, _ => char

/-- Replaces or removes characters of its input. -/
def tr : Utility := fun arguments start input =>
  let set (text : List Char) : List Char := setOf (unescape false text.length text)
  match arguments with
  | [['-', 'd'], sources] =>
      let removed := set sources
      passing (fun bytes => bytesOf ((charsOf bytes).filter fun char => !removed.contains char))
        input arguments start input
  | [sources, targets] =>
      let change := translate (set sources) (set targets)
      passing (fun bytes => bytesOf ((charsOf bytes).map change)) input arguments start input
  | _ => complaining 1 ("tr: missing operand\n" ++ advice "tr") arguments start input

/-- Writes a line without end. -/
def yes : Utility := fun arguments _ input =>
  let line := if arguments.isEmpty then ['y'] else joined arguments
  ⟨0, none, .forever (bytesOf (line ++ ['\n'])), [], input⟩

/-- The number that a text stands for, perhaps below zero. -/
def integer? : List Char → Option Int
  | '-' :: digits => (Signal.number? digits).map fun number => -(number : Int)
  | digits => (Signal.number? digits).map Int.ofNat

/-- What a path leads to. -/
inductive FileKind
  | directory
  | device
  | pipe
  | program
  deriving DecidableEq, Repr

/-- The paths that lead to directories. -/
def directories : List String :=
  ["/", "/bin", "/dev", "/etc", "/proc", "/tmp", "/usr", "/usr/bin", "."]

/-- The names of the shell. -/
def shellNames : List String := ["sh", "dash"]

/-- The directories for programs. -/
def programDirectories : List String := ["/bin/", "/usr/bin/"]

/-- What follows a directory for programs in a path. -/
def afterDirectory? (path : List Char) : Option (List Char) :=
  (programDirectories.find? fun directory => directory.toList.isPrefixOf path).map
    fun directory => path.drop directory.length

/-- The names of the standard descriptors. -/
def descriptorPaths : List String := ["/dev/stdin", "/dev/stdout", "/dev/stderr"]

/-- A path to a descriptor, spelled by its name if it is a standard one. -/
def plainPath (path : List Char) : String :=
  let number := (path.reverse.takeWhile Char.isDigit).reverse
  let directory := path.take (path.length - number.length)
  let descriptors := directory = "/dev/fd/".toList ∨
    ("/proc/".toList.isPrefixOf directory ∧ "/fd/".toList.isSuffixOf directory)
  if descriptors then
    ((Signal.number? number).bind (descriptorPaths[·]?)).getD (String.ofList path)
  else String.ofList path

/-- What a path leads to, if it leads to anything. The standard input and output lead to a
device, the standard error to a pipe. -/
def kindOf? (programs : List String) (path : List Char) : Option FileKind :=
  match plainPath path with
  | "/dev/null" | "/dev/zero" | "/dev/full" | "/dev/stdin" | "/dev/stdout" => some .device
  | "/dev/stderr" => some .pipe
  | name =>
      if directories.contains name then some .directory
      else
        match afterDirectory? path with
        | some name =>
            if (shellNames ++ programs).contains (String.ofList name) then some .program else none
        | none => none

/-- The truth of a test with one operand, by its operator. -/
def unaryTests (programs : List String) : List (String × (List Char → Bool)) :=
  let kind := kindOf? programs
  [ ("-n", fun operand => !operand.isEmpty), ("-z", List.isEmpty),
    ("-e", fun path => (kind path).isSome), ("-r", fun path => (kind path).isSome),
    ("-w", fun path => (kind path).isSome), ("-d", fun path => kind path == some .directory),
    ("-f", fun path => kind path == some .program), ("-c", fun path => kind path == some .device),
    ("-p", fun path => kind path == some .pipe),
    ("-x", fun path => kind path == some .directory || kind path == some .program),
    ("-s", fun path => kind path == some .directory || kind path == some .program),
    ("-t", fun _ => false), ("-h", fun _ => false), ("-L", fun _ => false),
    ("-S", fun _ => false), ("-b", fun _ => false) ]

/-- The complaint about a word that should be a number. -/
def illegalNumber (word : List Char) : String := "Illegal number: " ++ String.ofList word

/-- The test of two numbers by a relation. -/
def numberTest (relation : Int → Int → Bool) (left right : List Char) : Except String Bool :=
  match integer? left, integer? right with
  | some left, some right => .ok (relation left right)
  | none, _ => .error (illegalNumber left)
  | _, none => .error (illegalNumber right)

/-- The truth of a test with two operands, by its operator. -/
def binaryTests : List (String × (List Char → List Char → Except String Bool)) :=
  [ ("=", fun left right => .ok (left == right)), ("!=", fun left right => .ok (left != right)),
    ("-eq", numberTest (· == ·)), ("-ne", numberTest (· != ·)), ("-lt", numberTest (· < ·)),
    ("-le", numberTest (· ≤ ·)), ("-gt", numberTest (· > ·)), ("-ge", numberTest (· ≥ ·)) ]

/-- The test of two operands that an operator stands for. -/
def binaryTest? (operator : List Char) : Option (List Char → List Char → Except String Bool) :=
  binaryTests.lookup (String.ofList operator)

/-- The truth of the beginning of a test, the last word that was read for it, and the words
that follow. -/
abbrev Verdict := Except String (Bool × List Char × List (List Char))

/-- A test of one word, or of one operator and its operands. -/
def primaryTest (programs : List String) : List (List Char) → Verdict
  | [] => .ok (false, [], [])
  | first :: rest =>
      let unary := ((unaryTests programs).lookup (String.ofList first)).filter fun _ =>
        match rest with
        | [] => false
        | [_] => true
        | second :: _ => (binaryTest? second).isNone
      match unary, rest with
      | some test, operand :: rest => .ok (test operand, operand, rest)
      | _, operator :: operand :: others =>
          match binaryTest? operator with
          | some test => (test first operand).map fun truth => (truth, operand, others)
          | none => .ok (!first.isEmpty, first, rest)
      | _, _ => .ok (!first.isEmpty, first, rest)

mutual

/-- A test, perhaps in parentheses or denied. -/
def deniedTest (programs : List String) : Nat → List (List Char) → Verdict
  | 0, _ => .error "argument expected"
  | _ + 1, [['!']] => .ok (true, ['!'], [])
  | fuel + 1, ['!'] :: rest =>
      (deniedTest programs fuel rest).map fun (truth, others) => (!truth, others)
  | fuel + 1, ['('] :: second :: rest =>
      match anyTest programs fuel (second :: rest) with
      | .ok (truth, _, [')'] :: rest) => .ok (truth, [')'], rest)
      | .ok _ => .error "closing paren expected"
      | .error complaint => .error complaint
  | _ + 1, words => primaryTest programs words

/-- Tests that all have to be true. -/
def everyTest (programs : List String) : Nat → List (List Char) → Verdict
  | 0, _ => .error "argument expected"
  | fuel + 1, words =>
      match deniedTest programs fuel words with
      | .ok (truth, _, ['-', 'a'] :: rest) =>
          (everyTest programs fuel rest).map fun (other, left) => (truth && other, left)
      | verdict => verdict

/-- Tests of which one has to be true. -/
def anyTest (programs : List String) : Nat → List (List Char) → Verdict
  | 0, _ => .error "argument expected"
  | fuel + 1, words =>
      match everyTest programs fuel words with
      | .ok (truth, _, ['-', 'o'] :: rest) =>
          (anyTest programs fuel rest).map fun (other, left) => (truth || other, left)
      | verdict => verdict

end

/-- What a test says, or a complaint about it. Three words with an operator in the middle are
always a test of two operands. -/
def testOf (programs : List String) (words : List (List Char)) : Except String Bool :=
  let verdict := match words with
    | [left, operator, right] =>
        match binaryTest? operator with
        | some test => (test left right).map fun truth => (truth, right, [])
        | none => anyTest programs (4 * words.length + 4) words
    | _ => anyTest programs (4 * words.length + 4) words
  match verdict with
  | .error complaint => .error complaint
  | .ok (truth, _, []) => .ok truth
  | .ok (_, last, _) => .error (String.ofList last ++ ": unexpected operator")

/-- What a test in brackets says, or a complaint about it. -/
def bracketOf (programs : List String) (words : List (List Char)) : Except String Bool :=
  if words.getLast? = some [']'] then testOf programs words.dropLast else .error "missing ]"

/-- Ends with what a test says. -/
def judging (name : String) (verdict : List (List Char) → Except String Bool) : Utility :=
  fun arguments start input =>
    match verdict arguments with
    | .ok true => ending 0 arguments start input
    | .ok false => ending 1 arguments start input
    | .error complaint =>
        complaining 2 (name ++ ": " ++ complaint ++ "\n") arguments start input

/-- Writes what a descriptor of a process leads to. -/
def readlink : Utility := fun arguments start input =>
  match arguments.getLast?.map plainPath with
  | some "/dev/stdin" | some "/dev/stdout" =>
      writing 0 "/dev/null\n".toList arguments start input
  | _ => ending 1 arguments start input

/-- Writes the numbers up to a limit, one on each line. -/
def seq : Utility := fun arguments start input =>
  let line (number : Nat) : List Char := (toString number).toList ++ ['\n']
  match arguments.map Signal.number? with
  | [some last] =>
      writing 0 ((List.range last).flatMap fun number => line (number + 1)) arguments start input
  | [some first, some last] =>
      writing 0 ((List.range (last + 1 - first)).flatMap fun number => line (first + number))
        arguments start input
  | _ => complaining 1 ("seq: missing operand\n" ++ advice "seq") arguments start input

/-- The utilities by name, but for those that look for others. -/
def simple : List (String × Utility) :=
  [ ("true", ending 0), ("false", ending 1), ("echo", echo false), ("printf", printf),
    ("sleep", sleep), ("cat", cat), ("head", head), ("tr", tr), ("yes", yes),
    ("readlink", readlink), ("seq", seq) ]

/-- The names of all utilities. -/
def names : List String := "test" :: "[" :: simple.map Prod.fst

/-- The utilities by name. -/
def table : List (String × Utility) :=
  simple ++ [("test", judging "test" (testOf names)), ("[", judging "[" (bracketOf names))]

/-- The utility with a name. -/
def named? (name : String) : Option Utility := table.lookup name

end Utility

end HealthWatch.Posix
