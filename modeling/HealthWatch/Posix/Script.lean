/-! # Shell scripts

The part of the shell language that probes use: simple commands with quoting, substitutions and
redirections, pipelines, lists, subshells, groups, conditions, choices, loops and functions.
`Script.parse` reads a script; here-documents are not part of the language.
-/

namespace HealthWatch.Posix

/-- A part of a word. -/
inductive Piece
  | text (chars : List Char) (quoted : Bool)
  | parameter (name : String) (quoted : Bool)
  /-- What a script writes. -/
  | output (script : List Char) (quoted : Bool)
  /-- What a formula comes to. -/
  | calculation (formula : List Char) (quoted : Bool)
  /-- What was put in the place of something and falls into fields at its blanks. -/
  | substituted (chars : List Char)
  deriving DecidableEq, Repr

/-- A word before anything is substituted. -/
abbrev ShellWord := List Piece

/-- Where a redirected descriptor leads. -/
inductive RedirectionTarget
  | descriptor (number : ShellWord)
  | file (path : ShellWord)
  deriving DecidableEq, Repr

/-- A redirection of one descriptor. -/
structure Redirection where
  descriptor : Nat
  target : RedirectionTarget
  deriving DecidableEq, Repr

/-- A shell script. -/
inductive Script
  | nothing
  | command (words : List ShellWord) (redirections : List Redirection)
  | pipe (first second : Script)
  | negation (script : Script)
  | both (first second : Script)
  | either (first second : Script)
  | sequence (first second : Script)
  | background (script : Script)
  | subshell (script : Script) (redirections : List Redirection)
  | group (script : Script) (redirections : List Redirection)
  | branch (condition success failure : Script)
  /-- The body again and again, as long as the condition says `expected`. -/
  | loop (expected : Bool) (condition body : Script)
  /-- The body if the word fits one of the patterns, and something else otherwise. -/
  | choice (word : ShellWord) (patterns : List ShellWord) (body otherwise : Script)
  /-- A name for a script. -/
  | function (name : String) (body : Script)
  /-- The body once for each of the words, or for each positional parameter. -/
  | each (name : String) (words : Option (List ShellWord)) (body : Script)
  deriving Repr

/-- The tokens of a script. -/
inductive Token
  | word (word : ShellWord)
  | operator (text : String)
  /-- A redirection, whose target is the next word; `duplicate` if it names a descriptor. -/
  | redirection (descriptor : Nat) (duplicate : Bool)
  deriving DecidableEq, Repr

namespace Token

/-- The characters that end an unquoted word. -/
def isMeta (char : Char) : Bool := " \t\n;&|()<>".toList.contains char

/-- The characters that a word without quotes holds as they are. -/
def isPlain (char : Char) : Bool := !isMeta char && !"'\"\\$`".toList.contains char

/-- The characters of a name. -/
def isName (char : Char) : Bool := char.isAlphanum || char == '_'

/-- The parameters with a name of one character. -/
def special : List Char := ['?', '#', '$', '!', '@', '*', '-']

/-- The parameter after a dollar sign, and what follows it. -/
def parameter? : List Char → Option (String × List Char)
  | '\x7b' :: rest =>
      match rest.span fun char => isName char || special.contains char with
      | (name, '\x7d' :: rest) => if name = [] then none else some (String.ofList name, rest)
      | _ => none
  | char :: rest =>
      if special.contains char || char.isDigit then some (char.toString, rest)
      else if isName char then
        let (name, rest) := (char :: rest).span isName
        some (String.ofList name, rest)
      else none
  | [] => none

/-- The characters before the parenthesis that closes `depth` others and one more, and what
follows it. Parentheses between quotes do not count. -/
def enclosed : Nat → Option Char → List Char → Option (List Char × List Char)
  | _, _, [] => none
  | depth, some quote, char :: rest =>
      (enclosed depth (if char = quote then none else some quote) rest).map
        fun (inside, left) => (char :: inside, left)
  | 0, none, ')' :: rest => some ([], rest)
  | depth, none, char :: rest =>
      let depth := if char = '(' then depth + 1 else if char = ')' then depth - 1 else depth
      (enclosed depth (if char = '\'' ∨ char = '"' then some char else none) rest).map
        fun (inside, left) => (char :: inside, left)

/-- The characters before the closing backquote, and what follows it. -/
def backquoted : List Char → Option (List Char × List Char)
  | [] => none
  | '`' :: rest => some ([], rest)
  | '\\' :: char :: rest =>
      (backquoted rest).map fun (inside, left) =>
        (if ['$', '`', '\\'].contains char then char :: inside else '\\' :: char :: inside, left)
  | char :: rest => (backquoted rest).map fun (inside, left) => (char :: inside, left)

/-- What a dollar sign in front of the characters stands for, and what follows it. -/
def dollarAt (quoted : Bool) (chars : List Char) : Option (Piece × List Char) :=
  match chars with
  | '(' :: '(' :: rest =>
      match enclosed 0 none rest with
      | some (formula, ')' :: rest) => some (.calculation formula quoted, rest)
      | _ => none
  | '(' :: rest => (enclosed 0 none rest).map fun (script, rest) => (.output script quoted, rest)
  | _ =>
      match parameter? chars with
      | some (name, rest) => some (.parameter name quoted, rest)
      | none => if chars.head? = some '\x7b' then none else some (.text ['$'] quoted, chars)

/-- The pieces up to the closing double quote. -/
def doubleQuoted : Nat → List Char → Option (ShellWord × List Char)
  | 0, _ => none
  | _, [] => none
  | _ + 1, '"' :: rest => some ([], rest)
  | fuel + 1, '\\' :: char :: rest => do
      let (pieces, left) ← doubleQuoted fuel rest
      if char = '\n' then some (pieces, left)
      else if ['$', '`', '"', '\\'].contains char then some (.text [char] true :: pieces, left)
      else some (.text ['\\', char] true :: pieces, left)
  | fuel + 1, '$' :: rest => do
      let (piece, rest) ← dollarAt true rest
      let (pieces, left) ← doubleQuoted fuel rest
      some (piece :: pieces, left)
  | fuel + 1, '`' :: rest => do
      let (script, rest) ← backquoted rest
      let (pieces, left) ← doubleQuoted fuel rest
      some (.output script true :: pieces, left)
  | fuel + 1, char :: rest => do
      let (pieces, left) ← doubleQuoted fuel rest
      some (.text [char] true :: pieces, left)

/-- The pieces of the word at the beginning. -/
def wordAt : Nat → List Char → Option (ShellWord × List Char)
  | 0, _ => none
  | _, [] => some ([], [])
  | fuel + 1, '\'' :: rest => do
      match rest.span (· ≠ '\'') with
      | (chars, _ :: rest) =>
          let (pieces, left) ← wordAt fuel rest
          some (.text chars true :: pieces, left)
      | (_, []) => none
  | fuel + 1, '"' :: rest => do
      let (inner, rest) ← doubleQuoted (fuel + 1) rest
      let (pieces, left) ← wordAt fuel rest
      some (.text [] true :: inner ++ pieces, left)
  | fuel + 1, '\\' :: char :: rest => do
      let (pieces, left) ← wordAt fuel rest
      some (if char = '\n' then pieces else .text [char] true :: pieces, left)
  | fuel + 1, '$' :: rest => do
      let (piece, rest) ← dollarAt false rest
      let (pieces, left) ← wordAt fuel rest
      some (piece :: pieces, left)
  | fuel + 1, '`' :: rest => do
      let (script, rest) ← backquoted rest
      let (pieces, left) ← wordAt fuel rest
      some (.output script false :: pieces, left)
  | fuel + 1, char :: rest =>
      if isMeta char then some ([], char :: rest)
      else if char = '\\' then some ([.text ['\\'] true], rest)
      else do
        let (plain, rest) := rest.span isPlain
        let (pieces, left) ← wordAt fuel rest
        some (.text (char :: plain) false :: pieces, left)

/-- The operators, longer ones first. -/
def operators : List String := ["&&", "||", ";;", ";", "&", "|", "(", ")", "\n"]

/-- The redirections, longer ones first, with the descriptor that they redirect by themselves
and whether they name a descriptor. -/
def redirections : List (String × Nat × Bool) :=
  [(">&", 1, true), ("<&", 0, true), (">>", 1, false), (">|", 1, false), ("<>", 0, false),
    (">", 1, false), ("<", 0, false)]

/-- The first of several texts that the characters begin with, and what follows it. -/
def leading? (chars : List Char) (texts : List String) : Option (String × List Char) :=
  (texts.find? fun text => text.toList.isPrefixOf chars).map fun text =>
    (text, chars.drop text.toList.length)

/-- The redirection at the beginning, perhaps after the number of a descriptor. -/
def redirectionAt? (chars : List Char) : Option (Token × List Char) :=
  let (number, rest) := chars.span Char.isDigit
  match leading? rest (redirections.map Prod.fst) with
  | none => none
  | some (text, rest) =>
      match redirections.lookup text with
      | none => none
      | some (standard, duplicate) =>
          let given := number.foldl (fun value digit => value * 10 + (digit.toNat - 48)) 0
          some (.redirection (if number = [] then standard else given) duplicate, rest)

/-- The tokens of a script. `fuel` bounds the number of steps. -/
def split : Nat → List Char → Option (List Token)
  | 0, _ => none
  | _, [] => some []
  | fuel + 1, ' ' :: rest => split fuel rest
  | fuel + 1, '\t' :: rest => split fuel rest
  | fuel + 1, '\\' :: '\n' :: rest => split fuel rest
  | fuel + 1, '#' :: rest => split fuel (rest.dropWhile (· ≠ '\n'))
  | fuel + 1, chars =>
      if "<<".toList.isPrefixOf chars then none
      else
        match redirectionAt? chars with
        | some (token, rest) => (split fuel rest).map (token :: ·)
        | none =>
            match leading? chars operators with
            | some (text, rest) => (split fuel rest).map (.operator text :: ·)
            | none =>
                match wordAt (chars.length + 1) chars with
                | none => none
                | some (pieces, rest) => (split fuel rest).map (.word pieces :: ·)

end Token

namespace Script

/-- Whether a token is a word of the language itself. -/
def isReserved (name : String) : Token → Bool
  | .word [.text chars false] => String.ofList chars = name
  | _ => false

/-- Whether the tokens are at the end of a list of commands. -/
def closes : List Token → Bool
  | [] => true
  | .operator ")" :: _ | .operator ";;" :: _ => true
  | token :: _ =>
      ["esac", "then", "else", "elif", "fi", "do", "done", "\x7d"].any fun name => isReserved name token

/-- The tokens after a word of the language. -/
def after? (name : String) : List Token → Option (List Token)
  | token :: rest => if isReserved name token then some rest else none
  | [] => none

/-- Whether a token separates commands. -/
def isNewline : Token → Bool
  | .operator text => text = "\n"
  | _ => false

/-- The redirections at the beginning. -/
def redirectionsAt : List Token → List Redirection × List Token
  | .redirection descriptor duplicate :: .word word :: rest =>
      let (more, rest) := redirectionsAt rest
      (⟨descriptor, if duplicate then .descriptor word else .file word⟩ :: more, rest)
  | rest => ([], rest)

/-- The words and redirections of a simple command. -/
def simpleAt : List Token → List ShellWord × List Redirection × List Token
  | .redirection descriptor duplicate :: .word word :: rest =>
      let (words, more, rest) := simpleAt rest
      (words, ⟨descriptor, if duplicate then .descriptor word else .file word⟩ :: more, rest)
  | .word word :: rest =>
      let (words, more, rest) := simpleAt rest
      (word :: words, more, rest)
  | rest => ([], [], rest)

mutual

/-- The commands up to the end of a list. `fuel` bounds the depth of the script. -/
def listAt : Nat → List Token → Option (Script × List Token)
  | 0, _ => none
  | fuel + 1, tokens => do
      let tokens := tokens.dropWhile isNewline
      if closes tokens then some (nothing, tokens)
      else
        let (first, rest) ← chainAt fuel tokens
        match rest with
        | .operator ";" :: rest | .operator "\n" :: rest =>
            let (more, rest) ← listAt fuel rest
            some (sequence first more, rest)
        | .operator "&" :: rest =>
            let (more, rest) ← listAt fuel rest
            some (sequence (background first) more, rest)
        | rest => some (first, rest)

/-- Pipelines of which each hangs on the success or failure of those before. -/
def chainAt : Nat → List Token → Option (Script × List Token)
  | 0, _ => none
  | fuel + 1, tokens => do
      let (first, rest) ← pipelineAt fuel tokens
      linksAt fuel first rest

/-- The further pipelines of a chain. -/
def linksAt : Nat → Script → List Token → Option (Script × List Token)
  | 0, _, _ => none
  | fuel + 1, first, .operator "&&" :: rest => do
      let (second, rest) ← pipelineAt fuel (rest.dropWhile isNewline)
      linksAt fuel (both first second) rest
  | fuel + 1, first, .operator "||" :: rest => do
      let (second, rest) ← pipelineAt fuel (rest.dropWhile isNewline)
      linksAt fuel (either first second) rest
  | _ + 1, first, rest => some (first, rest)

/-- Commands with pipes between them. -/
def pipelineAt : Nat → List Token → Option (Script × List Token)
  | 0, _ => none
  | fuel + 1, tokens => do
      match after? "!" tokens with
      | some rest =>
          let (script, rest) ← pipelineAt fuel rest
          some (negation script, rest)
      | none =>
          let (first, rest) ← commandAt fuel tokens
          match rest with
          | .operator "|" :: rest =>
              let (second, rest) ← pipelineAt fuel (rest.dropWhile isNewline)
              some (pipe first second, rest)
          | rest => some (first, rest)

/-- What follows the first word of a condition. -/
def branchAt : Nat → List Token → Option (Script × List Token)
  | 0, _ => none
  | fuel + 1, tokens => do
      let (condition, rest) ← listAt fuel tokens
      let (success, rest) ← listAt fuel (← after? "then" rest)
      match after? "elif" rest, after? "else" rest with
      | some rest, _ =>
          let (failure, rest) ← branchAt fuel rest
          some (branch condition success failure, rest)
      | none, some rest =>
          let (failure, rest) ← listAt fuel rest
          some (branch condition success failure, ← after? "fi" rest)
      | none, none => some (branch condition success nothing, ← after? "fi" rest)

/-- What follows the first word of a loop over words. -/
def eachAt : Nat → List Token → Option (Script × List Token)
  | fuel + 1, .word [.text name false] :: rest => do
      let rest := rest.dropWhile isNewline
      let (words, rest) := match after? "in" rest with
        | some rest =>
            let (words, _, rest) := simpleAt rest
            (some words, rest)
        | none => (none, rest)
      let rest := match rest with
        | .operator ";" :: rest => rest
        | rest => rest
      let (body, rest) ← listAt fuel (← after? "do" (rest.dropWhile isNewline))
      some (each (String.ofList name) words body, ← after? "done" rest)
  | _, _ => none

/-- The patterns of one choice, up to the parenthesis that ends them. -/
def patternsAt : Nat → List Token → Option (List ShellWord × List Token)
  | fuel + 1, .word word :: .operator "|" :: rest => do
      let (more, rest) ← patternsAt fuel rest
      some (word :: more, rest)
  | _ + 1, .word word :: .operator ")" :: rest => some ([word], rest)
  | _, _ => none

/-- The choices for a word, up to their end. -/
def choicesAt : Nat → ShellWord → List Token → Option (Script × List Token)
  | 0, _, _ => none
  | fuel + 1, word, tokens => do
      let tokens := tokens.dropWhile isNewline
      match after? "esac" tokens with
      | some rest => some (nothing, rest)
      | none =>
          let tokens := match tokens with
            | .operator "(" :: rest => rest
            | rest => rest
          let (patterns, rest) ← patternsAt fuel tokens
          let (body, rest) ← listAt fuel rest
          let rest := match rest with
            | .operator ";;" :: rest => rest
            | rest => rest
          let (otherwise, rest) ← choicesAt fuel word rest
          some (choice word patterns body otherwise, rest)

/-- One command. -/
def commandAt : Nat → List Token → Option (Script × List Token)
  | 0, _ => none
  | _, [] => none
  | fuel + 1, .operator "(" :: rest => do
      match ← listAt fuel rest with
      | (script, .operator ")" :: rest) =>
          let (redirections, rest) := redirectionsAt rest
          some (subshell script redirections, rest)
      | _ => none
  | fuel + 1, token :: rest =>
      if isReserved "\x7b" token then do
        let (script, rest) ← listAt fuel rest
        let (redirections, rest) := redirectionsAt (← after? "\x7d" rest)
        some (group script redirections, rest)
      else if isReserved "if" token then branchAt fuel rest
      else if isReserved "for" token then eachAt fuel rest
      else if isReserved "case" token then
        match rest with
        | .word word :: rest => do
            choicesAt fuel word (← after? "in" (rest.dropWhile isNewline))
        | _ => none
      else if isReserved "while" token || isReserved "until" token then do
        let (condition, rest) ← listAt fuel rest
        let (body, rest) ← listAt fuel (← after? "do" rest)
        some (loop (isReserved "while" token) condition body, ← after? "done" rest)
      else
        match token, rest with
        | .word [.text name false], .operator "(" :: .operator ")" :: rest => do
            let (body, rest) ← commandAt fuel (rest.dropWhile isNewline)
            some (function (String.ofList name) body, rest)
        | _, _ =>
            match simpleAt (token :: rest) with
            | ([], [], _) => none
            | (words, redirections, rest) => some (command words redirections, rest)

end

/-- The script that a text stands for, if it is one. -/
def parse (text : List Char) : Option Script :=
  match Token.split (text.length + 1) text with
  | none => none
  | some tokens =>
      match listAt (6 * tokens.length + 6) tokens with
      | some (script, []) => some script
      | _ => none

end Script

end HealthWatch.Posix
