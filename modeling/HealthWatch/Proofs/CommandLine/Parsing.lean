import HealthWatch.CommandLine.Command
import HealthWatch.Proofs.CommandLine.Exactness

/-! # In front of a subcommand

The first subcommand that is named splits a command line: what stands in front of it is read as
options of the program, and whatever stands behind it is left to the subcommand (`parse_eq_ok_iff`).
-/

namespace HealthWatch.CommandLine

variable {before behind all : List Bytes} {name : String} {scan : Scan}
  {lookup : String → Option Bytes} {settings : Bytes} {verbose : Bool} {command : Command}

/-- The words in front of the name of a subcommand, and how they are read, whatever stands behind
the name. -/
def Front (before : List Bytes) (name : String) (scan : Scan) : Prop :=
  ∀ behind, Scan.words root {} (before ++ Bytes.ofText name :: behind) =
    .ok (scan, some (name, behind))

/-- What the options in front of the name of a subcommand ask for. -/
structure Opening (lookup : String → Option Bytes) (before : List Bytes) (name : String)
    (settings : Bytes) (verbose : Bool) : Prop where
  other : name ≠ Grammar.helpWord
  given : ∃ scan given, Front before name scan ∧ scan.finish root lookup = .ok given ∧
    settings = (given.path? configOption.name).getD Settings.defaultPath ∧
    verbose = given.has verboseOption.name

namespace Scan

variable {grammar : Grammar} {next : Scan}

/-- A word that is taken for a subcommand is its name. -/
theorem subcommandHere?_eq_some {word : Bytes}
    (named : scan.subcommandHere? grammar word = some name) : word = Bytes.ofText name := by
  rw [subcommandHere?] at named
  split at named
  · cases named
  rw [Grammar.subcommand?] at named
  cases text : word.text? with
  | none =>
      rw [text] at named
      cases named
  | some content =>
      rw [text] at named
      dsimp only at named
      split at named
      · cases named
      · split at named
        · cases named
          exact Bytes.text?_eq_some.mp text
        · cases named

/-- The words up to the name of a subcommand are read in the same way whatever stands behind it. -/
theorem exists_front (named : words grammar scan all = .ok (next, some (name, behind))) :
    ∃ before, all = before ++ Bytes.ofText name :: behind ∧
      ∀ behind, words grammar scan (before ++ Bytes.ofText name :: behind) =
        .ok (next, some (name, behind)) := by
  induction all generalizing scan with
  | nil => cases named
  | cons word rest ih =>
      rw [words] at named
      cases here : scan.subcommandHere? grammar word with
      | some found =>
          rw [here] at named
          cases named
          cases subcommandHere?_eq_some here
          refine ⟨[], rfl, fun behind => ?_⟩
          rw [List.nil_append, words, here]
      | none =>
          rw [here] at named
          dsimp only at named
          cases stepped : scan.step grammar word with
          | error fault =>
              rw [stepped] at named
              cases named
          | ok middle =>
              rw [stepped] at named
              obtain ⟨before, rfl, front⟩ := ih named
              refine ⟨word :: before, rfl, fun behind => ?_⟩
              rw [List.cons_append, words, here]
              dsimp only
              rw [stepped]
              exact front behind

end Scan

/-- A subcommand can be the first word. -/
theorem front_nil (named : root.subcommand? (Bytes.ofText name) = some name) :
    Front [] name {} := by
  intro behind
  have here : Scan.subcommandHere? root {} (Bytes.ofText name) = some name := named
  rw [List.nil_append, Scan.words, here]

/-- A subcommand can stand in front of everything, and then the settings are where they are by
default. -/
theorem opening_nil (named : root.subcommand? (Bytes.ofText name) = some name)
    (other : name ≠ Grammar.helpWord) (lookup : String → Option Bytes) :
    Opening lookup [] name Settings.defaultPath false where
  other := other
  given := by
    have constant : ∀ option ∈ root.options, option.fallback = none := by decide
    have settles : Scan.settle {} = .ok {} := rfl
    exact ⟨{}, [], front_nil named, Scan.finish_settled lookup settles constant rfl, rfl, rfl⟩

/-- What a subcommand accepts is accepted behind any opening that names it. -/
theorem Opening.parse_eq_ok (opening : Opening lookup before name settings verbose)
    (read : readCommand lookup name behind = .ok command) :
    Invocation.parse lookup (before ++ Bytes.ofText name :: behind) =
      .ok ⟨settings, verbose, command⟩ := by
  obtain ⟨scan, given, front, finish, rfl, rfl⟩ := opening.given
  simp only [Invocation.parse, front behind, bind, Except.bind, if_neg opening.other, read, finish]

/-- What words are read as an invocation. -/
theorem parse_eq_ok_iff :
    Invocation.parse lookup all = .ok ⟨settings, verbose, command⟩ ↔
      ∃ before name behind, Opening lookup before name settings verbose ∧
        all = before ++ Bytes.ofText name :: behind ∧
        readCommand lookup name behind = .ok command := by
  constructor
  · intro parsed
    obtain ⟨⟨scan, found⟩, scanned, rest⟩ := bind_eq_ok.mp parsed
    cases found with
    | none =>
        obtain ⟨settled, -, refused⟩ := bind_eq_ok.mp rest
        split at refused <;> cases refused
    | some found =>
        obtain ⟨name, behind⟩ := found
        obtain ⟨before, rfl, front⟩ := Scan.exists_front scanned
        dsimp only at rest
        split at rest
        · cases rest
        · rename_i other
          obtain ⟨command, read, rest⟩ := bind_eq_ok.mp rest
          obtain ⟨given, finish, same⟩ := bind_eq_ok.mp rest
          cases same
          exact ⟨before, name, behind, ⟨other, scan, given, front, finish, rfl, rfl⟩, rfl, read⟩
  · rintro ⟨before, name, behind, opening, rfl, read⟩
    exact opening.parse_eq_ok read

/-- Nothing is accepted but what the subcommand accepts. -/
theorem Front.read_of_parse (front : Front before name scan) {invocation : Invocation}
    (parsed : Invocation.parse lookup (before ++ Bytes.ofText name :: behind) = .ok invocation) :
    readCommand lookup name behind = .ok invocation.command := by
  obtain ⟨first, named, after, opening, same, read⟩ := parse_eq_ok_iff.mp parsed
  obtain ⟨other, -, fronts, -⟩ := opening.given
  have scanned := front behind
  rw [same, fronts after] at scanned
  cases scanned
  exact read

/-- A subcommand is read by its own grammar, and its arguments then stand for a command. -/
theorem readCommand_eq_ok_iff {grammar : Grammar} {build : Given → Command}
    (known : subcommand? name = some (grammar, build)) :
    readCommand lookup name all = .ok command ↔
      ∃ given, (∃ scan found, Scan.words grammar {} all = .ok (scan, found) ∧
        scan.finish grammar lookup = .ok given) ∧ command = build given := by
  rw [readCommand, known]
  dsimp only
  constructor
  · intro read
    cases scanned : Scan.words grammar {} all with
    | error fault =>
        rw [scanned] at read
        cases read
    | ok result =>
        rw [scanned] at read
        dsimp only at read
        cases finished : result.1.finish grammar lookup with
        | error fault =>
            rw [finished] at read
            cases read
        | ok given =>
            rw [finished] at read
            cases read
            exact ⟨given, ⟨result.1, result.2, rfl, finished⟩, rfl⟩
  · rintro ⟨given, ⟨scan, found, scanned, finished⟩, rfl⟩
    rw [scanned]
    dsimp only
    rw [finished]
    rfl

end HealthWatch.CommandLine
