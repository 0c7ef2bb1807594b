import HealthWatch.Proofs.CommandLine.Options

/-! # Options with values

Where every option takes a value or asks for something else than a command, the words that are
accepted are those of options that are each given at most once, and perhaps an end of the options
behind them (`Scan.accepts_iff`).
-/

namespace HealthWatch.CommandLine

/-- A grammar whose arguments are options with values. The others only ask for something else. -/
structure Grammar.Valued (grammar : Grammar) : Prop where
  flat : grammar.subcommands = []
  bare : grammar.positional = none
  known : ∀ option ∈ grammar.options, grammar.Knows option
  flagless : ∀ option ∈ grammar.options, option.role ≠ .flag
  /-- No environment variable stands in for an option. -/
  constant : ∀ option ∈ grammar.options, option.fallback = none

/-- A grammar of options with values is one in which a word holds one short name at most. -/
theorem Grammar.Valued.regular {grammar : Grammar} (valued : grammar.Valued) :
    grammar.Regular where
  flat := valued.flat
  known := valued.known
  longFlags option member role := absurd role (valued.flagless option member)
  escaped := by
    rw [valued.bare]
    exact nofun

namespace Scan

variable {grammar : Grammar} {scan next : Scan} {given : Given}

/-- An end of the options does not change what they give. -/
theorem Between.settle_ended (between : scan.Between given) :
    Scan.settle { scan with escaped := true } = .ok { given, escaped := true } := by
  cases between with
  | settled => rfl
  | pending fresh read => exact record_value fresh read

/-- Behind the end of the options only a positional argument could stand. -/
theorem step_escaped_ne_ok (valued : grammar.Valued) (escaped : scan.escaped = true)
    (word : Bytes) : scan.step grammar word ≠ .ok next := by
  intro read
  rw [step, if_pos escaped, readPositional, valued.bare, ite_self, valued.flat] at read
  cases read

/-- Accepted words end where the options end. -/
theorem exists_taking (valued : grammar.Valued) {all : List Bytes}
    {found : Option (String × List Bytes)} (accepted : words grammar {} all = .ok (scan, found)) :
    ∃ before middle, Taking grammar before middle ∧
      (all = before ∧ scan = middle ∨
        all = before ++ [dashes] ∧ scan = { middle with escaped := true }) := by
  have start : Taking grammar [] {} := .settled .nil
  by_cases ended : dashes ∈ all
  · obtain ⟨before, behind, rfl, going⟩ := List.eq_append_cons_of_mem ended
    obtain ⟨middle, taking, accepted⟩ := start.words valued.regular going accepted
    rw [words_cons valued.flat (step_dashes taking.unescaped)] at accepted
    refine ⟨before, middle, taking, .inr ?_⟩
    cases behind with
    | nil =>
        cases accepted
        exact ⟨rfl, rfl⟩
    | cons first rest =>
        exfalso
        cases stepped : step grammar { middle with escaped := true } first with
        | error fault =>
            rw [words, subcommandHere?_flat valued.flat, stepped] at accepted
            cases accepted
        | ok next => exact absurd stepped (step_escaped_ne_ok valued rfl first)
  · rw [← List.append_nil all] at accepted
    obtain ⟨middle, taking, accepted⟩ := start.words valued.regular ended accepted
    cases accepted
    exact ⟨all, scan, taking, .inl ⟨rfl, rfl⟩⟩

/-- A scan that ends well has taken note of everything, and its arguments go together. -/
theorem exists_of_finish {lookup : String → Option Bytes}
    (constant : ∀ option ∈ grammar.options, option.fallback = none)
    (finished : scan.finish grammar lookup = .ok given) :
    ∃ settled, scan.settle = .ok settled ∧ grammar.relationFault? settled.given = none ∧
      settled.given = given := by
  obtain ⟨settled, settles, finished⟩ := bind_eq_ok.mp finished
  rw [addVariables_constant lookup _ constant] at finished
  cases fault : grammar.relationFault? settled.given with
  | some fault =>
      simp only [bind, Except.bind, fault] at finished
      cases finished
  | none =>
      simp only [bind, Except.bind, fault] at finished
      exact ⟨settled, settles, fault, Except.ok.inj finished⟩

/-- The words that are accepted, and the arguments that they give. -/
theorem accepts_iff (valued : grammar.Valued) {lookup : String → Option Bytes} {all : List Bytes} :
    (∃ scan found, words grammar {} all = .ok (scan, found) ∧
        scan.finish grammar lookup = .ok given) ↔
      (∃ before, Spelt grammar given before ∧ (all = before ∨ all = before ++ [dashes])) ∧
        grammar.relationFault? given = none := by
  constructor
  · rintro ⟨scan, found, accepted, finished⟩
    obtain ⟨settled, settles, kept, rfl⟩ := exists_of_finish valued.constant finished
    obtain ⟨before, middle, taking, ⟨rfl, rfl⟩ | ⟨rfl, rfl⟩⟩ := exists_taking valued accepted
    · exact ⟨⟨_, (taking.settle_self settles).1, .inl rfl⟩, kept⟩
    · exact ⟨⟨_, (taking.settle settles).1, .inr rfl⟩, kept⟩
  · rintro ⟨⟨before, spelt, ends⟩, kept⟩
    rcases ends with rfl | rfl
    · obtain ⟨scan, between, read⟩ := exists_between valued.flat spelt []
      rw [List.append_nil] at read
      exact ⟨scan, none, read, finish_settled lookup between.settle valued.constant kept⟩
    · obtain ⟨scan, between, read⟩ := exists_between valued.flat spelt [dashes]
      rw [words_cons valued.flat (step_dashes between.unescaped)] at read
      exact ⟨_, none, read, finish_settled lookup between.settle_ended valued.constant kept⟩

end Scan

end HealthWatch.CommandLine
