import HealthWatch.Proofs.CommandLine.ValidateLine
import HealthWatch.Supervisor

/-! # One source for a check

However a command line is written, a check looks at the one source that is given. Words that give
both sources or none are refused before any file is read (`Supervisor.sourced`).
-/

namespace HealthWatch.Supervisor

open CommandLine

/-- What is found in a source. -/
def inspectSource (surroundings : Surroundings) (settings : Settings) :
    Source → Except Failure Inspection
  | .bundle path =>
      (Bundle.discover surroundings.read path settings.annotationKey).map fun check? =>
        check?.elim (.nothingIn path) .healthcheck
  | .payload text => (Annotations.parse text).map .healthcheck

/-- The reply to a check of a source, with the settings in a file. -/
def checkSource (surroundings : Surroundings) (path : Bytes) (source : Source) : Reply :=
  withSettings surroundings path fun settings =>
    (inspectSource surroundings settings source).map fun inspection => printed 0 inspection.text

/-- What a command line can make `validate` do. -/
structure Sourced (surroundings : Surroundings) (now : Int) : Prop where
  /-- The command of a check has the source of its words, and no other words make a check. -/
  reads : ∀ all settings verbose bundle payload,
    Invocation.parse surroundings.environment all =
        .ok ⟨settings, verbose, .validate bundle payload⟩ ↔
      ∃ (before : List Bytes) (line : ValidateLine),
        Opening surroundings.environment before "validate" settings verbose ∧
        all = before ++ Bytes.ofText "validate" :: line.words ∧
        bundle = line.source.bundle? ∧ payload = line.source.payload?
  /-- So a check without a source is out of reach, and no annotation is left aside for a bundle. -/
  one : ∀ all settings verbose bundle payload,
    Invocation.parse surroundings.environment all =
        .ok ⟨settings, verbose, .validate bundle payload⟩ →
      bundle.isSome = !payload.isSome
  /-- Nothing has to stand in front of `validate`. -/
  opens : Opening surroundings.environment [] "validate" Settings.defaultPath false
  /-- What is printed is what is found in the source of the words. -/
  checks : ∀ before settings verbose,
    Opening surroundings.environment before "validate" settings verbose →
      ∀ line : ValidateLine, run surroundings now
        (before ++ Bytes.ofText "validate" :: line.words) =
          checkSource surroundings settings line.source
  /-- Words that name both sources or none are refused, whatever the files hold. -/
  refuses : ∀ before scan behind, Front before "validate" scan →
    (NamesBundle behind ↔ NamesPayload behind) →
      ∃ fault, Invocation.parse surroundings.environment
          (before ++ Bytes.ofText "validate" :: behind) = .error fault ∧
        ∀ read, run { surroundings with read } now (before ++ Bytes.ofText "validate" :: behind) =
          usageReply fault

variable {surroundings : Surroundings}

/-- A source is inspected as its path or its text. -/
theorem inspect_source (settings : Settings) (source : Source) :
    inspect surroundings settings source.bundle? source.payload? =
      inspectSource surroundings settings source := by
  cases source with
  | payload text => rfl
  | bundle path =>
      rw [Source.bundle?, inspect, inspectSource]
      rcases Bundle.discover surroundings.read path settings.annotationKey with failure | found
      · rfl
      · cases found <;> rfl

/-- A command line with one source comes to the check of that source. -/
theorem run_source {before : List Bytes} {path : Bytes} {verbose : Bool} (now : Int)
    (opening : Opening surroundings.environment before "validate" path verbose)
    (line : ValidateLine) :
    run surroundings now (before ++ Bytes.ofText "validate" :: line.words) =
      checkSource surroundings path line.source := by
  rw [run, parse_validate_iff.mpr ⟨before, line, opening, rfl, rfl, rfl⟩]
  dsimp only
  rw [reply, checkSource]
  simp only [inspect_source]

/-- A source is a bundle or a payload and never both. -/
theorem isSome_source (source : Source) :
    source.bundle?.isSome = !source.payload?.isSome := by
  cases source <;> rfl

/-- What a subcommand reads names one source, so other words are refused. -/
theorem exists_fault (lookup : String → Option Bytes) {before behind : List Bytes} {scan : Scan}
    (front : Front before "validate" scan)
    (balanced : NamesBundle behind ↔ NamesPayload behind) :
    ∃ fault, Invocation.parse lookup (before ++ Bytes.ofText "validate" :: behind) =
      .error fault := by
  cases parsed : Invocation.parse lookup (before ++ Bytes.ofText "validate" :: behind) with
  | error fault => exact ⟨fault, rfl⟩
  | ok invocation =>
      exfalso
      obtain ⟨line, rfl, -⟩ := readCommand_validate_iff.mp (front.read_of_parse parsed)
      rw [line.namesBundle_iff, line.namesPayload_iff, isSome_source] at balanced
      cases present : line.source.payload?.isSome <;> rw [present] at balanced <;>
        simp at balanced

/-- **What the check is given.** A command line makes it run exactly with one source, a bundle or a
payload, and is refused with none or with both, whatever the files hold. -/
theorem sourced (surroundings : Surroundings) (now : Int) : Sourced surroundings now where
  reads _ _ _ _ _ := parse_validate_iff
  one all settings verbose bundle payload parsed := by
    obtain ⟨before, line, -, -, rfl, rfl⟩ := parse_validate_iff.mp parsed
    exact isSome_source line.source
  opens := opening_nil root_validate (by decide) surroundings.environment
  checks _ _ _ opening line := run_source now opening line
  refuses before scan behind front balanced := by
    obtain ⟨fault, refused⟩ := exists_fault surroundings.environment front balanced
    refine ⟨fault, refused, fun read => ?_⟩
    rw [run, refused]

end HealthWatch.Supervisor
