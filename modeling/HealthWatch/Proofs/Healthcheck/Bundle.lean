import HealthWatch.Healthcheck.Bundle
import HealthWatch.Proofs.Healthcheck.Annotations
import HealthWatch.Proofs.Bytes
import HealthWatch.Proofs.Json.Meaning

/-! # What the configuration of a bundle decides

A configuration that is an object holds one value under the key of the healthcheck, or none
(`Bundle.Entry`). Nothing else about it has an influence on what is discovered. Configurations that
hold nothing, that cannot be read and that are broken are told apart, and a text under the key is
the annotation of the healthcheck (`Bundle.decides`).
-/

namespace HealthWatch

/-- An annotation is refused as an annotation, or as a healthcheck. -/
theorem Annotations.parse_failure {payload : String} {failure : Failure}
    (refused : parse payload = .error failure) :
    (∃ error, failure = .annotationMalformed error) ∨
      ∃ fault, failure = .healthcheckInvalid fault := by
  unfold parse at refused
  split at refused
  · cases refused
    exact .inl ⟨_, rfl⟩
  · rename_i test interval timeout startPeriod retries read
    cases checked : healthcheck test interval timeout startPeriod retries with
    | ok check =>
        rw [checked] at refused
        cases refused
    | error fault =>
        rw [checked] at refused
        cases refused
        exact .inr ⟨fault, rfl⟩

namespace Bundle

open Json (Value encodeText)
open Json.Value Json.Written

variable {read : FileReader} {bundle path : Bytes} {key text : String}
  {members : List (String × Value)} {entry : Option Value}

/-! ## Objects -/

/-- What the annotations among the members hold under a key. -/
inductive Entry (members : List (String × Value)) (key : String) : Option Value → Prop
  | unannotated (lacks : Lacks members "annotations") : Entry members key none
  | null (counts : Counts members "annotations" .null) : Entry members key none
  | absent {annotations : List (String × Value)}
      (counts : Counts members "annotations" (.object annotations))
      (lacks : Lacks annotations key) : Entry members key none
  | present {annotations : List (String × Value)} {value : Value}
      (counts : Counts members "annotations" (.object annotations))
      (holds : Counts annotations key value) : Entry members key (some value)

/-- The annotation that an entry is. -/
def annotation? (key : String) : Option Value → Except BundleFault (Option String)
  | none => .ok none
  | some (.string payload) => .ok (some payload)
  | some _ => .error (.entryNotString key)

/-- What an object holds under the key of annotations decides whether there is a payload. -/
theorem payload?_of_entry (holds : Entry members key entry) :
    payload? (.object members) key = annotation? key entry := by
  unfold payload?
  dsimp only
  cases holds with
  | unannotated lacks =>
      rw [last?_of_lacks lacks]
      rfl
  | null counts =>
      rw [last?_of_counts counts]
      rfl
  | absent counts lacks =>
      rw [last?_of_counts counts]
      dsimp only
      rw [last?_of_lacks lacks]
      rfl
  | @present annotations value counts holds =>
      rw [last?_of_counts counts]
      dsimp only
      rw [last?_of_counts holds]
      cases value <;> rfl

/-- Annotations that are neither an object nor null are a fault. -/
theorem payload?_of_notObject {value : Value} (counts : Counts members "annotations" value)
    (notNull : value ≠ .null) (notObject : ∀ annotations, value ≠ .object annotations) :
    payload? (.object members) key = .error .annotationsNotObject := by
  unfold payload?
  dsimp only
  rw [last?_of_counts counts]
  cases value with
  | null => exact absurd rfl notNull
  | object annotations => exact absurd rfl (notObject annotations)
  | boolean | number | string | list => rfl

/-- The members hold one entry, unless their annotations are neither null nor an object. -/
theorem entry_or_notObject (members : List (String × Value)) (key : String) :
    (∃ entry, Entry members key entry) ∨
      ∃ value, Counts members "annotations" value ∧ value ≠ .null ∧
        ∀ annotations, value ≠ .object annotations := by
  obtain lacks | ⟨value, counts⟩ := lacks_or_counts members "annotations"
  · exact .inl ⟨none, .unannotated lacks⟩
  cases value with
  | null => exact .inl ⟨none, .null counts⟩
  | object annotations =>
      obtain lacks | ⟨value, holds⟩ := lacks_or_counts annotations key
      · exact .inl ⟨none, .absent counts lacks⟩
      · exact .inl ⟨some value, .present counts holds⟩
  | boolean | number | string | list => exact .inr ⟨_, counts, nofun, nofun⟩

/-! ## Texts -/

/-- The text is an object whose annotations hold the entry under the key. -/
def States (text key : String) (entry : Option Value) : Prop :=
  ∃ members, Stands text (.object members) ∧ Entry members key entry

/-- The text is no configuration of a bundle. -/
inductive Broken (text key : String) : BundleFault → Prop
  | notJson (error : Json.Error) (nothing : ∀ value, ¬Stands text value) :
      Broken text key (.notJson error)
  | rootNotObject {root : Value} (stands : Stands text root)
      (notObject : ∀ members, root ≠ .object members) : Broken text key .rootNotObject
  | annotationsNotObject {members : List (String × Value)} {value : Value}
      (stands : Stands text (.object members)) (counts : Counts members "annotations" value)
      (notNull : value ≠ .null) (notObject : ∀ annotations, value ≠ .object annotations) :
      Broken text key .annotationsNotObject
  | entryNotString {value : Value} (states : States text key (some value))
      (notString : ∀ payload, value ≠ .string payload) : Broken text key (.entryNotString key)

/-- What follows from the annotation of a configuration. -/
def answer (path : Bytes) : Except BundleFault (Option String) → Except Failure (Option Healthcheck)
  | .error fault => .error (.bundleInvalid path fault)
  | .ok none => .ok none
  | .ok (some payload) => (Annotations.parse payload).map some

/-- A text that stands for a value is answered by the payload of this value. -/
theorem parse_of_stands {root : Value} (stands : Stands text root) :
    parse path text key = answer path (payload? root key) := by
  unfold parse
  rw [ofText_eq_ok_iff.mpr stands]
  dsimp only
  split
  · rename_i refused
    rw [refused]
    rfl
  · rename_i nothing
    rw [nothing]
    rfl
  · rename_i found
    rw [found]
    rfl

/-- A text that states an entry is answered by this entry, whatever else it holds. -/
theorem parse_of_states (states : States text key entry) :
    parse path text key = answer path (annotation? key entry) := by
  obtain ⟨members, stands, holds⟩ := states
  rw [parse_of_stands stands, payload?_of_entry holds]

/-- A broken text is refused for something that is broken about it. -/
theorem parse_of_broken {fault : BundleFault} (broken : Broken text key fault) :
    ∃ named, Broken text key named ∧
      parse path text key = .error (.bundleInvalid path named) := by
  cases broken with
  | notJson error nothing =>
      -- Which error it is depends on where reading stops, which is left open here.
      unfold parse
      cases refused : ofText text with
      | error named => exact ⟨.notJson named, .notJson named nothing, rfl⟩
      | ok value => exact absurd (ofText_eq_ok_iff.mp refused) (nothing value)
  | @rootNotObject root stands notObject =>
      refine ⟨.rootNotObject, .rootNotObject stands notObject, ?_⟩
      rw [parse_of_stands stands]
      cases root with
      | object members => exact absurd rfl (notObject members)
      | null | boolean | number | string | list => rfl
  | annotationsNotObject stands counts notNull notObject =>
      refine ⟨_, .annotationsNotObject stands counts notNull notObject, ?_⟩
      rw [parse_of_stands stands, payload?_of_notObject counts notNull notObject]
      rfl
  | @entryNotString value states notString =>
      refine ⟨.entryNotString key, .entryNotString states notString, ?_⟩
      rw [parse_of_states states]
      cases value with
      | string payload => exact absurd rfl (notString payload)
      | null | boolean | number | list | object => rfl

/-- A text is broken, says nothing, or says what the annotation of the healthcheck is. -/
theorem broken_or_states (text key : String) :
    (∃ fault, Broken text key fault) ∨ States text key none ∨
      ∃ payload, States text key (some (.string payload)) := by
  cases read : ofText text with
  | error error =>
      refine .inl ⟨.notJson error, .notJson error fun value stands => ?_⟩
      cases read.symm.trans (ofText_eq_ok_iff.mpr stands)
  | ok root =>
      have stands := ofText_eq_ok_iff.mp read
      cases root with
      | object members =>
          obtain ⟨entry, holds⟩ | ⟨value, counts, notNull, notObject⟩ :=
            entry_or_notObject members key
          · cases entry with
            | none => exact .inr (.inl ⟨members, stands, holds⟩)
            | some value =>
                cases value with
                | string payload => exact .inr (.inr ⟨payload, members, stands, holds⟩)
                | null | boolean | number | list | object =>
                    exact .inl ⟨_, .entryNotString ⟨members, stands, holds⟩ nofun⟩
          · exact .inl ⟨_, .annotationsNotObject stands counts notNull notObject⟩
      | null | boolean | number | string | list =>
          exact .inl ⟨_, .rootNotObject stands nofun⟩

/-! ## Bundles -/

/-- The configuration of the bundle is the text. -/
def Holds (read : FileReader) (bundle : Bytes) (text : String) : Prop :=
  ∃ content, read (configPath bundle) = .ok content ∧ content.text? = some text

/-- The configuration of the bundle is there and cannot be read. -/
inductive Unreadable (read : FileReader) (bundle : Bytes) : IoFault → Prop
  | refused {fault : IoFault} (refused : read (configPath bundle) = .error fault)
      (present : fault ≠ .notFound) : Unreadable read bundle fault
  | notText {content : Bytes} (taken : read (configPath bundle) = .ok content)
      (notText : content.text? = none) : Unreadable read bundle .notText

/-- A configuration that can be read is discovered as its text says. -/
theorem discover_of_holds (holds : Holds read bundle text) :
    discover read bundle key = parse (configPath bundle) text key := by
  obtain ⟨content, taken, isText⟩ := holds
  rw [discover, FileReader.text, taken]
  dsimp only
  rw [isText]

/-- A bundle without a configuration has no healthcheck. -/
theorem discover_of_missing (missing : read (configPath bundle) = .error .notFound) :
    discover read bundle key = .ok none := by
  rw [discover, FileReader.text, missing]

/-- A configuration that cannot be read is a failure that names the file and the fault. -/
theorem discover_of_unreadable {fault : IoFault} (unreadable : Unreadable read bundle fault) :
    discover read bundle key = .error (.bundleUnreadable (configPath bundle) fault) := by
  unfold discover FileReader.text
  cases unreadable with
  | refused refused present =>
      rw [refused]
      dsimp only
      split
      · rename_i same
        cases same
        exact absurd rfl present
      · rename_i same
        cases same
        rfl
      · rename_i same
        cases same
  | notText taken notText =>
      rw [taken]
      dsimp only
      rw [notText]

/-- Everything that reading the configuration of a bundle can come to. -/
inductive Outcome (read : FileReader) (bundle : Bytes) (key : String) :
    Except Failure (Option Healthcheck) → Prop
  | missing (missing : read (configPath bundle) = .error .notFound) :
      Outcome read bundle key (.ok none)
  | unreadable {fault : IoFault} (unreadable : Unreadable read bundle fault) :
      Outcome read bundle key (.error (.bundleUnreadable (configPath bundle) fault))
  | broken {text : String} {fault : BundleFault} (holds : Holds read bundle text)
      (broken : Broken text key fault) :
      Outcome read bundle key (.error (.bundleInvalid (configPath bundle) fault))
  | nothing {text : String} (holds : Holds read bundle text) (states : States text key none) :
      Outcome read bundle key (.ok none)
  | accepted {text payload : String} {check : Healthcheck} (holds : Holds read bundle text)
      (states : States text key (some (.string payload)))
      (accepted : Annotations.parse payload = .ok check) :
      Outcome read bundle key (.ok (some check))
  | refused {text payload : String} {failure : Failure} (holds : Holds read bundle text)
      (states : States text key (some (.string payload)))
      (refused : Annotations.parse payload = .error failure) :
      Outcome read bundle key (.error failure)

/-- A discovery comes to one of the outcomes that the configuration decides. -/
theorem outcome (read : FileReader) (bundle : Bytes) (key : String) :
    Outcome read bundle key (discover read bundle key) := by
  -- First whether there is a file, then whether it is text, and then what the text states.
  cases taken : read (configPath bundle) with
  | error fault =>
      by_cases missing : fault = .notFound
      · subst missing
        rw [discover_of_missing taken]
        exact .missing taken
      · have unreadable : Unreadable read bundle fault := .refused taken missing
        rw [discover_of_unreadable unreadable]
        exact .unreadable unreadable
  | ok content =>
      cases isText : content.text? with
      | none =>
          have unreadable : Unreadable read bundle .notText := .notText taken isText
          rw [discover_of_unreadable unreadable]
          exact .unreadable unreadable
      | some text =>
          have holds : Holds read bundle text := ⟨content, taken, isText⟩
          rw [discover_of_holds holds]
          obtain ⟨fault, broken⟩ | states | ⟨payload, states⟩ := broken_or_states text key
          · obtain ⟨named, broken, refused⟩ := parse_of_broken broken
            rw [refused]
            exact .broken holds broken
          · rw [parse_of_states states]
            exact .nothing holds states
          · rw [parse_of_states states]
            cases parsed : Annotations.parse payload with
            | ok check =>
                rw [annotation?, answer, parsed]
                exact .accepted holds states parsed
            | error failure =>
                rw [annotation?, answer, parsed]
                exact .refused holds states parsed

/-- No healthcheck is found exactly when there is no configuration, or when it states none. -/
theorem discover_eq_none : discover read bundle key = .ok none ↔
    read (configPath bundle) = .error .notFound ∨
      ∃ text, Holds read bundle text ∧ States text key none := by
  constructor
  · intro nothing
    have reached := outcome read bundle key
    rw [nothing] at reached
    cases reached with
    | missing missing => exact .inl missing
    | nothing holds states => exact .inr ⟨_, holds, states⟩
  · rintro (missing | ⟨text, holds, states⟩)
    · exact discover_of_missing missing
    · rw [discover_of_holds holds, parse_of_states states]
      rfl

/-- A configuration is told to be unreadable exactly when it cannot be read. -/
theorem discover_eq_unreadable {fault : IoFault} :
    discover read bundle key = .error (.bundleUnreadable (configPath bundle) fault) ↔
      Unreadable read bundle fault := by
  constructor
  · intro unreadable
    have reached := outcome read bundle key
    rw [unreadable] at reached
    cases reached with
    | unreadable unreadable => exact unreadable
    | refused _ _ refused => rcases Annotations.parse_failure refused with ⟨_, ⟨⟩⟩ | ⟨_, ⟨⟩⟩
  · exact discover_of_unreadable

/-- A configuration that is told to be invalid is broken in the way that is told. -/
theorem broken_of_discover {fault : BundleFault}
    (invalid : discover read bundle key = .error (.bundleInvalid (configPath bundle) fault)) :
    ∃ text, Holds read bundle text ∧ Broken text key fault := by
  have reached := outcome read bundle key
  rw [invalid] at reached
  cases reached with
  | broken holds broken => exact ⟨_, holds, broken⟩
  | refused _ _ refused => rcases Annotations.parse_failure refused with ⟨_, ⟨⟩⟩ | ⟨_, ⟨⟩⟩

/-- A healthcheck that is discovered was made of checked values. -/
theorem made_of_discover {check : Healthcheck}
    (found : discover read bundle key = .ok (some check)) : check.Made := by
  have reached := outcome read bundle key
  rw [found] at reached
  cases reached with
  | accepted holds states accepted => exact Annotations.made_of_parse accepted

/-! ## Made configurations -/

/-- The text of a configuration that holds an annotation and nothing else. -/
def embed (key payload : String) : String :=
  "\x7b" ++ encodeText "annotations" ++ ":\x7b" ++ encodeText key ++ ":" ++ encodeText payload ++
    "\x7d\x7d"

/-- How the annotations of a made configuration are written. -/
def annotationTree (key payload : String) : Tree :=
  .object [] [.compact key (.string (spell payload))]

/-- The annotations that are written stand for an object with the one payload. -/
theorem value?_annotationTree (key payload : String) (depth : Nat) :
    (annotationTree key payload).value? (depth + 1) =
      some (.object [(key, .string payload)]) := by
  rw [annotationTree, Tree.value?_object, List.mapM_cons, Member.value?_compact, Tree.value?,
    textOf?_spell]
  rfl

/-- A payload is embedded in a document without blanks. -/
theorem embed_eq (key payload : String) :
    embed key payload = (Document.compact [("annotations", annotationTree key payload)]).text := by
  apply String.toList_injective
  rw [Document.toList_compact]
  simp [embed, annotationTree, encodeText, Tree.text_object, Member.text_compact, Tree.text,
    quoted_spell, blanks]

/-- An embedded payload stands for an object in an object, with the payload as a text. -/
theorem stands_embed (key payload : String) :
    Stands (embed key payload) (.object [("annotations", .object [(key, .string payload)])]) := by
  rw [embed_eq]
  apply stands_compact
  rw [List.mapM_cons, value?_annotationTree]
  rfl

/-- An embedded payload is stated under its key, whatever its characters are. -/
theorem states_embed (key payload : String) :
    States (embed key payload) key (some (.string payload)) := by
  have entry : Entry [("annotations", Value.object [(key, .string payload)])] key
      (some (.string payload)) :=
    .present ⟨[], [], rfl, List.forall_mem_nil _⟩ ⟨[], [], rfl, List.forall_mem_nil _⟩
  exact ⟨_, stands_embed key payload, entry⟩

/-- How the configuration of a bundle decides on its healthcheck under a key. -/
structure Decides (read : FileReader) (bundle : Bytes) (key : String) : Prop where
  reached : Outcome read bundle key (discover read bundle key)
  /-- There is no healthcheck when there is no configuration or it holds nothing, and only then. -/
  nothing : discover read bundle key = .ok none ↔
    read (configPath bundle) = .error .notFound ∨
      ∃ text, Holds read bundle text ∧ States text key none
  unreadable : ∀ fault,
    discover read bundle key = .error (.bundleUnreadable (configPath bundle) fault) ↔
      Unreadable read bundle fault
  /-- A broken configuration is invalid, for a reason why it is broken. -/
  broken : ∀ text fault, Holds read bundle text → Broken text key fault →
    ∃ named, Broken text key named ∧
      discover read bundle key = .error (.bundleInvalid (configPath bundle) named)
  invalid : ∀ fault,
    discover read bundle key = .error (.bundleInvalid (configPath bundle) fault) →
      ∃ text, Holds read bundle text ∧ Broken text key fault
  healthcheck : ∀ text payload, Holds read bundle text → States text key (some (.string payload)) →
    discover read bundle key = (Annotations.parse payload).map some
  /-- Nothing of a configuration but the entry has an influence. -/
  entry : ∀ other text otherText entry, Holds read bundle text → Holds other bundle otherText →
    States text key entry → States otherText key entry →
      discover read bundle key = discover other bundle key
  embedded : ∀ payload, read (configPath bundle) = .ok (Bytes.ofText (embed key payload)) →
    discover read bundle key = (Annotations.parse payload).map some

/-- **What a bundle decides.** The configuration is found missing, unreadable, broken, or stating a
payload or none, in this order, and nothing else about the document matters. Any text can be
embedded under any key as the payload. -/
theorem decides (read : FileReader) (bundle : Bytes) (key : String) : Decides read bundle key where
  reached := outcome read bundle key
  nothing := discover_eq_none
  unreadable fault := discover_eq_unreadable
  broken text fault holds broken := by
    obtain ⟨named, broken, refused⟩ := parse_of_broken broken
    exact ⟨named, broken, (discover_of_holds holds).trans refused⟩
  invalid fault := broken_of_discover
  healthcheck text payload holds states := by
    rw [discover_of_holds holds, parse_of_states states]
    rfl
  entry other text otherText entry holds otherHolds states otherStates := by
    rw [discover_of_holds holds, discover_of_holds otherHolds, parse_of_states states,
      parse_of_states otherStates]
  embedded payload taken := by
    have holds : Holds read bundle (embed key payload) := ⟨_, taken, Bytes.text?_ofText _⟩
    rw [discover_of_holds holds, parse_of_states (states_embed key payload)]
    rfl

end Bundle

end HealthWatch
