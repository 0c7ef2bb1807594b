import HealthWatch.Proofs.Healthcheck.Annotations
import HealthWatch.Proofs.Json.Positional

/-! # Annotations that are no objects

An annotation that is not one object is malformed, unless it is one list with five elements that
stand for a test and four numbers in the order of the fields. Such a list is taken as the object
with these values would be (`Annotations.listAnswers_of_not_object`).
-/

namespace HealthWatch

namespace Json.Written

/-- A document that is one list. -/
structure ListDocument where
  before : List Blank
  inside : List Blank
  elements : List (Padded Tree)
  after : List Blank

def ListDocument.text (document : ListDocument) : String :=
  String.ofList
    (blanks document.before ++ (Tree.list document.inside document.elements).text ++
      blanks document.after)

/-- An object opens with its brace, behind blanks. -/
theorem Document.opens (document : Document) :
    (skipBlanks document.text.toList).head? = some '\x7b' := by
  rw [Document.text, String.toList_ofList, List.append_assoc, skipBlanks_object]
  rfl

/-- What does not begin with a brace is no document. -/
theorem ne_text_of_opens {payload : String}
    (opens : (skipBlanks payload.toList).head? ≠ some '\x7b') (document : Document) :
    payload ≠ document.text := by
  rintro rfl
  exact opens document.opens

end Json.Written

namespace Annotations

open Json Json.Written

/-- The elements of a list stand for values: one for each field, in their order, and no others. -/
def Lines (elements : List (Padded Tree)) (values : Values) : Prop :=
  ∃ test interval timeout startPeriod retries : Padded Tree,
    elements = [test, interval, timeout, startPeriod, retries] ∧
      test.value.strings? = some values.test ∧ Counts interval.value values.interval ∧
      Counts timeout.value values.timeout ∧ Counts startPeriod.value values.startPeriod ∧
      Counts retries.value values.retries

/-- The five elements of a list stand for values exactly when each stands for its own. -/
theorem lines_iff {elements : List (Padded Tree)} {values : Values} :
    record.fields.listed? elements = some (values.test, values.interval, values.timeout,
        values.startPeriod, values.retries, ()) ↔ Lines elements values := by
  rw [Fields.listed?_eq_some]
  constructor
  · rintro ⟨test, _, rfl, texts, interval, _, rfl, first, timeout, _, rfl, second, startPeriod, _,
      rfl, third, retries, _, rfl, fourth, rfl⟩
    exact ⟨test, interval, timeout, startPeriod, retries, rfl, texts, data?_int64.mp first,
      data?_int64.mp second, data?_int64.mp third, data?_int64.mp fourth⟩
  · rintro ⟨test, interval, timeout, startPeriod, retries, rfl, texts, first, second, third,
      fourth⟩
    exact ⟨test, _, rfl, texts, interval, _, rfl, data?_int64.mpr first, timeout, _, rfl,
      data?_int64.mpr second, startPeriod, _, rfl, data?_int64.mpr third, retries, _, rfl,
      data?_int64.mpr fourth, rfl⟩

/-- The payload is a list whose elements stand for values. -/
def Lists (payload : String) (values : Values) : Prop :=
  ∃ document : ListDocument, payload = document.text ∧ Lines document.elements values

section Payload

variable {payload : String} (notObject : ∀ document : Document, payload ≠ document.text)
include notObject

/-- Of the payloads that are no objects, values are read from lists that stand for them. -/
theorem reads_iff_lists {values : Values} : Reads payload values ↔ Lists payload values := by
  rw [Reads, Record.ofText_eq_ok_iff rfl (by decide)]
  constructor
  · rintro ⟨⟨before, tree, after⟩, rfl, held⟩
    cases tree with
    | list inside elements =>
        exact ⟨⟨before, inside, elements, after⟩, rfl, lines_iff.mp held⟩
    | object inside members => exact absurd rfl (notObject ⟨before, inside, members, after⟩)
    | _ => cases held
  · rintro ⟨document, rfl, lines⟩
    exact ⟨⟨document.before, .list document.inside document.elements, document.after⟩, rfl,
      lines_iff.mpr lines⟩

end Payload

/-- What reading an annotation comes to, when it is no object. -/
structure ListAnswers (payload : String) : Prop where
  accepted : ∀ check, parse payload = .ok check ↔
    ∃ values argv, Lists payload values ∧ Permits values argv ∧ Keeps values argv check
  /-- All other payloads are malformed, whatever they are. -/
  malformed : (∃ error, parse payload = .error (.annotationMalformed error)) ↔
    ¬∃ values, Lists payload values
  invalid : (∃ fault, parse payload = .error (.healthcheckInvalid fault)) ↔
    ∃ values, Lists payload values ∧ ¬∃ argv, Permits values argv

/-- A payload that is no object is accepted as well when it is a list of five values that are
permitted. -/
theorem listAnswers_of_not_object {payload : String}
    (notObject : ∀ document : Document, payload ≠ document.text) : ListAnswers payload := by
  constructor <;> simp only [← reads_iff_lists notObject]
  · exact fun _ => parse_eq_ok_iff
  · exact parse_eq_malformed_iff
  · exact parse_eq_invalid_iff

/-- A list that gives all five values. -/
def fiveValues : String := "[[\"CMD\",\"true\"],5,5,0,1]"

/-- The list of five values is no document. -/
theorem fiveValues_ne_text : ∀ document : Document, fiveValues ≠ document.text :=
  ne_text_of_opens (by decide)

/-- The list of five values is answered as a list. -/
theorem listAnswers_of_fiveValues : ListAnswers fiveValues :=
  listAnswers_of_not_object fiveValues_ne_text

/-- Not every payload that is no object is malformed. -/
theorem accepts_fiveValues : (∀ document : Document, fiveValues ≠ document.text) ∧
    parse fiveValues = .ok ⟨["true"], 5, 5, 0, 1, true⟩ := by
  have accepted : (parse fiveValues).toOption = some ⟨["true"], 5, 5, 0, 1, true⟩ := by
    decide +kernel
  refine ⟨fiveValues_ne_text, ?_⟩
  cases outcome : parse fiveValues with
  | error failure =>
      rw [outcome] at accepted
      cases accepted
  | ok check =>
      rw [outcome] at accepted
      exact congrArg Except.ok (Option.some.inj accepted)

end Annotations

end HealthWatch
