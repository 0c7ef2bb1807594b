/-! # Spans of time

A span is a number of milliseconds. Its text uses the largest unit that it fills, with as
few decimal places as the value needs.
-/

namespace HealthWatch

/-- A span of time in milliseconds. -/
structure Span where
  milliseconds : Nat
  deriving DecidableEq, Repr

namespace Span

/-- A span of whole seconds. -/
def ofSeconds (seconds : Nat) : Span := ⟨seconds * 1000⟩

/-- Three decimal places without trailing zeros, after a point unless none is left. -/
def fraction (thousandths : Nat) : List Char :=
  let digits := (Nat.toDigits 10 (1000 + thousandths)).drop 1
  match (digits.reverse.dropWhile (· = '0')).reverse with
  | [] => []
  | places => '.' :: places

/-- The text of a span: seconds with places, else milliseconds, else nothing at all counted
in the smallest unit. -/
def text (span : Span) : String :=
  if span.milliseconds = 0 then "0ns"
  else if span.milliseconds < 1000 then toString span.milliseconds ++ "ms"
  else
    toString (span.milliseconds / 1000) ++
      String.ofList (fraction (span.milliseconds % 1000)) ++ "s"

end Span

end HealthWatch
