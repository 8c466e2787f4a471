import Gazetteer.Json.Basic
import Gazetteer.Text.Hexadecimal

/-!
# Spans in log events

A log event tells the span in which it arose, if there is one that is being recorded.

* `Span.annotate`: an event with its span.
-/

namespace Gazetteer.Trace

open Text

/-- **The span in which an event arises.** -/
structure Span where
  id : Int
  trace : Int
  isRecording : Bool
  parent : Option Int
  deriving DecidableEq, Repr

/-- A number in hexadecimal digits. -/
def numberText (n : Int) : String :=
  (if n < 0 then "-0x" else "0x") ++ String.ofList (hex n.natAbs)

namespace Span

/-- A span as a value. -/
def json (s : Span) : Json :=
  .object [("span_id", .text (numberText s.id)), ("trace_id", .text (numberText s.trace)),
    ("parent_span_id", .ofText? (s.parent.map numberText))]

/-- **An event with its span.** -/
def annotate (span : Option Span) (event : List (String × Json)) : List (String × Json) :=
  match span.filter (·.isRecording) with
  | none => Json.put "span" .null event
  | some s => Json.put "span" s.json (Json.put "trace_sampled" (.bool true) event)

end Span

end Gazetteer.Trace
