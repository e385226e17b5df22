/-
  Metrics: under which name and labels the relay publishes what it counts.

  A family of metrics is a counter or a histogram.  A counter has one value
  for every combination of its labels.

  * `Family` are the families, `Family.listing` names each with its type;
  * `Count.family`, `Count.labels` and `Count.amount` say which value a count
    raises, and by how much.
-/
import ChatRelay.World

namespace ChatRelay

/-- The families of metrics. -/
inductive Family where
  | dropped
  | deliveries
  | deliverySeconds
  | built
  | requestSeconds
  | requests
  | toolCalls
  | triggers
deriving DecidableEq

namespace Family

/-- The name of a family. -/
def name : Family → String
  | dropped => "content_items_dropped_total"
  | deliveries => "deliveries_total"
  | deliverySeconds => "delivery_duration_seconds"
  | built => "envelopes_built_total"
  | requestSeconds => "http_request_duration_seconds"
  | requests => "http_requests_total"
  | toolCalls => "tool_calls_total"
  | triggers => "webhook_events_total"

/-- The type of a family. -/
def sort : Family → String
  | deliverySeconds | requestSeconds => "histogram"
  | _ => "counter"

/-- The families in the order of their names. -/
def all : List Family :=
  [dropped, deliveries, deliverySeconds, built, requestSeconds, requests, toolCalls, triggers]

/-- The families, each with its type. -/
def listing : List String := all.map fun f => f.name ++ " " ++ f.sort

end Family

namespace Count

/-- The family that a count belongs to. -/
def family : Count → Family
  | built _ => .built
  | dropped .. => .dropped
  | delivered .. => .deliveries
  | triggered _ => .triggers
  | toolCalled .. => .toolCalls
  | requested .. => .requests

/-- The labels of the value that a count raises. -/
def labels : Count → List String
  | built kind => [kind.name]
  | dropped reason _ => [reason]
  | delivered path success => [path, outcomeName success]
  | triggered path => [path]
  | toolCalled name status => [name, status.name]
  | requested method endpoint status => [method, endpoint, toString status]

/-- By how much a count raises it. -/
def amount : Count → Nat
  | dropped _ n => n
  | _ => 1

/-- The value that a count raises: the name of the family and the labels. -/
def series (c : Count) : String := "|".intercalate (c.family.name :: c.labels)

end Count

/-- Adds to the value of a series; the series stand in the order in which they
    are first raised. -/
def raise (series : String) (n : Nat) : List (String × Nat) → List (String × Nat)
  | [] => [(series, n)]
  | s :: rest => if s.1 = series then (s.1, s.2 + n) :: rest else s :: raise series n rest

/-- The values that counts add up to. -/
def totals (cs : List Count) : List (String × Nat) :=
  cs.foldl (fun values c => raise c.series c.amount values) []

end ChatRelay
