/-
  Survey pages as the front end receives them.

  A page asks one question.  Its routing table says for each answer which
  pages come next; the wildcard stands for any answer.

  * `Page.wire` writes a page, the table under `meta.answers` with every
    target as an object;
  * `Page.check` reads a page.
-/
import ChatRelay.Content.Wire
import ChatRelay.Survey.Question

namespace ChatRelay.Survey

open Schema

/-- What a page offers: answers to choose from, or a range of numbers. -/
inductive Options where
  | choices (cs : List Choice)
  | range (least greatest : Int)
deriving DecidableEq

/-- A page. -/
structure Page where
  id : String
  kind : String
  title : String
  text : Option String
  required : Bool
  options : Option Options
  routing : List (String × List String)
deriving DecidableEq

/-- The route that any answer takes. -/
def wildcard : String := "*"

/-! ## Writing -/

/-- An answer. -/
def Choice.wire (c : Choice) : Json :=
  .object [("label", .text c.label), ("value", .text c.value)]

/-- What a page offers. -/
def Options.wire : Options → Json
  | choices cs => .array (cs.map Choice.wire)
  | range least greatest => .object [("min", .int least), ("max", .int greatest)]

/-- A target of a route. -/
def targetWire (target : String) : Json := .object [("id", .text target)]

/-- The routing table; an empty one has the wildcard without a target. -/
def Page.answers (p : Page) : Fields :=
  if p.routing.isEmpty then [(wildcard, .array [])]
  else p.routing.map fun r => (r.1, .array (r.2.map targetWire))

/-- A page. -/
def Page.wire (p : Page) : Json :=
  .object (present [
    ("id", some (.text p.id)),
    ("surveyType", some (.text p.kind)),
    ("title", some (.text p.title)),
    ("text", p.text.map .text),
    ("required", some (.bool p.required)),
    ("options", p.options.map Options.wire),
    ("meta", some (.object [("answers", .object p.answers)]))])

/-! ## Reading -/

/-- A range of numbers. -/
def rangeCheck : Json → Reading Options :=
  asRecord fun fs => Options.range <$> field ["min"] asWhole fs <*> field ["max"] asWhole fs

/-- What a page offers.  A value that is neither has the faults of both. -/
def Options.check (v : Json) : Reading Options :=
  match asItems Choice.check v, rangeCheck v with
  | .fits cs, _ => .fits (.choices cs)
  | .faulty _, .fits r => .fits r
  | .faulty fs, .faulty gs =>
    .faulty (fs.map (Fault.under (.key "list[SurveyChoice]")) ++
      gs.map (Fault.under (.key "NumericRange")))

/-- A page. -/
def Page.check : Json → Reading Page :=
  asRecord fun fs =>
    Page.mk <$> field ["id"] asText fs
      <*> field ["surveyType", "survey_kind"] asText fs
      <*> fieldOr ["title"] "" asText fs
      <*> fieldOr ["text"] none (orNull asText) fs
      <*> fieldOr ["required"] false asFlag fs
      <*> fieldOr ["options"] none (orNull Options.check) fs
      <*> fieldOr ["routing"] [] (asMapping (asItems asText)) fs

end ChatRelay.Survey
