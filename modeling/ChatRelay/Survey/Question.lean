/-
  Survey questions as they are authored.

  A question has a kind, a title, a flag and the answers to choose from.  The
  answers stand under `choices`, or under `options`, there also as the field
  `option` of an object; in the latter two places what is no object is passed
  over.

  * `Question.unwrapped?` moves the answers to `choices`;
  * `Question.check` reads a question, `Question.read` one in any of the
    shapes.
-/
import ChatRelay.Failure
import ChatRelay.Schema.Reading

namespace ChatRelay.Survey

open Schema

/-- The kinds of question. -/
inductive QuestionKind where
  | text
  | rating
  | choice
  | boolean
  | nps
  | ces
deriving DecidableEq

/-- The name of a kind. -/
def QuestionKind.name : QuestionKind → String
  | text => "text"
  | rating => "rating"
  | choice => "choice"
  | boolean => "boolean"
  | nps => "nps"
  | ces => "ces"

/-- The kinds by their names. -/
def QuestionKind.names : List (String × QuestionKind) :=
  [text, rating, choice, boolean, nps, ces].map fun k => (k.name, k)

/-- An answer to choose. -/
structure Choice where
  label : String
  value : String
deriving DecidableEq

/-- A question. -/
structure Question where
  kind : QuestionKind
  title : String
  required : Bool
  choices : List Choice
deriving DecidableEq

/-! ## Reading -/

/-- The text of a label or value of any sort. -/
def answerText : Json → String
  | .null => ""
  | .bool b => Json.wording b
  | v => v.display

/-- A label or a value. -/
def answerPart (v : Json) : Reading String := .fits (answerText v)

/-- An answer. -/
def Choice.check : Json → Reading Choice :=
  asRecord fun fs =>
    Choice.mk <$> fieldOr ["label"] "" answerPart fs <*> fieldOr ["value"] "" answerPart fs

/-- The answers under `options`; none if they cannot be gone through. -/
def authoredChoices? (options : Json) : Option (List Json) :=
  let listed := match options with
    | .object fs => (Json.get? fs "option").getD .null
    | v => v
  listed.elementsOrNone?.map (List.filter Json.isObject)

/-- A question with its answers under `choices`; none if they cannot be gone
    through. -/
def Question.unwrapped? : Json → Option Json
  | .object fs =>
    match Json.get? fs "choices", Json.get? fs "options" with
    | none, some options =>
      (authoredChoices? options).map fun cs =>
        .object (Json.put "choices" (.array cs) (Json.without "options" fs))
    | _, _ => some (.object fs)
  | v => some v

/-- A question with its answers under `choices`. -/
def Question.check : Json → Reading Question :=
  asRecord fun fs =>
    Question.mk <$> field ["type", "kind"] (asWord QuestionKind.names) fs
      <*> fieldOr ["title"] "" asText fs
      <*> fieldOr ["required"] false asFlag fs
      <*> fieldOr ["choices"] [] (asItems Choice.check) fs

/-- A question in any shape. -/
def Question.read (v : Json) : Except Failure Question :=
  match Question.unwrapped? v with
  | none => .error (.misused .sequence)
  | some v => match Question.check v with
    | .fits q => .ok q
    | .faulty fs => .error (.invalid fs)

end ChatRelay.Survey
