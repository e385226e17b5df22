/-
  From questions to the pages of a survey.

  The pages form one line: every question has a page that leads to the next
  one whatever the answer, the last to the end page, which says goodbye and
  leads nowhere.  The pages are numbered from one.

  * `compile` makes the pages of questions;
  * `readPages` reads questions and texts of any sort first.
-/
import ChatRelay.Number.Arithmetic
import ChatRelay.Survey.Page

namespace ChatRelay.Survey

open Schema

/-- The id of the page for the question at a place counted from zero. -/
def pageId (index : Int) : String := "q-" ++ Number.intText (index + 1)

/-- The id of the page at a place given as a value; a flag counts as a number. -/
def readPageId (place : Json) : Except Failure String := do
  let index ← match place with
    | .number n => pure n
    | .bool b => pure (.int (if b then 1 else 0))
    | _ => throw (.misused .number)
  return "q-" ++ (← (writeNumber (index.add (.int 1))).mapError .numeral)

/-- The id and the kind of the last page. -/
def endPage : String := "end"

/-- The kind of a page with answers to choose from. -/
def optionsKind : String := "options"

/-- The kind of the page for a question. -/
def pageKind : QuestionKind → String
  | .choice | .boolean => optionsKind
  | k => k.name

/-- The answers to a yes-or-no question. -/
def booleanChoices : List Choice := [⟨"Yes", "true"⟩, ⟨"No", "false"⟩]

/-- What the page for a question offers. -/
def pageOptions (q : Question) : Option Options :=
  match q.kind with
  | .boolean => some (.choices booleanChoices)
  | .nps => some (.range 0 10)
  | .ces => some (.range 1 7)
  | _ => if q.choices.isEmpty then none else some (.choices q.choices)

/-- The page for the question at the place `index`, followed by the page
    `next`. -/
def questionPage (index : Nat) (next : String) (q : Question) : Page where
  id := pageId index
  kind := pageKind q.kind
  title := q.title
  text := none
  required := q.required
  options := pageOptions q
  routing := [(wildcard, [next])]

/-- The last page. -/
def completionPage (message : String) (description : Option String) : Page where
  id := endPage
  kind := endPage
  title := message
  text := description
  required := false
  options := some (.choices [])
  routing := []

/-- The pages for the questions from the place `index` on, and `last`. -/
def pagesFrom (last : Page) (index : Nat) : List Question → List Page
  | [] => [last]
  | [q] => [questionPage index last.id q, last]
  | q :: rest => questionPage index (pageId (index + 1)) q :: pagesFrom last (index + 1) rest

/-- The pages of a survey. -/
def compile (qs : List Question) (message : String) (description : Option String) : List Page :=
  pagesFrom (completionPage message description) 0 qs

/-- The last page, its texts of any sort. -/
def readCompletion (message description : Json) : Reading (String × Option String) :=
  Prod.mk <$> (asText message).under (.key "title") <*>
    (orNull asText description).under (.key "text")

/-- The pages of a survey, its questions in any shape and its texts of any
    sort.  The first question that is not one is reported, then the texts. -/
def readPages (questions : List Json) (message description : Json) :
    Except Failure (List Page) := do
  let qs ← questions.mapM Question.read
  match readCompletion message description with
  | .faulty fs => .error (.invalid fs)
  | .fits (message, description) => .ok (compile qs message description)

/-! ## Surveys -/

/-- When a survey is made: milliseconds of the clock and a random text. -/
structure Stamp where
  millis : Nat
  random : String

/-- The id that the responses to one survey carry. -/
def responseId (session : String) (stamp : Stamp) : String :=
  "resp-" ++ session ++ "-" ++ toString stamp.millis ++ "-" ++ stamp.random

/-- The seconds that a survey is offered, and that a question stays open. -/
def expiration : Fields :=
  [("offerExpirationInterval", .int 3600), ("questionExpirationInterval", .int 3600)]

/-- A survey as an item of a message: its title, its pages and the id for the
    responses. -/
structure Item where
  title : String
  pages : List Page
  responseId : String
deriving DecidableEq

/-- The survey item for a session. -/
def item (session : String) (stamp : Stamp) (title : String) (pages : List Page) : Item :=
  { title, pages, responseId := responseId session stamp }

/-- A survey item. -/
def Item.wire (i : Item) : Json :=
  .object [
    ("type", .text "survey"),
    ("title", .text i.title),
    ("pages", .array (i.pages.map Page.wire)),
    ("meta", .object (("surveyResponseId", .text i.responseId) :: expiration))]

end ChatRelay.Survey
