/-
  What the bodies of requests hold.

  A batch has items, each an object, and what all its messages share; every
  route adds fields of its own.  The questions of a survey may be given in any
  of their shapes.

  * `BatchRequest` is a batch, `BatchRequest.check` reads the one of a route;
  * `BatchRequest.context` is what the batch is worked off under;
  * `Invocation` is the call of a tool.
-/
import ChatRelay.Batch

namespace ChatRelay.Gateway

open Schema

/-- A batch. -/
structure BatchRequest where
  session : Option String
  items : List Fields
  outputs : Option (List (String × List Fields))
  continueOnFail : Option Bool
  policy : Option Policy
  params : Params

/-- A list of objects. -/
def asObjects : Json → Reading (List Fields) := asItems asObject

/-- A batch whose own fields are read already. -/
def batchOf (own : Reading (Option Policy × Params)) (fs : Fields) : Reading BatchRequest :=
  (fun session items outputs continueOnFail own =>
    { session, items, outputs, continueOnFail, policy := own.1, params := own.2 })
    <$> fieldOr ["session_id"] none (orNull asText) fs
    <*> fieldOr ["items"] [] asObjects fs
    <*> fieldOr ["upstream"] none (orNull (asMapping asObjects)) fs
    <*> fieldOr ["continue_on_fail"] none (orNull asFlag) fs
    <*> own

/-- A text that need not be there. -/
def optionalText (name : String) (fs : Fields) : Reading Json :=
  Json.ofText? <$> fieldOr [name] none (orNull asText) fs

/-- The own fields of a message. -/
def messageParams (m : MessageJob) (fs : Fields) : Reading (Option Policy × Params) :=
  match m with
  | .reply =>
    (fun (content : List Fields) (flags : Meta) policy =>
      (policy, { content := .array (content.map .object), flags := .read flags }))
      <$> fieldOr ["content"] [] asObjects fs
      <*> fieldOr ["meta"] {} Meta.check fs
      <*> fieldOr ["policy"] none (orNull (asWord Policy.names)) fs
  | .survey =>
    (fun title questions message description =>
      (none, {
        title := .text title
        questions := .read questions
        completionMessage := .text message
        completionDescription := .text description }))
      <$> field ["title"] asText fs
      <*> fieldOr ["questions"] [] (asItems Survey.Question.check) fs
      <*> fieldOr ["completion_message"] "" asText fs
      <*> fieldOr ["completion_description"] "" asText fs
  | .html => (fun html => (none, { html := .text html })) <$> field ["html"] asText fs
  | .escalation =>
    (fun text reason => (none, { text, reason }))
      <$> optionalText "text" fs <*> optionalText "reason" fs

/-- The own fields of a change of state. -/
def controlParams (operation : String) (fs : Fields) : Reading (Option Policy × Params) :=
  (fun payload value =>
    (none, { operation := .text operation, payload, value := .bool value }))
    <$> fieldOr ["payload"] .null asAny fs
    <*> fieldOr ["value"] true asFlag fs

/-- The messages of a batch. -/
def messageForm (m : MessageJob) : Json → Reading BatchRequest :=
  asRecord fun fs => batchOf (messageParams m fs) fs

/-- The changes of state of a batch. -/
def controlForm (operation : String) : Json → Reading BatchRequest :=
  asRecord fun fs => batchOf (controlParams operation fs) fs

/-- The items of a batch as values. -/
def BatchRequest.records (b : BatchRequest) : Json := .array (b.items.map .object)

/-- What earlier nodes emitted, as a value. -/
def outputsJson : Option (List (String × List Fields)) → Json
  | none => .null
  | some outputs => .object (outputs.map fun o => (o.1, .array (o.2.map .object)))

/-- What a batch is worked off under. -/
def BatchRequest.context (b : BatchRequest) (s : Settings) : Context where
  client := Client.ofSettings s
  session := .ofText? b.session
  outputs := outputsJson b.outputs
  continueOnFail := b.continueOnFail.getD s.continueOnFail
  policy := b.policy.getD s.policy
  params := b.params

/-! ## Questions -/

/-- The questions of a survey with their answers in one place; none if the
    answers of one cannot be gone through. -/
def unwrappedQuestions? (fs : Fields) : Option Fields :=
  match Json.get? fs "questions" with
  | some (.array qs) =>
    (qs.mapM Survey.Question.unwrapped?).map fun qs => Json.put "questions" (.array qs) fs
  | _ => some fs

/-- A body with the answers to questions in one place. -/
def unwrappedBody? : Json → Option Json
  | .object fs => (unwrappedQuestions? fs).map .object
  | v => some v

/-! ## Tools -/

/-- The call of a tool. -/
structure Invocation where
  session : Option String
  arguments : Fields
  address : Option String

/-- Reads the call of a tool. -/
def Invocation.check : Json → Reading Invocation :=
  asRecord fun fs =>
    Invocation.mk <$> fieldOr ["session_id"] none (orNull asText) fs
      <*> fieldOr ["arguments"] [] asObject fs
      <*> fieldOr ["api_base_url"] none (orNull asText) fs

/-- The client that a tool delivers with. -/
def Invocation.client (i : Invocation) (s : Settings) : Client :=
  match i.address.filter (!·.isEmpty) with
  | some address => { Client.ofSettings s with address := normalizeAddress address }
  | none => Client.ofSettings s

end ChatRelay.Gateway
