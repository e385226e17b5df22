/-
  Routes: which path leads where.

  Every route has a template, whose parts in braces stand for any part of a
  path that is not empty, and one method.  A path that leads nowhere only
  because of slashes at its end is moved.

  * `Route.ofPath?` is the route of a path, `Route.template` its template;
  * `resolve` says what becomes of a method and a path.
-/
import ChatRelay.Batch
import ChatRelay.Gateway.Target

namespace ChatRelay.Gateway

/-- The routes. -/
inductive Route where
  | webhook (path : String)
  | message (job : MessageJob)
  | control (operation : String)
  | tools
  | invoke (name : String)
  | health
  | live
  | ready
  | metrics
deriving DecidableEq

/-- The last part of the path of a message. -/
def messageWord : MessageJob → String
  | .reply => "reply"
  | .survey => "survey"
  | .html => "html"
  | .escalation => "escalate"

/-- The messages by the last part of their path. -/
def messageWords : List (String × MessageJob) :=
  [MessageJob.reply, .survey, .html, .escalation].map fun m => (messageWord m, m)

namespace Route

/-- The template of a route. -/
def template : Route → String
  | webhook _ => "/webhook/\x7bpath\x7d"
  | message m => "/messages/" ++ messageWord m
  | control _ => "/control/\x7boperation\x7d"
  | tools => "/tools"
  | invoke _ => "/tools/\x7bname\x7d/invoke"
  | health => "/health"
  | live => "/health/live"
  | ready => "/health/ready"
  | metrics => "/metrics"

/-- The method of a route. -/
def method : Route → String
  | webhook _ | message _ | control _ | invoke _ => "POST"
  | tools | health | live | ready | metrics => "GET"

/-- The route of the parts of a path. -/
def ofParts? : List String → Option Route
  | ["webhook", path] => if path.isEmpty then none else some (webhook path)
  | ["messages", word] => (messageWords.lookup word).map message
  | ["control", operation] => if operation.isEmpty then none else some (control operation)
  | ["tools"] => some tools
  | ["tools", name, "invoke"] => if name.isEmpty then none else some (invoke name)
  | ["health"] => some health
  | ["health", "live"] => some live
  | ["health", "ready"] => some ready
  | ["metrics"] => some metrics
  | _ => none

/-- The route of a path as it stands. -/
def ofExact? (path : List Char) : Option Route :=
  match path with
  | '/' :: rest => ofParts? ((Text.splitChars '/' rest).map String.ofList)
  | _ => none

/-- The path without one line break at its end. -/
def withoutBreak (path : List Char) : List Char :=
  if path.getLast? = some '\n' then path.dropLast else path

/-- The route of a path; one line break at its end does not count. -/
def ofPath? (path : String) : Option Route :=
  (ofExact? path.toList).or (ofExact? (withoutBreak path.toList))

end Route

/-- What becomes of a method and a path. -/
inductive Resolution where
  | found (r : Route)
  /-- the path leads somewhere, but not with this method -/
  | refused (r : Route)
  /-- the path without the slashes at its end leads somewhere -/
  | moved (path : String)
  | unknown
deriving DecidableEq

/-- What becomes of a path that leads nowhere. -/
def resolveSlashes (path : String) : Resolution :=
  let bare := Text.trimSlashes path
  if bare ≠ path && (Route.ofPath? bare).isSome then .moved bare else .unknown

/-- What becomes of a method and a path. -/
def resolve (method path : String) : Resolution :=
  match Route.ofPath? path with
  | some r => if r.method = method then .found r else .refused r
  | none => resolveSlashes path

/-- The path in a label: what a reader of the whole address takes for the
    path. -/
def pathLabel (path : String) : String :=
  String.ofList ((path.toList.takeWhile fun c => c != '?' && c != '#').filter
    fun c => c != '\t' && c != '\n' && c != '\r')

/-- The label under which a request is counted: the template of its route, or
    the path. -/
def Resolution.label (path : String) : Resolution → String
  | found r | refused r => r.template
  | moved _ | unknown => pathLabel path

end ChatRelay.Gateway
