/-
  From loosely typed records to rich content.

  A record names its kind, text by default, and is read by the rules of that
  kind.  Leniently, what does not fit is left out: a record that is no object
  or of no known kind, a repeated part without an entry, a custom action
  without a value.  Strictly, the first three of these that a record can be
  blamed for are errors.  What is left out is counted.

  * `resolveAction` gives the action of a button;
  * `normalize` reads one record: an item, a splash, or nothing;
  * `Drops` are the counts, kept also when an error ends the reading.
-/
import ChatRelay.Content.Item
import ChatRelay.Content.Record
import ChatRelay.Text.Markup

namespace ChatRelay.Content

/-- Why a record is refused under the strict policy. -/
inductive ContentError where
  /-- it is no object -/
  | notObject
  /-- it is of no known kind -/
  | unknownKind (kind : String)
  /-- it selects a custom action and gives none -/
  | unresolvedAction
deriving DecidableEq

/-- The error in words. -/
def ContentError.message : ContentError → String
  | notObject => "Content record must be an object"
  | unknownKind k => s!"Unknown content kind: {Text.quoted k}"
  | unresolvedAction => "Custom action selected but no custom action was provided"

/-! ## Counting -/

/-- What was left out: parts that are no objects, records of no known kind and
    records without an entry. -/
structure Drops where
  malformed : Nat := 0
  unknownKind : Nat := 0
  empty : Nat := 0
deriving DecidableEq

/-- Reading that counts what it leaves out. -/
abbrev Normalizing := ExceptT ContentError (StateM Drops)

/-- Counts `n` parts that are no objects. -/
def dropMalformed (n : Nat) : Normalizing Unit :=
  modify fun d => { d with malformed := d.malformed + n }

/-- Counts a record of no known kind. -/
def dropUnknownKind : Normalizing Unit :=
  modify fun d => { d with unknownKind := d.unknownKind + 1 }

/-- Counts a record without an entry. -/
def dropEmpty : Normalizing Unit :=
  modify fun d => { d with empty := d.empty + 1 }

/-- The objects among the entries of a repeated part; the others are left
    out. -/
def objectsOf (es : List Json) : Normalizing (List Fields) := do
  dropMalformed (es.countP (!·.isObject))
  return es.filterMap Json.fields?

/-! ## Actions, buttons and cards -/

/-- The selector that stands for the action in the companion field. -/
def customSelector : String := "custom"

/-- The action that a selector and its companion field give. -/
def resolveAction (policy : Policy) (selector custom : Option String) :
    Except ContentError (Option String) :=
  if selector ≠ some customSelector then .ok selector
  else match custom.filter (!·.isEmpty), policy with
    | some action, _ => .ok (some action)
    | none, .strict => .error .unresolvedAction
    | none, .lenient => .ok none

/-- The action that a selector and its companion give if they need not be
    texts. -/
def resolveAnyAction (policy : Policy) (selector custom : Json) : Except ContentError Json :=
  if selector ≠ .text customSelector then .ok selector
  else if custom.isTruthy then .ok custom
  else (resolveAction policy (some customSelector) none).map Json.ofText?

/-- The action given under two lists of names. -/
def actionOf (policy : Policy) (selector custom : List String) (fs : Fields) :
    Except ContentError (Option String) :=
  resolveAction policy (textOf selector fs) (textOf custom fs)

/-- A button. -/
def button (policy : Policy) (fs : Fields) : Except ContentError Button := do
  let action ← actionOf policy Names.action Names.customAction fs
  return {
    text := (textOf Names.label fs).getD ""
    action
    link := textOf Names.link fs
    icon := textOf Names.icon fs
    style := (textOf Names.style fs).bind ButtonStyle.ofName?
    splashTitle := textOf Names.splashTitle fs }

/-- The picture of a card. -/
def cardImage (fs : Fields) : Option Image :=
  (textOf Names.cardImage fs).map fun src => { src, alt := textOf Names.cardImageAlt fs }

/-- The button of a card. -/
def cardButton (policy : Policy) (fs : Fields) : Except ContentError (Option Button) :=
  match textOf Names.cardButton fs with
  | none => .ok none
  | some text => do
    let action ← actionOf policy Names.cardAction Names.cardCustomAction fs
    return some { text, action }

/-- A card. -/
def card (policy : Policy) (fs : Fields) : Except ContentError Card := do
  let button ← cardButton policy fs
  return {
    title := textOf Names.cardTitle fs
    subtitle := textOf Names.cardSubtitle fs
    text := textOf Names.cardText fs
    image := cardImage fs
    button }

/-- An entry of a list. -/
def listEntry (policy : Policy) (fs : Fields) : Except ContentError Entry := do
  let action ← actionOf policy Names.action Names.entryCustomAction fs
  return { text := textOf Names.entryText fs, action, link := textOf Names.link fs }

/-! ## Items -/

/-- The plain text of a message text: its own, or the text without tags. -/
def plainTextOf (given : Option String) (text : String) : String :=
  Text.clean (given.getD (if Text.hasMarkup text then Text.stripTags text else text))

/-- A text item. -/
def textItem (fs : Fields) : Item :=
  let text := Text.clean ((textOf Names.message fs).getD "")
  .text text (plainTextOf (textOf Names.plainText fs) text)

/-- An image item. -/
def imageItem (fs : Fields) : Item :=
  .image {
    src := textOf Names.imageSrc fs
    alt := textOf Names.imageAlt fs
    link := textOf Names.imageLink fs }

/-- The text of a reply, given as a text or as an object; the empty text is
    none. -/
def replyText? : Json → Option String
  | .text s => if s.isEmpty then none else some s
  | .object fs => textOf Names.reply fs
  | _ => none

/-- A quick reply item, if there is a reply. -/
def quickReplyItem (fs : Fields) : Option Item :=
  match (entries replyEntries fs).filterMap replyText? with
  | [] => none
  | replies =>
    let format := (textOf Names.replyFormat fs).bind ReplyFormat.ofName?
    some (.quickReply replies (format.getD .default))

/-- A file item. -/
def fileItem (fs : Fields) : Item :=
  .file (textOf Names.fileName fs) (textOf Names.fileSize fs) (textOf Names.fileUrl fs)

/-- A map item. -/
def mapItem (fs : Fields) : Item :=
  .map {
    mode := (textOf Names.mapMode fs).bind MapMode.ofName?
    parameters := textOf Names.mapParameters fs
    title := textOf Names.mapTitle fs
    text := textOf Names.mapText fs
    link := (textOf Names.mapLinkUrl fs).map fun url =>
      { url, text := textOf Names.mapLinkText fs } }

/-- An information item. -/
def informationItem (fs : Fields) : Item :=
  .information ((textOf Names.information fs).getD "")

/-- The buttons of a record. -/
def buttonsOf (policy : Policy) (fs : Fields) : Normalizing (List Button) := do
  let rs ← objectsOf (entries buttonEntries fs)
  liftM (rs.mapM (button policy))

/-- A buttons item, if there is a button. -/
def buttonsItem (policy : Policy) (fs : Fields) : Normalizing (Option Item) := do
  let bs ← buttonsOf policy fs
  return if bs.isEmpty then none else some (.buttons bs)

/-- A list item. -/
def listItem (policy : Policy) (fs : Fields) : Normalizing Item := do
  let rs ← objectsOf (entries listEntries fs)
  let es ← liftM (rs.mapM (listEntry policy))
  return .list {
    title := textOf Names.listTitle fs
    text := textOf Names.listText fs
    ordered := flagOf Names.listOrdered fs
    footer := textOf Names.listFooter fs
    entries := es }

/-- A carousel item, if there is a card. -/
def carouselItem (policy : Policy) (fs : Fields) : Normalizing (Option Item) := do
  let rs ← objectsOf (entries cardEntries fs)
  let cards ← liftM (rs.mapM (card policy))
  return if cards.isEmpty then none else some (.carousel cards)

/-- A splash. -/
def splash (policy : Policy) (fs : Fields) : Normalizing Splash := do
  let bs ← buttonsOf policy fs
  return {
    title := (textOf Names.title fs).getD ""
    text := Text.clean ((textOf Names.message fs).getD "")
    buttons := bs }

/-! ## Records -/

/-- What a record is read into. -/
inductive Normalized where
  | item (i : Item)
  | splash (s : Splash)
deriving DecidableEq

/-- The item, unless it is a splash. -/
def Normalized.item? : Normalized → Option Item
  | item i => some i
  | splash _ => none

/-- The splash, unless it is an item. -/
def Normalized.splash? : Normalized → Option Splash
  | item _ => none
  | splash s => some s

/-- The name of the kind that a record selects. -/
def kindName (fs : Fields) : String := (textOf Names.kind fs).getD Kind.text.name

/-- Reads a record by the rules of a kind. -/
def normalizeAs (policy : Policy) (kind : Kind) (fs : Fields) :
    Normalizing (Option Normalized) := do
  match kind with
  | .text => return some (.item (textItem fs))
  | .image => return some (.item (imageItem fs))
  | .card => return some (.item (.card (← card policy fs)))
  | .buttons => return (← buttonsItem policy fs).map .item
  | .quickReply => return (quickReplyItem fs).map .item
  | .list => return some (.item (← listItem policy fs))
  | .carousel => return (← carouselItem policy fs).map .item
  | .file => return some (.item (fileItem fs))
  | .map => return some (.item (mapItem fs))
  | .information => return some (.item (informationItem fs))
  | .splash => return some (.splash (← splash policy fs))

/-- Reads an object. -/
def normalizeFields (policy : Policy) (fs : Fields) : Normalizing (Option Normalized) := do
  let name := kindName fs
  match Kind.ofName? name, policy with
  | none, .strict => throw (.unknownKind name)
  | none, .lenient => dropUnknownKind; return none
  | some kind, _ =>
    let result ← normalizeAs policy kind fs
    if result.isNone then dropEmpty
    return result

/-- Reads a record. -/
def normalize (policy : Policy) (record : Json) : Normalizing (Option Normalized) := do
  match record, policy with
  | .object fs, _ => normalizeFields policy fs
  | _, .strict => throw .notObject
  | _, .lenient => dropMalformed 1; return none

end ChatRelay.Content
