/-
  Fields of loosely typed content records.

  Records come from producers with habits of their own: a field may stand
  under one of several names, and a repeated part may be a plain array or an
  array inside an object.  Null and the empty text count as absent.

  * `pick` is the first value given under a list of names, `textOf` and
    `flagOf` read it as a text and as a flag;
  * `Collection` says where a repeated part may stand, `entries` finds it;
  * the lists of names are constants of the namespace `Names`, the places of
    the repeated parts are `buttonEntries` and the constants after it.
-/
import ChatRelay.Json.Display
import ChatRelay.Text.Blank

namespace ChatRelay.Content

/-! ## Fields -/

/-- The value says something. -/
def isGiven : Json → Bool
  | .null => false
  | .text s => !s.isEmpty
  | _ => true

/-- The first value given under one of the names. -/
def pick (names : List String) (fs : Fields) : Option Json :=
  names.findSome? fun n => (Json.get? fs n).filter isGiven

/-- The text of a scalar.  Flags are spelled in small letters. -/
def scalarText? : Json → Option String
  | .null | .array _ | .object _ => none
  | .bool b => some (Json.wording b)
  | v => some v.display

/-- The field as a text; a container counts as absent. -/
def textOf (names : List String) (fs : Fields) : Option String :=
  (pick names fs).bind scalarText?

/-- The field as a flag: of the texts only `true` counts as set. -/
def flagOf (names : List String) (fs : Fields) : Bool :=
  match pick names fs with
  | none => false
  | some (.text s) => Text.lowerCased (Text.trimBlank s) = "true"
  | some v => v.isTruthy

/-! ## Repeated parts -/

/-- Where a repeated part may stand: under `name` or else under `other`, as an
    array or as the field `key` of an object. -/
structure Collection where
  name : String
  other : Option String
  key : String

/-- The array under a name, plain or inside an object. -/
def arrayAt (key name : String) (fs : Fields) : Option (List Json) :=
  match Json.get? fs name with
  | some (.array xs) => some xs
  | some (.object inner) => match Json.get? inner key with
    | some (.array xs) => some xs
    | _ => none
  | _ => none

/-- The entries of a repeated part, none if it is not there. -/
def entries (c : Collection) (fs : Fields) : List Json :=
  ((arrayAt c.key c.name fs).or (c.other.bind fun n => arrayAt c.key n fs)).getD []

/-! ## Names -/

namespace Names

/-- The kind of a record. -/
def kind : List String := ["type", "kind"]

/-- Parts of a button. -/
def label : List String := ["text"]

@[inherit_doc label] def action : List String := ["bot_action", "action"]

@[inherit_doc label] def customAction : List String :=
  ["customAction", "custom_action", "customBotAction"]

@[inherit_doc label] def link : List String := ["link"]

@[inherit_doc label] def icon : List String := ["icon"]

@[inherit_doc label] def style : List String := ["type", "style"]

@[inherit_doc label] def splashTitle : List String := ["title", "splashTitle"]

/-- Parts of a card. -/
def cardTitle : List String := ["title", "cardTitle"]

@[inherit_doc cardTitle] def cardSubtitle : List String := ["subtitle", "cardSubtitle"]

@[inherit_doc cardTitle] def cardText : List String := ["text", "cardText"]

@[inherit_doc cardTitle] def cardImage : List String := ["imageUrl", "cardImageUrl", "imageSrc"]

@[inherit_doc cardTitle] def cardImageAlt : List String := ["imageAlt", "cardImageAlt"]

@[inherit_doc cardTitle] def cardButton : List String := ["buttonText", "cardButtonText"]

@[inherit_doc cardTitle] def cardAction : List String := ["buttonAction", "cardButtonAction"]

@[inherit_doc cardTitle] def cardCustomAction : List String :=
  ["customAction", "cardCustomAction", "buttonCustomAction"]

/-- Parts of a text item, and of a splash. -/
def message : List String := ["message", "text"]

@[inherit_doc message] def plainText : List String := ["plainText"]

@[inherit_doc message] def title : List String := ["title"]

/-- Parts of an image. -/
def imageSrc : List String := ["imageSrc", "src", "imageUrl"]

@[inherit_doc imageSrc] def imageAlt : List String := ["imageAlt", "alt"]

@[inherit_doc imageSrc] def imageLink : List String := ["imageLink", "link"]

/-- Parts of a quick reply item. -/
def reply : List String := ["text"]

@[inherit_doc reply] def replyFormat : List String := ["format", "quickReplyFormat"]

/-- Parts of a list. -/
def listTitle : List String := ["title", "listTitle"]

@[inherit_doc listTitle] def listText : List String := ["text", "listText"]

@[inherit_doc listTitle] def listOrdered : List String := ["ordered", "listOrdered"]

@[inherit_doc listTitle] def listFooter : List String := ["footer", "listFooter"]

/-- Parts of a list entry; its action and link have the names of a button's. -/
def entryText : List String := ["text"]

@[inherit_doc entryText] def entryCustomAction : List String := ["customAction", "custom_action"]

/-- Parts of a file. -/
def fileName : List String := ["fileName", "name"]

@[inherit_doc fileName] def fileSize : List String := ["fileSize", "size"]

@[inherit_doc fileName] def fileUrl : List String := ["fileUrl", "url"]

/-- Parts of a map. -/
def mapMode : List String := ["mapMode"]

@[inherit_doc mapMode] def mapParameters : List String := ["parameters", "mapParameters"]

@[inherit_doc mapMode] def mapTitle : List String := ["title", "mapTitle"]

@[inherit_doc mapMode] def mapText : List String := ["text", "mapText"]

@[inherit_doc mapMode] def mapLinkUrl : List String := ["mapLinkUrl"]

@[inherit_doc mapMode] def mapLinkText : List String := ["mapLinkText"]

/-- The text of an information item. -/
def information : List String := ["text", "infoText"]

end Names

/-- The buttons of a buttons item or of a splash. -/
def buttonEntries : Collection := ⟨"buttons", none, "button"⟩

/-- The replies of a quick reply item. -/
def replyEntries : Collection := ⟨"replies", some "quickReplies", "reply"⟩

/-- The entries of a list. -/
def listEntries : Collection := ⟨"items", some "listItems", "item"⟩

/-- The cards of a carousel. -/
def cardEntries : Collection := ⟨"items", some "carouselItems", "card"⟩

end ChatRelay.Content
