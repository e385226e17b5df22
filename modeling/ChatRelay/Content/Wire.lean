/-
  Content as the front end receives it.

  An item is an object that names its type; a part that is `none` is left out,
  so no null stands in it.

  * `Item.wire`, `Splash.wire` and the functions before them write content;
  * `present` keeps the fields that there are.
-/
import ChatRelay.Content.Item

namespace ChatRelay

/-- The fields that have a value. -/
def present (fs : List (String × Option Json)) : Fields :=
  fs.filterMap fun f => f.2.map fun v => (f.1, v)

namespace Content

/-- A text that may be missing. -/
def wireText (s : Option String) : Option Json := s.map .text

/-- A button. -/
def Button.wire (b : Button) : Json :=
  .object (present [
    ("text", some (.text b.text)),
    ("bot_action", wireText b.action),
    ("link", wireText b.link),
    ("icon", wireText b.icon),
    ("type", wireText (b.style.map ButtonStyle.name)),
    ("title", wireText b.splashTitle)])

/-- A picture. -/
def Image.wire (i : Image) : Json :=
  .object (present [("src", wireText i.src), ("alt", wireText i.alt), ("link", wireText i.link)])

/-- The parts of a card besides its type. -/
def Card.parts (c : Card) : List (String × Option Json) := [
  ("title", wireText c.title),
  ("subtitle", wireText c.subtitle),
  ("text", wireText c.text),
  ("image", c.image.map Image.wire),
  ("button", c.button.map Button.wire)]

/-- A card. -/
def Card.wire (c : Card) : Json :=
  .object (present (("type", some (.text Kind.card.name)) :: c.parts))

/-- An entry of a list. -/
def Entry.wire (e : Entry) : Json :=
  .object (present [
    ("text", wireText e.text), ("bot_action", wireText e.action), ("link", wireText e.link)])

/-- A list. -/
def Listing.wire (l : Listing) : Json :=
  .object (present [
    ("title", wireText l.title),
    ("text", wireText l.text),
    ("ordered", some (.bool l.ordered)),
    ("footer", wireText l.footer),
    ("items", some (.array (l.entries.map Entry.wire)))])

/-- A link below a map. -/
def MapLink.wire (l : MapLink) : Json :=
  .object (present [("url", some (.text l.url)), ("text", wireText l.text)])

/-- The parts of an item besides its type. -/
def Item.parts : Item → List (String × Option Json)
  | .text words plain => [("text", some (.text words)), ("plainText", some (.text plain))]
  | .image i => [("image", some i.wire)]
  | .card c => c.parts
  | .buttons bs => [("buttons", some (.array (bs.map Button.wire)))]
  | .quickReply replies format => [
    ("replies", some (.array (replies.map .text))), ("format", some (.text format.name))]
  | .list l => [("list", some l.wire)]
  | .carousel cards => [("items", some (.array (cards.map Card.wire)))]
  | .file name size url => [
    ("name", wireText name), ("size", wireText size), ("url", wireText url)]
  | .map m => [
    ("mapMode", wireText (m.mode.map MapMode.name)),
    ("parameters", wireText m.parameters),
    ("title", wireText m.title),
    ("text", wireText m.text),
    ("link", m.link.map MapLink.wire)]
  | .information words => [("text", some (.text words))]

/-- An item. -/
def Item.wire (i : Item) : Json :=
  .object (present (("type", some (.text i.kind.name)) :: i.parts))

/-- A splash. -/
def Splash.wire (s : Splash) : Json :=
  .object [
    ("title", .text s.title), ("text", .text s.text),
    ("buttons", .array (s.buttons.map Button.wire))]

end Content

end ChatRelay
