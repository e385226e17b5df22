/-
  Rich content items.

  A message carries items of eleven kinds, among them texts, images, cards,
  buttons and lists.  A splash is no item: it takes over the whole message.
  What a producer left out is `none`; what a front end cannot do without is
  always there.

  * `Kind` are the kinds a record may name, `Item` the items, `Splash` the
    splash;
  * `Button.isSplash` marks the button that turns its block into a splash;
  * `Policy` tells what becomes of content that does not fit.
-/
import ChatRelay.Json.Basic

namespace ChatRelay

/-- What becomes of content that does not fit: it is dropped, or an error. -/
inductive Policy where
  | lenient
  | strict
deriving DecidableEq, Inhabited

/-- The names of the policies. -/
def Policy.names : List (String × Policy) := [("lenient", .lenient), ("strict", .strict)]

/-- The name of a policy. -/
def Policy.name : Policy → String
  | lenient => "lenient"
  | strict => "strict"

namespace Content

/-- The kinds of content. -/
inductive Kind where
  | text
  | image
  | card
  | buttons
  | quickReply
  | list
  | carousel
  | file
  | map
  | information
  | splash
deriving DecidableEq

/-- The name of a kind. -/
def Kind.name : Kind → String
  | text => "text"
  | image => "image"
  | card => "card"
  | buttons => "buttons"
  | quickReply => "quickReply"
  | list => "list"
  | carousel => "carousel"
  | file => "file"
  | map => "map"
  | information => "information"
  | splash => "splash"

/-- All kinds. -/
def Kind.all : List Kind :=
  [text, image, card, buttons, quickReply, list, carousel, file, map, information, splash]

/-- The kind of a name. -/
def Kind.ofName? (s : String) : Option Kind := all.find? (·.name = s)

/-- How a button looks. -/
inductive ButtonStyle where
  | primary
  | secondary
  | danger
  | splash
deriving DecidableEq

/-- The name of a style. -/
def ButtonStyle.name : ButtonStyle → String
  | primary => "primary"
  | secondary => "secondary"
  | danger => "danger"
  | splash => "splash"

/-- The style of a name. -/
def ButtonStyle.ofName? (s : String) : Option ButtonStyle :=
  [primary, secondary, danger, splash].find? (·.name = s)

/-- How quick replies are laid out. -/
inductive ReplyFormat where
  | default
  | cloud
deriving DecidableEq

/-- The name of a format. -/
def ReplyFormat.name : ReplyFormat → String
  | default => "default"
  | cloud => "cloud"

/-- The format of a name. -/
def ReplyFormat.ofName? (s : String) : Option ReplyFormat := [default, cloud].find? (·.name = s)

/-- What a map shows. -/
inductive MapMode where
  | place
  | view
  | directions
  | streetview
  | search
deriving DecidableEq

/-- The name of a mode. -/
def MapMode.name : MapMode → String
  | place => "place"
  | view => "view"
  | directions => "directions"
  | streetview => "streetview"
  | search => "search"

/-- The mode of a name. -/
def MapMode.ofName? (s : String) : Option MapMode :=
  [place, view, directions, streetview, search].find? (·.name = s)

/-- A button with its action resolved. -/
structure Button where
  text : String
  action : Option String := none
  link : Option String := none
  icon : Option String := none
  style : Option ButtonStyle := none
  splashTitle : Option String := none
deriving DecidableEq

/-- The button turns its block into a splash. -/
def Button.isSplash (b : Button) : Bool := b.style == some .splash

/-- A picture. -/
structure Image where
  src : Option String
  alt : Option String
  link : Option String := none
deriving DecidableEq

/-- A card, on its own or in a carousel. -/
structure Card where
  title : Option String
  subtitle : Option String
  text : Option String
  image : Option Image
  button : Option Button
deriving DecidableEq

/-- An entry of a list. -/
structure Entry where
  text : Option String
  action : Option String
  link : Option String
deriving DecidableEq

/-- A list of entries, numbered or not. -/
structure Listing where
  title : Option String
  text : Option String
  ordered : Bool
  footer : Option String
  entries : List Entry
deriving DecidableEq

/-- A link below a map. -/
structure MapLink where
  url : String
  text : Option String
deriving DecidableEq

/-- A map. -/
structure MapView where
  mode : Option MapMode
  parameters : Option String
  title : Option String
  text : Option String
  link : Option MapLink
deriving DecidableEq

/-- A rich content item. -/
inductive Item where
  | text (text plainText : String)
  | image (image : Image)
  | card (card : Card)
  | buttons (buttons : List Button)
  | quickReply (replies : List String) (format : ReplyFormat)
  | list (listing : Listing)
  | carousel (cards : List Card)
  | file (name size url : Option String)
  | map (view : MapView)
  | information (text : String)
deriving DecidableEq

/-- The kind of an item. -/
def Item.kind : Item → Kind
  | text .. => .text
  | image _ => .image
  | card _ => .card
  | buttons _ => .buttons
  | quickReply .. => .quickReply
  | list _ => .list
  | carousel _ => .carousel
  | file .. => .file
  | map _ => .map
  | information _ => .information

/-- What a splash shows in place of the message. -/
structure Splash where
  title : String
  text : String
  buttons : List Button
deriving DecidableEq

end Content

end ChatRelay
