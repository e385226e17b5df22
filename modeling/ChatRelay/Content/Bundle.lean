/-
  The content of one message.

  The records of a message are read in order.  The first splash record makes
  the message a splash.  Without one, the first buttons item that has a
  splash button does: the splash takes the buttons of the item, the title of
  the button, and the plain text of the message.

  * `Bundle` is the content, `Bundle.plainText?` its plain text;
  * `Assembly.add` takes in one result after the other;
  * `Bundle.ofRecords` reads the records of a message.
-/
import ChatRelay.Content.Normalize

namespace ChatRelay.Content

/-- The plain text of a text item, unless it is empty. -/
def Item.plainText? : Item → Option String
  | .text _ plain => if plain.isEmpty then none else some plain
  | _ => none

/-- The buttons of a buttons item. -/
def Item.buttons? : Item → Option (List Button)
  | .buttons bs => some bs
  | _ => none

/-- The content of one message. -/
structure Bundle where
  items : List Item
  splash : Option Splash
deriving DecidableEq

/-- The first plain text among items. -/
def firstPlainText (items : List Item) : Option String := items.findSome? Item.plainText?

/-- The plain text of the message, if it has a text item with one. -/
def Bundle.plainText? (b : Bundle) : Option String := firstPlainText b.items

/-- The splash that a buttons item asks for; its text is not known yet. -/
def Item.promotion? (i : Item) : Option Splash := do
  let bs ← i.buttons?
  let b ← bs.find? Button.isSplash
  return { title := b.splashTitle.getD "", text := "", buttons := bs }

/-- A message being put together: its items, the splash record and the splash
    that a buttons item asks for. -/
structure Assembly where
  items : List Item := []
  given : Option Splash := none
  promoted : Option Splash := none

/-- Takes in one result. -/
def Assembly.add (a : Assembly) : Normalized → Assembly
  | .splash s => { a with given := a.given.or (some s) }
  | .item i => { a with items := a.items ++ [i], promoted := a.promoted.or i.promotion? }

/-- The message put together. -/
def Assembly.bundle (a : Assembly) : Bundle where
  items := a.items
  splash := a.given.or
    (a.promoted.map fun s => { s with text := (firstPlainText a.items).getD "" })

/-- The message that the results make. -/
def Bundle.ofResults (rs : List Normalized) : Bundle :=
  (rs.foldl Assembly.add {}).bundle

/-- The results of the records that are not dropped. -/
def normalizeAll (policy : Policy) : List Json → Normalizing (List Normalized)
  | [] => return []
  | r :: rest => do
    match ← normalize policy r with
    | none => normalizeAll policy rest
    | some result => return result :: (← normalizeAll policy rest)

/-- Reads the records of a message. -/
def Bundle.ofRecords (policy : Policy) (records : List Json) : Normalizing Bundle :=
  return Bundle.ofResults (← normalizeAll policy records)

end ChatRelay.Content
