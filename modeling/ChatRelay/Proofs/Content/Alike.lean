/-
  Records that say the same.

  What a record is read into depends on two things: what it gives under the names of
  the fields of its kind (`Kind.fields`), and the entries of its repeated part
  (`Kind.part?`), of which in turn only the fields count.  Records that agree in both
  are `Alike`, and are read alike (`readRecord_of_alike`), whatever else they hold and
  under whatever names it stands.
-/
import ChatRelay.Proofs.Content.Reading

namespace ChatRelay.Content

/-! ## What a kind reads -/

/-- The names of the fields of a button. -/
def buttonFields : List (List String) :=
  [Names.label, Names.action, Names.customAction, Names.link, Names.icon, Names.style,
    Names.splashTitle]

/-- The names of the fields of a card. -/
def cardFields : List (List String) :=
  [Names.cardTitle, Names.cardSubtitle, Names.cardText, Names.cardImage, Names.cardImageAlt,
    Names.cardButton, Names.cardAction, Names.cardCustomAction]

/-- The names of the fields of a list entry. -/
def entryFields : List (List String) :=
  [Names.entryText, Names.action, Names.entryCustomAction, Names.link]

/-- The names of the fields of a record of the kind, besides the kind itself. -/
def Kind.fields : Kind → List (List String)
  | .text => [Names.message, Names.plainText]
  | .image => [Names.imageSrc, Names.imageAlt, Names.imageLink]
  | .card => cardFields
  | .quickReply => [Names.replyFormat]
  | .list => [Names.listTitle, Names.listText, Names.listOrdered, Names.listFooter]
  | .file => [Names.fileName, Names.fileSize, Names.fileUrl]
  | .map => [Names.mapMode, Names.mapParameters, Names.mapTitle, Names.mapText, Names.mapLinkUrl,
      Names.mapLinkText]
  | .information => [Names.information]
  | .splash => [Names.title, Names.message]
  | .buttons | .carousel => []

/-- The part that the records of a kind repeat. -/
def Kind.part? : Kind → Option Collection
  | .quickReply => some replyEntries
  | k => k.collection?

/-- The names of the fields of its entries. -/
def Kind.entryFields : Kind → List (List String)
  | .buttons | .splash => buttonFields
  | .list => Content.entryFields
  | .carousel => cardFields
  | .quickReply => [Names.reply]
  | _ => []

/-! ## Likeness -/

/-- The records give the same under each of the lists of names. -/
def GivesAlike (lists : List (List String)) (fs fs' : Fields) : Prop :=
  ∀ names ∈ lists, pick names fs = pick names fs'

/-- The entries are objects that give the same, or they are equal. -/
inductive EntryAlike (lists : List (List String)) : Json → Json → Prop
  | object {fs fs' : Fields} : GivesAlike lists fs fs' →
      EntryAlike lists (.object fs) (.object fs')
  | same (v : Json) : EntryAlike lists v v

/-- Records of the kind that say the same. -/
structure Alike (k : Kind) (fs fs' : Fields) : Prop where
  fields : GivesAlike k.fields fs fs'
  parts : ∀ c ∈ k.part?, List.Forall₂ (EntryAlike k.entryFields) (entries c fs) (entries c fs')

/-- A field gives the same if the same is given under each of its names. -/
theorem pick_congr {names : List String} {fs fs' : Fields}
    (h : ∀ n ∈ names, (Json.get? fs n).filter isGiven = (Json.get? fs' n).filter isGiven) :
    pick names fs = pick names fs' := by
  unfold pick
  induction names with
  | nil => rfl
  | cons n rest ih =>
    rw [List.findSome?_cons, List.findSome?_cons, h n List.mem_cons_self,
      ih fun m hm => h m (List.mem_cons_of_mem _ hm)]

theorem GivesAlike.textOf {lists : List (List String)} {fs fs' : Fields}
    (h : GivesAlike lists fs fs') (names : List String) (hn : names ∈ lists) :
    textOf names fs = textOf names fs' := by
  rw [Content.textOf, Content.textOf, h names hn]

theorem EntryAlike.isObject {lists : List (List String)} {v w : Json} (h : EntryAlike lists v w) :
    v.isObject = w.isObject := by
  cases h <;> rfl

/-- Entries that are the same are alike. -/
theorem forall₂_entryAlike_of_eq {lists : List (List String)} {vs ws : List Json} (h : vs = ws) :
    List.Forall₂ (EntryAlike lists) vs ws := by
  subst h
  exact List.forall₂_same.2 fun v _ => .same v

section Entries

variable {lists : List (List String)} {vs ws : List Json}

theorem countP_of_alike (h : List.Forall₂ (EntryAlike lists) vs ws) :
    vs.countP (!·.isObject) = ws.countP (!·.isObject) := by
  induction h with
  | nil => rfl
  | cons hv _ ih => rw [List.countP_cons, List.countP_cons, ih, hv.isObject]

theorem givesAlike_fields (h : List.Forall₂ (EntryAlike lists) vs ws) :
    List.Forall₂ (GivesAlike lists) (vs.filterMap Json.fields?) (ws.filterMap Json.fields?) := by
  induction h with
  | nil => exact .nil
  | @cons v w vs ws hv _ ih =>
    cases hv with
    | object hfs => exact .cons hfs ih
    | same =>
      cases v with
      | object fs => exact .cons (fun _ _ => rfl) ih
      | _ => exact ih

theorem replies_of_alike (h : List.Forall₂ (EntryAlike [Names.reply]) vs ws) :
    vs.filterMap replyText? = ws.filterMap replyText? := by
  induction h with
  | nil => rfl
  | @cons v w vs ws hv _ ih =>
    have hreply : replyText? v = replyText? w := by
      cases hv with
      | object hfs => exact hfs.textOf _ (by simp)
      | same => rfl
    rw [List.filterMap_cons, List.filterMap_cons, hreply, ih]

end Entries

/-! ## Alike records are read alike -/

section Parts

variable {fs fs' : Fields} (policy : Policy)

theorem actionOf_of_alike {lists : List (List String)} (h : GivesAlike lists fs fs')
    (selector companion : List String) (hs : selector ∈ lists) (hc : companion ∈ lists) :
    actionOf policy selector companion fs = actionOf policy selector companion fs' := by
  rw [actionOf, actionOf, h.textOf _ hs, h.textOf _ hc]

theorem button_of_alike (h : GivesAlike buttonFields fs fs') :
    button policy fs = button policy fs' := by
  have haction := actionOf_of_alike policy h Names.action
    Names.customAction (by simp [buttonFields]) (by simp [buttonFields])
  have hlabel := h.textOf Names.label (by simp [buttonFields])
  have hlink := h.textOf Names.link (by simp [buttonFields])
  have hicon := h.textOf Names.icon (by simp [buttonFields])
  have hstyle := h.textOf Names.style (by simp [buttonFields])
  have htitle := h.textOf Names.splashTitle (by simp [buttonFields])
  rw [button, button, haction, hlabel, hlink, hicon, hstyle, htitle]

theorem card_of_alike (h : GivesAlike cardFields fs fs') : card policy fs = card policy fs' := by
  have haction := actionOf_of_alike policy h Names.cardAction
    Names.cardCustomAction (by simp [cardFields]) (by simp [cardFields])
  have hbutton : cardButton policy fs = cardButton policy fs' := by
    rw [cardButton, cardButton, haction, h.textOf _ (by simp [cardFields])]
  have himage : cardImage fs = cardImage fs' := by
    rw [cardImage, cardImage, h.textOf Names.cardImage (by simp [cardFields]),
      h.textOf Names.cardImageAlt (by simp [cardFields])]
  have htitle := h.textOf Names.cardTitle (by simp [cardFields])
  have hsubtitle := h.textOf Names.cardSubtitle (by simp [cardFields])
  have htext := h.textOf Names.cardText (by simp [cardFields])
  rw [card, card, hbutton, himage, htitle, hsubtitle, htext]

theorem listEntry_of_alike (h : GivesAlike entryFields fs fs') :
    listEntry policy fs = listEntry policy fs' := by
  have haction := actionOf_of_alike policy h Names.action
    Names.entryCustomAction (by simp [entryFields]) (by simp [entryFields])
  have htext := h.textOf Names.entryText (by simp [entryFields])
  have hlink := h.textOf Names.link (by simp [entryFields])
  rw [listEntry, listEntry, haction, htext, hlink]

/-- Of alike repeated parts, alike entries make the same. -/
theorem mapM_subrecords_of_alike {lists : List (List String)} {c : Collection} {α : Type}
    {f : Fields → Except ContentError α}
    (hf : ∀ r r', GivesAlike lists r r' → f r = f r')
    (h : List.Forall₂ (EntryAlike lists) (entries c fs) (entries c fs')) :
    (subrecords c fs).mapM f = (subrecords c fs').mapM f :=
  mapM_of_forall₂ (givesAlike_fields h) hf

end Parts

section Records

variable {k : Kind} {fs fs' : Fields} (policy : Policy)

theorem readAs_of_alike (h : Alike k fs fs') : readAs policy fs k = readAs policy fs' k := by
  have htext : ∀ names ∈ k.fields, textOf names fs = textOf names fs' :=
    fun _ hn => h.fields.textOf _ hn
  cases k with
  | text =>
    rw [readAs, readAs, textItem, textItem, htext Names.message (by simp [Kind.fields]),
      htext Names.plainText (by simp [Kind.fields])]
  | image =>
    rw [readAs, readAs, imageItem, imageItem, htext Names.imageSrc (by simp [Kind.fields]),
      htext Names.imageAlt (by simp [Kind.fields]), htext Names.imageLink (by simp [Kind.fields])]
  | card => rw [readAs, readAs, card_of_alike policy h.fields]
  | buttons =>
    rw [readAs, readAs, mapM_subrecords_of_alike (fun _ _ => button_of_alike policy)
      (h.parts buttonEntries rfl)]
  | quickReply =>
    rw [readAs, readAs, quickReplyItem, quickReplyItem,
      replies_of_alike (h.parts replyEntries rfl),
      htext Names.replyFormat (by simp [Kind.fields])]
  | list =>
    have hordered : flagOf Names.listOrdered fs = flagOf Names.listOrdered fs' := by
      rw [flagOf, flagOf, h.fields Names.listOrdered (by simp [Kind.fields])]
    have hlisting : listingOf fs = listingOf fs' := by
      funext es
      rw [listingOf, listingOf, hordered, htext Names.listTitle (by simp [Kind.fields]),
        htext Names.listText (by simp [Kind.fields]),
        htext Names.listFooter (by simp [Kind.fields])]
    rw [readAs, readAs, hlisting, mapM_subrecords_of_alike (fun _ _ => listEntry_of_alike policy)
      (h.parts listEntries rfl)]
  | carousel =>
    rw [readAs, readAs, mapM_subrecords_of_alike (fun _ _ => card_of_alike policy)
      (h.parts cardEntries rfl)]
  | file =>
    rw [readAs, readAs, fileItem, fileItem, htext Names.fileName (by simp [Kind.fields]),
      htext Names.fileSize (by simp [Kind.fields]), htext Names.fileUrl (by simp [Kind.fields])]
  | map =>
    rw [readAs, readAs, mapItem, mapItem, htext Names.mapMode (by simp [Kind.fields]),
      htext Names.mapParameters (by simp [Kind.fields]),
      htext Names.mapTitle (by simp [Kind.fields]), htext Names.mapText (by simp [Kind.fields]),
      htext Names.mapLinkUrl (by simp [Kind.fields]),
      htext Names.mapLinkText (by simp [Kind.fields])]
  | information =>
    rw [readAs, readAs, informationItem, informationItem,
      htext Names.information (by simp [Kind.fields])]
  | splash =>
    have hsplash : splashOf fs = splashOf fs' := by
      funext bs
      rw [splashOf, splashOf, htext Names.title (by simp [Kind.fields]),
        htext Names.message (by simp [Kind.fields])]
    rw [readAs, readAs, hsplash, mapM_subrecords_of_alike (fun _ _ => button_of_alike policy)
      (h.parts buttonEntries rfl)]

theorem malformed_of_alike (h : Alike k fs fs') : k.malformed fs = k.malformed fs' := by
  unfold Kind.malformed
  cases hc : k.collection? with
  | none => rfl
  | some c =>
    have hpart : k.part? = some c := by
      cases k with
      | quickReply => cases hc
      | _ => exact hc
    exact countP_of_alike (h.parts c hpart)

/-- **Alike records are read alike**, into the same item and with the same counts. -/
theorem readRecord_of_alike (hkind : kindName fs = kindName fs')
    (h : ∀ k, Kind.ofName? (kindName fs) = some k → Alike k fs fs') :
    readRecord policy (.object fs) = readRecord policy (.object fs') := by
  cases hk : Kind.ofName? (kindName fs) with
  | none => cases policy <;> simp only [readRecord, ← hkind, hk]
  | some k =>
    have halike := h k hk
    simp only [readRecord, ← hkind, hk, readAs_of_alike policy halike, Kind.drops,
      malformed_of_alike halike]

end Records

end ChatRelay.Content
