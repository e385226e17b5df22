/-
  How the content of an answer is coded.

  A header lists the codings in the order in which they were applied, so they
  are undone from the last one on.  Codings that are not known count as none.

  * `ofHeader` reads the header, `Coding.undo` and `undoAll` undo codings.
-/
import ChatRelay.Coding.Inflate
import ChatRelay.Text.Blank

namespace ChatRelay

open Coding Text

/-- A coding of content. -/
inductive Coding where
  /-- a file in which content is packed -/
  | gzip
  /-- packed content, with or without a header -/
  | deflate
deriving DecidableEq

namespace Coding

/-- A coding by its name. -/
def named? (name : String) : Option Coding :=
  match lowerCased (trimBlank name) with
  | "gzip" => some gzip
  | "deflate" => some deflate
  | _ => none

/-- The codings that a header lists. -/
def ofHeader (header : Option String) : List Coding :=
  (header.elim [] (splitAt ',')).filterMap named?

/-- Undoes a coding. -/
def undo (c : Coding) (bs : List UInt8) : Except Flaw (List UInt8) :=
  match c with
  | gzip => inflateFile bs
  | deflate =>
    if bs.isEmpty then .ok []
    else match inflateWrapped bs with
      | .ok content => .ok content
      | .error _ => inflate bs

/-- Undoes codings, the last one first. -/
def undoAll (cs : List Coding) (bs : List UInt8) : Except Flaw (List UInt8) :=
  cs.reverse.foldlM (fun bs c => c.undo bs) bs

end Coding

end ChatRelay
