/-
  Where a redirection leads.

  The location of a redirection may be a whole address or only a part of one, and
  the address of the request fills in the rest.

  * `Url.join` resolves a part of an address against an address;
  * `Url.redirect` is the address that a location leads to, `Url.Misdirection`
    why it leads nowhere.
-/
import ChatRelay.Url.Basic

namespace ChatRelay.Url

open Text

/-- Why a location leads nowhere. -/
inductive Misdirection where
  /-- the location is no address -/
  | location (flaw : Flaw)
  /-- what it leads to is no address -/
  | target (flaw : Flaw)
  /-- a host has no name -/
  | host (flaw : Host.Flaw)
deriving DecidableEq

/-- The address with another host, given by its name. -/
def withHost (u : Url) (name : String) : Except Flaw Url :=
  make u.scheme u.user (writtenHost name) u.portText u.path u.query u.fragment

/-- The address with another fragment. -/
def withFragment (u : Url) (fragment : String) : Except Flaw Url := do
  checkText (some "fragment") fragment
  return { u with fragment := some (Percent.encode isFragmentChar fragment) }

/-- The path up to its last slash. -/
def folder (path : String) : String :=
  let cs := path.toList
  String.ofList (cs.take (cs.length - (afterLast '/' cs).length))

/-- The address to which a part of an address leads from an address. -/
def join (base part : Url) : Except Flaw Url :=
  let joined : Url :=
    if !part.authority.isEmpty then { part with scheme := base.scheme }
    else
      let path := if part.path.isEmpty then base.path
        else if part.path.startsWith "/" then part.path
        else
          let place := folder base.path
          (if place.isEmpty then "/" else place) ++ part.path
      { base with
        path
        query := if part.path.isEmpty then part.query.or base.query else part.query
        fragment := part.fragment }
  parse joined.text

/-- The name of the host of an address. -/
def nameOf (u : Url) : Except Misdirection String := u.hostName.mapError .host

/-- The address to which a location leads from the address of a request. -/
def redirect (request : Url) (location : String) : Except Misdirection Url := do
  let found ← (parse location).mapError .location
  let whole ← (do
    if found.scheme.isEmpty then return found
    let name ← nameOf found
    if name.isEmpty then (found.withHost (← nameOf request)).mapError .target else return found)
  let target ← if whole.isAbsolute then pure whole else (join request whole).mapError .target
  let fragment := request.fragmentText
  let target ← if !fragment.isEmpty && target.fragmentText.isEmpty then
      (target.withFragment fragment).mapError .target
    else pure target
  let _ ← nameOf target
  return target

end ChatRelay.Url
