/-
  The target of a request: a path and a query.

  The path is that of an address, whose octets are read.  The query is a list of
  names and values; in both a plus sign stands for a blank.

  * `Target.ofUrl` is the target of an address, `Target.params` reads its query;
  * `Target.location` writes a target for a redirection.
-/
import ChatRelay.Json.Basic
import ChatRelay.Text.Blank
import ChatRelay.Url.Basic

namespace ChatRelay.Gateway

/-- The target of a request. -/
structure Target where
  path : String
  /-- the query as it is sent -/
  query : String := ""
deriving DecidableEq

namespace Target

/-- The target that an address names; the octets of its path are read. -/
def ofUrl (u : Url) : Target where
  path := Text.Percent.decode (if u.path.isEmpty then "/" else u.path)
  query := u.query.getD ""

/-! ## The query -/

/-- A name or a value in a query. -/
def word (cs : List Char) : String :=
  Text.Percent.decode (String.ofList (cs.map fun c => if c = '+' then ' ' else c))

/-- A name and its value; the value may be missing. -/
def param (cs : List Char) : String × String :=
  (word (cs.takeWhile (· != '=')), word ((cs.dropWhile (· != '=')).drop 1))

/-- The names and values of the query. -/
def params (t : Target) : List (String × String) :=
  ((Text.splitChars '&' t.query.toList).filter (!·.isEmpty)).map param

/-- The query as fields; of several values of a name the last counts. -/
def fields (t : Target) : Fields :=
  t.params.foldl (fun fs p => Json.put p.1 (.text p.2) fs) []

/-! ## Redirections -/

/-- The character needs no percent encoding in an address. -/
def isSafe (c : Char) : Bool :=
  c.isAlphanum || "_.-~:/%#?=@[]!$&'()*+,;".toList.contains c

/-- The target as an address below `base`. -/
def location (base : String) (t : Target) : String :=
  Text.Percent.encode isSafe
    (base ++ t.path ++ if t.query.isEmpty then "" else "?" ++ t.query)

end Target

example : (Url.parse "http://h/a/./b/../c%20d?x=1&y=%").toOption.map Target.ofUrl =
    some ⟨"/a/c d", "x=1&y=%"⟩ := by
  decide +kernel

example : (Target.mk "/" "a=1&b=%20x&a=2&c").fields =
    [("a", .text "2"), ("b", .text " x"), ("c", .text "")] := by
  decide +kernel

end ChatRelay.Gateway
