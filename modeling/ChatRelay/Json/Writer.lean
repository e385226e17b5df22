/-
  Writing JSON text.

  A document is written without blanks.  Inside a text the quote, the
  backslash and the control characters are escaped; all other characters stand
  for themselves.

  * `Json.render` writes a document.
-/
import ChatRelay.Json.Basic
import ChatRelay.Text.Quoted

namespace ChatRelay.Json

/-- A character inside a text. -/
def escapedInText (c : Char) : List Char :=
  if c = '"' || c = '\\' then ['\\', c]
  else if c = '\n' then ['\\', 'n']
  else if c = '\r' then ['\\', 'r']
  else if c = '\t' then ['\\', 't']
  else if c = '\x08' then ['\\', 'b']
  else if c = '\x0C' then ['\\', 'f']
  else if c.toNat < 0x20 then '\\' :: 'u' :: Text.hexDigits 4 c.toNat
  else [c]

/-- A text between quotes. -/
def quotedText (s : String) : String :=
  "\"" ++ String.ofList (s.toList.flatMap escapedInText) ++ "\""

/-- A number. -/
def numberText : Number → String
  | .int i => Number.intText i
  | .real x =>
    if x.isUndefined then "NaN"
    else if x.isFinite then Number.realText x
    else if x.isNegative then "-Infinity"
    else "Infinity"

mutual

/-- The text `out`, followed by a value. -/
def renderAfter (out : String) : Json → String
  | null => out ++ "null"
  | bool b => out ++ (if b then "true" else "false")
  | number n => out ++ numberText n
  | text s => out ++ quotedText s
  | array xs => renderItems (out ++ "[") false xs
  | object fs => renderFields (out ++ "\x7b") false fs
termination_by structural v => v

/-- The text `out`, followed by items and the closing bracket; `more` tells
    that an item stands before. -/
def renderItems (out : String) (more : Bool) : List Json → String
  | [] => out ++ "]"
  | x :: xs => renderItems (renderAfter (if more then out ++ "," else out) x) true xs
termination_by structural xs => xs

/-- The text `out`, followed by fields and the closing brace; `more` tells
    that a field stands before. -/
def renderFields (out : String) (more : Bool) : Fields → String
  | [] => out ++ "\x7d"
  | f :: fs => renderFields (renderField (if more then out ++ "," else out) f) true fs
termination_by structural fs => fs

/-- The text `out`, followed by a field. -/
def renderField (out : String) : String × Json → String
  | (k, v) => renderAfter (out ++ quotedText k ++ ":") v
termination_by structural f => f

end

/-- A document. -/
def render (v : Json) : String := renderAfter "" v

end ChatRelay.Json
