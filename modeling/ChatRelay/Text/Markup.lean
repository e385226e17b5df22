/-
  Cleaning message text.

  Message text may carry HTML and stray control characters.  Control
  characters other than tab, line feed and carriage return are removed; tags
  are stripped by a scanner with two states, outside and inside a tag.

  * `clean` removes control characters, `cleanWithin` also shortens;
  * `stripTags` drops every tag, an unclosed one up to the end;
  * `hasMarkup` tells whether some tag is opened by a letter, `/` or `!` and
    closed later.
-/
namespace ChatRelay.Text

/-- A control character that message text does not keep. -/
def isStray (c : Char) : Bool :=
  let n := c.toNat
  n ≤ 0x08 || n == 0x0B || n == 0x0C || (0x0E ≤ n && n ≤ 0x1F) || n == 0x7F

/-- The characters without stray controls. -/
def cleanChars (cs : List Char) : List Char :=
  cs.filter (!isStray ·)

/-- The text without stray controls. -/
def clean (s : String) : String :=
  String.ofList (cleanChars s.toList)

/-- What stands after a text that was cut. -/
def truncationMark : String := "... [truncated]"

/-- The first `n` characters; a negative `n` counts from the end. -/
def takeSigned (n : Int) (cs : List Char) : List Char :=
  if 0 ≤ n then cs.take n.toNat else cs.take (cs.length + n).toNat

/-- The text without stray controls, cut first if it has more than `limit`
    characters.  The empty text stays empty. -/
def cleanWithin (limit : Option Int) (s : String) : String :=
  let cs := s.toList
  match limit with
  | none => String.ofList (cleanChars cs)
  | some n =>
    if cs.isEmpty then ""
    else if (cs.length : Int) ≤ n then String.ofList (cleanChars cs)
    else String.ofList (cleanChars (takeSigned n cs ++ truncationMark.toList))

mutual

/-- Outside a tag text is kept; `<` opens a tag. -/
def outsideTags : List Char → List Char
  | [] => []
  | c :: rest => if c = '<' then insideTag rest else c :: outsideTags rest

/-- Inside a tag text is dropped; `>` closes it. -/
def insideTag : List Char → List Char
  | [] => []
  | c :: rest => if c = '>' then outsideTags rest else insideTag rest

end

/-- The text without its tags. -/
def stripTags (s : String) : String :=
  String.ofList (outsideTags s.toList)

/-- A character that opens a tag when it follows `<`. -/
def opensTag (c : Char) : Bool :=
  ('a' ≤ c && c ≤ 'z') || ('A' ≤ c && c ≤ 'Z') || c == '/' || c == '!'

/-- Some `<` is followed by a character that opens a tag, and then, anywhere,
    by `>`. -/
def markupIn : List Char → Bool
  | [] => false
  | c :: rest =>
    (c == '<' && match rest with
      | d :: after => opensTag d && after.contains '>'
      | [] => false) || markupIn rest

/-- The text looks like it carries tags. -/
def hasMarkup (s : String) : Bool :=
  markupIn s.toList

end ChatRelay.Text
