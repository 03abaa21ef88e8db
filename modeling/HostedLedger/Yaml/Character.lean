/-!
# Characters of documents

Which characters a document may hold, and the classes that its grammar tells apart.

## Main definitions

* `Yaml.isAllowed`: the characters of a document
* `Yaml.unifyBreaks`: the document with one character for every ordinary line break
* `Yaml.isBreak`, `Yaml.isBlank`: line breaks, and spaces and tabs
* `Yaml.isMarker`: whether the marker of a document's start or end stands here
-/

namespace HostedLedger

namespace Yaml

/-- Whether a document may hold a character: no control characters but tabs and line breaks. -/
def isAllowed (c : Char) : Bool :=
  c = '\t' || c = '\n' || c = '\r' || (' ' ≤ c && c ≤ '~') || c = '\u0085' ||
    ('\u00a0' ≤ c && c.toNat ≠ 0xfffe && c.toNat ≠ 0xffff)

/-- Writes a line feed for each of the line breaks that read alike: a carriage return with or
without a line feed, a line feed, and a next-line character. -/
def unifyBreaks : List Char → List Char
  | '\r' :: '\n' :: cs => '\n' :: unifyBreaks cs
  | c :: cs => (if c = '\r' || c = '\u0085' then '\n' else c) :: unifyBreaks cs
  | [] => []

/-- A line feed, a line separator or a paragraph separator. -/
def isBreak (c : Char) : Bool := c = '\n' || c = '\u2028' || c = '\u2029'

/-- A space or a tab. -/
def isBlank (c : Char) : Bool := c = ' ' || c = '\t'

/-- A blank or a line break. -/
def isSpace (c : Char) : Bool := isBlank c || isBreak c

/-- Whether a blank, a line break or the end comes next. -/
def spaceNext : List Char → Bool
  | [] => true
  | c :: _ => isSpace c

/-- Whether the marker of a document's start or end comes next. -/
def isMarker : List Char → Bool
  | '-' :: '-' :: '-' :: cs => spaceNext cs
  | '.' :: '.' :: '.' :: cs => spaceNext cs
  | _ => false

end Yaml

end HostedLedger
