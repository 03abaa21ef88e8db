import HostedLedger.Text.Numeral
import HostedLedger.Text.Printable
import HostedLedger.Text.Combining

/-!
# Quoted texts

A text between double quotes, for messages. Quotes, backslashes, tabs, line breaks and the
character NUL are written with a backslash; characters that would not show, or that would attach
themselves to the quote, are written by their code point.

## Main definitions

* `Text.escape`: how a character is written between quotes
* `Text.quote`: a text between quotes
-/

namespace HostedLedger

namespace Text

/-- A character by its code point. -/
def codePoint (c : Char) : List Char :=
  ['\\', 'u', '\x7b'] ++ (hexadecimal c.toNat).toList ++ ['\x7d']

/-- How a character is written between quotes. -/
def escape (c : Char) : List Char :=
  if c = '\x00' then ['\\', '0']
  else if c = '\t' then ['\\', 't']
  else if c = '\r' then ['\\', 'r']
  else if c = '\n' then ['\\', 'n']
  else if c = '\x22' then ['\\', '\x22']
  else if c = '\\' then ['\\', '\\']
  else if isCombining c || !isPrintable c then codePoint c
  else [c]

/-- A text between quotes. -/
def quote (s : String) : String :=
  String.ofList ('\x22' :: s.toList.flatMap escape ++ ['\x22'])

end Text

end HostedLedger
