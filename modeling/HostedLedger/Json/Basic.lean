import HostedLedger.Text.Numeral

/-!
# JSON values

The values of JSON texts, and the text that they are written as, without blanks.

A text may hold an escape for half of a surrogate pair that stands alone. Such a text is tolerated
where nobody looks at it, and has no value.

## Main definitions

* `Json`: null, truth values, numbers, texts, arrays and objects
* `Json.render`: the text of a value
-/

namespace HostedLedger

/-- A JSON value. -/
inductive Json
  | null
  | bool (b : Bool)
  /-- A number, as it is written. -/
  | number (literal : String)
  /-- A text; none if it is not well-formed. -/
  | text (s : Option String)
  | array (items : List Json)
  | object (fields : List (Option String × Json))

namespace Json

/-- The number of a 64-bit word. -/
def word (n : UInt64) : Json := number (Text.decimal n.toNat)

/-- A well-formed text. -/
def string (s : String) : Json := text (some s)

/-- An object with well-formed names. -/
def record (fields : List (String × Json)) : Json := object (fields.map fun f => (some f.1, f.2))

/-- How a character is written in a text. -/
def escape (c : Char) : List Char :=
  if c = '\x22' then ['\\', '\x22']
  else if c = '\\' then ['\\', '\\']
  else if c = '\x08' then ['\\', 'b']
  else if c = '\t' then ['\\', 't']
  else if c = '\n' then ['\\', 'n']
  else if c = '\x0c' then ['\\', 'f']
  else if c = '\r' then ['\\', 'r']
  else if c < ' ' then
    ['\\', 'u', '0', '0', Nat.digitChar (c.toNat / 16), Nat.digitChar (c.toNat % 16)]
  else [c]

/-- A text between quotes. -/
def quote (s : String) : List Char := '\x22' :: s.toList.flatMap escape ++ ['\x22']

mutual

/-- The characters of a value. -/
def chars : Json → List Char
  | null => "null".toList
  | bool b => if b then "true".toList else "false".toList
  | number literal => literal.toList
  | text s => quote (s.getD "")
  | array items => '[' :: itemChars items ++ [']']
  | object fields => '\x7b' :: fieldChars fields ++ ['\x7d']

/-- The characters of the items of an array. -/
def itemChars : List Json → List Char
  | [] => []
  | [x] => chars x
  | x :: y :: xs => chars x ++ ',' :: itemChars (y :: xs)

/-- The characters of the fields of an object. -/
def fieldChars : List (Option String × Json) → List Char
  | [] => []
  | [(k, v)] => quote (k.getD "") ++ ':' :: chars v
  | (k, v) :: f :: fs => quote (k.getD "") ++ ':' :: chars v ++ ',' :: fieldChars (f :: fs)

end

/-- The text of a value. -/
def render (j : Json) : String := String.ofList j.chars

end Json

end HostedLedger
