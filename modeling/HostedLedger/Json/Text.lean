import HostedLedger.Json.Basic

/-!
# JSON texts

The value of a JSON text. Numbers are kept as they are written, and names may occur more than once.

## Main definitions

* `Json.Unit16`, `Json.assemble?`: a text in the making, whose escapes may be halves of characters
* `Json.string?`, `Json.number?`, `Json.value?`: what comes next in a text
* `Json.ofText?`: the value of a whole text
-/

namespace HostedLedger

namespace Json

open Text (hexDigit?)

/-- Skips blanks and line breaks. -/
def skipBlanks (cs : List Char) : List Char :=
  cs.dropWhile fun c => c = ' ' || c = '\n' || c = '\t' || c = '\r'

/-! ### Texts -/

/-- A piece of a text: a character, or a 16-bit unit that has been written by its number. -/
inductive Unit16
  | char (c : Char)
  | unit (n : Nat)

/-- Whether a unit is the first half of a pair. -/
def isHigh (n : Nat) : Bool := 0xd800 ≤ n && n < 0xdc00

/-- Whether a unit is the second half of a pair. -/
def isLow (n : Nat) : Bool := 0xdc00 ≤ n && n < 0xe000

/-- The characters of a text in the making; none if it has half of a pair. -/
def assemble? : List Unit16 → Option (List Char)
  | [] => some []
  | .char c :: us => (assemble? us).map (c :: ·)
  | .unit n :: .unit m :: us =>
    if isHigh n then
      if isLow m then
        (assemble? us).map (Char.ofNat (0x10000 + (n - 0xd800) * 0x400 + (m - 0xdc00)) :: ·)
      else
        none
    else if isLow n then none
    else (assemble? (.unit m :: us)).map (Char.ofNat n :: ·)
  | .unit n :: us => if isHigh n || isLow n then none else (assemble? us).map (Char.ofNat n :: ·)

/-- The unit with four hexadecimal digits. -/
def unit16? (a b c d : Char) : Option Unit16 := do
  return .unit (((← hexDigit? a) * 16 + (← hexDigit? b)) * 256 +
    ((← hexDigit? c) * 16 + (← hexDigit? d)))

/-- The character that a backslash and a letter stand for. -/
def escaped? (c : Char) : Option Char :=
  match c with
  | '\x22' => some '\x22'
  | '\\' => some '\\'
  | '/' => some '/'
  | 'b' => some '\x08'
  | 'f' => some '\x0c'
  | 'n' => some '\n'
  | 'r' => some '\r'
  | 't' => some '\t'
  | _ => none

/-- The pieces of a text up to the closing quote, and what follows it. -/
def pieces? : List Char → Option (List Unit16 × List Char)
  | [] => none
  | '\x22' :: cs => some ([], cs)
  -- Halves of a pair are put together afterwards, so that they may stand alone here.
  | '\\' :: 'u' :: a :: b :: c :: d :: cs => do
    let u ← unit16? a b c d
    let (us, rest) ← pieces? cs
    return (u :: us, rest)
  | '\\' :: c :: cs => do
    let e ← escaped? c
    let (us, rest) ← pieces? cs
    return (.char e :: us, rest)
  | c :: cs =>
    if c < ' ' || c = '\\' then none
    else do
      let (us, rest) ← pieces? cs
      return (.char c :: us, rest)

/-- The text after an opening quote. -/
def string? (cs : List Char) : Option (Option String × List Char) := do
  let (us, rest) ← pieces? cs
  return ((assemble? us).map String.ofList, rest)

/-! ### Numbers -/

/-- Digits, of which there is at least one. -/
def digits? (cs : List Char) : Option (List Char × List Char) :=
  let ds := cs.takeWhile Char.isDigit
  if ds.isEmpty then none else some (ds, cs.dropWhile Char.isDigit)

/-- Digits that do not start with a needless zero. -/
def integer? (cs : List Char) : Option (List Char × List Char) :=
  match digits? cs with
  | some ('0' :: _ :: _, _) => none
  | r => r

/-- A point and digits, if a point comes next. -/
def fraction? : List Char → Option (List Char × List Char)
  | '.' :: cs => (digits? cs).map fun (ds, rest) => ('.' :: ds, rest)
  | cs => some ([], cs)

/-- The sign, if one comes next. -/
def sign : List Char → List Char × List Char
  | '+' :: cs => (['+'], cs)
  | '-' :: cs => (['-'], cs)
  | cs => ([], cs)

/-- An exponent, if one comes next. -/
def exponent? : List Char → Option (List Char × List Char)
  | [] => some ([], [])
  | c :: cs =>
    if c = 'e' || c = 'E' then
      let (s, cs) := sign cs
      (digits? cs).map fun (ds, rest) => (c :: s ++ ds, rest)
    else
      some ([], c :: cs)

/-- The number that comes next. -/
def number? (cs : List Char) : Option (Json × List Char) := do
  let (minus, cs) := if cs.head? = some '-' then (['-'], cs.tail) else ([], cs)
  let (whole, cs) ← integer? cs
  let (part, cs) ← fraction? cs
  let (power, cs) ← exponent? cs
  return (number (String.ofList (minus ++ whole ++ part ++ power)), cs)

/-! ### Values -/

/-- What follows a word, if the word comes next. -/
def word? (w : String) (j : Json) (cs : List Char) : Option (Json × List Char) :=
  (w.toList.isPrefixOf? cs).map fun rest => (j, rest)

mutual

/-- The value that comes next. -/
def value? : (fuel : Nat) → List Char → Option (Json × List Char)
  | 0, _ => none
  | fuel + 1, cs =>
    match skipBlanks cs with
    | [] => none
    | c :: cs =>
      if c = '\x22' then (string? cs).map fun (s, rest) => (text s, rest)
      else if c = '[' then
        (items? fuel true cs).map fun (items, rest) => (array items, rest)
      else if c = '\x7b' then
        (fields? fuel true cs).map fun (fields, rest) => (object fields, rest)
      else if c = 'n' then word? "null" null (c :: cs)
      else if c = 't' then word? "true" (bool true) (c :: cs)
      else if c = 'f' then word? "false" (bool false) (c :: cs)
      else number? (c :: cs)

/-- The items up to the closing bracket; the first one follows no comma. -/
def items? : (fuel : Nat) → (isFirst : Bool) → List Char → Option (List Json × List Char)
  | 0, _, _ => none
  | fuel + 1, isFirst, cs =>
    match skipBlanks cs with
    | [] => none
    | c :: cs =>
      if c = ']' then some ([], cs)
      else do
        let cs ← if isFirst then some (c :: cs) else if c = ',' then some cs else none
        let (x, cs) ← value? fuel cs
        let (xs, cs) ← items? fuel false cs
        return (x :: xs, cs)

/-- The fields up to the closing brace; the first one follows no comma. -/
def fields? : (fuel : Nat) → (isFirst : Bool) → List Char →
    Option (List (Option String × Json) × List Char)
  | 0, _, _ => none
  | fuel + 1, isFirst, cs =>
    match skipBlanks cs with
    | [] => none
    | c :: cs =>
      if c = '\x7d' then some ([], cs)
      else do
        let cs ← if isFirst then some (c :: cs) else if c = ',' then some (skipBlanks cs) else none
        if cs.head? ≠ some '\x22' then none
        let (k, cs) ← string? cs.tail
        match skipBlanks cs with
        | ':' :: cs =>
          let (v, cs) ← value? fuel cs
          let (fs, cs) ← fields? fuel false cs
          return ((k, v) :: fs, cs)
        | _ => none

end

/-- The value of a text. -/
def ofText? (s : String) : Option Json := do
  let (j, rest) ← value? (s.length + 1) s.toList
  if (skipBlanks rest).isEmpty then some j else none

end Json

end HostedLedger
