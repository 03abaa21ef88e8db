import HostedLedger.Yaml.Node

/-!
# Values of nodes

Texts, truth values and numbers as nodes write them. Every scalar is a text; truth values and
numbers are written plainly.

## Main definitions

* `Yaml.Node.text?`, `Yaml.Node.bool?`, `Yaml.Node.word?`: the value of a scalar
* `Yaml.Node.items?`, `Yaml.Node.entries?`: the contents of a collection
* `Yaml.unsigned?`: the number that a plain text stands for
-/

namespace HostedLedger

namespace Yaml

open Text (hexDigit?)

/-- The value of a digit in a base of at most 16. -/
def digit? (base : Nat) (c : Char) : Option Nat := do
  let n ← hexDigit? c
  if n < base then some n else none

/-- The number with the given digits, of which there is at least one. -/
def digits? (base : Nat) (cs : List Char) : Option Nat := do
  if cs.isEmpty then none
  let values ← cs.mapM (digit? base)
  return values.foldl (fun n v => base * n + v) 0

/-- The 64-bit word with the given digits. -/
def wordOf? (base : Nat) (cs : List Char) : Option UInt64 := do
  let n ← digits? base cs
  if n < UInt64.size then some (UInt64.ofNat n) else none

/-- The number that a plain text stands for: a sign `+` may come first, then decimal digits that do
not start with a needless zero, or digits in another base after its mark. -/
def unsigned? (cs : List Char) : Option UInt64 :=
  let cs := if cs.head? = some '+' then cs.tail else cs
  match cs with
  | '0' :: 'x' :: ds => wordOf? 16 ds
  | '0' :: 'o' :: ds => wordOf? 8 ds
  | '0' :: 'b' :: ds => wordOf? 2 ds
  | '0' :: _ :: _ => none
  | ds => wordOf? 10 ds

/-- The truth value that a plain text stands for. -/
def boolean? (s : String) : Option Bool :=
  if s = "true" || s = "True" || s = "TRUE" then some true
  else if s = "false" || s = "False" || s = "FALSE" then some false
  else none

namespace Node

/-- The text of a scalar. -/
def text? : Node → Option String
  | scalar _ s => some s
  | _ => none

/-- The truth value of a plain scalar. -/
def bool? : Node → Option Bool
  | scalar true s => boolean? s
  | _ => none

/-- The number of a plain scalar. -/
def word? : Node → Option UInt64
  | scalar true s => unsigned? s.toList
  | _ => none

/-- The items of a sequence; a missing one has none. -/
def items? : Node → Option (List Node)
  | sequence items => some items
  | n => if n.isEmpty then some [] else none

/-- The entries of a mapping; a missing one has none. -/
def entries? : Node → Option (List (Node × Node))
  | mapping entries => some entries
  | n => if n.isEmpty then some [] else none

/-- The entries of a mapping whose keys are texts. -/
def fields? (n : Node) : Option (List (String × Node)) := do
  (← n.entries?).mapM fun (k, v) => do return (← k.text?, v)

end Node

end Yaml

end HostedLedger
