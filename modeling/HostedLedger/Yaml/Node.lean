import HostedLedger.Yaml.Token

/-!
# Nodes of documents

What a document says: texts, sequences and mappings. A place where a node is missing holds a plain
empty text.

## Main definitions

* `Yaml.Node`: a text, a sequence or a mapping
* `Yaml.blockNode?`, `Yaml.flowNode?`: the node that tokens start with
* `Yaml.Node.ofTokens?`: the node of a document given by its tokens
* `Yaml.Node.ofText?`: the node of a document
-/

namespace HostedLedger

namespace Yaml

/-- What a document says. -/
inductive Node
  /-- A text; a plain one stands without quotes. -/
  | scalar (isPlain : Bool) (text : String)
  | sequence (items : List Node)
  | mapping (entries : List (Node × Node))

namespace Node

/-- What stands where a node is missing. -/
def empty : Node := scalar true ""

instance : Inhabited Node := ⟨empty⟩

/-- Whether a node is plain and empty. -/
def isEmpty : Node → Bool
  | scalar true s => s = ""
  | _ => false

end Node

/-- Reads something from the beginning of a list of tokens. -/
abbrev TokenReader (α : Type) := List Token → Option (α × List Token)

/-- Reads a node, unless one of the given tokens shows that it is missing. -/
def orEmpty (missing : List Token) (read : TokenReader Node) : TokenReader Node
  | t :: ts => if missing.contains t then some (Node.empty, t :: ts) else read (t :: ts)
  | [] => read []

/-- The key of a pair in a sequence between brackets. A colon, comma or bracket in place of the key
counts as the missing key itself, so a second colon has to lead to the value, as in `[? : : x]`. -/
def pairKey (read : TokenReader Node) : TokenReader Node
  | t :: ts =>
    if [.value, .flowEntry, .flowSequenceEnd].contains t then some (Node.empty, ts)
    else read (t :: ts)
  | [] => read []

/-- The value that follows a key, if a colon comes next. -/
def valueOf (missing : List Token) (read : TokenReader Node) : TokenReader Node
  | .value :: ts => orEmpty missing read ts
  | ts => some (Node.empty, ts)

/-- The comma in front of every entry between brackets but the first. -/
def afterComma (isFirst : Bool) : List Token → Option (List Token)
  | .flowEntry :: ts => if isFirst then none else some ts
  | ts => if isFirst then some ts else none

mutual

/-- The node between brackets, or the text, that comes next. -/
def flowNode? : (fuel : Nat) → TokenReader Node
  | 0, _ => none
  | fuel + 1, ts =>
    match ts with
    | .scalar isPlain text :: ts => some (.scalar isPlain text, ts)
    | .flowSequenceStart :: ts => do
      let (items, ts) ← flowItems? fuel true ts
      return (.sequence items, ts)
    | .flowMappingStart :: ts => do
      let (entries, ts) ← flowEntries? fuel true ts
      return (.mapping entries, ts)
    | _ => none

/-- The items up to the closing bracket. A key among them makes a mapping of one entry. -/
def flowItems? : (fuel : Nat) → (isFirst : Bool) → TokenReader (List Node)
  | 0, _, _ => none
  | fuel + 1, isFirst, ts =>
    match ts with
    | .flowSequenceEnd :: ts => some ([], ts)
    | ts => do
      match ← afterComma isFirst ts with
      | .flowSequenceEnd :: ts => some ([], ts)
      | .key :: ts =>
        let (k, ts) ← pairKey (flowNode? fuel) ts
        let (v, ts) ← valueOf [.flowEntry, .flowSequenceEnd] (flowNode? fuel) ts
        let (items, ts) ← flowItems? fuel false ts
        return (.mapping [(k, v)] :: items, ts)
      | ts =>
        let (item, ts) ← flowNode? fuel ts
        let (items, ts) ← flowItems? fuel false ts
        return (item :: items, ts)

/-- The entries up to the closing brace. -/
def flowEntries? : (fuel : Nat) → (isFirst : Bool) → TokenReader (List (Node × Node))
  | 0, _, _ => none
  | fuel + 1, isFirst, ts =>
    match ts with
    | .flowMappingEnd :: ts => some ([], ts)
    | ts => do
      match ← afterComma isFirst ts with
      | .flowMappingEnd :: ts => some ([], ts)
      | .key :: ts =>
        let (k, ts) ← orEmpty [.value, .flowEntry, .flowMappingEnd] (flowNode? fuel) ts
        let (v, ts) ← valueOf [.flowEntry, .flowMappingEnd] (flowNode? fuel) ts
        let (entries, ts) ← flowEntries? fuel false ts
        return ((k, v) :: entries, ts)
      | ts =>
        let (k, ts) ← flowNode? fuel ts
        let (entries, ts) ← flowEntries? fuel false ts
        return ((k, Node.empty) :: entries, ts)

end

mutual

/-- The node that comes next. Below a key, a sequence may stand at the indentation of the key. -/
def blockNode? : (fuel : Nat) → (belowKey : Bool) → TokenReader Node
  | 0, _, _ => none
  | fuel + 1, belowKey, ts =>
    match ts with
    | .blockSequenceStart :: ts => do
      let (items, ts) ← blockItems? fuel ts
      return (.sequence items, ts)
    | .blockMappingStart :: ts => do
      let (entries, ts) ← blockEntries? fuel ts
      return (.mapping entries, ts)
    | .blockEntry :: ts =>
      if belowKey then do
        let (items, ts) ← outdentedItems? fuel (.blockEntry :: ts)
        return (.sequence items, ts)
      else
        none
    | ts => flowNode? fuel ts

/-- The items up to the end of the sequence. -/
def blockItems? : (fuel : Nat) → TokenReader (List Node)
  | 0, _ => none
  | fuel + 1, ts =>
    match ts with
    | .blockEntry :: ts => do
      let (item, ts) ← orEmpty [.blockEntry, .blockEnd] (blockNode? fuel false) ts
      let (items, ts) ← blockItems? fuel ts
      return (item :: items, ts)
    | .blockEnd :: ts => some ([], ts)
    | _ => none

/-- The items of a sequence that ends where no dash follows. -/
def outdentedItems? : (fuel : Nat) → TokenReader (List Node)
  | 0, _ => none
  | fuel + 1, ts =>
    match ts with
    | .blockEntry :: ts => do
      let (item, ts) ← orEmpty [.blockEntry, .key, .value, .blockEnd] (blockNode? fuel false) ts
      let (items, ts) ← outdentedItems? fuel ts
      return (item :: items, ts)
    | ts => some ([], ts)

/-- The entries up to the end of the mapping. -/
def blockEntries? : (fuel : Nat) → TokenReader (List (Node × Node))
  | 0, _ => none
  | fuel + 1, ts =>
    match ts with
    | .key :: ts => do
      let (k, ts) ← orEmpty [.key, .value, .blockEnd] (blockNode? fuel true) ts
      let (v, ts) ← valueOf [.key, .value, .blockEnd] (blockNode? fuel true) ts
      let (entries, ts) ← blockEntries? fuel ts
      return ((k, v) :: entries, ts)
    | .blockEnd :: ts => some ([], ts)
    | _ => none

end

namespace Node

/-- The node of a document given by its tokens. There may be no second document. -/
def ofTokens? (tokens : List Token) : Option Node := do
  let fuel := 2 * tokens.length + 2
  let (node, rest) ←
    match tokens with
    | [] => some (empty, [])
    | .documentStart :: ts =>
      match ts with
      | [] => some (empty, [])
      | ts => orEmpty [.documentStart, .documentEnd] (blockNode? fuel false) ts
    | ts => blockNode? fuel false ts
  if (rest.dropWhile (· = .documentEnd)).isEmpty then some node else none

/-- The node of a document. -/
def ofText? (document : String) : Option Node := do ofTokens? (← tokens? document)

end Node

end Yaml

end HostedLedger
