import HostedLedger.Yaml.Cursor
import HostedLedger.Yaml.Scalar

/-!
# Tokens of documents

A document is first cut into tokens. The indentation of block collections becomes tokens for their
start and end, and a text that turns out to be a key, because a colon follows it on its line, gets a
token in front of it. Anchors, aliases, tags and directives are not part of the grammar.

## Main definitions

* `Yaml.Token`: the tokens
* `Yaml.Lexer`: a place in a document, with the collections that are open there
* `Yaml.Lexer.next?`: reads one token
* `Yaml.tokens?`: the tokens of a document
-/

namespace HostedLedger

namespace Yaml

/-- The tokens of a document. -/
inductive Token
  | documentStart
  | documentEnd
  | blockSequenceStart
  | blockMappingStart
  | blockEnd
  | flowSequenceStart
  | flowSequenceEnd
  | flowMappingStart
  | flowMappingEnd
  | blockEntry
  | flowEntry
  | key
  | value
  /-- A text; a plain one stands without quotes. -/
  | scalar (isPlain : Bool) (text : String)
  deriving DecidableEq

/-- The beginning of a node that may turn out to be a key. -/
structure PossibleKey where
  /-- Whether the node can be nothing but a key. -/
  isRequired : Bool
  /-- The number of tokens before the node. -/
  position : Nat
  line : Nat
  offset : Nat
  column : Nat

/-- A place in a document, with what is open there. -/
structure Lexer where
  cursor : Cursor
  /-- The last node between the innermost brackets, as long as it may be a key. -/
  possibleKey : Option PossibleKey
  /-- The same for every bracket around, from inside out. -/
  outerKeys : List (Option PossibleKey)
  /-- The column of the innermost block collection; before the first one, minus one. -/
  indent : Int
  /-- The columns of the block collections around it, from inside out. -/
  outerIndents : List Int
  /-- Whether a node that starts here may be a key. -/
  keyAllowed : Bool
  tokens : Array Token

namespace Lexer

/-- The beginning of a document. -/
def start (cs : List Char) : Lexer := ⟨Cursor.start cs, none, [], -1, [], true, #[]⟩

/-- Whether a bracket is open. -/
def inFlow (s : Lexer) : Bool := !s.outerKeys.isEmpty

/-- The lexer after a token. -/
def push (s : Lexer) (t : Token) : Lexer := { s with tokens := s.tokens.push t }

/-- The lexer with `n` characters read. -/
def skip (s : Lexer) (n : Nat) : Lexer := { s with cursor := s.cursor.skip n }

/-! ### Between tokens -/

/-- Where the space between two tokens goes on. -/
inductive SpaceContext
  /-- At the beginning of a line. -/
  | lineStart
  | inLine
  | inComment

/-- The characters after blanks, comments and line breaks, and whether a key may start there. Tabs
do not count as blanks where a line may start with a key. A byte order mark may start any line; it
takes a column. -/
def afterSpace (flow : Bool) : SpaceContext → (keyAllowed : Bool) → List Char → Bool × List Char
  | _, keyAllowed, [] => (keyAllowed, [])
  | .inComment, keyAllowed, c :: cs =>
    if isBreak c then afterSpace flow .lineStart (keyAllowed || !flow) cs
    else afterSpace flow .inComment keyAllowed cs
  | context, keyAllowed, c :: cs =>
    if c = '\ufeff' && context matches .lineStart then afterSpace flow .inLine keyAllowed cs
    else if c = ' ' || (c = '\t' && (flow || !keyAllowed)) then
      afterSpace flow .inLine keyAllowed cs
    else if c = '#' then afterSpace flow .inComment keyAllowed cs
    else if isBreak c then afterSpace flow .lineStart (keyAllowed || !flow) cs
    else (keyAllowed, c :: cs)

/-- The lexer at the beginning of the next token. -/
def skipSpace (s : Lexer) : Lexer :=
  let context := if s.cursor.column = 0 then SpaceContext.lineStart else .inLine
  let (keyAllowed, rest) := afterSpace s.inFlow context s.keyAllowed s.cursor.rest
  { s with keyAllowed, cursor := s.cursor.moveTo rest }

/-- A node on an earlier line, or more than 1024 bytes back, is no key any more. -/
def refresh (c : Cursor) : Option PossibleKey → Option (Option PossibleKey)
  | none => some none
  | some k =>
    if k.line < c.line || k.offset + 1024 < c.offset then
      if k.isRequired then none else some none
    else
      some (some k)

/-- Forgets the nodes that are no keys any more. -/
def refreshKeys (s : Lexer) : Option Lexer := do
  let possibleKey ← refresh s.cursor s.possibleKey
  let outerKeys ← s.outerKeys.mapM (refresh s.cursor)
  return { s with possibleKey, outerKeys }

/-- Closes the block collections whose column lies beyond the given one. -/
def closeBlocks (column : Int) : Int → List Int → Array Token → Int × List Int × Array Token
  | indent, [], tokens => (indent, [], tokens)
  | indent, outer :: outers, tokens =>
    if column < indent then closeBlocks column outer outers (tokens.push .blockEnd)
    else (indent, outer :: outers, tokens)

/-- Closes the block collections beyond a column; between brackets, indentation does not count. -/
def unroll (s : Lexer) (column : Int) : Lexer :=
  if s.inFlow then s
  else
    let (indent, outerIndents, tokens) := closeBlocks column s.indent s.outerIndents s.tokens
    { s with indent, outerIndents, tokens }

/-- Opens a block collection at a column, unless one is open there; its token comes after the given
number of tokens. -/
def roll (s : Lexer) (column : Nat) (position : Nat) (t : Token) : Lexer :=
  if s.inFlow || s.indent ≥ column then s
  else
    { s with
      indent := column
      outerIndents := s.indent :: s.outerIndents
      tokens := s.tokens.insertIdxIfInBounds position t }

/-! ### Keys -/

/-- Gives up the last node as a key. -/
def dropKey (s : Lexer) : Option Lexer :=
  if s.possibleKey.any (·.isRequired) then none else some { s with possibleKey := none }

/-- Remembers the node that starts here, if it may be a key. -/
def saveKey (s : Lexer) : Option Lexer :=
  if s.keyAllowed then do
    let s ← s.dropKey
    let c := s.cursor
    -- At the column of a block mapping, a node on one line can be nothing but a key.
    let isRequired := !s.inFlow && s.indent = c.column
    return { s with possibleKey := some ⟨isRequired, s.tokens.size, c.line, c.offset, c.column⟩ }
  else
    some s

/-! ### Tokens -/

/-- The marker of a document's start or end. -/
def documentMarker (s : Lexer) (t : Token) : Option Lexer := do
  let s ← (s.unroll (-1)).dropKey
  return { (s.skip 3).push t with keyAllowed := false }

/-- An opening bracket. -/
def openBracket (s : Lexer) (t : Token) : Option Lexer := do
  let s ← s.saveKey
  let s := (s.skip 1).push t
  return { s with
    possibleKey := none, outerKeys := s.possibleKey :: s.outerKeys, keyAllowed := true }

/-- A closing bracket. -/
def closeBracket (s : Lexer) (t : Token) : Option Lexer := do
  let s ← s.dropKey
  let s := { (s.skip 1).push t with keyAllowed := false }
  match s.outerKeys with
  | [] => return s
  | k :: ks => return { s with possibleKey := k, outerKeys := ks }

/-- A comma between brackets. -/
def comma (s : Lexer) : Option Lexer := do
  let s ← s.dropKey
  return { (s.skip 1).push .flowEntry with keyAllowed := true }

/-- The dash of a sequence entry. -/
def dash (s : Lexer) : Option Lexer := do
  if !s.inFlow && !s.keyAllowed then none
  let s ← (s.roll s.cursor.column s.tokens.size .blockSequenceStart).dropKey
  return { (s.skip 1).push .blockEntry with keyAllowed := true }

/-- The question mark in front of a key. -/
def questionMark (s : Lexer) : Option Lexer := do
  if !s.inFlow && !s.keyAllowed then none
  let s ← (s.roll s.cursor.column s.tokens.size .blockMappingStart).dropKey
  return { (s.skip 1).push .key with keyAllowed := !s.inFlow }

/-- The colon in front of a value. It makes the last node a key. -/
def colon (s : Lexer) : Option Lexer :=
  match s.possibleKey with
  | some k =>
    -- A mapping that starts with this key is opened in front of the key's own token.
    let s := { s with tokens := s.tokens.insertIdxIfInBounds k.position .key }
    let s := { s.roll k.column k.position .blockMappingStart with
      possibleKey := none, keyAllowed := false }
    some ((s.skip 1).push .value)
  | none =>
    if !s.inFlow && !s.keyAllowed then none
    else
      let s := s.roll s.cursor.column s.tokens.size .blockMappingStart
      some { (s.skip 1).push .value with keyAllowed := !s.inFlow }

/-- The lexer after a scalar. -/
def pushScalar (s : Lexer) (isPlain keyAllowed : Bool) (text rest : List Char) : Lexer :=
  { s.push (.scalar isPlain (String.ofList text)) with
    keyAllowed, cursor := s.cursor.moveTo rest }

/-- A quoted scalar. -/
def quoted (s : Lexer) (read : Nat → Gap → List Char → Option (List Char × List Char)) :
    Option Lexer := do
  let s ← s.saveKey
  let (text, rest) ← read (s.cursor.column + 1) .none (s.cursor.rest.drop 1)
  return s.pushScalar false false text rest

/-- A block scalar. -/
def block (s : Lexer) (literal : Bool) : Option Lexer := do
  let s ← s.dropKey
  let (text, rest) ← blockScalar literal s.indent.toNat (s.cursor.rest.drop 1)
  return s.pushScalar false true text rest

/-- A plain scalar. -/
def plainScalar (s : Lexer) : Option Lexer := do
  let s ← s.saveKey
  let p ← plain s.inFlow (s.indent + 1).toNat s.cursor.column .none s.cursor.rest
  return s.pushScalar true p.endsLine p.text p.rest

/-- The characters that start no plain scalar. -/
def isIndicator (c : Char) : Bool :=
  isFlowIndicator c || c = '-' || c = '?' || c = ':' || c = '#' || c = '&' || c = '*' || c = '!' ||
    c = '|' || c = '>' || c = '\x27' || c = '\x22' || c = '%' || c = '@' || c = '\x60'

/-- Whether a plain scalar starts here. -/
def startsPlain (flow : Bool) : List Char → Bool
  | [] => false
  | c :: cs =>
    !(isSpace c || isIndicator c) || (c = '-' && !cs.head?.any isBlank) ||
      (!flow && (c = '?' || c = ':') && !spaceNext cs)

/-- Reads the token that starts here. -/
def token? (s : Lexer) : Option Lexer :=
  match s.cursor.rest with
  | [] => none
  | c :: cs =>
    let atMarker := s.cursor.column = 0 && isMarker (c :: cs)
    if atMarker && c = '-' then s.documentMarker .documentStart
    else if atMarker then s.documentMarker .documentEnd
    else if c = '[' then s.openBracket .flowSequenceStart
    else if c = '\x7b' then s.openBracket .flowMappingStart
    else if c = ']' then s.closeBracket .flowSequenceEnd
    else if c = '\x7d' then s.closeBracket .flowMappingEnd
    else if c = ',' then s.comma
    else if c = '-' && spaceNext cs then s.dash
    else if c = '?' && (s.inFlow || spaceNext cs) then s.questionMark
    else if c = ':' && (s.inFlow || spaceNext cs) then s.colon
    else if c = '|' && !s.inFlow then s.block true
    else if c = '>' && !s.inFlow then s.block false
    else if c = '\x27' then s.quoted singleQuoted
    else if c = '\x22' then s.quoted doubleQuoted
    else if startsPlain s.inFlow (c :: cs) then s.plainScalar
    else none

/-- Moves to the next token; block collections that end before it are closed. -/
def advance? (s : Lexer) : Option Lexer := do
  let s ← s.skipSpace.refreshKeys
  return s.unroll s.cursor.column

/-- All tokens, when the document ends here. -/
def finish? (s : Lexer) : Option (List Token) := do
  let s ← (s.unroll (-1)).dropKey
  return s.tokens.toList

/-- The tokens of the document. -/
def run? (s : Lexer) : Option (List Token) :=
  match s.advance? with
  | none => none
  | some s' =>
    if s'.cursor.rest.isEmpty then s'.finish?
    else
      match s'.token? with
      | none => none
      -- Every token takes at least one character.
      | some s'' => if s''.cursor.rest.length < s.cursor.rest.length then s''.run? else none
termination_by s.cursor.rest.length

end Lexer

/-- The tokens of a document. -/
def tokens? (document : String) : Option (List Token) :=
  let cs := unifyBreaks document.toList
  if cs.all isAllowed then (Lexer.start cs).run? else none

end Yaml

end HostedLedger
