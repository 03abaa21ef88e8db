import HostedLedger.Text.Numeral
import HostedLedger.Yaml.Character

/-!
# Scalars in documents

The texts that plain, quoted and block scalars stand for. Every reader takes the characters from
the beginning of the scalar on, and gives the text and the characters after it.

## Main definitions

* `Yaml.Gap`: the blanks and line breaks inside a scalar, and the text they fold to
* `Yaml.plain`: plain scalars
* `Yaml.singleQuoted`, `Yaml.doubleQuoted`: quoted scalars
* `Yaml.blockScalar`: literal and folded block scalars
-/

namespace HostedLedger

namespace Yaml

open Text (hexDigit?)

/-- The blanks and line breaks between two characters of a scalar. -/
inductive Gap
  /-- Blanks on one line. -/
  | blanks (cs : List Char)
  /-- Line breaks, the first one apart; there is none if it has been escaped. -/
  | breaks (first : Option Char) (more : List Char)

namespace Gap

/-- No blank and no line break. -/
def none : Gap := blanks []

/-- Whether there is a line break. -/
def hasBreak : Gap → Bool
  | blanks _ => false
  | breaks .. => true

/-- Whether there is neither a blank nor a line break. -/
def isNone : Gap → Bool
  | blanks cs => cs.isEmpty
  | breaks .. => false

/-- The gap with a blank after it; blanks next to a line break do not count. -/
def addBlank (c : Char) : Gap → Gap
  | blanks cs => blanks (cs ++ [c])
  | g => g

/-- The gap with a line break after it. -/
def addBreak (c : Char) : Gap → Gap
  | blanks _ => breaks (some c) []
  | breaks first more => breaks first (more ++ [c])

/-- What a gap stands for: a single line feed folds to a space, and the first of several is
dropped. -/
def text : Gap → List Char
  | blanks cs => cs
  | breaks (some '\n') [] => [' ']
  | breaks (some '\n') more => more
  | breaks first more => first.toList ++ more

end Gap

/-! ### Plain scalars -/

/-- What is read of a plain scalar. -/
structure Plain where
  text : List Char
  /-- Whether a line has ended after the last character. -/
  endsLine : Bool
  rest : List Char

/-- Puts characters in front of what has been read. -/
def Plain.prepend (cs : List Char) (p : Plain) : Plain := { p with text := cs ++ p.text }

/-- The characters that end a plain scalar between brackets. -/
def isFlowIndicator (c : Char) : Bool :=
  c = ',' || c = '[' || c = ']' || c = '\x7b' || c = '\x7d'

/-- Whether a colon is followed by a bracket, a comma or a question mark. -/
def colonBeforeIndicator : List Char → Bool
  | ':' :: c :: _ => isFlowIndicator c || c = '?'
  | _ => false

/-- Whether a plain scalar ends in front of what comes next. -/
def endsPlain (flow : Bool) : List Char → Bool
  | [] => true
  | c :: cs => (c = ':' && spaceNext cs) || (flow && isFlowIndicator c)

/-- Whether a plain scalar ends in front of what comes after a gap: at a comment, at a marker, or
where a line is indented too little. -/
def endsAfterGap (flow : Bool) (indent column : Nat) (gap : Gap) (cs : List Char) : Bool :=
  !gap.isNone &&
    (cs.head? = some '#' || (column = 0 && isMarker cs) ||
      (gap.hasBreak && !flow && column < indent))

/-- A plain scalar. Outside brackets, its lines have to start at the given column or beyond it. -/
def plain (flow : Bool) (indent : Nat) (column : Nat) (gap : Gap) : List Char → Option Plain
  | [] => some ⟨[], gap.hasBreak, []⟩
  | c :: cs =>
    if isBlank c then
      -- A tab is no indentation.
      if gap.hasBreak && column < indent && c = '\t' then .none
      else plain flow indent (column + 1) (gap.addBlank c) cs
    else if isBreak c then
      plain flow indent 0 (gap.addBreak c) cs
    else if endsAfterGap flow indent column gap (c :: cs) then
      some ⟨[], gap.hasBreak, c :: cs⟩
    else if flow && colonBeforeIndicator (c :: cs) then
      .none
    else if endsPlain flow (c :: cs) then
      some ⟨[], gap.hasBreak, c :: cs⟩
    else
      (plain flow indent (column + 1) .none cs).map (Plain.prepend (gap.text ++ [c]))

/-! ### Quoted scalars -/

/-- Puts characters in front of what has been read. -/
def prepend (cs : List Char) (p : List Char × List Char) : List Char × List Char := (cs ++ p.1, p.2)

/-- What follows a single quote: a quote is written twice. -/
def singleQuoted (column : Nat) (gap : Gap) : List Char → Option (List Char × List Char)
  | [] => none
  | [c] => if c = '\x27' then some (gap.text, []) else none
  | c :: d :: cs =>
    if isBlank c then
      singleQuoted (column + 1) (gap.addBlank c) (d :: cs)
    else if isBreak c then
      singleQuoted 0 (gap.addBreak c) (d :: cs)
    else if column = 0 && isMarker (c :: d :: cs) then
      none
    else if c ≠ '\x27' then
      (singleQuoted (column + 1) .none (d :: cs)).map (prepend (gap.text ++ [c]))
    else if d = '\x27' then
      (singleQuoted (column + 2) .none cs).map (prepend (gap.text ++ ['\x27']))
    else
      some (gap.text, d :: cs)

/-- The character that a backslash and a letter stand for. -/
def escaped? (c : Char) : Option Char :=
  match c with
  | '0' => some '\x00'
  | 'a' => some '\x07'
  | 'b' => some '\x08'
  | 't' => some '\t'
  | '\t' => some '\t'
  | 'n' => some '\n'
  | 'v' => some '\x0b'
  | 'f' => some '\x0c'
  | 'r' => some '\r'
  | 'e' => some '\x1b'
  | ' ' => some ' '
  | '\x22' => some '\x22'
  | '/' => some '/'
  | '\\' => some '\\'
  | 'N' => some '\u0085'
  | '_' => some '\u00a0'
  | 'L' => some '\u2028'
  | 'P' => some '\u2029'
  | _ => none

/-- The number of hexadecimal digits that follow a backslash and a letter. -/
def escapeDigits (c : Char) : Nat :=
  match c with
  | 'x' => 2
  | 'u' => 4
  | 'U' => 8
  | _ => 0

/-- The character whose code point is written with exactly `count` hexadecimal digits. -/
def codePoint? (count : Nat) (digits : List Char) : Option Char := do
  let values ← digits.mapM hexDigit?
  let n := values.foldl (fun n v => 16 * n + v) 0
  if values.length = count ∧ n.isValidChar then some (Char.ofNat n) else none

/-- What follows a double quote. A backslash starts an escape; before a line break it removes the
break. -/
def doubleQuoted (column : Nat) (gap : Gap) (cs : List Char) : Option (List Char × List Char) :=
  match cs with
  | [] => none
  | c :: cs =>
    if isBlank c then
      doubleQuoted (column + 1) (gap.addBlank c) cs
    else if isBreak c then
      doubleQuoted 0 (gap.addBreak c) cs
    else if column = 0 && isMarker (c :: cs) then
      none
    else if c = '\x22' then
      some (gap.text, cs)
    else if c ≠ '\\' then
      (doubleQuoted (column + 1) .none cs).map (prepend (gap.text ++ [c]))
    else
      match cs with
      | [] => none
      | d :: cs =>
        let count := escapeDigits d
        if isBreak d then
          -- The blanks in front of an escaped line break stay, those after it do not.
          (doubleQuoted 0 (.breaks none []) cs).map (prepend gap.text)
        else if count = 0 then
          match escaped? d with
          | none => none
          | some e => (doubleQuoted (column + 2) .none cs).map (prepend (gap.text ++ [e]))
        else
          match codePoint? count (cs.take count) with
          | none => none
          | some e =>
            (doubleQuoted (column + 2 + count) .none (cs.drop count)).map
              (prepend (gap.text ++ [e]))
termination_by cs.length
decreasing_by all_goals (simp_all; try omega)

/-! ### Block scalars -/

/-- What happens to the line breaks at the end of a block scalar. -/
inductive Chomping
  | strip
  | clip
  | keep

/-- The sign of a way of chomping. -/
def chomping? : Char → Option Chomping
  | '-' => some .strip
  | '+' => some .keep
  | _ => none

/-- The indentation that a digit asks for; zero cannot be asked for. -/
def indentation? (c : Char) : Option Nat :=
  if '1' ≤ c ∧ c ≤ '9' then some (c.toNat - 48) else none

/-- The way of chomping, and the indentation if it is given, in either order. -/
def blockHeader (cs : List Char) : Chomping × Option Nat × List Char :=
  match cs with
  | [] => (.clip, none, [])
  | [c] =>
    match chomping? c, indentation? c with
    | some chomping, _ => (chomping, none, [])
    | none, some n => (.clip, some n, [])
    | none, none => (.clip, none, [c])
  | c :: d :: rest =>
    match chomping? c, indentation? c with
    | some chomping, _ =>
      match indentation? d with
      | some n => (chomping, some n, rest)
      | none => (chomping, none, d :: rest)
    | none, some n =>
      match chomping? d with
      | some chomping => (chomping, some n, rest)
      | none => (.clip, some n, d :: rest)
    | none, none => (.clip, none, c :: d :: rest)

/-- The empty lines in front of a line with content. -/
structure EmptyLines where
  /-- Their line breaks. -/
  breaks : List Char
  /-- The column at which the content starts. -/
  column : Nat
  /-- The largest column reached by spaces. -/
  widest : Nat
  rest : List Char

/-- Skips empty lines and, on the line with content, the spaces of the indentation. Without a given
indentation all spaces are skipped. A tab cannot stand for such a space. -/
def emptyLines (indent : Option Nat) (column widest : Nat) (breaks : List Char) :
    List Char → Option EmptyLines
  | [] => some ⟨breaks, column, max widest column, []⟩
  | c :: cs =>
    let inside := indent.all (column < ·)
    if inside && c = ' ' then emptyLines indent (column + 1) widest breaks cs
    else if inside && c = '\t' then none
    else if isBreak c then emptyLines indent 0 (max widest column) (breaks ++ [c]) cs
    else some ⟨breaks, column, max widest column, c :: cs⟩

/-- What is read of a block scalar. -/
structure BlockLines where
  text : List Char
  /-- The line break after the last line. -/
  lastBreak : Option Char
  /-- The line breaks of the empty lines after it. -/
  breaks : List Char
  rest : List Char

/-- What stands between two lines: in a folded scalar, a single line break between lines that do
not start with a blank becomes a space. -/
def joinLines (literal afterBlank beforeBlank : Bool) (lineBreak : Option Char)
    (breaks : List Char) : List Char :=
  if !literal && lineBreak = some '\n' && !afterBlank && !beforeBlank then
    if breaks.isEmpty then [' '] else breaks
  else
    lineBreak.toList ++ breaks

theorem emptyLines_rest {indent : Option Nat} {column widest : Nat} {breaks cs : List Char}
    {e : EmptyLines} (h : emptyLines indent column widest breaks cs = some e) :
    e.rest.length ≤ cs.length := by
  fun_induction emptyLines indent column widest breaks cs with
  | case1 => cases h; simp
  | case2 _ _ _ _ _ _ _ ih => exact Nat.le_succ_of_le (ih h)
  | case3 => simp at h
  | case4 _ _ _ _ _ _ _ _ _ ih => exact Nat.le_succ_of_le (ih h)
  | case5 => cases h; simp

/-- The lines of a block scalar that are indented by `indent` columns. -/
def blockLines (literal : Bool) (indent : Nat) (afterBlank : Bool) (lineBreak : Option Char)
    (e : EmptyLines) : Option BlockLines :=
  match hr : e.rest with
  | [] => some ⟨[], lineBreak, e.breaks, []⟩
  | c :: cs =>
    if e.column ≠ indent then
      some ⟨[], lineBreak, e.breaks, c :: cs⟩
    else
      let joined := joinLines literal afterBlank (isBlank c) lineBreak e.breaks
      let line := c :: cs.takeWhile fun d => !isBreak d
      let rest := cs.dropWhile fun d => !isBreak d
      match h : emptyLines (some indent) 0 0 [] (rest.drop 1) with
      | none => none
      | some next =>
        have : next.rest.length < e.rest.length := by
          have h1 := emptyLines_rest h
          have h2 : rest.length ≤ cs.length := (List.dropWhile_sublist _).length_le
          rw [hr, List.length_cons]
          simp at h1
          omega
        (blockLines literal indent (isBlank c) rest.head? next).map fun b =>
          { b with text := joined ++ line ++ b.text }
termination_by e.rest.length

/-- What follows the sign of a block scalar, below a line that is indented by `outer` columns. -/
def blockScalar (literal : Bool) (outer : Nat) (cs : List Char) :
    Option (List Char × List Char) := do
  let (chomping, given, cs) := blockHeader cs
  let cs := cs.dropWhile isBlank
  let cs := if cs.head? = some '#' then cs.dropWhile fun c => !isBreak c else cs
  if !cs.head?.all isBreak then none
  let e ← emptyLines (given.map (outer + ·)) 0 0 [] (cs.drop 1)
  -- Without a digit, the first line with content decides, or a wider empty line before it.
  let indent := (given.map (outer + ·)).getD (max e.widest (outer + 1))
  let b ← blockLines literal indent false none e
  let ending :=
    match chomping with
    | .strip => []
    | .clip => b.lastBreak.toList
    | .keep => b.lastBreak.toList ++ b.breaks
  return (b.text ++ ending, b.rest)

end Yaml

end HostedLedger
