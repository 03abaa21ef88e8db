import HostedLedger.Yaml.Character

/-!
# Places in documents

A cursor is a place in a document: the characters that follow, and the line and column.

## Main definitions

* `Yaml.Cursor`: a place
* `Yaml.Cursor.skip`, `Yaml.Cursor.moveTo`: places further on
-/

namespace HostedLedger

namespace Yaml

/-- A place in a document. -/
structure Cursor where
  /-- The characters from here on. -/
  rest : List Char
  /-- The number of bytes before, in UTF-8. -/
  offset : Nat
  /-- The number of line breaks before. -/
  line : Nat
  /-- The number of characters since the last line break. -/
  column : Nat

namespace Cursor

/-- The beginning of a document. -/
def start (cs : List Char) : Cursor := ⟨cs, 0, 0, 0⟩

/-- The place `n` characters further on. -/
def skip : (n : Nat) → Cursor → Cursor
  | 0, c => c
  | _ + 1, ⟨[], offset, line, column⟩ => ⟨[], offset, line, column⟩
  | n + 1, ⟨x :: rest, offset, line, column⟩ =>
    if isBreak x then skip n ⟨rest, offset + x.utf8Size, line + 1, 0⟩
    else skip n ⟨rest, offset + x.utf8Size, line, column + 1⟩

/-- The place from which the given characters, the last ones of the document, follow. -/
def moveTo (c : Cursor) (rest : List Char) : Cursor := c.skip (c.rest.length - rest.length)

end Cursor

end Yaml

end HostedLedger
