import HostedLedger.Application.Message
import HostedLedger.Ledger

/-!
# Queries

Values of a ledger by their path: the balance and the nonce of an address, the height, the latest
hash and the state root. Numbers are answered in eight bytes, digests as they are.

## Main definitions

* `Path`: the known paths
* `Path.ofText?`, `Path.text`: their texts
* `Ledger.read`: the value at a path
* `Ledger.query`: the answer to a query

## Main results

* `Path.ofText?_text`: every path is read from its text
* `Ledger.query_text`: the text of a path is answered with the value there
-/

namespace HostedLedger

/-- What a query may ask for. -/
inductive Path
  | balance (address : String)
  | nonce (address : String)
  | height
  | latestHash
  | stateRoot
  deriving DecidableEq

namespace Path

/-- The text of a path. -/
def text : Path → String
  | balance address => "/balance/" ++ address
  | nonce address => "/nonce/" ++ address
  | height => "/height"
  | latestHash => "/latest_hash"
  | stateRoot => "/state_root"

/-- What follows the given beginning of a text. -/
def after? (beginning text : String) : Option String :=
  (beginning.toList.isPrefixOf? text.toList).map String.ofList

/-- The path with a text. -/
def ofText? (s : String) : Option Path :=
  match after? "/balance/" s with
  | some address => some (balance address)
  | none =>
    match after? "/nonce/" s with
    | some address => some (nonce address)
    | none =>
      if s = "/height" then some height
      else if s = "/latest_hash" then some latestHash
      else if s = "/state_root" then some stateRoot
      else none

theorem after?_append (beginning s : String) : after? beginning (beginning ++ s) = some s := by
  have hprefix (xs ys : List Char) : xs.isPrefixOf? (xs ++ ys) = some ys := by
    induction xs with
    | nil => rfl
    | cons x xs ih =>
      show (if x == x then xs.isPrefixOf? (xs ++ ys) else none) = some ys
      rw [if_pos (beq_self_eq_true x), ih]
  rw [after?, String.toList_append, hprefix, Option.map_some, String.ofList_toList]

/-- Every path is read from its text, whatever address it names. -/
theorem ofText?_text (p : Path) : ofText? p.text = some p := by
  cases p with
  | balance address => rw [ofText?, text, after?_append]
  | nonce address =>
    have hother : after? "/balance/" ("/nonce/" ++ address) = none := by
      rw [after?, String.toList_append]
      rfl
    rw [ofText?, text, hother]
    dsimp only
    rw [after?_append]
  | height => decide
  | latestHash => decide
  | stateRoot => decide

end Path

namespace Ledger

/-- The value at a path. -/
def read (l : Ledger) : Path → Bytes
  | .balance address => Bytes.ofUInt64 (l.balance address)
  | .nonce address => Bytes.ofUInt64 (l.nonce address)
  | .height => Bytes.ofUInt64 l.height
  | .latestHash => l.latestHash.bytes
  | .stateRoot => l.stateRoot.bytes

/-- The answer to a query. -/
def query (l : Ledger) (path : String) : Response :=
  match Path.ofText? path with
  | some p => .query ResponseCode.ok (l.read p) ""
  | none => .query ResponseCode.rejected [] s!"unknown query path: {path}"

theorem query_text (l : Ledger) (p : Path) :
    l.query p.text = .query ResponseCode.ok (l.read p) "" := by
  rw [query, Path.ofText?_text]

end Ledger

end HostedLedger
