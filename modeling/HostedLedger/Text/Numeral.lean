/-!
# Numerals

The texts of natural numbers, without leading zeros, and the digits they are made of.

## Main definitions

* `Text.decimal`: the decimal digits of a number
* `Text.hexadecimal`: its lower-case hexadecimal digits
* `Text.hexDigit?`: the value of a hexadecimal digit of either case
-/

namespace HostedLedger

namespace Text

/-- The decimal digits of a number. -/
def decimal (n : Nat) : String := Nat.repr n

/-- The lower-case hexadecimal digits of a number. -/
def hexadecimal (n : Nat) : String := String.ofList (Nat.toDigits 16 n)

/-- The value of a hexadecimal digit. -/
def hexDigit? (c : Char) : Option Nat :=
  if '0' ≤ c ∧ c ≤ '9' then some (c.toNat - 48)
  else if 'a' ≤ c ∧ c ≤ 'f' then some (c.toNat - 87)
  else if 'A' ≤ c ∧ c ≤ 'F' then some (c.toNat - 55)
  else none

end Text

end HostedLedger
