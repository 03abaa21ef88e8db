import HostedLedger.Error.Cause

/-!
# Addresses

An address is any text but the empty one.

## Main definitions

* `Address.check`: refuses the empty text

## Main results

* `Address.check_eq_ok_iff`: no other text is refused
-/

namespace HostedLedger

/-- Refuses the empty text; the role says whose address it was to be. -/
def Address.check (role address : String) : Except ParameterError Unit :=
  if address = "" then .error (.emptyAddress role) else .ok ()

theorem Address.check_eq_ok_iff (role : String) {address : String} :
    Address.check role address = .ok () ↔ address ≠ "" := by
  unfold Address.check
  split <;> simp [*]

end HostedLedger
