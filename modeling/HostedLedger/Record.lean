/-!
# Records

Reading the fields of a record from a list of names and values, in any order. A name that occurs
twice is an error; other names are not looked at.

## Main definitions

* `Record.optional?`: a field that may be missing
* `Record.required?`: a field that may not
* `Record.withDefault?`: a field that has a value of its own where it is missing
-/

namespace HostedLedger

namespace Record

variable {ν α : Type}

/-- The value of a field, if there is one; no answer if it is given twice or cannot be read. -/
def optional? (fields : List (String × ν)) (name : String) (read : ν → Option α) :
    Option (Option α) :=
  match fields.filter fun f => f.1 = name with
  | [] => some none
  | [(_, v)] => (read v).map some
  | _ => none

/-- The value of a field; no answer if it is missing. -/
def required? (fields : List (String × ν)) (name : String) (read : ν → Option α) : Option α :=
  (optional? fields name read).join

/-- The value of a field, or the default if it is missing. -/
def withDefault? (fields : List (String × ν)) (name : String) (read : ν → Option α) (default : α) :
    Option α :=
  (optional? fields name read).map (·.getD default)

end Record

end HostedLedger
