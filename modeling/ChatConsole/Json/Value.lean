import ChatConsole.Decimal.Binary

/-! # JSON values

Numbers are natural numbers, negative integers, or binary values of double precision. The members of
an object are kept in the order of their names, each name once.
-/

namespace ChatConsole.Json

inductive Number
  | natural (n : Nat)
  /-- The integer `-n`, where `n` is positive. -/
  | negative (n : Nat)
  | real (isNegative : Bool) (size : Decimal.Binary)
  deriving DecidableEq

inductive Value
  | null
  | bool (b : Bool)
  | number (n : Number)
  | text (s : String)
  | list (items : List Value)
  | object (members : List (String × Value))

/-- Members in the order of their names. -/
abbrev Members := List (String × Value)

namespace Members

/-- Sets the member called `name`; an earlier one of that name is lost. -/
def insert (name : String) (v : Value) : Members → Members
  | [] => [(name, v)]
  | (other, w) :: rest =>
    if name < other then (name, v) :: (other, w) :: rest
    else if name = other then (name, v) :: rest
    else (other, w) :: insert name v rest

def find? (name : String) (members : Members) : Option Value := members.lookup name

end Members

end ChatConsole.Json
