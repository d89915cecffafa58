/-! # TOML values

A value of a TOML document. Programs tell apart the kinds they use; of a float and of a date only
the kind is kept.
-/

namespace ChatConsole.Toml

inductive Value
  | text (s : String)
  | integer (n : Int)
  | float
  | boolean (b : Bool)
  | moment
  | array (items : List Value)
  /-- The members of an inline table with their dotted keys. -/
  | inlineTable (members : List (List String × Value))

/-- The bounds of the integers: eight bytes, signed. -/
def isInteger (n : Int) : Bool := -9223372036854775808 ≤ n && n ≤ 9223372036854775807

end ChatConsole.Toml
