import ChatConsole.Text.Blank
import ChatConsole.Text.Capital
import ChatConsole.Text.Lowercase

/-! # Roles

A role is the tag under which a channel is opened. `client` and `manager` are known to every
gateway; a deployment may have others. A text names a role when its lower-case form, without the
blanks around it, is one word of ASCII letters, digits, `-` and `_`; that word is the tag.
-/

namespace ChatConsole

inductive Role
  | client
  | manager
  | other (tag : String)
  deriving DecidableEq, Repr

/-- A text that is no role. -/
structure InvalidRole where
  text : String
  deriving DecidableEq, Repr

def InvalidRole.message (e : InvalidRole) : String :=
  "invalid role '" ++ e.text ++ "': expected a single word of letters, digits, '-' or '_'"

namespace Role

instance : Inhabited Role := ⟨.client⟩

/-- The tag on the wire. -/
def tag : Role → String
  | .client => "client"
  | .manager => "manager"
  | .other tag => tag

/-- The role with the given tag. -/
def ofTag (tag : String) : Role :=
  if tag = "client" then .client
  else if tag = "manager" then .manager
  else .other tag

/-- The tag with its first character as a capital. -/
def displayName (r : Role) : String :=
  match r.tag.toList with
  | [] => ""
  | c :: rest => String.ofList (Text.capital c ++ rest)

/-- Characters of a word that names a role. -/
def isWordChar (c : Char) : Bool := c.isAlphanum || c == '-' || c == '_'

/-- The role that a text names. -/
def parse (s : String) : Except InvalidRole Role :=
  let word := Text.lowercase (Text.trimChars s.toList)
  if word.isEmpty || !word.all isWordChar then .error ⟨s⟩
  else .ok (ofTag (String.ofList word))

@[simp] theorem tag_ofTag (t : String) : (ofTag t).tag = t := by
  unfold ofTag
  split
  · next h => exact h.symm
  · split
    · next h => exact h.symm
    · rfl

end Role

end ChatConsole
