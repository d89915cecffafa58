import ChatConsole.Text.Utf8
import ChatConsole.Url.Domain.Label

/-! # Domain names

A domain is mapped and composed, cut into labels at its dots, and written in ASCII label by label.
-/

namespace ChatConsole.Url.Domain

/-- ASCII characters that no domain may contain. -/
def isForbidden (c : Char) : Bool :=
  c.toNat ≤ 0x20 || c.toNat == 0x7F || "%#/:<>?@[\\]^|".toList.contains c

/-- The labels of a domain. Their directions matter only if one of them has a character that is
written from right to left. -/
def labels? (cs : List Char) : Option (List Label) := do
  let mapped ← cs.mapM mapChar?
  let labels ← (Text.splitAt '.' (composed mapped.flatten)).mapM Label.ofText?
  guard (labels.any (hasRightToLeft ·.text) → labels.all (keepsDirection ·.text))
  some labels

/-- The ASCII form of a domain. -/
def toAscii? (bytes : Text.Bytes) : Option (List Char) := do
  let cs ← Text.Utf8.decode? bytes
  let labels ← labels? cs
  let name := ['.'].intercalate (labels.map (·.ascii))
  if name.any isForbidden then none else some name

end ChatConsole.Url.Domain
