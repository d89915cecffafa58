import ChatConsole.Url.Domain.Direction
import ChatConsole.Url.Domain.Joining
import ChatConsole.Url.Punycode

/-! # Labels

The labels of a domain stand between its dots. A label with characters beyond ASCII is written in
Punycode behind a sign, and a label that is so written already is read first and held to the same
rules.
-/

namespace ChatConsole.Url.Domain

/-- A label as it reads and as it is written in ASCII. -/
structure Label where
  text : List Char
  ascii : List Char

namespace Label

/-- Stands in front of Punycode. -/
def sign : List Char := ['x', 'n', '-', '-']

/-- The most characters of a label that is to be written in Punycode. -/
def textLimit : Nat := 1000

/-- The most characters of Punycode in a label. -/
def asciiLimit : Nat := 2000

/-- Whether a text beyond ASCII can be a label. -/
def isValid (text : List Char) : Bool :=
  text.all isKept && composed text == text && !text.head?.any Text.isMark && joinersFit [] text
    && !sign.isPrefixOf text

/-- The label of a text whose characters are mapped and composed. -/
def ofText? (text : List Char) : Option Label :=
  if text.all Punycode.isBasic then
    if sign.isPrefixOf text then do
      let code := text.drop sign.length
      guard (code.length ≤ asciiLimit)
      let decoded ← Punycode.decode? code
      guard (!decoded.all Punycode.isBasic && isValid decoded)
      some ⟨decoded, text⟩
    else some ⟨text, text⟩
  else do
    guard (isValid text && text.length ≤ textLimit)
    some ⟨text, sign ++ Punycode.encode text⟩

end Label

end ChatConsole.Url.Domain
