import ChatConsole.Text.Cluster

/-! # Marks

Characters that are written onto the one before them: the general category of marks. Most of them
extend a cluster, with or without taking room.
-/

namespace ChatConsole.Text

/-- Extending characters that take room of their own, or are a joiner. -/
def spacedExtenders : CodeRanges := .ofLines [
  "9be 9d7 b3e b57 bbe bd7 cc0 cc2 cc7-cc8 cca-ccb cd5-cd6 d3e d57 dcf ddf 1715 1734 1b35 1b3b",
  "1b3d 1b43-1b44 1baa 1bf2-1bf3 200c 302e-302f a953 a9c0 111c0 11235 1133e 1134d 11357 113b8",
  "113c2 113c5 113c7-113c9 113cf 114b0 114bd 115af 116b6 11930 1193d 11f41 16ff0-16ff1 1d165-1d166",
  "1d16d-1d172"]

/-- Marks that begin a cluster of their own. -/
def looseMarks : CodeRanges := .ofLines [
  "102b-102c 1038 1062-1064 1067-106d 1083 1087-108c 108f 109a-109c 1a61 1a63-1a64 aa7b aa7d",
  "113b9-113ba 113ca 113cc-113cd 1171e 11720-11721 11b61 11b65 11b67 1612a-1612c"]

def isNonspacing (c : Char) : Bool := extenders.contains c && !spacedExtenders.contains c

def isMark (c : Char) : Bool :=
  c != nonJoiner && (extenders.contains c || spacingMarks.contains c || looseMarks.contains c)

end ChatConsole.Text
