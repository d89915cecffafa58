import ChatConsole.Files
import ChatConsole.Journal.Filter

/-! # The journal file

The journal is kept in one file of its directory. What the file already holds stays, and the lines
of the records that pass the filter come after it. A process opens its journal once.
-/

namespace ChatConsole.Journal

def fileName : String := "chatops-console.log"

/-- The first note of every journal. -/
def openingNote (directory : String) : Note :=
  ⟨.info, .journal, some "logging initialised", [("path", FilePath.join directory fileName)]⟩

/-- What is reported when a journal is opened a second time. -/
def secondOpeningText : String := "a global default trace dispatcher has already been set"

/-- The bytes of the records that pass the filter, each on a line of its own. -/
def bytesOf (filter : Filter) (records : List Record) : Text.Bytes :=
  (records.filter fun r => filter.passes r.note).flatMap fun r =>
    Text.Utf8.encode (r.line.toList ++ ['\n'])

/-- Makes the directory and writes the records, oldest first. -/
def store (tree : Tree) (directory : String) (filter : Filter) (records : List Record) :
    Except FileFault Tree := do
  let tree ← tree.ensureDirectory directory
  return tree.append directory fileName (bytesOf filter records)

/-- The lines of the journal file in a directory, if there is one. -/
def storedLines (tree : Tree) (directory : String) : Option (List String) :=
  match tree.read (FilePath.join directory fileName) with
  | .ok bytes => some ((Text.lines (Text.Utf8.decodeLossy bytes)).map String.ofList)
  | .error _ => none

end ChatConsole.Journal
