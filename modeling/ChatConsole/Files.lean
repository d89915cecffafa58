import ChatConsole.Text.Split
import ChatConsole.Text.Utf8

/-! # Files

A path is a text of names with slashes between them. `Disk` is what reading a configuration needs of
the world's files; `Tree` is a tree of files in memory, into which directories and files can also be
written. Whatever a path reaches outside of the tree is not kept: there directories can always be
made, and no file is ever found.
-/

namespace ChatConsole

/-- Why a file could not be used. -/
inductive FileFault
  | missing
  | alreadyThere
  | notDirectory
  | isDirectory
  | nulInName
  | notText
  deriving DecidableEq, Repr

def FileFault.message : FileFault → String
  | .missing => "No such file or directory (os error 2)"
  | .alreadyThere => "File exists (os error 17)"
  | .notDirectory => "Not a directory (os error 20)"
  | .isDirectory => "Is a directory (os error 21)"
  | .nulInName => "file name contained an unexpected NUL byte"
  | .notText => "stream did not contain valid UTF-8"

structure Disk where
  read : String → Except FileFault Text.Bytes
  /-- Whether there is a file or a directory. -/
  holds : String → Bool

/-- The text of a file. -/
def Disk.readText (disk : Disk) (path : String) : Except FileFault String :=
  match disk.read path with
  | .error fault => .error fault
  | .ok bytes =>
    match Text.Utf8.decode? bytes with
    | some cs => .ok (String.ofList cs)
    | none => .error .notText

namespace FilePath

/-- The names between the slashes. -/
def names (path : String) : List String := (Text.splitAt '/' path.toList).map String.ofList

def isAbsolute (path : String) : Bool := path.toList.head? == some '/'

/-- A name inside a directory. -/
def join (directory name : String) : String :=
  if directory.isEmpty || directory.toList.getLast? == some '/' then directory ++ name
  else directory ++ "/" ++ name

/-- The names without those that stay where they are; a first `.` counts. -/
def components (path : String) : List String :=
  match names path with
  | [] => []
  | first :: rest =>
    (if first.isEmpty then [] else [first]) ++ rest.filter fun name => name ≠ "" ∧ name ≠ "."

end FilePath

/-- Files and directories by the names on the way to them; a directory has no content. The
directories on the way to an entry are there without one of their own. -/
structure Tree where
  entries : List (List String × Option Text.Bytes)

namespace Tree

/-- A place that exists: below the top of the tree, or outside of it. -/
inductive Place
  | inside (path : List String)
  | outside
  deriving DecidableEq

def content? (t : Tree) (path : List String) : Option (Option Text.Bytes) :=
  (t.entries.find? fun entry => entry.1 == path).map (·.2)

/-- The bytes of a file. -/
def file? (t : Tree) (path : List String) : Option Text.Bytes := (t.content? path).join

def isDirectory (t : Tree) (path : List String) : Bool :=
  path.isEmpty || t.content? path == some none ||
    t.entries.any fun entry => path.length < entry.1.length && path.isPrefixOf entry.1

/-- The place that a name leads to. -/
def enter (t : Tree) (place : Place) (name : String) : Except FileFault Place :=
  match place with
  | .outside =>
    if name = "" ∨ name = "." ∨ name = ".." then .ok .outside else .error .missing
  | .inside path =>
    if !t.isDirectory path then .error .notDirectory
    else if name = "" ∨ name = "." then .ok (.inside path)
    else if name = ".." then .ok (if path.isEmpty then .outside else .inside path.dropLast)
    else
      let next := path ++ [name]
      if t.isDirectory next || (t.content? next).isSome then .ok (.inside next) else .error .missing

def follow (t : Tree) (place : Place) (names : List String) : Except FileFault Place :=
  names.foldlM t.enter place

/-- The place that a path leads to. -/
def locate (t : Tree) (path : String) : Except FileFault Place :=
  if path = "" then .error .missing
  else if path.toList.contains (Char.ofNat 0) then .error .nulInName
  else t.follow (if FilePath.isAbsolute path then .outside else .inside []) (FilePath.names path)

def read (t : Tree) (path : String) : Except FileFault Text.Bytes := do
  match ← t.locate path with
  | .outside => .error .isDirectory
  | .inside path => (t.file? path).elim (.error .isDirectory) .ok

def disk (t : Tree) : Disk where
  read := t.read
  holds := fun path => (t.locate path).toOption.isSome

/-- Makes one directory inside the tree. -/
def makeDirectory (t : Tree) (names : List String) : Except FileFault Tree := do
  match ← t.follow (.inside []) names.dropLast, names.getLast? with
  | .outside, _ => .ok t
  | _, none => .error .alreadyThere
  | .inside path, some name =>
    if !t.isDirectory path then .error .notDirectory
    else
      let path := path ++ [name]
      if name = "." ∨ name = ".." ∨ t.isDirectory path ∨ (t.content? path).isSome then
        .error .alreadyThere
      else .ok ⟨t.entries ++ [(path, none)]⟩

/-- Whether the names lead to a directory. -/
def leadsToDirectory (t : Tree) (names : List String) : Bool :=
  match t.follow (.inside []) names with
  | .ok .outside => true
  | .ok (.inside path) => t.isDirectory path
  | .error _ => false

/-- Makes a directory and the ones on the way to it: the last one first, and the others only if
they are missing. Directories that are there already are fine. -/
def makeDirectories (t : Tree) (names : List String) : Except FileFault Tree :=
  if _hNames : names = [] then .ok t
  else
    let settle (t : Tree) (fault : FileFault) : Except FileFault Tree :=
      if t.leadsToDirectory names then .ok t else .error fault
    match t.makeDirectory names with
    | .ok t => .ok t
    | .error .missing => do
      let t ← makeDirectories t names.dropLast
      match t.makeDirectory names with
      | .ok t => .ok t
      | .error fault => settle t fault
    | .error fault => settle t fault
termination_by names.length
decreasing_by
  have := List.length_pos_iff.2 _hNames
  simp only [List.length_dropLast]
  omega

/-- Makes the directory of a path. -/
def ensureDirectory (t : Tree) (path : String) : Except FileFault Tree :=
  if path.toList.contains (Char.ofNat 0) then .error .nulInName
  else if FilePath.isAbsolute path then .ok t
  else t.makeDirectories (FilePath.components path)

/-- Adds bytes at the end of a file, which is made if it is not there. -/
def appendAt (t : Tree) (path : List String) (bytes : Text.Bytes) : Tree :=
  match t.file? path with
  | none => ⟨t.entries ++ [(path, some bytes)]⟩
  | some old =>
    ⟨t.entries.map fun entry => if entry.1 = path then (path, some (old ++ bytes)) else entry⟩

/-- Adds bytes at the end of the file with a name in a directory of the tree. -/
def append (t : Tree) (directory name : String) (bytes : Text.Bytes) : Tree :=
  match t.locate (if directory.isEmpty then "." else directory) with
  | .ok (.inside path) => t.appendAt (path ++ [name]) bytes
  | _ => t

/-- The paths of all files with a name, in order. -/
def named (t : Tree) (name : String) : List String :=
  let paths := t.entries.filterMap fun (path, content) =>
    if content.isSome ∧ path.getLast? = some name then some ("/".intercalate path) else none
  paths.mergeSort fun a b => decide (a ≤ b)

end Tree

end ChatConsole
