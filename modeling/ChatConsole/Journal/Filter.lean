import ChatConsole.Decimal.Natural
import ChatConsole.Journal

/-! # Journal filters

A filter says which records are written. Its text is empty, one level for every speaker, or a target
and a level: then only speakers whose target begins that way are heard. The first variable of the
environment whose text is a filter decides; without any, the program itself is heard from level
`info` on.
-/

namespace ChatConsole.Journal

/-- What is written; a limit of `none` lets no level pass. -/
inductive Filter
  | nothing
  | everywhere (limit : Option Level)
  | under (target : String) (limit : Option Level)
  deriving DecidableEq, Repr

namespace Filter

def limitText : Option Level → String
  | none => "off"
  | some level => level.name.toLower

/-- The limit that a word names: `off` or a level in either case, or its place from 0 to 5. -/
def limit? (word : String) : Option (Option Level) :=
  let lower := word.toLower
  if lower = "off" then some none
  else
    match Level.all.find? (·.name.toLower == lower), Decimal.readBelow? 6 word.toList with
    | some level, _ => some (some level)
    | none, some 0 => some none
    | none, some place => (Level.all.find? (·.rank == place)).map some
    | none, none => none

/-- Reads a filter. A target without a level is heard in full, and one with an empty level at
`error`. -/
def parse? (s : String) : Option Filter :=
  if s = "" then some .nothing
  else
    let target := String.ofList (s.toList.takeWhile (· != '='))
    match s.toList.dropWhile (· != '=') with
    | [] => some ((limit? s).elim (.under s (some .trace)) .everywhere)
    | _ :: word =>
      if word.isEmpty then some (.under target (some .error))
      else (limit? (String.ofList word)).map (.under target)

def text : Filter → String
  | nothing => ""
  | everywhere limit => limitText limit
  | .under target limit => target ++ "=" ++ limitText limit

/-- Whether a level is within the limit. -/
def admits (limit : Option Level) (level : Level) : Bool :=
  limit.any fun l => level.rank ≤ l.rank

/-- Whether a note is written. -/
def passes (f : Filter) (note : Note) : Bool :=
  match f with
  | nothing => false
  | everywhere limit => admits limit note.level
  | .under target limit =>
    target.toList.isPrefixOf note.speaker.target.toList && admits limit note.level

/-- The filter in use when the environment names none. -/
def standard : Filter := .under "chatops_console" (some .info)

/-- The variables that may hold a filter, the most important first. -/
def variableNames : List String := ["CHATOPS_LOG", "RUST_LOG"]

def ofEnvironment (lookup : String → Option String) : Filter :=
  (variableNames.findSome? fun name => (lookup name).bind parse?).getD standard

end Filter

end ChatConsole.Journal
