import ChatConsole.Console
import ChatConsole.Journal.Storage
import ChatConsole.Options

/-! # Starting the program

The arguments and the configuration decide whether the program starts at all. If it does, it opens
its journal, going on without one if that fails, and then the terminal. A report is what the caller
sees of a program that has ended.
-/

namespace ChatConsole.Startup

structure Report where
  exitCode : Nat
  stdout : String := ""
  /-- What was written to the error stream; `none` for the usage text of wrong arguments. -/
  stderr : Option String := some ""
  deriving DecidableEq, Repr

/-- The end of a program whose arguments give nothing to go on with. -/
def Report.ofStop : Options.Stop → Report
  | .help => { exitCode := 0, stdout := Options.helpText }
  | .version => { exitCode := 0, stdout := Options.versionText }
  | _ => { exitCode := 2, stderr := none }

/-- The end of a program without a valid configuration. -/
def Report.ofConfigError (text : String) : Report :=
  { exitCode := 2, stderr := some ("Error: " ++ text ++ "\n") }

/-- What the program starts with. -/
structure Plan where
  config : Config
  role : Role
  /-- Open a channel at once. -/
  connect : Bool
  directory : String
  filter : Journal.Filter

/-- Decides whether the program starts. -/
def plan (disk : Disk) (env : Environment) (arguments : List String) : Except Report Plan := do
  let options ← (Options.parse arguments).mapError .ofStop
  let config ← (options.resolve disk env).mapError fun e => .ofConfigError (Options.errorText e)
  let role ← config.parsedRole.mapError fun e => .ofConfigError e.message
  return {
    config, role
    connect := options.connect
    directory := config.journalDirectory env
    filter := Journal.Filter.ofEnvironment env }

namespace Plan

def startNote (p : Plan) : Journal.Note :=
  ⟨.info, .program, some "starting chatops console",
    [("endpoint", p.config.endpoint), ("role", p.role.tag)]⟩

/-- The console before the first key. -/
def console (p : Plan) (now : Time.Instant) : Console :=
  let c := Console.start p.config.settings p.role { policy := .network }
  let c := { c with session := c.session.note now p.startNote }
  let c := c.log now "ChatOps console ready"
  let c := c.log now "Type /connect to open the channel, /help for commands, /quit to exit"
  if p.connect then { c with session := c.session.connectCurrent now } else c

end Plan

/-- Why the terminal could not be opened when there is none. -/
def noTerminalText : String := "I/O error: No such device or address (os error 6)"

def endNote : Journal.Note :=
  ⟨.error, .program, some "console exited with error", [("error", noTerminalText)]⟩

/-- The journal of a program that found no terminal. -/
def Plan.records (p : Plan) (now : Time.Instant) : List Journal.Record :=
  let session := ((p.console now).session.disconnect now).note now endNote
  ⟨now, Journal.openingNote p.directory⟩ :: session.records.reverse

/-- The end of a program that found no terminal. -/
def Report.withoutTerminal (journalFault : Option FileFault) : Report :=
  let warning := (journalFault.map fun fault =>
    "Warning: file logging disabled: " ++ fault.message ++ "\n").getD ""
  { exitCode := 1, stderr := some (warning ++ "Error: " ++ noTerminalText ++ "\n") }

/-- Runs the program without a terminal. -/
def runWithoutTerminal (tree : Tree) (env : Environment) (now : Time.Instant)
    (arguments : List String) : Report × Tree :=
  match plan tree.disk env arguments with
  | .error report => (report, tree)
  | .ok p =>
    match Journal.store tree p.directory p.filter (p.records now) with
    | .ok tree => (.withoutTerminal none, tree)
    | .error fault => (.withoutTerminal (some fault), tree)

end ChatConsole.Startup
