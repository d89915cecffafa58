import ChatConsole.Startup
import Std.Time.DateTime.Timestamp

/-! # The program

Looks at the environment, the configuration file and the clock, starts the console and reports how
it ended.
-/

namespace ChatConsole.Program

/-- The variables the program looks at. -/
def variableNames : List String :=
  Journal.Filter.variableNames ++
    [Config.homeVariable, Config.endpointVariable, Config.roleVariable, Config.delayVariable,
      "TMPDIR"]

def readEnvironment : IO Environment := do
  let values ← variableNames.mapM fun name => return (name, ← IO.getEnv name)
  return fun name => (values.lookup name).join

def faultOf : IO.Error → FileFault
  | .inappropriateType _ code _ => if code = 20 then .notDirectory else .isDirectory
  | .alreadyExists .. => .alreadyThere
  | _ => .missing

def readFile (path : String) : IO (Except FileFault Text.Bytes) := do
  try
    return .ok (← IO.FS.readBinFile path).toList
  catch e =>
    return .error (faultOf e)

/-- The files that the arguments and the environment may ask for, as they are now. -/
def readDisk (env : Environment) (arguments : List String) : IO Disk := do
  let asked := (Options.parse arguments).toOption.bind (·.config)
  let home := (env Config.homeVariable).map fun home => FilePath.join home Config.fileName
  let files ← (asked.toList ++ home.toList).mapM fun path => return (path, ← readFile path)
  let read (path : String) := (files.lookup path).getD (.error .missing)
  return { read, holds := fun path => read path matches .ok _ | .error .isDirectory }

def clock : IO Time.Instant := do
  let nanos := (← Std.Time.Timestamp.now).toNanosecondsSinceUnixEpoch.val
  let sinceFirstDay := nanos - 1704067200 * 1000000000
  return ⟨sinceFirstDay / 1000000000, (sinceFirstDay % 1000000000).toNat, by omega⟩

/-- Writes the journal, and tells why if that is not possible. -/
def writeJournal (p : Startup.Plan) (records : List Journal.Record) : IO (Option FileFault) := do
  try
    unless p.directory.isEmpty do IO.FS.createDirAll p.directory
    let file ← IO.FS.Handle.mk (FilePath.join p.directory Journal.fileName) .append
    file.write (ByteArray.mk (Journal.bytesOf p.filter records).toArray)
    return none
  catch e =>
    return some (faultOf e)

def report (r : Startup.Report) : IO UInt32 := do
  IO.print r.stdout
  IO.eprint (r.stderr.getD ("error: wrong arguments\n\n" ++ Options.helpText))
  return r.exitCode.toUInt32

end ChatConsole.Program

open ChatConsole ChatConsole.Program in
def main (arguments : List String) : IO UInt32 := do
  let env ← readEnvironment
  match Startup.plan (← readDisk env arguments) env arguments with
  | .error r => report r
  | .ok p =>
    let fault ← writeJournal p (p.records (← clock))
    report (.withoutTerminal fault)
