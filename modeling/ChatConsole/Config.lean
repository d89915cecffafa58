import ChatConsole.Files
import ChatConsole.Session.Basic
import ChatConsole.Toml.Parser

/-! # Configuration

A configuration has a default for everything. A file may set any part of it, the environment the
endpoint, the role and the delay; whatever comes later wins. The file is the one that is asked for,
or else `config.toml` in the home directory of the console if there is one.
-/

namespace ChatConsole

structure Config where
  endpoint : String := Session.defaultEndpoint
  /-- The role selected at the start. -/
  role : String := Role.client.tag
  /-- How long a reconnect waits, in milliseconds. -/
  delayMillis : Nat := 1000
  /-- The directory of the journal; without one it is the one for temporary files. -/
  logDirectory : Option String := none
  transcriptLimit : Nat := Transcript.defaultLimit
  activityLimit : Nat := Activity.defaultLimit
  deriving DecidableEq, Repr

/-- Why there is no configuration. -/
inductive ConfigError
  | unreadable (path : String) (fault : FileFault)
  | malformed (path : String)
  | invalid (key reason : String)
  deriving DecidableEq, Repr

def ConfigError.message : ConfigError → String
  | .unreadable path fault => "failed to read config " ++ path ++ ": " ++ fault.message
  | .malformed path => "failed to parse config " ++ path
  | .invalid key reason => "invalid config value for " ++ key ++ ": " ++ reason

/-- What a variable of the environment holds, if it is set. -/
abbrev Environment := String → Option String

namespace Config

/-! ## The file -/

/-- The text that a key of the document stands for, if the key is there. -/
def textAt (doc : Toml.Document) (key : String) : Except Unit (Option String) :=
  match doc.top? key with
  | none => .ok none
  | some (.value (.text s)) => .ok (some s)
  | some _ => .error ()

/-- The natural number that a key of the document stands for, if the key is there. -/
def countAt (doc : Toml.Document) (key : String) : Except Unit (Option Nat) :=
  match doc.top? key with
  | none => .ok none
  | some (.value (.integer n)) => if 0 ≤ n then .ok (some n.toNat) else .error ()
  | some _ => .error ()

/-- The configuration of a document. Keys it does not know are left alone. -/
def ofDocument (doc : Toml.Document) : Except Unit Config := do
  let d : Config := {}
  return {
    endpoint := (← textAt doc "endpoint").getD d.endpoint
    role := (← textAt doc "default_role").getD d.role
    delayMillis := (← countAt doc "reconnect_delay_ms").getD d.delayMillis
    logDirectory := ← textAt doc "log_dir"
    transcriptLimit := (← countAt doc "max_transcript_entries").getD d.transcriptLimit
    activityLimit := (← countAt doc "max_activity_entries").getD d.activityLimit }

/-- The configuration of a text. -/
def ofText? (s : String) : Option Config :=
  (Toml.parse? s).bind fun doc => (ofDocument doc).toOption

/-- The configuration of a file. -/
def ofFile (disk : Disk) (path : String) : Except ConfigError Config :=
  match disk.readText path with
  | .error fault => .error (.unreadable path fault)
  | .ok s => (ofText? s).elim (.error (.malformed path)) .ok

def fileName : String := "config.toml"

def homeVariable : String := "CHATOPS_HOME"

/-- The path of the file to read. A path that was asked for counts even if there is no such file. -/
def path? (disk : Disk) (env : Environment) (asked : Option String) : Option String :=
  match asked with
  | some path => some path
  | none => ((env homeVariable).map fun home => FilePath.join home fileName).filter disk.holds

/-! ## The environment -/

def endpointVariable : String := "CHATOPS_ENDPOINT"

def roleVariable : String := "CHATOPS_ROLE"

def delayVariable : String := "CHATOPS_RECONNECT_DELAY_MS"

/-- A number of milliseconds: digits with blanks around them and maybe a plus sign in front. -/
def millis? (s : String) : Option Nat :=
  match Text.trimChars s.toList with
  | '+' :: ds => Decimal.readBelow? Decimal.word ds
  | ds => Decimal.readBelow? Decimal.word ds

/-- The delay that the environment sets, if it sets one. -/
def delayOf (env : Environment) : Except ConfigError (Option Nat) :=
  match env delayVariable with
  | none => .ok none
  | some s =>
    match millis? s with
    | some n => .ok (some n)
    | none =>
      .error (.invalid delayVariable ("'" ++ s ++ "' is not a whole number of milliseconds"))

/-- The configuration with the endpoint and the role of the environment. -/
def overrideTexts (env : Environment) (c : Config) : Config :=
  { c with
    endpoint := (env endpointVariable).getD c.endpoint
    role := (env roleVariable).getD c.role }

/-- The configuration with what the environment sets. If the delay is wrong, it stays as it is. -/
def override (env : Environment) (c : Config) : Except ConfigError Unit × Config :=
  let c := c.overrideTexts env
  match delayOf env with
  | .ok delay => (.ok (), { c with delayMillis := delay.getD c.delayMillis })
  | .error e => (.error e, c)

/-! ## Validation -/

/-- The role that is named. -/
def parsedRole (c : Config) : Except ConfigError Role :=
  (Role.parse c.role).mapError fun e => .invalid "default_role" e.message

/-- A limit has to be at least one. -/
def checkLimit (key : String) (limit : Nat) : Except ConfigError Unit :=
  if limit = 0 then .error (.invalid key "must be at least 1") else .ok ()

/-- Checks the endpoint, the role and the two limits, in this order. -/
def validate (c : Config) : Except ConfigError Unit := do
  let _ ← (OpenRequest.make ⟨0⟩ c.endpoint .client).mapError fun e =>
    ConfigError.invalid "endpoint" e.message
  let _ ← c.parsedRole
  checkLimit "max_transcript_entries" c.transcriptLimit
  checkLimit "max_activity_entries" c.activityLimit

/-- The configuration of the file, if there is one, and the environment. -/
def load (disk : Disk) (env : Environment) (asked : Option String) : Except ConfigError Config := do
  let base ← match path? disk env asked with
    | some path => ofFile disk path
    | none => .ok {}
  let (outcome, c) := base.override env
  outcome
  c.validate
  return c

/-! ## What follows from it -/

def delay (c : Config) : Time.Duration := .ofMillis c.delayMillis

def settings (c : Config) : Session.Settings where
  endpoint := c.endpoint
  delay := c.delay
  transcriptLimit := c.transcriptLimit
  activityLimit := c.activityLimit

/-- The directory for temporary files. -/
def temporaryDirectory (env : Environment) : String := (env "TMPDIR").getD "/tmp"

/-- The directory the journal goes to. -/
def journalDirectory (env : Environment) (c : Config) : String :=
  c.logDirectory.getD (temporaryDirectory env)

end Config

end ChatConsole
