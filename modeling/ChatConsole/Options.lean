import ChatConsole.Config

/-! # Program options

An option that takes a value takes the next argument, or what stands after its `=`. The next
argument is taken only if it does not itself look like an option, and a value is looked at when the
next known option comes or the arguments end: so an unknown argument is reported before a wrong
value in front of it. No option may be given twice.
-/

namespace ChatConsole

structure Options where
  config : Option String := none
  endpoint : Option String := none
  role : Option String := none
  logDirectory : Option String := none
  /-- Open a channel at once. -/
  connect : Bool := false
  deriving DecidableEq, Repr

namespace Options

/-- Why the arguments give no options to go on with. -/
inductive Stop
  | unknownArgument
  | invalidValue
  | tooManyValues
  | argumentConflict
  | help
  | version
  deriving DecidableEq, Repr

/-- The options that take a value. -/
inductive Setting
  | config | endpoint | role | logDirectory
  deriving DecidableEq, Repr

/-- The options that take none. -/
inductive Flag
  | connect | help | version
  deriving DecidableEq, Repr

namespace Setting

def all : List Setting := [.config, .endpoint, .role, .logDirectory]

def name : Setting → String
  | .config => "config"
  | .endpoint => "endpoint"
  | .role => "role"
  | .logDirectory => "log-dir"

/-- Whether the value is a path, which may not be empty. -/
def isPath : Setting → Bool
  | .config | .logDirectory => true
  | .endpoint | .role => false

def get? (o : Options) : Setting → Option String
  | .config => o.config
  | .endpoint => o.endpoint
  | .role => o.role
  | .logDirectory => o.logDirectory

def set (o : Options) (value : String) : Setting → Options
  | .config => { o with config := some value }
  | .endpoint => { o with endpoint := some value }
  | .role => { o with role := some value }
  | .logDirectory => { o with logDirectory := some value }

end Setting

namespace Flag

def all : List Flag := [.connect, .help, .version]

def name : Flag → String
  | .connect => "connect"
  | .help => "help"
  | .version => "version"

end Flag

/-- What was read so far. -/
structure Reading where
  options : Options := {}
  /-- The last setting, with its value once that was read. -/
  pending : Option (Setting × Option String) := none
  /-- Whether `--` was read, after which nothing may come. -/
  ended : Bool := false

namespace Reading

/-- Gives a setting its value. -/
def assign (r : Reading) (setting : Setting) (value : String) : Except Stop Reading :=
  if (setting.get? r.options).isSome then .error .argumentConflict
  else if setting.isPath ∧ value = "" then .error .invalidValue
  else .ok { r with options := setting.set r.options value, pending := none }

/-- Looks at the pending value. -/
def settle (r : Reading) : Except Stop Reading :=
  match r.pending with
  | none => .ok r
  | some (_, none) => .error .invalidValue
  | some (setting, some value) => r.assign setting value

def raise (r : Reading) (flag : Flag) : Except Stop Reading := do
  let r ← r.settle
  match flag with
  | .help => .error .help
  | .version => .error .version
  | .connect =>
    if r.options.connect then .error .argumentConflict
    else .ok { r with options := { r.options with connect := true } }

/-- Takes in an option with its full name and what stands after its `=`. -/
def long (r : Reading) (name : String) (value : Option String) : Except Stop Reading :=
  match Setting.all.find? (·.name == name), Flag.all.find? (·.name == name), value with
  | some setting, _, some value => do (← r.settle).assign setting value
  | some setting, _, none => do return { ← r.settle with pending := some (setting, none) }
  | none, some _, some _ => .error .tooManyValues
  | none, some flag, none => r.raise flag
  | none, none, _ => .error .unknownArgument

/-- Takes in an option of one letter; whatever follows the letter is not looked at. -/
def short (r : Reading) (letter : Char) : Except Stop Reading :=
  if letter = 'h' then r.raise .help
  else if letter = 'V' then r.raise .version
  else .error .unknownArgument

/-- Takes in an argument that is no option. -/
def plain (r : Reading) (argument : String) : Except Stop Reading :=
  match r.pending with
  | some (setting, none) => .ok { r with pending := some (setting, some argument) }
  | _ => .error .unknownArgument

/-- Takes in one argument. -/
def step (r : Reading) (argument : String) : Except Stop Reading :=
  if r.ended then .error .unknownArgument
  else
    match argument.toList with
    | ['-', '-'] => .ok { r with ended := true }
    | '-' :: '-' :: body =>
      let name := String.ofList (body.takeWhile (· != '='))
      match body.dropWhile (· != '=') with
      | [] => r.long name none
      | _ :: value => r.long name (some (String.ofList value))
    | '-' :: letter :: _ => r.short letter
    | _ => r.plain argument

end Reading

/-- Reads the arguments after the name of the program. -/
def parse (arguments : List String) : Except Stop Options := do
  return (← (← arguments.foldlM Reading.step {}).settle).options

/-! ## Texts -/

def programName : String := "chatops-console"

def versionText : String := programName ++ " 0.2.0\n"

def helpLines : List String :=
  [ "Terminal ChatOps console for the network management gateway",
    "",
    "Usage: " ++ programName ++ " [OPTIONS]",
    "",
    "Options:",
    "      --config <FILE>   Config file (default: $CHATOPS_HOME/config.toml when present)",
    "      --endpoint <URL>  Command channel endpoint, e.g. ws://localhost:8000/ws/chatops",
    "      --role <ROLE>     Role to connect with (client, manager, ...)",
    "      --connect         Open the channel immediately on startup",
    "      --log-dir <DIR>   Directory for the log file",
    "  -h, --help            Print help",
    "  -V, --version         Print version" ]

def helpText : String := String.join (helpLines.map (· ++ "\n"))

/-! ## The configuration -/

/-- The configuration with what the options set. -/
def applyTo (o : Options) (c : Config) : Config :=
  { c with
    endpoint := o.endpoint.getD c.endpoint
    role := o.role.getD c.role
    logDirectory := o.logDirectory.orElse fun _ => c.logDirectory }

/-- The configuration in effect: what is loaded has to be valid on its own, and once more with
what the options set. -/
def resolve (disk : Disk) (env : Environment) (o : Options) : Except ConfigError Config := do
  let c := o.applyTo (← Config.load disk env o.config)
  c.validate
  return c

/-- How an error of the configuration is reported. -/
def errorText (e : ConfigError) : String := "Configuration error: " ++ e.message

end Options

end ChatConsole
