import ChatConsole.Options

/-! # The layers of a configuration

The file, the environment and the options each set some parts of the configuration and leave the
others. Seen so, a configuration is its layers put over each other, with the defaults below them
all. `resolve_eq` says that this is what the program reads its configuration from, and when it
checks it: once without the options, and once more with them.
-/

namespace ChatConsole.Config

/-- What one source sets of a configuration. -/
structure Layer where
  endpoint : Option String := none
  role : Option String := none
  delayMillis : Option Nat := none
  logDirectory : Option String := none
  transcriptLimit : Option Nat := none
  activityLimit : Option Nat := none
  deriving DecidableEq, Repr

namespace Layer

/-- Each part as the upper layer sets it, or else as the lower one does. -/
def above (upper lower : Layer) : Layer where
  endpoint := upper.endpoint.or lower.endpoint
  role := upper.role.or lower.role
  delayMillis := upper.delayMillis.or lower.delayMillis
  logDirectory := upper.logDirectory.or lower.logDirectory
  transcriptLimit := upper.transcriptLimit.or lower.transcriptLimit
  activityLimit := upper.activityLimit.or lower.activityLimit

/-- The configuration with the default for each part that is not set. -/
def fill (layer : Layer) : Config :=
  let d : Config := {}
  { endpoint := layer.endpoint.getD d.endpoint
    role := layer.role.getD d.role
    delayMillis := layer.delayMillis.getD d.delayMillis
    logDirectory := layer.logDirectory
    transcriptLimit := layer.transcriptLimit.getD d.transcriptLimit
    activityLimit := layer.activityLimit.getD d.activityLimit }

/-! ## The file -/

def ofDocument (doc : Toml.Document) : Except Unit Layer := do
  return {
    endpoint := ← textAt doc "endpoint"
    role := ← textAt doc "default_role"
    delayMillis := ← countAt doc "reconnect_delay_ms"
    logDirectory := ← textAt doc "log_dir"
    transcriptLimit := ← countAt doc "max_transcript_entries"
    activityLimit := ← countAt doc "max_activity_entries" }

/-- What a file sets. -/
def ofFile (disk : Disk) (path : String) : Except ConfigError Layer :=
  match disk.readText path with
  | .error fault => .error (.unreadable path fault)
  | .ok s =>
    ((Toml.parse? s).bind fun doc => (ofDocument doc).toOption).elim (.error (.malformed path)) .ok

/-- What the file sets that is to be read, if there is one. -/
def ofDisk (disk : Disk) (env : Environment) (asked : Option String) : Except ConfigError Layer :=
  match path? disk env asked with
  | some path => ofFile disk path
  | none => .ok {}

theorem ofDocument_eq (doc : Toml.Document) :
    Config.ofDocument doc = (ofDocument doc).map fill := by
  change _ = fill <$> ofDocument doc
  simp only [Config.ofDocument, ofDocument, map_bind, map_pure]
  rfl

theorem ofFile_eq (disk : Disk) (path : String) :
    Config.ofFile disk path = (ofFile disk path).map fill := by
  unfold Config.ofFile ofFile
  cases disk.readText path with
  | error fault => rfl
  | ok s =>
    simp only [Config.ofText?]
    cases Toml.parse? s with
    | none => rfl
    | some doc =>
      simp only [Option.bind_some, ofDocument_eq]
      cases ofDocument doc <;> rfl

/-! ## The environment and the options -/

/-- What the environment sets; a delay that is no number is left out. -/
def ofVariables (env : Environment) : Layer where
  endpoint := env endpointVariable
  role := env roleVariable
  delayMillis := (env delayVariable).bind millis?

/-- What the environment sets, unless its delay is no number. -/
def ofEnvironment (env : Environment) : Except ConfigError Layer :=
  (delayOf env).map fun _ => ofVariables env

theorem delayOf_eq_ok {env : Environment} {delay : Option Nat} (h : delayOf env = .ok delay) :
    (env delayVariable).bind millis? = delay := by
  unfold delayOf at h
  split at h
  · next hUnset => rw [hUnset, ← Except.ok.inj h, Option.bind_none]
  · next s hSet =>
    rw [hSet, Option.bind_some]
    split at h
    · next n hNumber => rw [hNumber, ← Except.ok.inj h]
    · cases h

theorem ofEnvironment_eq_ok {env : Environment}
    (h : ∀ s, env delayVariable = some s → (millis? s).isSome) :
    ofEnvironment env = .ok (ofVariables env) := by
  unfold ofEnvironment delayOf
  cases hSet : env delayVariable with
  | none => rfl
  | some s =>
    obtain ⟨n, hNumber⟩ := Option.isSome_iff_exists.mp (h s hSet)
    simp only [hNumber, Except.map]

/-- What the options set. -/
def ofOptions (o : Options) : Layer where
  endpoint := o.endpoint
  role := o.role
  logDirectory := o.logDirectory

theorem override_fill (env : Environment) (layer : Layer) :
    layer.fill.override env =
      match ofEnvironment env with
      | .ok environment => (.ok (), (environment.above layer).fill)
      | .error e => (.error e, layer.fill.overrideTexts env) := by
  unfold override ofEnvironment
  cases hDelay : delayOf env with
  | error e => rfl
  | ok delay =>
    simp only [Except.map, ofVariables, delayOf_eq_ok hDelay, overrideTexts, fill, above,
      Option.getD_or]
    rfl

theorem applyTo_fill (o : Options) (layer : Layer) :
    o.applyTo layer.fill = ((ofOptions o).above layer).fill := by
  have hDirectory : (o.logDirectory.orElse fun _ => layer.logDirectory) =
      o.logDirectory.or layer.logDirectory := Option.or_eq_orElse.symm
  simp only [Options.applyTo, ofOptions, fill, above, Option.getD_or, hDirectory]
  rfl

end Layer

/-! ## The configuration in effect -/

/-- The file and the environment, checked. -/
theorem load_eq (disk : Disk) (env : Environment) (asked : Option String) :
    load disk env asked = do
      let file ← Layer.ofDisk disk env asked
      let environment ← Layer.ofEnvironment env
      (environment.above file).fill.validate
      return (environment.above file).fill := by
  have hAfter : ∀ file : Layer,
      (do
        (file.fill.override env).1
        (file.fill.override env).2.validate
        return (file.fill.override env).2) = do
      let environment ← Layer.ofEnvironment env
      (environment.above file).fill.validate
      return (environment.above file).fill := by
    intro file
    rw [Layer.override_fill]
    cases Layer.ofEnvironment env <;> rfl
  unfold load Layer.ofDisk
  cases path? disk env asked with
  | none => exact hAfter {}
  | some path =>
    simp only [Layer.ofFile_eq]
    cases Layer.ofFile disk path with
    | error e => rfl
    | ok file => exact hAfter file

/-- **Where the configuration comes from.** It is read from its layers, and checked once without the
options and once with them. -/
theorem resolve_eq (disk : Disk) (env : Environment) (o : Options) :
    o.resolve disk env = do
      let file ← Layer.ofDisk disk env o.config
      let environment ← Layer.ofEnvironment env
      (environment.above file).fill.validate
      let c := ((Layer.ofOptions o).above (environment.above file)).fill
      c.validate
      return c := by
  simp only [Options.resolve, load_eq, bind_assoc, pure_bind, Layer.applyTo_fill]

theorem eq_ok_of_toOption {ε α : Type} {x : Except ε α} {a : α} (h : x.toOption = some a) :
    x = .ok a := by
  cases x with
  | error e => cases h
  | ok b => rw [Option.some.inj h]

theorem eq_ok_of_isOk {ε : Type} {x : Except ε Unit} (h : x.isOk) : x = .ok () := by
  cases x with
  | error e => cases h
  | ok => rfl

/-- **Options over valid layers.** If the configuration is valid with the options and without them,
the program goes on with it as the options, the environment, the file and the defaults set its
parts, in this order. What is wrong without the options stops it, whatever they set. -/
theorem resolve_of_layers {disk : Disk} {env : Environment} {o : Options} {file : Layer}
    (hFile : Layer.ofDisk disk env o.config = .ok file)
    (hDelay : ∀ s, env delayVariable = some s → (millis? s).isSome) :
    let lower := (Layer.ofVariables env).above file
    let merge := ((Layer.ofOptions o).above lower).fill
    (lower.fill.validate.isOk → merge.validate.isOk → o.resolve disk env = .ok merge) ∧
      (∀ e, lower.fill.validate = .error e → o.resolve disk env = .error e) ∧
      ∀ e, lower.fill.validate.isOk → merge.validate = .error e → o.resolve disk env = .error e := by
  intro lower merge
  have hResolve : o.resolve disk env = do
      lower.fill.validate
      merge.validate
      return merge := by
    rw [resolve_eq, hFile, Layer.ofEnvironment_eq_ok hDelay]
    rfl
  rw [hResolve]
  refine ⟨fun hLower hMerge => ?_, fun e hLower => ?_, fun e hLower hMerge => ?_⟩
  · rw [eq_ok_of_isOk hLower, eq_ok_of_isOk hMerge]
    rfl
  · rw [hLower]
    rfl
  · rw [eq_ok_of_isOk hLower, hMerge]
    rfl

/-- The environment sets another endpoint than the wrong one of the file, an option the role. -/
theorem resolve_of_layers_wrong_file :
    let disk : Disk :=
      { read := fun _ => .ok (Text.Utf8.encode "endpoint = \"nowhere\"".toList)
        holds := fun _ => false }
    let env : Environment := fun name => if name = endpointVariable then some "ws://[::1]" else none
    ({ config := some "console.toml", role := some "manager" } : Options).resolve disk env =
      .ok { endpoint := "ws://[::1]", role := "manager" } := by
  intro disk env
  have hRead : (Layer.ofDisk disk env (some "console.toml")).toOption =
      some { endpoint := some "nowhere" } := by decide +kernel
  have hFile : Layer.ofDisk disk env (some "console.toml") = .ok { endpoint := some "nowhere" } :=
    eq_ok_of_toOption hRead
  exact (resolve_of_layers (o := { config := some "console.toml", role := some "manager" }) hFile
    (by simp [env, delayVariable, endpointVariable])).1 (by decide +kernel) (by decide +kernel)

/-- An option does not repair an endpoint that the environment gets wrong. -/
theorem resolve_of_invalid_lower :
    ¬ ∀ (disk : Disk) (env : Environment) (o : Options) (file : Layer),
      Layer.ofDisk disk env o.config = .ok file →
      (∀ s, env delayVariable = some s → (millis? s).isSome) →
      let merge := ((Layer.ofOptions o).above ((Layer.ofVariables env).above file)).fill
      merge.validate.isOk → o.resolve disk env = .ok merge := by
  intro h
  let disk : Disk := { read := fun _ => .error .missing, holds := fun _ => false }
  let env : Environment := fun name => if name = endpointVariable then some "nowhere" else none
  let o : Options := { endpoint := some "ws://[::1]" }
  have hResolve := h disk env o {} rfl (by simp [env, delayVariable, endpointVariable])
    (by decide +kernel)
  have hStopped : ¬ (o.resolve disk env).isOk := by decide +kernel
  rw [hResolve] at hStopped
  exact hStopped rfl

end ChatConsole.Config
