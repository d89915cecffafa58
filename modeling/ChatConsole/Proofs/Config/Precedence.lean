import ChatConsole.Proofs.Config.Layers
import ChatConsole.Proofs.Config.Validation
import ChatConsole.Startup

/-! # Which source prevails

When the program goes on with a configuration, each part of it comes from the first source that sets
it: the options, the environment, the file that counts, the defaults. `Prevails` says so part by
part, `Consulted` which file counts. A file that is asked for is the only one looked at, and the
home directory then bears on nothing: if it cannot be used, the program stops.
-/

namespace ChatConsole.Config

namespace Layer

/-! ## The file that counts -/

/-- The layer holds for each part what the document has under its key, if it has the key. -/
structure IsOf (doc : Toml.Document) (layer : Layer) : Prop where
  endpoint : textAt doc "endpoint" = .ok layer.endpoint
  role : textAt doc "default_role" = .ok layer.role
  delayMillis : countAt doc "reconnect_delay_ms" = .ok layer.delayMillis
  logDirectory : textAt doc "log_dir" = .ok layer.logDirectory
  transcriptLimit : countAt doc "max_transcript_entries" = .ok layer.transcriptLimit
  activityLimit : countAt doc "max_activity_entries" = .ok layer.activityLimit

theorem isOf_of_ofDocument {doc : Toml.Document} {layer : Layer}
    (h : ofDocument doc = .ok layer) : layer.IsOf doc := by
  obtain ⟨endpoint, hEndpoint, h⟩ := exists_ok_of_bind h
  obtain ⟨role, hRole, h⟩ := exists_ok_of_bind h
  obtain ⟨delayMillis, hDelay, h⟩ := exists_ok_of_bind h
  obtain ⟨logDirectory, hDirectory, h⟩ := exists_ok_of_bind h
  obtain ⟨transcriptLimit, hTranscript, h⟩ := exists_ok_of_bind h
  obtain ⟨activityLimit, hActivity, h⟩ := exists_ok_of_bind h
  obtain rfl := Except.ok.inj h
  exact ⟨hEndpoint, hRole, hDelay, hDirectory, hTranscript, hActivity⟩

/-- The file can be read, and this is what it sets. -/
def InFile (disk : Disk) (path : String) (layer : Layer) : Prop :=
  ∃ text doc, disk.readText path = .ok text ∧ Toml.parse? text = some doc ∧ layer.IsOf doc

theorem inFile_of_ofFile {disk : Disk} {path : String} {layer : Layer}
    (h : ofFile disk path = .ok layer) : layer.InFile disk path := by
  unfold ofFile at h
  split at h
  · cases h
  · next text hRead =>
    cases hParse : Toml.parse? text with
    | none =>
      rw [hParse] at h
      cases h
    | some doc =>
      rw [hParse, Option.bind_some] at h
      cases hDocument : ofDocument doc with
      | error e =>
        rw [hDocument] at h
        cases h
      | ok found =>
        rw [hDocument] at h
        obtain rfl : found = layer := Except.ok.inj h
        exact ⟨text, doc, hRead, hParse, isOf_of_ofDocument hDocument⟩

/-- What is set by the file that counts: the one asked for, or else the one in the home directory if
there is one, or else none. -/
inductive Consulted (disk : Disk) (env : Environment) : Option String → Layer → Prop
  | asked {path : String} {layer : Layer} (file : layer.InFile disk path) :
      Consulted disk env (some path) layer
  | atHome {home : String} {layer : Layer} (home_eq : env homeVariable = some home)
      (holds : disk.holds (FilePath.join home fileName))
      (file : layer.InFile disk (FilePath.join home fileName)) : Consulted disk env none layer
  | nowhere (absent : ∀ home, env homeVariable = some home →
      ¬ disk.holds (FilePath.join home fileName)) : Consulted disk env none {}

theorem consulted_of_ofDisk {disk : Disk} {env : Environment} {asked : Option String}
    {layer : Layer} (h : ofDisk disk env asked = .ok layer) : Consulted disk env asked layer := by
  cases asked with
  | some path => exact .asked (inFile_of_ofFile h)
  | none =>
    cases hHome : env homeVariable with
    | none =>
      have hPath : path? disk env none = none := by
        rw [path?, hHome]
        rfl
      rw [ofDisk, hPath] at h
      obtain rfl := Except.ok.inj h
      refine .nowhere fun home hSet => ?_
      rw [hHome] at hSet
      cases hSet
    | some home =>
      by_cases hHolds : disk.holds (FilePath.join home fileName)
      · have hPath : path? disk env none = some (FilePath.join home fileName) := by
          rw [path?, hHome, Option.map_some, Option.filter_some, if_pos hHolds]
        rw [ofDisk, hPath] at h
        exact .atHome hHome hHolds (inFile_of_ofFile h)
      · have hPath : path? disk env none = none := by
          rw [path?, hHome, Option.map_some, Option.filter_some, if_neg hHolds]
        rw [ofDisk, hPath] at h
        obtain rfl := Except.ok.inj h
        refine .nowhere fun other hSet => ?_
        obtain rfl := Option.some.inj (hHome.symm.trans hSet)
        exact hHolds

end Layer

/-! ## Part by part -/

/-- Each part of the configuration is set by the first source that sets it. -/
structure Prevails (o : Options) (env : Environment) (file : Layer) (c : Config) : Prop where
  endpoint : c.endpoint =
    (o.endpoint.or ((env endpointVariable).or file.endpoint)).getD Session.defaultEndpoint
  role : c.role = (o.role.or ((env roleVariable).or file.role)).getD Role.client.tag
  delay_of_set : ∀ s, env delayVariable = some s → millis? s = some c.delayMillis
  delay_of_unset : env delayVariable = none → c.delayMillis = file.delayMillis.getD 1000
  logDirectory : c.logDirectory = o.logDirectory.or file.logDirectory
  transcriptLimit : c.transcriptLimit = file.transcriptLimit.getD Transcript.defaultLimit
  activityLimit : c.activityLimit = file.activityLimit.getD Activity.defaultLimit

theorem prevails_of_layers {env : Environment} {environment : Layer}
    (h : Layer.ofEnvironment env = .ok environment) (o : Options) (file : Layer) :
    Prevails o env file ((Layer.ofOptions o).above (environment.above file)).fill := by
  obtain ⟨delay, hDelay, rfl⟩ := exists_ok_of_map h
  refine ⟨rfl, rfl, fun s hSet => ?_, fun hUnset => ?_, ?_, rfl, rfl⟩
  · have hNumber : (env delayVariable).bind millis? = delay := Layer.delayOf_eq_ok hDelay
    rw [hSet, Option.bind_some] at hNumber
    cases hMillis : millis? s with
    | none =>
      simp only [delayOf, hSet, hMillis] at hDelay
      cases hDelay
    | some n => simp [Layer.fill, Layer.above, Layer.ofOptions, Layer.ofVariables, hSet, hMillis]
  · simp [Layer.fill, Layer.above, Layer.ofOptions, Layer.ofVariables, hUnset]
  · simp [Layer.fill, Layer.above, Layer.ofOptions, Layer.ofVariables]

/-- A configuration that the program goes on with was read from its layers, and is sound. -/
theorem layers_of_resolve {disk : Disk} {env : Environment} {o : Options} {c : Config}
    (h : o.resolve disk env = .ok c) :
    (∃ file, Layer.Consulted disk env o.config file ∧ Prevails o env file c) ∧ c.Sound := by
  rw [resolve_eq] at h
  obtain ⟨file, hFile, h⟩ := exists_ok_of_bind h
  obtain ⟨environment, hEnvironment, h⟩ := exists_ok_of_bind h
  obtain ⟨⟨⟩, -, h⟩ := exists_ok_of_bind h
  obtain ⟨⟨⟩, hValid, h⟩ := exists_ok_of_bind h
  obtain rfl := Except.ok.inj h
  exact ⟨⟨file, Layer.consulted_of_ofDisk hFile, prevails_of_layers hEnvironment o file⟩,
    validate_eq_ok_iff.mp hValid⟩

/-! ## A file that is asked for -/

section Asked

variable {disk disk' : Disk} {env env' : Environment} {o : Options} {path : String}

theorem Layer.ofFile_congr (h : disk'.read path = disk.read path) :
    ofFile disk' path = ofFile disk path := by
  simp only [ofFile, Disk.readText, h]

theorem Layer.ofEnvironment_congr (h : ∀ name, name ≠ homeVariable → env' name = env name) :
    ofEnvironment env' = ofEnvironment env := by
  have hEndpoint := h endpointVariable (by decide)
  have hRole := h roleVariable (by decide)
  have hDelay := h delayVariable (by decide)
  simp only [ofEnvironment, delayOf, ofVariables, hEndpoint, hRole, hDelay]

/-- Neither the home directory nor any other file bears on the outcome. -/
theorem resolve_congr_of_asked (hAsked : o.config = some path)
    (hRead : disk'.read path = disk.read path)
    (hEnv : ∀ name, name ≠ homeVariable → env' name = env name) :
    o.resolve disk' env' = o.resolve disk env := by
  have hFile : Layer.ofDisk disk' env' (some path) = Layer.ofDisk disk env (some path) :=
    Layer.ofFile_congr hRead
  rw [resolve_eq, resolve_eq, hAsked, hFile, Layer.ofEnvironment_congr hEnv]

theorem resolve_of_ofFile_error (hAsked : o.config = some path) {e : ConfigError}
    (hFile : ofFile disk path = .error e) : o.resolve disk env = .error e := by
  have hLoad : load disk env (some path) = .error e := by
    simp only [load, path?, hFile]
    rfl
  rw [Options.resolve, hAsked, hLoad]
  rfl

theorem ofFile_of_unreadable {fault : FileFault} (h : disk.readText path = .error fault) :
    ofFile disk path = .error (.unreadable path fault) := by
  rw [ofFile, h]

theorem ofFile_of_malformed {text : String} (hRead : disk.readText path = .ok text)
    (hText : ofText? text = none) : ofFile disk path = .error (.malformed path) := by
  simp only [ofFile, hRead, hText, Option.elim_none]

end Asked

/-- A configuration that the program goes on with names a role, so it does go on. -/
theorem plan_of_resolve {disk : Disk} {env : Environment} {o : Options} {c : Config}
    (h : o.resolve disk env = .ok c) {arguments : List String}
    (hArguments : Options.parse arguments = .ok o) :
    ∃ p, Startup.plan disk env arguments = .ok p ∧ p.config = c ∧ c.parsedRole = .ok p.role := by
  obtain ⟨role, hRole⟩ := (layers_of_resolve h).2.role
  refine ⟨⟨c, role, o.connect, c.journalDirectory env, .ofEnvironment env⟩, ?_, rfl, hRole⟩
  rw [Startup.plan, hArguments]
  show (do
    let config ← (o.resolve disk env).mapError _
    _) = _
  rw [h]
  show (do
    let role ← c.parsedRole.mapError _
    _) = _
  rw [hRole]
  rfl

/-- **Which source prevails.** If the program goes on with a configuration, each of its parts is
that of the first source that sets it, the configuration is sound, and no other check of the start
refuses it. If a file is asked for, nothing depends on the home directory or on other files, and a
file that cannot be read or understood stops the program. -/
theorem precedence_of_resolve (disk : Disk) (env : Environment) (o : Options) :
    (∀ c, o.resolve disk env = .ok c →
      (∃ file, Layer.Consulted disk env o.config file ∧ Prevails o env file c) ∧
        (c.validate = .ok () ∧ c.Sound) ∧
        ∀ arguments, Options.parse arguments = .ok o →
          ∃ p, Startup.plan disk env arguments = .ok p ∧ p.config = c ∧
            c.parsedRole = .ok p.role) ∧
      ∀ path, o.config = some path →
        (∀ disk' env', disk'.read path = disk.read path →
          (∀ name, name ≠ homeVariable → env' name = env name) →
          o.resolve disk' env' = o.resolve disk env) ∧
        (∀ fault, disk.readText path = .error fault →
          o.resolve disk env = .error (.unreadable path fault)) ∧
        ∀ text, disk.readText path = .ok text → ofText? text = none →
          o.resolve disk env = .error (.malformed path) := by
  constructor
  · intro c hResolve
    obtain ⟨hLayers, hSound⟩ := layers_of_resolve hResolve
    exact ⟨hLayers, ⟨validate_eq_ok_iff.mpr hSound, hSound⟩,
      fun _ hArguments => plan_of_resolve hResolve hArguments⟩
  · intro path hAsked
    refine ⟨fun _ _ hRead hEnv => resolve_congr_of_asked hAsked hRead hEnv, ?_, ?_⟩
    · intro fault hFault
      exact resolve_of_ofFile_error hAsked (ofFile_of_unreadable hFault)
    · intro text hRead hText
      exact resolve_of_ofFile_error hAsked (ofFile_of_malformed hRead hText)

/-- Every source sets something: the file that is asked for three parts, the environment two, the
options one. Another home directory changes nothing, and without the file there is no start. -/
theorem precedence_of_resolve_all_sources :
    let text := "endpoint = \"nowhere\"\ndefault_role = \"manager\"\nmax_activity_entries = 7"
    let disk : Disk :=
      { read := fun _ => .ok (Text.Utf8.encode text.toList), holds := fun _ => false }
    let env : Environment := fun name =>
      if name = endpointVariable then some "ws://[::2]"
      else if name = delayVariable then some " +90 " else none
    let env' : Environment := fun name => if name = homeVariable then some "home" else env name
    let o : Options := { config := some "console.toml", endpoint := some "ws://[::1]" }
    let c : Config :=
      { endpoint := "ws://[::1]", role := "manager", delayMillis := 90, activityLimit := 7 }
    let other : Disk := { disk with holds := fun _ => true }
    let absent : Disk := { disk with read := fun _ => .error .missing }
    (o.resolve disk env = .ok c ∧
        (∃ file, Layer.Consulted disk env o.config file ∧ Prevails o env file c) ∧ c.Sound) ∧
      o.resolve other env' = .ok c ∧
      o.resolve absent env = .error (.unreadable "console.toml" .missing) := by
  intro text disk env env' o c other absent
  have hResolve : o.resolve disk env = .ok c := eq_ok_of_toOption (by decide +kernel)
  obtain ⟨hPrevails, hAsked⟩ := precedence_of_resolve disk env o
  obtain ⟨hLayers, ⟨-, hSound⟩, -⟩ := hPrevails c hResolve
  obtain ⟨hSame, -, -⟩ := hAsked "console.toml" rfl
  obtain ⟨-, hStopped, -⟩ := (precedence_of_resolve absent env o).2 "console.toml" rfl
  refine ⟨⟨hResolve, hLayers, hSound⟩, ?_, hStopped .missing rfl⟩
  rw [hSame other env' rfl (fun name hName => if_neg hName), hResolve]

end ChatConsole.Config
