import TestTwins.Config.Layers

namespace TestTwins

inductive Setting : Type → Type
  | exactThreshold : Setting Float
  | nearThreshold : Setting Float
  | similarThreshold : Setting Float
  | minClusterSize : Setting Nat
  | maxClusterSize : Setting Nat
  | coverageWeight : Setting Float
  | mockWeight : Setting Float
  | exceptionWeight : Setting Float
  | shapeWeight : Setting Float
  | python : Setting String
  | timeoutSeconds : Setting Nat
  | maxParentDepth : Setting Nat
  | maxSelectedFiles : Setting Nat
  | maxCandidateFiles : Setting Nat
  | storagePath : Setting String
  | retentionDays : Setting Int
  | storageEnabled : Setting Bool

namespace Setting

def get (c : Config) : Setting α → Option α
  | exactThreshold => c.duplicates.exactThreshold
  | nearThreshold => c.duplicates.nearThreshold
  | similarThreshold => c.duplicates.similarThreshold
  | minClusterSize => c.duplicates.minClusterSize
  | maxClusterSize => c.duplicates.maxClusterSize
  | coverageWeight => c.duplicates.coverageWeight
  | mockWeight => c.duplicates.mockWeight
  | exceptionWeight => c.duplicates.exceptionWeight
  | shapeWeight => c.duplicates.shapeWeight
  | python => c.coverage.python
  | timeoutSeconds => c.coverage.timeoutSeconds
  | maxParentDepth => c.coverage.maxParentDepth
  | maxSelectedFiles => c.coverage.maxSelectedFiles
  | maxCandidateFiles => c.coverage.maxCandidateFiles
  | storagePath => c.storage.path
  | retentionDays => c.storage.retentionDays
  | storageEnabled => c.storage.enabled

def variableOf? : Setting α → Option (String × (String → Option α))
  | exactThreshold => some ("DRILL_SERGEANT_EXACT_THRESHOLD", Environment.floatOf?)
  | nearThreshold => some ("DRILL_SERGEANT_NEAR_THRESHOLD", Environment.floatOf?)
  | similarThreshold => some ("DRILL_SERGEANT_SIMILAR_THRESHOLD", Environment.floatOf?)
  | minClusterSize => some ("DRILL_SERGEANT_MIN_CLUSTER_SIZE", Environment.natOf? Word.count)
  | maxClusterSize => some ("DRILL_SERGEANT_MAX_CLUSTER_SIZE", Environment.natOf? Word.count)
  | python => some ("DRILL_SERGEANT_PYTHON", some)
  | timeoutSeconds => some ("DRILL_SERGEANT_TIMEOUT_SECS", Environment.natOf? Word.count)
  | storagePath => some ("DRILL_SERGEANT_STORAGE_PATH", some)
  | retentionDays => some ("DRILL_SERGEANT_RETENTION_DAYS", Environment.intOf?)
  | storageEnabled => some ("DRILL_SERGEANT_STORAGE_ENABLED", Environment.boolOf?)
  | _ => none

def fromEnvironment (env : Environment) (x : Setting α) : Option α :=
  x.variableOf?.bind fun (name, decode) => (env.lookup name).bind decode

def fromCommandLine (cli : CommandLine) : Setting α → Option α
  | similarThreshold => cli.similarThreshold
  | minClusterSize => cli.minClusterSize
  | python => cli.python
  | timeoutSeconds => cli.timeoutSeconds
  | storagePath => cli.storagePath
  | storageEnabled => cli.storageEnabled
  | _ => none

def resolve (cli : CommandLine) (env : Environment) (project user : Config) (x : Setting α) : Option α :=
  (x.fromCommandLine cli).or ((x.fromEnvironment env).or ((x.get project).or (x.get user)))

theorem get_overlay (upper lower : Config) (x : Setting α) :
    x.get (upper.overlay lower) = (x.get upper).or (x.get lower) := by
  cases x <;> exact Option.orElse_eq_or

theorem get_environment (env : Environment) (x : Setting α) :
    x.get env.config = x.fromEnvironment env := by
  cases x <;> rfl

theorem get_commandLine (cli : CommandLine) (x : Setting α) :
    x.get cli.config = x.fromCommandLine cli := by
  cases x <;> rfl

theorem config_ext {c c' : Config} (h : ∀ (α : Type) (x : Setting α), x.get c = x.get c') : c = c' := by
  obtain ⟨⟨⟩, ⟨⟩, ⟨⟩⟩ := c
  obtain ⟨⟨⟩, ⟨⟩, ⟨⟩⟩ := c'
  simp only [Config.mk.injEq, DuplicateSettings.mk.injEq, CoverageSettings.mk.injEq,
    StorageSettings.mk.injEq]
  exact ⟨⟨h _ exactThreshold, h _ nearThreshold, h _ similarThreshold, h _ minClusterSize,
      h _ maxClusterSize, h _ coverageWeight, h _ mockWeight, h _ exceptionWeight, h _ shapeWeight⟩,
    ⟨h _ python, h _ timeoutSeconds, h _ maxParentDepth, h _ maxSelectedFiles, h _ maxCandidateFiles⟩,
    ⟨h _ storagePath, h _ retentionDays, h _ storageEnabled⟩⟩

end Setting

namespace Config

inductive FileState
  | absent
  | unreadable
  | malformed
  | parsed (c : Config)

namespace FileState

def ofDisk (d : Disk) (p : Path) : FileState :=
  if (d.find p).isOk then
    match d.readText p with
    | .error _ => unreadable
    | .ok text =>
      match ofText? text with
      | none => malformed
      | some c => parsed c
  else absent

def config : FileState → Config
  | parsed c => c
  | _ => .empty

end FileState

def userState (d : Disk) (env : Environment) : FileState :=
  match userFile? env with
  | none => .absent
  | some p => .ofDisk d p

def projectState (d : Disk) (root : Path) : FileState := .ofDisk d (root.join projectFile)

theorem fileLayer_eq (d : Disk) (p : Path) :
    fileLayer d p =
      match FileState.ofDisk d p with
      | .unreadable => .error (.fileNotFound p.text)
      | .malformed => .error (.malformed p.text unreadable)
      | state => .ok state.config := by
  rw [fileLayer, FileState.ofDisk]
  split
  · rw [ofFile]
    cases d.readText p with
    | error e => rfl
    | ok text =>
      simp only [ofText]
      cases ofText? text <;> rfl
  · rfl

theorem userLayer_of_malformed {d : Disk} {env : Environment} (h : userState d env = .malformed) :
    ∃ p, userFile? env = some p ∧ userLayer d env = .error (.malformed p.text unreadable) := by
  rw [userState] at h
  cases hfile : userFile? env with
  | none =>
    rw [hfile] at h
    cases h
  | some p =>
    rw [hfile] at h
    refine ⟨p, rfl, ?_⟩
    simp only [userLayer, hfile, fileLayer_eq, h]

theorem userLayer_of_ne_malformed {d : Disk} {env : Environment} (h : userState d env ≠ .malformed) :
    userLayer d env = .ok (userState d env).config := by
  rw [userState] at h ⊢
  rw [userLayer]
  cases hfile : userFile? env with
  | none => rfl
  | some p =>
    rw [hfile] at h
    simp only [fileLayer_eq]
    cases hstate : FileState.ofDisk d p with
    | malformed => exact absurd hstate h
    | _ => rfl

/-- A configuration in which every setting has the value that the layers give it. -/
def Resolves (cli : CommandLine) (env : Environment) (project user c : Config) : Prop :=
  ∀ (α : Type) (x : Setting α), x.get c = x.resolve cli env project user

theorem resolves_overlay (cli : CommandLine) (env : Environment) (project user : Config) :
    Resolves cli env project user
      (cli.config.overlay (env.config.overlay (project.overlay user))) := by
  intro α x
  rw [Setting.get_overlay, Setting.get_overlay, Setting.get_overlay, Setting.get_commandLine,
    Setting.get_environment, Setting.resolve]

theorem load_of_user_error {d : Disk} {env : Environment} {e : ConfigError}
    (h : userLayer d env = .error e) (root : Path) (cli : CommandLine) :
    load d env root cli = .error e := by
  rw [load, h]
  rfl

theorem load_of_project_error {d : Disk} {env : Environment} {root : Path} {user : Config}
    {e : ConfigError} (huser : userLayer d env = .ok user)
    (hproject : fileLayer d (root.join projectFile) = .error e) (cli : CommandLine) :
    load d env root cli = .error e := by
  rw [load, huser, hproject]
  rfl

def Loads (d : Disk) (env : Environment) (root : Path) (cli : CommandLine) (project user : Config) :
    Prop :=
  ∃ c, Resolves cli env project user c ∧ (∀ c', Resolves cli env project user c' → c' = c) ∧
    (load d env root cli = .ok c ↔ c.validate = .ok ()) ∧
    ∀ e, c.validate = .error e → load d env root cli = .error e

theorem loads_of_layers {d : Disk} {env : Environment} {root : Path} {project user : Config}
    (huser : userLayer d env = .ok user) (hproject : fileLayer d (root.join projectFile) = .ok project)
    (cli : CommandLine) : Loads d env root cli project user := by
  have hresolves := resolves_overlay cli env project user
  refine ⟨_, hresolves, ?_, ?_⟩
  · intro c' hc'
    apply Setting.config_ext
    intro α x
    rw [hc' α x, hresolves α x]
  · simp only [load, huser, hproject, bind, Except.bind]
    cases (cli.config.overlay (env.config.overlay (project.overlay user))).validate <;>
      simp [pure, Except.pure]

/-- A file of the user that makes no sense decides alone, then one of the project that cannot be used;
otherwise every setting is resolved and the whole is checked. -/
theorem load_layers (d : Disk) (env : Environment) (root : Path) (cli : CommandLine) :
    match userState d env, projectState d root with
    | .malformed, _ =>
      ∃ p, userFile? env = some p ∧ load d env root cli = .error (.malformed p.text unreadable)
    | _, .unreadable => load d env root cli = .error (.fileNotFound (root.join projectFile).text)
    | _, .malformed =>
      load d env root cli = .error (.malformed (root.join projectFile).text unreadable)
    | user, project => Loads d env root cli project.config user.config := by
  have hproject := fileLayer_eq d (root.join projectFile)
  rw [← projectState] at hproject
  split
  · rename_i hmalformed
    obtain ⟨p, hp, huser⟩ := userLayer_of_malformed hmalformed
    exact ⟨p, hp, load_of_user_error huser root cli⟩
  · rename_i hunreadable huser
    rw [hunreadable] at hproject
    exact load_of_project_error (userLayer_of_ne_malformed huser) hproject cli
  · rename_i hmalformed huser
    rw [hmalformed] at hproject
    exact load_of_project_error (userLayer_of_ne_malformed huser) hproject cli
  · rename_i huser hreadable hwellFormed
    refine loads_of_layers (userLayer_of_ne_malformed huser) ?_ cli
    rw [hproject]
    split
    · rename_i hunreadable
      exact absurd hunreadable hreadable
    · rename_i hmalformed
      exact absurd hmalformed hwellFormed
    · rfl

end Config

end TestTwins
