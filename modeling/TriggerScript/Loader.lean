import TriggerScript.Cache
import TriggerScript.Compile.Script
import TriggerScript.Config
import TriggerScript.Registry

/-!
# The loader

The loader brings scripts from the disk into the registry. A script is taken from its artifact where
that can be used, and compiled otherwise; a script that compiles without errors leaves an artifact for
the next time. No script stops a batch: one that cannot be read adds an error to the log and nothing
to the registry.
-/

namespace TriggerScript

structure Loader (σ : Type) where
  config : Config
  registry : Registry := {}
  /-- All that has been reported, oldest first. -/
  log : List Diagnostic := []
  disk : Disk
  /-- The values of the variables. -/
  values : Variables := {}
  /-- The collaborators' own state. -/
  state : σ

/-- The outcome of a batch. -/
structure LoadSummary where
  loaded : ScriptInfo
  /-- How many errors the batch added to the log. -/
  errors : Nat
deriving DecidableEq, Repr

namespace Loader

variable {σ : Type}

def cache (loader : Loader σ) : Cache := ⟨loader.config.cacheDir⟩

/-- A new loader on the same disk, with the same collaborators and variables. -/
def restart (loader : Loader σ) : Loader σ := { loader with registry := {}, log := [] }

/-- Adds an error of a whole file to the log. -/
def logError (loader : Loader σ) (file : Path) (message : String) : Recorded (Loader σ) := do
  let diagnostic := Diagnostic.ofFile file message
  note (.reported diagnostic)
  pure { loader with log := loader.log ++ [diagnostic] }

/-! ## Finding scripts -/

/-- Something that a scan comes upon. -/
inductive Finding where
  | script (path : Path)
  /-- A directory that does not let its entries be listed. -/
  | unlisted (directory : Path) (error : IoError)
deriving DecidableEq, Repr

def Finding.script? : Finding → Option Path
  | .script path => some path
  | .unlisted .. => none

mutual

/-- What a scan comes upon at an entry of a directory; `sealed` is told the names that lead on from there. -/
def scanEntry (config : Config) (directory : Path) (sealed : Location → Option IoError) :
    DiskEntry → List Finding
  | .file name _ _ =>
    let path := directory.join ⟨name⟩
    if !config.isDisabled path && config.isScript path then [.script path] else []
  | .directory name entries =>
    let path := directory.join ⟨name⟩
    if config.isDisabled path then []
    else if Disk.pathLimit ≤ path.bytes.length then
      -- By a path that is too long it cannot be told from a file.
      if config.isScript path then [.script path] else []
    else match sealed [name] with
      | some error => [.unlisted path error]
      | none => scanEntries config path (fun names => sealed (name :: names)) entries
termination_by structural entry => entry

def scanEntries (config : Config) (directory : Path) (sealed : Location → Option IoError) :
    List DiskEntry → List Finding
  | [] => []
  | entry :: rest =>
    scanEntry config directory sealed entry ++ scanEntries config directory sealed rest
termination_by structural entries => entries

end

/-- What a scan of the directory of scripts comes upon. -/
def scan (config : Config) (disk : Disk) : List Finding :=
  let directory := config.scriptsDir
  match disk.list directory with
  | .ok (location, entries) =>
    scanEntries config directory (fun names => disk.sealed (location ++ names)) entries
  | .error error => [.unlisted directory error]

/-- Logs the directories that could not be listed. -/
def logUnlisted : List Finding → Loader σ → Recorded (Loader σ)
  | [], loader => pure loader
  | .script _ :: rest, loader => logUnlisted rest loader
  | .unlisted directory error :: rest, loader => do
    let loader ← loader.logError directory ("could not list directory: " ++ error.message)
    logUnlisted rest loader

/-- The scripts below the directory of scripts, in order. -/
def scriptFiles (loader : Loader σ) : Recorded (List Path × Loader σ) := do
  let found := scan loader.config loader.disk
  let loader ← logUnlisted found loader
  pure ((found.filterMap Finding.script?).mergeSort Path.atMost, loader)

/-! ## Unloading -/

/-- Removes all that a script has brought. -/
def unload (services : Services σ) (path : Path) (loader : Loader σ) :
    Recorded (ScriptInfo × Loader σ) := do
  let (removed, registry, state) ← loader.registry.unload path services.commands loader.state
  note (.unloaded path removed.triggers removed.commands)
  pure (removed, { loader with registry, state })

/-- Removes an earlier copy of a script that is about to be loaded. -/
def unloadOld (services : Services σ) (path : Path) (loader : Loader σ) : Recorded (Loader σ) := do
  if loader.registry.isLoaded path then
    let (_, loader) ← loader.unload services path
    pure loader
  else pure loader

/-! ## Loading from an artifact -/

/-- Registers commands in order, up to the first that is refused. -/
def registerCommands (commands : Commands σ) : List Command → σ → Recorded (Except CacheError Unit × σ)
  | [], state => pure (.ok (), state)
  | command :: rest, state => do
    match ← commands.enter command state with
    | (.ok (), state) => registerCommands commands rest state
    | (.error reason, state) => pure (.error (.command command.name reason), state)

/-- Registers the commands of an artifact, all of them or none. -/
def restoreCommands (commands : Commands σ) (path : Path) (restored : List Command) (state : σ) :
    Recorded (Except CacheError Unit × σ) := do
  match ← registerCommands commands restored state with
  | (.ok (), state) => pure (.ok (), state)
  | (.error error, state) =>
    let (_, state) ← commands.withdraw path state
    pure (.error error, state)

/-- Brings a unit into the registry. -/
def install (loader : Loader σ) (path : Path) (unit : CompiledUnit) (infos : List EventInfo) :
    Recorded (ScriptInfo × Loader σ) := do
  let (info, registry) ← loader.registry.install path unit infos
  pure (info, { loader with registry })

/-- Deletes the artifact of a script. -/
def discardArtifact (loader : Loader σ) (path : Path) : Recorded (Loader σ) := do
  let disk ← loader.cache.discard path loader.disk
  pure { loader with disk }

/-- Brings in the unit of an artifact. An artifact that cannot be used is deleted. -/
def restore (services : Services σ) (path : Path) (found : Except CacheError (Option CompiledUnit))
    (loader : Loader σ) : Recorded (Except CacheError (Option ScriptInfo) × Loader σ) := do
  match found with
  | .error error => pure (.error error, loader)
  | .ok none => pure (.ok none, loader)
  | .ok (some unit) =>
    match ← Registry.resolve services.grammar unit.triggers with
    | .error error =>
      let loader ← loader.discardArtifact path
      pure (.error error, loader)
    | .ok infos =>
      match ← restoreCommands services.commands path unit.commands loader.state with
      | (.error error, state) =>
        let loader ← { loader with state }.discardArtifact path
        pure (.error error, loader)
      | (.ok (), state) =>
        let (info, loader) ← { loader with state }.install path unit infos
        note (.loaded path info.triggers info.commands true)
        pure (.ok (some info), loader)

/-- Loads a script from its artifact. -/
def loadCached (services : Services σ) (path : Path) (loader : Loader σ) :
    Recorded (Except CacheError (Option ScriptInfo) × Loader σ) := do
  let (found, disk) ← loader.cache.load path loader.disk
  restore services path found { loader with disk }

/-! ## Loading from the script itself -/

/-- The triggers that can be bound, with their catalog entries; the others are logged. -/
def bindable (grammar : Grammar) (path : Path) :
    List Trigger → Loader σ → Recorded (List (Trigger × EventInfo) × Loader σ)
  | [], loader => pure ([], loader)
  | trigger :: rest, loader => do
    match ← grammar.lookUpEvent trigger.event.kind with
    | some info =>
      let (others, loader) ← bindable grammar path rest loader
      pure ((trigger, info) :: others, loader)
    | none =>
      let loader ← loader.logError path
        ("trigger '" ++ trigger.name ++ "' uses unknown event kind '" ++ trigger.event.kind ++ "'")
      bindable grammar path rest loader

/-- Compiles a script that has been read, and logs what is reported meanwhile. -/
def compileTree (services : Services σ) (path : Path) (root : Node) (loader : Loader σ) :
    Recorded (CompiledUnit × Nat × Loader σ) := do
  let (unit, session) ← Compile.compileFile services path root loader.values loader.state
  let reported := session.context.diagnostics
  let loader :=
    { loader with
      log := loader.log ++ reported, values := session.values, state := session.state }
  pure (unit, errorCount reported, loader)

/-- What a compiled script leaves to be done once it is installed. -/
structure Installed where
  info : ScriptInfo
  unit : CompiledUnit
  /-- Whether nothing was reported as an error. -/
  clean : Bool

/-- Compiles and installs a script that has been read. -/
def installTree (services : Services σ) (path : Path) (root : Node) (loader : Loader σ) :
    Recorded (Installed × Loader σ) := do
  let (compiled, errors, loader) ← loader.compileTree services path root
  let (bound, loader) ← bindable services.grammar path compiled.triggers loader
  let unit := { compiled with triggers := bound.map (·.1) }
  let (info, loader) ← loader.install path unit (bound.map (·.2))
  pure (⟨info, unit, errors = 0 ∧ bound.length = compiled.triggers.length⟩, loader)

/-- Writes an artifact; a failure only means that there will be none. -/
def storeArtifact (loader : Loader σ) (path : Path) (stamp : Int64) (unit : CompiledUnit) :
    Recorded (Loader σ) := do
  let (_, disk) ← loader.cache.store path stamp unit loader.disk
  pure { loader with disk }

/--
Ends a load with the artifact, if there is to be one. The stamp, if it is known, was taken before the
script was read, so that a later change of the script makes the artifact stale.
-/
def finishLoad (path : Path) (stamp : Option Int64) (installed : Installed) (loader : Loader σ) :
    Recorded (ScriptInfo × Loader σ) := do
  let loader ← match stamp with
    | some stamp =>
      if loader.config.enableCaching && installed.clean then
        loader.storeArtifact path stamp installed.unit
      else pure loader
    | none => pure loader
  note (.loaded path installed.info.triggers installed.info.commands false)
  pure (installed.info, loader)

/-- Loads a script by reading and compiling it. -/
def loadFresh (services : Services σ) (path : Path) (loader : Loader σ) :
    Recorded (Except LoadError ScriptInfo × Loader σ) := do
  let stamp := (loader.disk.modifiedMillis path).toOption
  let (read, disk, state) ← services.reader.readTree path loader.disk loader.state
  let loader := { loader with disk, state }
  match read with
  | .error error => pure (.error (.io path error), loader)
  | .ok root =>
    let (installed, loader) ← loader.installTree services path root
    let (info, loader) ← loader.finishLoad path stamp installed
    pure (.ok info, loader)

/-! ## Loading -/

/-- Loads a script. An earlier copy of it is unloaded first. -/
def loadScript (services : Services σ) (path : Path) (loader : Loader σ) :
    Recorded (Except LoadError ScriptInfo × Loader σ) := do
  let loader ← loader.unloadOld services path
  if loader.config.enableCaching then
    match ← loader.loadCached services path with
    | (.ok (some info), loader) => pure (.ok info, loader)
    | (.ok none, loader) => loader.loadFresh services path
    | (.error error, loader) =>
      note (.recompiling error path)
      loader.loadFresh services path
  else loader.loadFresh services path

/-- Asks the host for the event types that are new. -/
def subscribe (services : Services σ) (loader : Loader σ) : Recorded (Loader σ) := do
  let (_, registry) ← loader.registry.subscribe services.host
  pure { loader with registry }

/-- Loads a script again and asks the host for the event types that are new. -/
def reload (services : Services σ) (path : Path) (loader : Loader σ) :
    Recorded (Except LoadError ScriptInfo × Loader σ) := do
  match ← loader.loadScript services path with
  | (.error error, loader) => pure (.error error, loader)
  | (.ok info, loader) =>
    let loader ← loader.subscribe services
    pure (.ok info, loader)

/-! ## Batches -/

/-- Logs the failure of a load. -/
def logFailure (loader : Loader σ) (path : Path) :
    Except LoadError ScriptInfo → Recorded (Loader σ)
  | .ok _ => pure loader
  | .error error => loader.logError path error.message

/-- What a load adds to the counts of its batch. -/
def loadedInfo : Except LoadError ScriptInfo → ScriptInfo
  | .ok info => info
  | .error _ => {}

/-- Loads scripts one after the other, logging each failure at once. -/
def loadEach (services : Services σ) :
    List Path → Loader σ → Recorded (ScriptInfo × Loader σ)
  | [], loader => pure ({}, loader)
  | path :: rest, loader => do
    let (result, loader) ← loader.loadScript services path
    let loader ← loader.logFailure path result
    let (others, loader) ← loadEach services rest loader
    pure (loadedInfo result + others, loader)

/-- Ends a batch that began when the log held `errorsBefore` errors. -/
def finishBatch (services : Services σ) (loaded : ScriptInfo) (errorsBefore : Nat)
    (loader : Loader σ) : Recorded (LoadSummary × Loader σ) := do
  let loader ← loader.subscribe services
  let errors := errorCount loader.log - errorsBefore
  if errors = 0 then note .noErrors
  if loaded.files = 0 then note .noScripts else note (.batchLoaded loaded)
  pure (⟨loaded, errors⟩, loader)

/-- Loads scripts in the order given. -/
def loadFiles (services : Services σ) (paths : List Path) (loader : Loader σ) :
    Recorded (LoadSummary × Loader σ) := do
  let (loaded, after) ← loadEach services paths loader
  after.finishBatch services loaded (errorCount loader.log)

/-- Loads all scripts below the directory of scripts, which is made if it is missing. -/
def loadDirectory (services : Services σ) (loader : Loader σ) :
    Recorded (LoadSummary × Loader σ) := do
  let directory := loader.config.scriptsDir
  let (made, disk) := loader.disk.makeDirectories directory
  let loader := { loader with disk }
  let loader ← match made with
    | .ok () => pure loader
    | .error error =>
      loader.logError directory ("could not create scripts directory: " ++ error.message)
  let (paths, loader) ← loader.scriptFiles
  loader.loadFiles services paths

/-- The paths without those that repeat an earlier one. -/
def distinct : List Path → List Path
  | [] => []
  | path :: rest => path :: (distinct rest).filter fun other => !other.same path

/-- Loads scripts one after the other and keeps the results. -/
def loadTasks (services : Services σ) :
    List Path → Loader σ → Recorded (List (Path × Except LoadError ScriptInfo) × Loader σ)
  | [], loader => pure ([], loader)
  | path :: rest, loader => do
    let (result, loader) ← loader.loadScript services path
    let (others, loader) ← loadTasks services rest loader
    pure ((path, result) :: others, loader)

/-- Logs the failures among some results. -/
def logFailures : List (Path × Except LoadError ScriptInfo) → Loader σ → Recorded (Loader σ)
  | [], loader => pure loader
  | (path, result) :: rest, loader => do logFailures rest (← loader.logFailure path result)

/-- Loads scripts as tasks of their own, each path once; the failures are logged at the end. -/
def loadConcurrently (services : Services σ) (paths : List Path) (loader : Loader σ) :
    Recorded (LoadSummary × Loader σ) := do
  let (results, after) ← loadTasks services (distinct paths) loader
  let after ← logFailures results after
  let loaded := results.foldr (fun (_, result) total => loadedInfo result + total) {}
  after.finishBatch services loaded (errorCount loader.log)

end Loader

end TriggerScript
