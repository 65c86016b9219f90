import TriggerScript.Proofs.LoadOutcome
import TriggerScript.Proofs.RegistryReloads

/-!
# The order of a batch

The scripts of a batch share the registry, the variables, the log and the disk. What a script brings depends
on none of these but on two files of the disk, the script and its artifact, and a load touches no file but
the artifact of its own script. So a batch comes to the same in any order, as long as no script lies where
another one has its artifact and all paths can be followed before the first load makes a directory.
-/

namespace TriggerScript

namespace Disk

/-- If there is a file where a path leads, the path finds it, unless the path would find nothing on any disk. -/
def Reaches (disk : Disk) (path : Path) : Prop :=
  ∀ (other : Disk) content time, other.Holds path content time →
    ∀ content time, disk.spot (disk.destination path (steps path)) = .file content time →
      disk.Holds path content time

variable {touched : Location → Prop} {before after : Disk} {path : Path} {time : Int}

theorem reaches_of_look {disk : Disk} (found : disk.look path = .ok (disk.spot (disk.destination path (steps path)))) :
    disk.Reaches path := by
  intro _ _ _ _ content time file
  rw [Holds, found, file]

namespace ChangesOnly

theorem holds_iff (changes : ChangesOnly touched before after) (reaches : before.Reaches path)
    (spared : ¬ touched (before.destination path (steps path))) {content : Bytes} :
    after.Holds path content time ↔ before.Holds path content time := by
  refine ⟨fun holds => ?_, changes.holds spared⟩
  obtain ⟨location, located, file⟩ := look_eq_ok.mp holds
  -- A path leads to the same place as before, and the file there has not been touched.
  rw [eq_destination_of_locate located, changes.destination_eq] at file
  exact reaches after content time holds content time ((changes.file _ spared _ _).mp file)

end ChangesOnly

end Disk

open Disk

/-- The scripts of a batch have their artifacts to themselves, and no script depends on another one's artifact. -/
structure Cache.Separate (cache : Cache) (paths : List Path) (disk : Disk) : Prop extends
    cache.OwnArtifacts paths disk where
  /-- No script lies where another one has its artifact. -/
  scripts : ∀ path ∈ paths, ∀ other ∈ paths, path ≠ other →
    disk.destination path (steps path) ≠ cache.place other disk
  /-- No directory has yet to be made before a script or an artifact can be found. -/
  reached : ∀ path ∈ paths, disk.Reaches path ∧ disk.Reaches (cache.artifactOf path)
  /-- An artifact is that of a file; what stands elsewhere may change its time when something is made in it. -/
  filed : ∀ path ∈ paths, ∀ bytes stored, disk.Holds (cache.artifactOf path) bytes stored →
    ∃ content time, disk.Holds path content time

/-- Paths that have no artifacts yet only need places of their own. -/
theorem Cache.ownArtifacts_of_free {cache : Cache} {paths : List Path} {disk : Disk}
    (apart : ∀ path ∈ paths, ∀ other ∈ paths, cache.place path disk = cache.place other disk → path.same other = true)
    (free : ∀ path ∈ paths, disk.spot (cache.place path disk) = .free) : cache.OwnArtifacts paths disk where
  apart := apart
  own path member bytes time current unit stands := by
    rw [free path member] at stands
    cases stands

/--
Collaborators that always give the same answer, whatever was registered or reported before; and a compiler of commands
that stays with its file and takes no report back.
-/
structure Services.Deterministic {σ : Type} (services : Services σ) (parse : Bytes → Except IoError Node) :
    Prop where
  reader : services.reader = .ofParser parse
  steady : services.Steady
  alike : services.commands.RegistersAlike
  proper : services.commands.Advances

namespace Loader

variable {σ : Type} {services : Services σ} {parse : Bytes → Except IoError Node} {path : Path}

/-! ## What a script sees of the others -/

theorem modifiedMillis_eq_ok {disk : Disk} {stamp : Int64} : disk.modifiedMillis path = .ok stamp ↔
    ∃ time, disk.modified path = .ok time ∧ wholeMillis time = stamp := by
  unfold modifiedMillis
  cases disk.modified path with
  | error error => exact ⟨nofun, nofun⟩
  | ok time => simp [pure, Except.pure, bind, Except.bind]

theorem artifactUnit?_eq_some {loader : Loader σ} {unit : CompiledUnit} :
    loader.artifactUnit? path = some unit ↔ ∃ bytes stored time,
      loader.disk.Holds (loader.cache.artifactOf path) bytes stored ∧ loader.disk.modified path = .ok time ∧
      Artifact.decode bytes (.ok (wholeMillis time)) = .ok unit := by
  simp only [artifactUnit?, Option.bind_eq_some_iff, toOption_eq_some]
  constructor
  · rintro ⟨bytes, read, decoded⟩
    obtain ⟨stored, holds⟩ := exists_holds_of_read read
    obtain ⟨stamp, known⟩ := Artifact.current_of_decode decoded
    obtain ⟨time, modified, rfl⟩ := modifiedMillis_eq_ok.mp known
    exact ⟨bytes, stored, time, holds, modified, known ▸ decoded⟩
  · rintro ⟨bytes, stored, time, holds, modified, decoded⟩
    exact ⟨bytes, holds.read, modifiedMillis_eq_ok.mpr ⟨time, modified, rfl⟩ ▸ decoded⟩

/-- A script finds the same whether or not other scripts of its batch have been loaded. -/
theorem brings_eq_of_changes (deterministic : services.Deterministic parse) {start loader : Loader σ}
    {paths : List Path} {touched : Location → Prop} (separate : start.cache.Separate paths start.disk)
    (member : path ∈ paths) (config : loader.config = start.config)
    (changes : ChangesOnly touched start.disk loader.disk)
    (script : ¬ touched (start.disk.destination path (steps path)))
    (artifact : ¬ touched (start.cache.place path start.disk)) :
    loader.brings services parse path = start.brings services parse path := by
  obtain ⟨reached, artifactReached⟩ := separate.reached path member
  have sameCache : loader.cache = start.cache := congrArg (Cache.mk ·.cacheDir) config
  refine brings_eq deterministic.steady deterministic.alike config ?_
    (toOption_read_eq fun _ _ => changes.holds_iff reached script)
  ext unit
  simp only [artifactUnit?_eq_some, sameCache, changes.holds_iff artifactReached artifact]
  -- Where there is an artifact, the script is a file, and its time stays.
  have sameTime {bytes : Bytes} {stored : Int} (holds : start.disk.Holds (start.cache.artifactOf path) bytes stored) :
      loader.disk.modified path = start.disk.modified path := by
    obtain ⟨content, time, file⟩ := separate.filed path member bytes stored holds
    rw [file.modified, (changes.holds script file).modified]
  constructor
  · rintro ⟨bytes, stored, time, holds, modified, decoded⟩
    exact ⟨bytes, stored, time, holds, sameTime holds ▸ modified, decoded⟩
  · rintro ⟨bytes, stored, time, holds, modified, decoded⟩
    exact ⟨bytes, stored, time, holds, (sameTime holds).trans modified, decoded⟩

/-- What a script is compiled to are triggers of its own. -/
theorem compiled?_isFrom (proper : services.commands.Advances) {loader : Loader σ} {unit : CompiledUnit}
    {infos : List EventInfo} (compiled : loader.compiled? services parse path = some (unit, infos)) :
    unit.IsFrom path := by
  obtain ⟨content, -, parsed⟩ := Option.bind_eq_some_iff.mp compiled
  obtain ⟨root, -, same⟩ := Option.map_eq_some_iff.mp parsed
  cases same
  exact isFrom_listedUnit services.grammar (Compile.compileFile_isFrom proper path root loader.values loader.state)

/-- What a load brings are triggers of the script's own. -/
theorem brings_isFrom (proper : services.commands.Advances) {loader : Loader σ} {paths : List Path}
    (artifacts : loader.cache.OwnArtifacts paths loader.disk) (member : path ∈ paths) {unit : CompiledUnit}
    {infos : List EventInfo} (brought : loader.brings services parse path = some (unit, infos)) :
    unit.IsFrom path := by
  rcases Option.or_eq_some_iff.mp brought with cached | ⟨-, compiled⟩
  · unfold served? at cached
    split at cached
    · obtain ⟨found, present, restored⟩ := Option.bind_eq_some_iff.mp cached
      obtain ⟨bytes, stored, time, holds, -, decoded⟩ := artifactUnit?_eq_some.mp present
      have isFrom := artifacts.isFrom member holds.read decoded
      unfold restored? at restored
      split at restored
      · cases restored
        exact isFrom
      · cases restored
    · cases cached
  · exact compiled?_isFrom proper compiled

/-! ## Batches -/

/-- What some scripts bring, with their paths. -/
def bringsAll (services : Services σ) (parse : Bytes → Except IoError Node) (paths : List Path)
    (loader : Loader σ) : List (Path × CompiledUnit × List EventInfo) :=
  paths.filterMap fun path => (loader.brings services parse path).map (path, ·)

/-- The counts of what a script brings. -/
def bringsInfo (services : Services σ) (parse : Bytes → Except IoError Node) (loader : Loader σ) (path : Path) :
    ScriptInfo :=
  ((loader.brings services parse path).map (ScriptInfo.of ·.1)).getD 0

/-- An install without the proof that the triggers are the file's own. -/
def parts (install : Registry.Install) : Path × CompiledUnit × List EventInfo :=
  (install.file, install.unit, install.infos)

theorem parts_injective : Function.Injective parts := by
  rintro ⟨⟨file, unit, infos⟩, own⟩ ⟨⟨file', unit', infos'⟩, own'⟩ same
  cases same
  rfl

/-- Some scripts of a batch have been loaded, and have brought what they would have brought at the start. -/
structure Progress (services : Services σ) (parse : Bytes → Except IoError Node) (start : Loader σ)
    (done : List Path) (installs : List Registry.Install) (loader : Loader σ) : Prop where
  config : loader.config = start.config
  disk : ChangesOnly (fun location => ∃ path ∈ done, location = start.cache.place path start.disk)
    start.disk loader.disk
  brought : installs.map parts = start.bringsAll services parse done
  registry : start.registry.Reloaded done installs loader.registry

namespace Progress

variable {start loader : Loader σ} {paths done rest : List Path} {installs : List Registry.Install}

theorem installsOf (progress : Progress services parse start done installs loader) :
    Registry.InstallsOf done installs := by
  intro install member
  have brought := List.mem_map_of_mem (f := parts) member
  rw [progress.brought] at brought
  obtain ⟨path, listed, found⟩ := List.mem_filterMap.mp brought
  obtain ⟨pair, -, same⟩ := Option.map_eq_some_iff.mp found
  have file : path = install.file := congrArg Prod.fst same
  exact file ▸ List.mem_map_of_mem listed

/-- The next script of a batch is loaded. -/
theorem loadScript (deterministic : services.Deterministic parse) (separate : start.cache.Separate paths start.disk)
    (progress : Progress services parse start done installs loader)
    (listed : ∀ other ∈ done ++ path :: rest, other ∈ paths)
    (different : ((done ++ path :: rest).map Path.components).Nodup) :
    ∃ now, Progress services parse start (done ++ [path]) now (loader.loadScript services path).value.2 ∧
      loadedInfo (loader.loadScript services path).value.1 = start.bringsInfo services parse path := by
  have member : path ∈ paths := listed path (List.mem_append_right _ List.mem_cons_self)
  have earlierListed {earlier : Path} (earlierMember : earlier ∈ done) : earlier ∈ paths :=
    listed earlier (List.mem_append_left _ earlierMember)
  have new : path.components ∉ done.map Path.components := by
    rw [List.map_append, List.map_cons] at different
    exact fun repeated => (List.nodup_append.mp different).2.2 _ repeated _ List.mem_cons_self rfl
  have outcome : Outcome path _ _ (loader.loadScript services path).value :=
    loadScript_brings deterministic.reader deterministic.steady loader
  obtain ⟨registry, state, unloaded, removed⟩ := unloadOld_spec services path loader
  have reloaded : start.registry.Reloaded (done ++ [path]) installs registry := by
    rw [removed]
    split
    · next loaded => exact progress.registry.unload progress.installsOf new loaded
    · next absent => exact progress.registry.skip progress.installsOf new (eq_false_of_ne_true absent)
  have other {earlier : Path} (earlierMember : earlier ∈ done) : path ≠ earlier :=
    fun same => new (same ▸ List.mem_map_of_mem earlierMember)
  -- The scripts before have touched neither the script nor its artifact.
  have same : Loader.brings services parse path { loader with registry, state } =
      start.brings services parse path := by
    refine brings_eq_of_changes deterministic separate member progress.config progress.disk ?_ ?_
    · rintro ⟨earlier, earlierMember, stands⟩
      exact separate.scripts path member earlier (earlierListed earlierMember) (other earlierMember) stands
    · rintro ⟨earlier, earlierMember, shared⟩
      have repeated := separate.apart path member earlier (earlierListed earlierMember) shared
      exact new (of_decide_eq_true repeated ▸ List.mem_map_of_mem earlierMember)
  rw [unloaded, same] at outcome
  generalize (loader.loadScript services path).value = result at outcome ⊢
  have samePlace : loader.cache.place path loader.disk = start.cache.place path start.disk := by
    have sameCache : loader.cache = start.cache := congrArg (Cache.mk ·.cacheDir) progress.config
    rw [sameCache]
    exact progress.disk.destination_eq _ _
  have changes : ChangesOnly
      (fun location => ∃ earlier ∈ done ++ [path], location = start.cache.place earlier start.disk)
      start.disk result.2.disk := by
    refine (progress.disk.mono ?_).trans (outcome.disk.mono ?_)
    · rintro location ⟨earlier, earlierMember, stands⟩
      exact ⟨earlier, List.mem_append_left _ earlierMember, stands⟩
    · intro location own
      exact ⟨path, List.mem_append_right _ (List.mem_singleton_self _), own.trans samePlace⟩
  have config : result.2.config = start.config := outcome.config.trans progress.config
  have installed := outcome.registry
  cases brought : start.brings services parse path with
  | none =>
    rw [brought] at installed
    refine ⟨installs, ⟨config, changes, ?_, installed ▸ reloaded⟩, outcome.info⟩
    rw [progress.brought, bringsAll, bringsAll, List.filterMap_append]
    simp [brought]
  | some pair =>
    obtain ⟨unit, infos⟩ := pair
    rw [brought] at installed
    have isFrom := brings_isFrom deterministic.proper separate.toOwnArtifacts member brought
    refine ⟨installs ++ [⟨⟨path, unit, infos⟩, isFrom⟩], ⟨config, changes, ?_, ?_⟩, outcome.info⟩
    · rw [List.map_append, progress.brought, bringsAll, bringsAll, List.filterMap_append]
      simp [brought, parts]
    · rw [installed]
      exact reloaded.install ⟨⟨path, unit, infos⟩, isFrom⟩ (by simp)

/-- The log has no part in what a batch comes to. -/
theorem logged (progress : Progress services parse start done installs loader) (log : List Diagnostic) :
    Progress services parse start done installs { loader with log } :=
  ⟨progress.config, progress.disk, progress.brought, progress.registry⟩

theorem loadEach (deterministic : services.Deterministic parse) (separate : start.cache.Separate paths start.disk)
    (progress : Progress services parse start done installs loader) (rest : List Path)
    (listed : ∀ path ∈ done ++ rest, path ∈ paths)
    (different : ((done ++ rest).map Path.components).Nodup) :
    ∃ now, Progress services parse start (done ++ rest) now (loader.loadEach services rest).value.2 ∧
      (loader.loadEach services rest).value.1 = (rest.map (start.bringsInfo services parse)).sum := by
  induction rest generalizing done installs loader with
  | nil => exact ⟨installs, by rwa [List.append_nil], rfl⟩
  | cons path rest inductionHypothesis =>
    obtain ⟨between, step, info⟩ := progress.loadScript deterministic separate listed different
    rw [List.append_cons] at listed different ⊢
    simp only [Loader.loadEach, Recorded.value_bind, Recorded.value_pure]
    generalize (loader.loadScript services path).value = outcome at step info ⊢
    obtain ⟨log, logged⟩ := logFailure_value outcome.2 path outcome.1
    rw [logged]
    obtain ⟨now, finished, others⟩ := inductionHypothesis (step.logged log) listed different
    exact ⟨now, finished, by rw [info, others, List.map_cons, List.sum_cons]⟩

/-- Tasks come to the same as loads one after the other, apart from the log. -/
theorem loadTasks (deterministic : services.Deterministic parse) (separate : start.cache.Separate paths start.disk)
    (progress : Progress services parse start done installs loader) (rest : List Path)
    (listed : ∀ path ∈ done ++ rest, path ∈ paths)
    (different : ((done ++ rest).map Path.components).Nodup) :
    ∃ now, Progress services parse start (done ++ rest) now (loader.loadTasks services rest).value.2 ∧
      (loader.loadTasks services rest).value.1.map (loadedInfo ·.2) = rest.map (start.bringsInfo services parse) := by
  induction rest generalizing done installs loader with
  | nil => exact ⟨installs, by rwa [List.append_nil], rfl⟩
  | cons path rest inductionHypothesis =>
    obtain ⟨between, step, info⟩ := progress.loadScript deterministic separate listed different
    rw [List.append_cons] at listed different ⊢
    simp only [Loader.loadTasks, Recorded.value_bind, Recorded.value_pure]
    obtain ⟨now, finished, others⟩ := inductionHypothesis step listed different
    exact ⟨now, finished, by rw [List.map_cons, info, others, List.map_cons]⟩

end Progress

/-! ## The end of a batch -/

/-- Two batches have loaded the same, up to the order of the registry's lists. -/
structure SameBatch (left right : LoadSummary × Loader σ) : Prop where
  loaded : left.1.loaded = right.1.loaded
  registry : left.2.registry.SameUpToOrder right.2.registry

theorem finishBatch_loaded (services : Services σ) (loaded : ScriptInfo) (errorsBefore : Nat) (loader : Loader σ) :
    (loader.finishBatch services loaded errorsBefore).value.1.loaded = loaded := by
  unfold finishBatch
  dsimp only [Recorded.value_bind]
  split <;> split <;> rfl

theorem Progress.sameBatch {start left right : Loader σ} {paths order : List Path}
    {installs installs' : List Registry.Install} (progress : Progress services parse start paths installs left)
    (progress' : Progress services parse start order installs' right) (reordered : paths.Perm order)
    {loaded loaded' : ScriptInfo} (counts : loaded = (paths.map (start.bringsInfo services parse)).sum)
    (counts' : loaded' = (order.map (start.bringsInfo services parse)).sum) (errorsBefore : Nat) :
    SameBatch (left.finishBatch services loaded errorsBefore).value
      (right.finishBatch services loaded' errorsBefore).value where
  loaded := by
    rw [finishBatch_loaded, finishBatch_loaded, counts, counts', (reordered.map _).sum_eq]
  registry := by
    have installed : (installs.map parts).Perm (installs'.map parts) := by
      rw [progress.brought, progress'.brought]
      exact reordered.filterMap _
    rw [finishBatch_value, finishBatch_value]
    exact progress.registry.subscribe_sameUpToOrder progress'.registry reordered
      ((List.map_perm_map_iff parts_injective).mp installed) services.host

/-- Ends a batch of tasks, whose results are taken in some order. -/
def collect (services : Services σ) (results : List (Path × Except LoadError ScriptInfo)) (errorsBefore : Nat)
    (loader : Loader σ) : Recorded (LoadSummary × Loader σ) := do
  let loader ← logFailures results loader
  let loaded := results.foldr (fun (_, result) total => loadedInfo result + total) {}
  loader.finishBatch services loaded errorsBefore

theorem loadConcurrently_eq (services : Services σ) (paths : List Path) (loader : Loader σ) :
    loader.loadConcurrently services paths = (do
      let (results, after) ← loader.loadTasks services (distinct paths)
      after.collect services results (errorCount loader.log)) :=
  rfl

theorem distinct_eq_self {paths : List Path} (different : (paths.map Path.components).Nodup) :
    distinct paths = paths := by
  induction paths with
  | nil => rfl
  | cons path rest inductionHypothesis =>
    obtain ⟨new, others⟩ := List.nodup_cons.mp different
    rw [distinct, inductionHypothesis others, List.filter_eq_self.mpr]
    intro other member
    have apart : other.components ≠ path.components := fun same => new (same ▸ List.mem_map_of_mem member)
    simp [Path.same, apart]

theorem logFailures_value (results : List (Path × Except LoadError ScriptInfo)) (loader : Loader σ) :
    ∃ log, (logFailures results loader).value = { loader with log } := by
  induction results generalizing loader with
  | nil => exact ⟨loader.log, rfl⟩
  | cons head rest inductionHypothesis =>
    obtain ⟨log, logged⟩ := logFailure_value loader head.1 head.2
    obtain ⟨final, done⟩ := inductionHypothesis { loader with log }
    exact ⟨final, by rw [logFailures, Recorded.value_bind, logged, done]⟩

theorem foldr_loadedInfo (results : List (Path × Except LoadError ScriptInfo)) :
    results.foldr (fun (_, result) total => loadedInfo result + total) {} = (results.map (loadedInfo ·.2)).sum := by
  induction results with
  | nil => rfl
  | cons head rest inductionHypothesis => rw [List.foldr_cons, inductionHypothesis, List.map_cons, List.sum_cons]

/--
A batch of different scripts that are separate on the disk comes to the same in any order: one script after
the other, and as tasks that end in any order and whose results are then taken in any order.
-/
theorem batch_ignores_order (deterministic : services.Deterministic parse) {loader : Loader σ}
    {paths order : List Path} (sound : loader.registry.Sound) (different : (paths.map Path.components).Nodup)
    (separate : loader.cache.Separate paths loader.disk) (reordered : paths.Perm order) :
    let batch := (loader.loadFiles services paths).value
    let tasks := (loader.loadTasks services order).value
    SameBatch batch (loader.loadFiles services order).value ∧
    SameBatch batch (loader.loadConcurrently services order).value ∧
    ∀ results, tasks.1.Perm results →
      SameBatch batch (tasks.2.collect services results (errorCount loader.log)).value := by
  intro batch tasks
  -- Each run is told by what the scripts would have brought at the start, which a permutation keeps.
  have first : Progress services parse loader [] [] loader :=
    ⟨rfl, .refl _ _, rfl, Registry.reloaded_nothing sound⟩
  have different' : (order.map Path.components).Nodup := (reordered.map _).nodup_iff.mp different
  have listed (path : Path) (member : path ∈ order) : path ∈ paths := reordered.mem_iff.mpr member
  obtain ⟨installs, progress, counts⟩ := first.loadEach deterministic separate paths (fun _ => id) different
  obtain ⟨installs', progress', counts'⟩ := first.loadEach deterministic separate order listed different'
  have collected (results : List (Path × Except LoadError ScriptInfo)) (taken : tasks.1.Perm results) :
      SameBatch batch (tasks.2.collect services results (errorCount loader.log)).value := by
    obtain ⟨installs'', finished, infos⟩ := first.loadTasks deterministic separate order listed different'
    obtain ⟨log, logged⟩ := logFailures_value results tasks.2
    have total : (results.map (loadedInfo ·.2)).sum = (order.map (loader.bringsInfo services parse)).sum := by
      rw [← (taken.map _).sum_eq, infos]
    simp only [collect, Recorded.value_bind, logged, foldr_loadedInfo]
    exact progress.sameBatch (finished.logged log) reordered counts total _
  refine ⟨progress.sameBatch progress' reordered counts counts' _, ?_, collected⟩
  rw [loadConcurrently_eq, distinct_eq_self different']
  exact collected _ (.refl _)

section Rehearsed

open Rehearsal

theorem scene_deterministic : sceneServices.Deterministic sceneParse where
  reader := rfl
  steady := plainServices_steady sceneParse
  alike command state state' := by
    change (register [] command state).1 = (register [] command state').1
    rfl
  proper := commands_advances _ _

/-- The scene and a copy of it. -/
def twinLoader : Loader Desk :=
  { sceneLoader with
    disk := { entries :=
      [.directory "" [.file "a.sk" sceneContent 1000000, .file "b.sk" sceneContent 2000000]] } }

/-- The scene, which is loaded already, its copy, which is not, and a script that is missing. -/
def twinPaths : List Path := [scenePath, ⟨"b.sk"⟩, ⟨"c.sk"⟩]

def twinStart : Loader Desk := (twinLoader.loadScript sceneServices scenePath).value.2

theorem twinStart_orderly : ∃ installs, Orderly twinPaths installs twinStart := by
  have first : Orderly twinPaths [] twinLoader :=
    ⟨Cache.ownArtifacts_of_free (by decide +kernel) (by decide +kernel), Registry.represents_empty⟩
  exact @Orderly.step Desk sceneServices sceneParse twinPaths (commands_advances _ _) rfl [] twinLoader twinStart _ _
    first (.load scenePath) List.mem_cons_self

theorem twinStart_separate : twinStart.cache.Separate twinPaths twinStart.disk := by
  obtain ⟨installs, orderly⟩ := twinStart_orderly
  obtain ⟨scripts, found, free⟩ :
      (∀ path ∈ twinPaths, ∀ other ∈ twinPaths, path ≠ other →
        twinStart.disk.destination path (steps path) ≠ twinStart.cache.place other twinStart.disk) ∧
      (∀ path ∈ twinPaths, ∀ sought ∈ [path, twinStart.cache.artifactOf path],
        twinStart.disk.look sought = .ok (twinStart.disk.spot (twinStart.disk.destination sought (steps sought)))) ∧
      ∀ path ∈ twinPaths, (twinStart.disk.read path).toOption = none →
        twinStart.disk.look (twinStart.cache.artifactOf path) = .ok .free := by
    decide +kernel
  refine ⟨orderly.artifacts, scripts, fun path member => ?_, ?_⟩
  · exact ⟨reaches_of_look (found path member _ List.mem_cons_self),
      reaches_of_look (found path member _ (List.mem_cons_of_mem _ List.mem_cons_self))⟩
  · intro path member bytes stored holds
    cases read : twinStart.disk.read path with
    | ok content =>
      obtain ⟨time, file⟩ := exists_holds_of_read read
      exact ⟨content, time, file⟩
    | error error =>
      rw [Holds, free path member (by rw [read]; rfl)] at holds
      cases holds

theorem twin_batch_ignores_order :
    let batch := (twinStart.loadFiles sceneServices twinPaths).value
    let tasks := (twinStart.loadTasks sceneServices twinPaths.reverse).value
    SameBatch batch (twinStart.loadFiles sceneServices twinPaths.reverse).value ∧
    SameBatch batch (twinStart.loadConcurrently sceneServices twinPaths.reverse).value ∧
    ∀ results, tasks.1.Perm results →
      SameBatch batch (tasks.2.collect sceneServices results (errorCount twinStart.log)).value := by
  obtain ⟨installs, orderly⟩ := twinStart_orderly
  exact @batch_ignores_order Desk sceneServices sceneParse scene_deterministic twinStart twinPaths twinPaths.reverse
    orderly.represents.sound (by decide) twinStart_separate (List.reverse_perm _).symm

/-- The copy by way of a directory that is only there once the scene has been loaded. -/
def twinDetour : Path := ⟨"cache/../b.sk"⟩

/-- The copy is found after the scene, but not before it. -/
theorem twin_detour_order :
    ([scenePath, twinDetour].map Path.components).Nodup ∧
    twinLoader.cache.OwnArtifacts [scenePath, twinDetour] twinLoader.disk ∧
    (twinLoader.loadFiles sceneServices [scenePath, twinDetour]).value.1.loaded.files = 2 ∧
    (twinLoader.loadFiles sceneServices [twinDetour, scenePath]).value.1.loaded.files = 1 :=
  ⟨by decide, Cache.ownArtifacts_of_free (by decide +kernel) (by decide +kernel), by decide +kernel,
    by decide +kernel⟩

end Rehearsed

end Loader

end TriggerScript
