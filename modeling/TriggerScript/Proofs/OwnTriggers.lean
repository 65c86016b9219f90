import TriggerScript.Proofs.ArtifactRoundTrip
import TriggerScript.Proofs.LoadSteps
import TriggerScript.Proofs.LoaderLives
import TriggerScript.Proofs.RegistryReplay
import TriggerScript.Proofs.RehearsalServices
import TriggerScript.Proofs.ScriptUnits

/-!
# Triggers and the files they come from

A trigger is removed with the file it says it comes from. A script that is compiled says so truly, and an
artifact repeats what was said when it was written. So all triggers of loaded scripts can be removed as long
as no path finds the artifact of another one.
-/

namespace TriggerScript

open Disk

/-- All triggers of a unit say that they come from a file. -/
def CompiledUnit.IsFrom (unit : CompiledUnit) (path : Path) : Prop :=
  ∀ trigger ∈ unit.triggers, trigger.isFrom path = true

theorem CompiledUnit.IsFrom.same {unit : CompiledUnit} {path other : Path} (isFrom : unit.IsFrom path)
    (same : path.same other = true) : unit.IsFrom other := by
  intro trigger member
  have own := isFrom trigger member
  unfold Trigger.isFrom at own ⊢
  split at own
  · have fileEq := of_decide_eq_true own
    exact decide_eq_true (fileEq.trans (of_decide_eq_true same))
  · cases own

theorem Artifact.current_of_decode {bytes : Bytes} {current : Except IoError Int64} {unit : CompiledUnit}
    (decoded : Artifact.decode bytes current = .ok unit) : ∃ time, current = .ok time := by
  obtain ⟨_, -, continued⟩ := bind_eq_ok.mp decoded
  obtain ⟨time, known, -⟩ := bind_eq_ok.mp continued
  exact ⟨time, mapError_eq_ok.mp known⟩

/-! ## Artifacts -/

namespace Cache

/--
The artifacts in the places of some paths hold triggers of these paths only, and paths that share a place
are the same path.
-/
structure OwnArtifacts (cache : Cache) (paths : List Path) (disk : Disk) : Prop where
  apart : ∀ path ∈ paths, ∀ other ∈ paths,
    cache.place path disk = cache.place other disk → path.same other = true
  own : ∀ path ∈ paths, ∀ bytes time current unit, disk.spot (cache.place path disk) = .file bytes time →
    Artifact.decode bytes (.ok current) = .ok unit → unit.IsFrom path

namespace OwnArtifacts

variable {cache : Cache} {paths : List Path} {disk : Disk}

/-- The unit in an artifact that was read is from the script's path. -/
theorem isFrom (artifacts : cache.OwnArtifacts paths disk) {path : Path} (member : path ∈ paths) {bytes : Bytes}
    {current : Except IoError Int64} {unit : CompiledUnit} (read : disk.read (cache.artifactOf path) = .ok bytes)
    (decoded : Artifact.decode bytes current = .ok unit) : unit.IsFrom path := by
  obtain ⟨stored, holds⟩ := exists_holds_of_read read
  obtain ⟨location, located, file⟩ := look_eq_ok.mp holds
  obtain ⟨time, rfl⟩ := Artifact.current_of_decode decoded
  -- What can be read by the artifact's path stands in its place.
  rw [eq_destination_of_locate located] at file
  exact artifacts.own path member bytes stored time unit file decoded

/-- The disk may change where all that stands in the places of the artifacts stays fit for them. -/
theorem changed (artifacts : cache.OwnArtifacts paths disk) {touched : Location → Prop} {after : Disk}
    (changes : ChangesOnly touched disk after)
    (own : ∀ path ∈ paths, ∀ bytes time current unit, after.spot (cache.place path disk) = .file bytes time →
      Artifact.decode bytes (.ok current) = .ok unit → unit.IsFrom path) :
    cache.OwnArtifacts paths after := by
  have samePlace (path : Path) : cache.place path after = cache.place path disk := changes.destination_eq _ _
  constructor <;> simp only [samePlace]
  · exact artifacts.apart
  · exact own

theorem makeDirectories (artifacts : cache.OwnArtifacts paths disk) (path : Path) :
    cache.OwnArtifacts paths (disk.makeDirectories path).2 := by
  have made := makeNested_changesOnly disk path.ancestors
  exact artifacts.changed made fun script member bytes time current unit stands =>
    artifacts.own script member bytes time current unit ((made.file _ not_false bytes time).mp stands)

theorem dropFile (artifacts : cache.OwnArtifacts paths disk) (path : Path) :
    cache.OwnArtifacts paths (Cache.dropFile path disk) :=
  artifacts.changed (dropFile_spec path disk).1 fun script member bytes time current unit stands =>
    artifacts.own script member bytes time current unit (spot_of_dropFile stands)

theorem store (artifacts : cache.OwnArtifacts paths disk) {path : Path} (member : path ∈ paths) (stamp : Int64)
    {unit : CompiledUnit} (isFrom : unit.IsFrom path) :
    cache.OwnArtifacts paths (cache.store path stamp unit disk).value.2 := by
  obtain ⟨changes, -⟩ := cache.store_spec path stamp unit disk
  refine artifacts.changed changes fun script scriptMember bytes time current found stands decoded => ?_
  by_cases shared : cache.place path disk = cache.place script disk
  · rw [← shared] at stands
    rcases cache.spot_of_store path stands with encoded | before
    · -- The new artifact is the script's own, since the paths are the same.
      rw [Artifact.decode_of_encode encoded] at decoded
      split at decoded
      · cases decoded
        exact isFrom.same (artifacts.apart path member script scriptMember shared)
      · cases decoded
    · rw [shared] at before
      exact artifacts.own script scriptMember bytes time current found before decoded
  · have before := (changes.file _ (Ne.symm shared) bytes time).mp stands
    exact artifacts.own script scriptMember bytes time current found before decoded

end OwnArtifacts

end Cache

/-! ## Triggers of loaded files -/

namespace Registry

/-- A trigger is bound to an event type or left to hooks. -/
def Has (registry : Registry) (trigger : Trigger) : Prop :=
  (∃ eventType, trigger ∈ registry.triggersFor eventType) ∨ trigger ∈ registry.selfRegistered

theorem Represents.exists_install {registry : Registry} {installs : List Install}
    (represents : registry.Represents installs) {trigger : Trigger} (has : registry.Has trigger) :
    ∃ install ∈ installs, trigger ∈ install.unit.triggers := by
  rcases has with ⟨eventType, bound⟩ | hooked
  · rw [triggersFor, represents.dispatch, getD_nonempty?] at bound
    obtain ⟨binding, listed, rfl⟩ := List.mem_map.mp bound
    obtain ⟨install, member, made⟩ := List.mem_flatMap.mp (List.mem_filter.mp listed).1
    exact ⟨install, member, Install.mem_of_bindings made⟩
  · rw [selfRegistered, represents.selfManaged] at hooked
    obtain ⟨hook, listed, rfl⟩ := List.mem_map.mp hooked
    obtain ⟨install, member, made⟩ := List.mem_flatMap.mp listed
    exact ⟨install, member, Install.mem_of_hooked made⟩

theorem Represents.isLoaded {registry : Registry} {installs : List Install}
    (represents : registry.Represents installs) {install : Install} (member : install ∈ installs) {file : Path}
    (sameFile : install.isAt file.components = true) : registry.isLoaded file = true := by
  have filled : installs.filter (Install.isAt file.components) ≠ [] :=
    List.ne_nil_of_mem (List.mem_filter.mpr ⟨member, sameFile⟩)
  rw [Registry.isLoaded, Table.contains, represents.files, recordAt?, nonempty?_of_ne_nil filled]
  rfl

/-- In a registry that holds what installs leave, every trigger comes from a loaded file. -/
theorem Represents.loaded_of_has {registry : Registry} {installs : List Install}
    (represents : registry.Represents installs) {trigger : Trigger} (has : registry.Has trigger) :
    ∃ file, trigger.file = some file ∧ registry.isLoaded file = true := by
  obtain ⟨install, member, made⟩ := represents.exists_install has
  cases source : trigger.file with
  | none =>
    have own := install.own trigger made
    rw [Trigger.isFrom, source] at own
    cases own
  | some file =>
    refine ⟨file, rfl, represents.isLoaded member ?_⟩
    rw [← install.isFrom_eq_isAt made, Trigger.isFrom, source]
    exact decide_eq_true rfl

end Registry

namespace Loader

open Registry (Install Represents)

variable {σ : Type} {services : Services σ} {parse : Bytes → Except IoError Node} {paths : List Path}

/-! ## One load -/

/-- The installs of other files. -/
def others (path : Path) (installs : List Install) : List Install :=
  installs.filter fun install => !install.isAt path.components

/-- The registry holds what some installs leave, and the artifacts of some paths are their own. -/
structure Orderly (paths : List Path) (installs : List Install) (loader : Loader σ) : Prop where
  artifacts : loader.cache.OwnArtifacts paths loader.disk
  represents : loader.registry.Represents installs

/-- A loader is in order again, and what other files have installed is as it was. -/
def Orders (paths : List Path) (path : Path) (installs : List Install) (loader : Loader σ) : Prop :=
  ∃ now, Orderly paths now loader ∧ others path now = others path installs

theorem orders_of_orderly {path : Path} {installs : List Install} {loader : Loader σ}
    (orderly : Orderly paths installs loader) : Orders paths path installs loader := ⟨installs, orderly, rfl⟩

theorem Orders.trans {path : Path} {installs : List Install} {before after : Loader σ}
    (first : Orders paths path installs before)
    (second : ∀ now, Orderly paths now before → Orders paths path now after) :
    Orders paths path installs after := by
  obtain ⟨now, orderly, same⟩ := first
  obtain ⟨final, settled, sameAgain⟩ := second now orderly
  exact ⟨final, settled, sameAgain.trans same⟩

theorem others_append (path : Path) (installs : List Install) {install : Install} (file : install.file = path) :
    others path (installs ++ [install]) = others path installs := by
  simp [others, Install.isAt, file]

theorem others_others (path : Path) (installs : List Install) :
    others path (others path installs) = others path installs := by
  simp [others]

/-- A load begins with what other files have installed. -/
theorem represents_unloadOld {installs : List Install} {loader : Loader σ} (services : Services σ) (path : Path)
    (represents : loader.registry.Represents installs) :
    (loader.unloadOld services path).value.registry.Represents (others path installs) := by
  obtain ⟨registry, state, unloaded, rfl⟩ := unloadOld_spec services path loader
  rw [unloaded]
  dsimp only
  split
  · exact represents.unload path
  · next absent =>
    -- What is not loaded has no installs to be dropped.
    have none : others path installs = installs := by
      refine List.filter_eq_self.mpr fun install member => ?_
      cases sameFile : install.isAt path.components with
      | false => rfl
      | true => exact absurd (represents.isLoaded member sameFile) absent
    rwa [none]

theorem Orderly.unloadOld {installs : List Install} {loader : Loader σ} (orderly : Orderly paths installs loader)
    (services : Services σ) (path : Path) : Orders paths path installs (loader.unloadOld services path).value := by
  have represents := represents_unloadOld services path orderly.represents
  obtain ⟨registry, state, unloaded, -⟩ := unloadOld_spec services path loader
  rw [unloaded] at represents ⊢
  exact ⟨_, ⟨orderly.artifacts, represents⟩, others_others path installs⟩

/-- The registry after a unit of a path's own was installed. -/
theorem represents_afterInstall {registry : Registry} {installs : List Install} {path : Path} {unit : CompiledUnit}
    (represents : registry.Represents installs) (isFrom : unit.IsFrom path) (infos : List EventInfo) :
    (registry.afterInstall path unit infos).Represents (installs ++ [⟨⟨path, unit, infos⟩, isFrom⟩]) :=
  represents.install ⟨⟨path, unit, infos⟩, isFrom⟩

theorem isFrom_listedUnit (grammar : Grammar) {unit : CompiledUnit} {path : Path} (isFrom : unit.IsFrom path) :
    (grammar.listedUnit unit).IsFrom path := by
  intro trigger member
  obtain ⟨pair, listed, rfl⟩ := List.mem_map.mp member
  obtain ⟨source, sourceMember, found⟩ := List.mem_filterMap.mp listed
  obtain ⟨info, -, rfl⟩ := Option.map_eq_some_iff.mp found
  exact isFrom source sourceMember

theorem Orderly.loadFresh (proper : services.commands.Advances) (reader : services.reader = .ofParser parse)
    {installs : List Install} {loader : Loader σ} (orderly : Orderly paths installs loader) {path : Path}
    (member : path ∈ paths) : Orders paths path installs (loader.loadFresh services path).value.2 := by
  cases read : loader.disk.read path >>= parse with
  | error error =>
    rw [(loadFresh_error reader read).1]
    exact orders_of_orderly orderly
  | ok root =>
    obtain ⟨log, installed⟩ := installTree_value services path root loader
    rw [(loadFresh_ok reader read).1, finishLoad_value, installed]
    have isFrom := Compile.compileFile_isFrom proper path root loader.values loader.state
    generalize (Compile.compileFile services path root loader.values loader.state).value = compiled at isFrom ⊢
    have listedFrom := isFrom_listedUnit services.grammar isFrom
    have stored (stamp : Int64) := orderly.artifacts.store member stamp listedFrom
    refine ⟨_, ⟨?_, represents_afterInstall orderly.represents listedFrom _⟩, others_append path installs rfl⟩
    -- The disk changes only where an artifact is stored, and that holds the path's own unit.
    have artifacts := orderly.artifacts
    dsimp only [cache] at artifacts stored ⊢
    split
    · split
      · exact stored _
      · exact artifacts
    · exact artifacts

theorem Orderly.loadCached {installs : List Install} {loader : Loader σ} (orderly : Orderly paths installs loader)
    (services : Services σ) {path : Path} (member : path ∈ paths) :
    Orders paths path installs (loader.loadCached services path).value.2 := by
  rw [loadCached_eq]
  have tried := loadFound_spec services path (loader.disk.read (loader.cache.artifactOf path)) loader
  generalize hookCalls _ = hooks at tried
  generalize (loader.loadFound services path (loader.disk.read (loader.cache.artifactOf path))).value = outcome
    at tried ⊢
  cases tried with
  | hit read decoded resolved =>
    have isFrom := orderly.artifacts.isFrom member read decoded
    exact ⟨_, ⟨orderly.artifacts, represents_afterInstall orderly.represents isFrom _⟩,
      others_append path installs rfl⟩
  | @miss result state disk none left =>
    have artifacts : loader.cache.OwnArtifacts paths disk := by
      rcases left with ⟨rfl, -⟩ | dropped
      · exact orderly.artifacts
      · rw [dropped]
        exact orderly.artifacts.dropFile _
    exact orders_of_orderly ⟨artifacts, orderly.represents⟩

/-- A load keeps the loader in order, and leaves alone what other files have installed. -/
theorem Orderly.loadScript (proper : services.commands.Advances) (reader : services.reader = .ofParser parse)
    {installs : List Install} {loader : Loader σ} (orderly : Orderly paths installs loader) {path : Path}
    (member : path ∈ paths) : Orders paths path installs (loader.loadScript services path).value.2 := by
  refine (orderly.unloadOld services path).trans fun now unloaded => ?_
  cases caching : loader.config.enableCaching with
  | false =>
    rw [loadScript_without_cache caching]
    exact unloaded.loadFresh proper reader member
  | true =>
    have cached := unloaded.loadCached services member
    cases outcome : ((loader.unloadOld services path).value.loadCached services path).value with
    | mk result after =>
      rw [outcome] at cached
      -- After a miss the script is compiled on what the attempt has left.
      by_cases hit : ∃ info, result = .ok (some info)
      · obtain ⟨info, rfl⟩ := hit
        rw [(loadScript_of_hit caching outcome).1]
        exact cached
      · rw [(loadScript_of_miss caching (not_exists.mp hit) outcome).1]
        exact cached.trans fun _ missed => missed.loadFresh proper reader member

/-! ## Whole lives -/

theorem Orderly.subscribe {installs : List Install} {loader : Loader σ} (orderly : Orderly paths installs loader)
    (services : Services σ) : Orderly paths installs (loader.subscribe services).value :=
  ⟨orderly.artifacts, orderly.represents.subscribe services.host⟩

theorem Orderly.unload {installs : List Install} {loader : Loader σ} (orderly : Orderly paths installs loader)
    (services : Services σ) (path : Path) :
    Orderly paths (others path installs) (loader.unload services path).value.2 where
  artifacts := orderly.artifacts
  represents := by
    simp only [Loader.unload, Recorded.value_bind, Recorded.value_pure, Registry.unload_eq_afterUnload]
    exact orderly.represents.unload path

/-- Every step leaves the loader in order, as long as others keep out of it. -/
theorem Orderly.step (proper : services.commands.Advances) (reader : services.reader = .ofParser parse)
    {installs : List Install} {loader after : Loader σ} {deed : Deed} {activity : List Activity}
    (orderly : Orderly paths installs loader) (step : Step services loader deed activity after)
    (stays : deed.StaysWithin paths) : ∃ now, Orderly paths now after := by
  cases step with
  | load path =>
    obtain ⟨now, ordered, -⟩ := orderly.loadScript proper reader stays
    exact ⟨now, ordered⟩
  | unload path => exact ⟨_, orderly.unload services path⟩
  | subscribe => exact ⟨installs, orderly.subscribe services⟩
  | report log noted => exact ⟨installs, orderly.artifacts, orderly.represents⟩
  | makeDirectory path => exact ⟨installs, orderly.artifacts.makeDirectories path, orderly.represents⟩
  | edit disk values state => exact stays.elim

theorem Orderly.life (proper : services.commands.Advances) (reader : services.reader = .ofParser parse)
    {installs : List Install} {start loader : Loader σ} {deeds : List Deed} {journal : List Activity}
    (orderly : Orderly paths installs start) (life : Life services (Within paths) start deeds journal loader) :
    ∃ now, Orderly paths now loader := by
  induction life with
  | born => exact ⟨installs, orderly⟩
  | step _ step stays earlier =>
    obtain ⟨now, ordered⟩ := earlier
    exact ordered.step proper reader step stays

/--
The loader starts with nothing loaded and loads some scripts, in whatever way and order. At first the artifacts of the
scripts are their own, and no two of them share one. Then in the end every trigger comes from a file that is loaded;
and to load one of the scripts and to unload it comes to the same as to unload it.
-/
theorem life_leaves_no_orphans (proper : services.commands.Advances)
    (reader : services.reader = .ofParser parse) {start final : Loader σ} {deeds : List Deed} {journal : List Activity}
    (empty : start.registry = {}) (artifacts : start.cache.OwnArtifacts paths start.disk)
    (life : Life services (Within paths) start deeds journal final) :
    (∀ trigger, final.registry.Has trigger →
      ∃ file, trigger.file = some file ∧ final.registry.isLoaded file = true) ∧
    ∀ path ∈ paths,
      ((final.loadScript services path).value.2.unload services path).value.2.registry.Agrees
        (final.unload services path).value.2.registry := by
  have first : Orderly paths [] start := ⟨artifacts, empty ▸ Registry.represents_empty⟩
  obtain ⟨installs, orderly⟩ := first.life proper reader life
  refine ⟨fun trigger => orderly.represents.loaded_of_has, fun path member => ?_⟩
  obtain ⟨now, loaded, same⟩ := orderly.loadScript proper reader member
  -- Once the path is unloaded, both registries hold what the other files have installed.
  have unloaded := (loaded.unload services path).represents
  rw [same] at unloaded
  exact unloaded.agrees (orderly.unload services path).represents

section Rehearsed

open Rehearsal

/-- The scene was loaded in a batch and reloaded, and then a file that was never loaded was unloaded. -/
def sceneServed : Loader Desk :=
  let batch := (sceneLoader.serve sceneServices (.loadFiles [scenePath])).value
  let again := (batch.serve sceneServices (.reload scenePath)).value
  (again.serve sceneServices (.unload ⟨"b.sk"⟩)).value

theorem sceneServed_life :
    ∃ deeds journal, Life sceneServices (Within [scenePath]) sceneLoader deeds journal sceneServed := by
  obtain ⟨deeds, life, touched⟩ := (serve_lives sceneServices sceneLoader (.loadFiles [scenePath])).trans
    (serve_lives sceneServices _ (.reload scenePath))
  have only : ∀ path ∈ deeds.filterMap Deed.path?, path ∈ [scenePath] := by simp [touched, touches]
  have within := life.within only
  unfold sceneServed
  dsimp only
  generalize (serve sceneServices (serve sceneServices sceneLoader _).value _).value = again at within ⊢
  exact ⟨_, _, within.step (.unload ⟨"b.sk"⟩) trivial⟩

theorem scene_ownArtifacts : sceneLoader.cache.OwnArtifacts [scenePath] sceneLoader.disk := by
  have free : sceneLoader.disk.spot (sceneLoader.cache.place scenePath sceneLoader.disk) = .free := by
    decide +kernel
  constructor
  · intro path member other otherMember _
    rw [List.mem_singleton.mp member, List.mem_singleton.mp otherMember]
    exact decide_eq_true rfl
  · intro path member bytes time current unit stands
    rw [List.mem_singleton.mp member, free] at stands
    cases stands

theorem scene_leaves_no_orphans :
    (∀ trigger, sceneServed.registry.Has trigger →
      ∃ file, trigger.file = some file ∧ sceneServed.registry.isLoaded file = true) ∧
    ∀ path ∈ [scenePath],
      ((sceneServed.loadScript sceneServices path).value.2.unload sceneServices path).value.2.registry.Agrees
        (sceneServed.unload sceneServices path).value.2.registry := by
  obtain ⟨deeds, journal, life⟩ := sceneServed_life
  exact @life_leaves_no_orphans Desk sceneServices sceneParse [scenePath] (commands_advances _ _) rfl sceneLoader
    sceneServed deeds journal rfl scene_ownArtifacts life

/-- The scene was loaded and unloaded, and then again under another spelling of its path. -/
def sceneRespelled : Loader Desk :=
  let once := ((sceneLoader.loadScript sceneServices scenePath).value.2.unload sceneServices scenePath).value.2
  ((once.loadScript sceneServices ⟨"./a.sk"⟩).value.2.unload sceneServices ⟨"./a.sk"⟩).value.2

theorem scene_respelled_hooks :
    sceneRespelled.registry.selfRegistered.map Trigger.file = [some scenePath] ∧
      sceneRespelled.registry.isLoaded scenePath = false := by
  decide +kernel

/-- By the other spelling the script found its artifact, and triggers that it could not unload. -/
theorem scene_orphaned :
    ∃ trigger, sceneRespelled.registry.Has trigger ∧
      ¬ ∃ file, trigger.file = some file ∧ sceneRespelled.registry.isLoaded file = true := by
  obtain ⟨files, unloaded⟩ := scene_respelled_hooks
  have member : some scenePath ∈ sceneRespelled.registry.selfRegistered.map Trigger.file := by
    rw [files]
    exact List.mem_singleton_self _
  obtain ⟨trigger, hooked, source⟩ := List.mem_map.mp member
  refine ⟨trigger, .inr hooked, ?_⟩
  rintro ⟨file, same, loaded⟩
  cases source.symm.trans same
  rw [unloaded] at loaded
  cases loaded

end Rehearsed

end Loader

end TriggerScript
