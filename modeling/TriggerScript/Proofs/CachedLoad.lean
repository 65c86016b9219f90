import TriggerScript.Proofs.ArtifactRoundTrip
import TriggerScript.Proofs.DefaultVariables
import TriggerScript.Proofs.LoadSteps
import TriggerScript.Proofs.RehearsalServices
import TriggerScript.Proofs.ScriptUnits

/-!
# Loads with and without the artifact

An artifact that a load left behind holds what the script compiles to. So a load that finds it comes to
the same as one that does not.
-/

namespace TriggerScript.Loader

open Disk

variable {σ : Type} {services : Services σ} {parse : Bytes → Except IoError Node} {path : Path}

/-- A load was not served from an artifact. -/
def Compiles (services : Services σ) (path : Path) (loader : Loader σ) : Prop :=
  ∀ info, ((loader.unloadOld services path).value.loadCached services path).value.1 ≠ .ok (some info)

/-- An artifact was made of a script's content at a time, without errors, leaving some variables. -/
def MadeFrom (services : Services σ) (parse : Bytes → Except IoError Node) (path : Path) (content : Bytes)
    (time : Int) (left : Variables) (bytes : Bytes) : Prop :=
  ∃ root values state, parse content = .ok root ∧
    let compiled := (Compile.compileFile services path root values state).value
    Artifact.encode? (wholeMillis time) compiled.1 = some bytes ∧
      services.grammar.ListsAll compiled.1.triggers ∧
      errorCount compiled.2.context.diagnostics = 0 ∧ compiled.2.values = left

/-! ## Artifacts that loads leave -/

/-- The artifact that appears while a script is compiled is made from the script. -/
theorem madeFrom_of_loadFresh (reader : services.reader = .ofParser parse) {loader : Loader σ}
    {content bytes : Bytes} {time stored : Int} (script : loader.disk.Holds path content time)
    (gone : ∀ bytes stored, ¬ loader.disk.Holds (loader.cache.artifactOf path) bytes stored)
    (left : (loader.loadFresh services path).value.2.disk.Holds (loader.cache.artifactOf path) bytes stored) :
    MadeFrom services parse path content time (loader.loadFresh services path).value.2.values bytes := by
  have read := script.read_bind parse
  cases parsed : parse content with
  | error error =>
    rw [(loadFresh_error reader (read.trans parsed)).1] at left
    exact absurd left (gone bytes stored)
  | ok root =>
    rw [(loadFresh_ok reader (read.trans parsed)).1] at left ⊢
    obtain ⟨log, installed⟩ := installTree_value services path root loader
    rw [installed, finishLoad_value, script.modifiedMillis] at left ⊢
    refine ⟨root, loader.values, loader.state, parsed, ?_⟩
    dsimp only [Except.toOption, cache] at left ⊢
    generalize (Compile.compileFile services path root loader.values loader.state).value = compiled at left ⊢
    split at left
    · next stores =>
      -- Without errors all triggers are listed, so the unit that is stored is the one compiled.
      obtain ⟨clean, same⟩ := of_decide_eq_true (Bool.and_eq_true_iff.mp stores).2
      have all := Grammar.listsAll_of_length same
      rw [all.listedUnit_eq] at left
      have stores := Cache.store_spec ⟨loader.config.cacheDir⟩ path (wholeMillis time) compiled.1 loader.disk
      exact ⟨stores.2 bytes stored left, all, clean, rfl⟩
    · exact absurd left (gone bytes stored)

/-- A load that finds no good artifact starts without one. -/
theorem loadScript_of_compiles {loader : Loader σ} (caching : loader.config.enableCaching = true)
    (compiles : loader.Compiles services path) :
    ∃ state disk,
      let start := { (loader.unloadOld services path).value with state, disk }
      (loader.loadScript services path).value = (start.loadFresh services path).value ∧
        hookCalls (loader.loadScript services path).activity =
          hookCalls (loader.unloadOld services path).activity ++ hookCalls (start.loadFresh services path).activity ∧
        ChangesOnly (· = loader.cache.place path loader.disk) loader.disk disk ∧
        (∀ content time, ¬ disk.Holds (loader.cache.artifactOf path) content time) ∧
        (start.loadFresh services path).activity <:+ (loader.loadScript services path).activity := by
  obtain ⟨registry, unloadedState, unloaded, -⟩ := unloadOld_spec services path loader
  have cached := loadCached_spec services path (loader.unloadOld services path).value
  cases outcome : ((loader.unloadOld services path).value.loadCached services path).value with
  | mk result after =>
    have none : ∀ info, result ≠ .ok (some info) := fun info same =>
      compiles info (by rw [outcome, same])
    obtain ⟨sameValue, hooks, ends⟩ := loadScript_of_miss caching none outcome
    rw [outcome] at cached
    generalize hookCalls ((loader.unloadOld services path).value.loadCached services path).activity = called
      at cached hooks
    cases cached with
    | hit read decoded resolved => exact absurd rfl (none _)
    | @miss _ state disk _ changes gone =>
      refine ⟨state, disk, sameValue, hooks, ?_, ?_, ends⟩
      · rw [unloaded] at changes
        exact changes
      · rw [unloaded] at gone
        exact gone

/-- The artifact behind a load that compiled the script is made from the script. -/
theorem madeFrom_of_compiles (reader : services.reader = .ofParser parse) {loader : Loader σ}
    {content bytes : Bytes} {time stored : Int} (caching : loader.config.enableCaching = true)
    (script : loader.disk.Holds path content time) (compiles : loader.Compiles services path)
    (left : (loader.loadScript services path).value.2.disk.Holds (loader.cache.artifactOf path) bytes stored) :
    MadeFrom services parse path content time (loader.loadScript services path).value.2.values bytes := by
  obtain ⟨state, disk, sameValue, -, changes, gone, -⟩ := loadScript_of_compiles caching compiles
  have sameCache : ({ (loader.unloadOld services path).value with state, disk } : Loader σ).cache = loader.cache := by
    rw [cache, cache]
    exact congrArg (fun config : Config => Cache.mk config.cacheDir) (config_unloadOld services path loader)
  rw [sameValue] at left ⊢
  rw [← sameCache] at left gone
  exact madeFrom_of_loadFresh reader
    (changes.holds (loader.cache.place_ne_script path script) script) gone left

/-! ## What a load comes to -/

/-- A script that compiles to a unit, all of whose triggers are listed, is installed as that unit. -/
theorem loadFresh_outcome (proper : services.commands.SpareHooks) (reader : services.reader = .ofParser parse)
    {loader : Loader σ} {content : Bytes} {time : Int} {root : Node} {unit : CompiledUnit}
    (script : loader.disk.Holds path content time) (parsed : parse content = .ok root)
    (compiles : (Compile.compileFile services path root loader.values loader.state).value.1 = unit)
    (all : services.grammar.ListsAll unit.triggers) :
    (loader.loadFresh services path).value.1 = .ok (.of unit) ∧
      (loader.loadFresh services path).value.2.registry =
        loader.registry.afterInstall path unit (services.grammar.entriesOf unit) ∧
      hookCalls (loader.loadFresh services path).activity =
        Registry.hookOrders unit (services.grammar.entriesOf unit) := by
  have read : (loader.disk.read path >>= parse) = .ok root := (script.read_bind parse).trans parsed
  obtain ⟨fresh, hooks⟩ := loadFresh_ok reader read
  obtain ⟨log, installed⟩ := installTree_value services path root loader
  rw [fresh, hooks, installTree_hookCalls proper, finishLoad_value, installed, compiles, all.listedUnit_eq]
  exact ⟨rfl, rfl, rfl⟩

/-- Without an artifact a script is compiled. -/
theorem compiles_of_gone {loader : Loader σ}
    (gone : ∀ bytes stored, ¬ loader.disk.Holds (loader.cache.artifactOf path) bytes stored) :
    loader.Compiles services path := by
  intro info hit
  obtain ⟨registry, state, unloaded, -⟩ := unloadOld_spec services path loader
  have cached := loadCached_spec services path (loader.unloadOld services path).value
  generalize hookCalls _ = called at cached
  generalize ((loader.unloadOld services path).value.loadCached services path).value = outcome at cached hit
  cases cached with
  | miss none changes gone => exact none info hit
  | hit read decoded resolved =>
    rw [unloaded] at read
    obtain ⟨stored, holds⟩ := exists_holds_of_read read
    exact gone _ stored holds

/-- A load from an artifact takes the unit in it, and leaves the variables and the log alone. -/
theorem loadScript_of_not_compiles {loader : Loader σ} (caching : loader.config.enableCaching = true)
    (served : ¬ loader.Compiles services path) :
    ∃ bytes unit infos, loader.disk.read (loader.cache.artifactOf path) = .ok bytes ∧
      Artifact.decode bytes (loader.disk.modifiedMillis path) = .ok unit ∧
      (Registry.resolve services.grammar unit.triggers).value = .ok infos ∧
      (loader.loadScript services path).value.1 = .ok (.of unit) ∧
      (loader.loadScript services path).value.2.registry =
        (loader.unloadOld services path).value.registry.afterInstall path unit infos ∧
      (loader.loadScript services path).value.2.values = loader.values ∧
      (loader.loadScript services path).value.2.log = loader.log ∧
      hookCalls (loader.loadScript services path).activity =
        hookCalls (loader.unloadOld services path).activity ++ Registry.hookOrders unit infos := by
  obtain ⟨info, hit⟩ := not_forall_not.mp served
  obtain ⟨registry, unloadedState, unloaded, -⟩ := unloadOld_spec services path loader
  have cached := loadCached_spec services path (loader.unloadOld services path).value
  cases outcome : ((loader.unloadOld services path).value.loadCached services path).value with
  | mk result after =>
    rw [outcome] at hit cached
    cases hit
    obtain ⟨value, hooks⟩ := loadScript_of_hit caching outcome
    rw [value, hooks]
    generalize hookCalls ((loader.unloadOld services path).value.loadCached services path).activity = called
      at cached ⊢
    cases cached with
    | miss none changes gone => exact absurd rfl (none _)
    | hit read decoded resolved =>
      rw [unloaded] at read decoded ⊢
      exact ⟨_, _, _, read, decoded, resolved, rfl, rfl, rfl, rfl, rfl⟩

/-- An artifact with the time of its script as its stamp is good. -/
theorem load_of_encode {loader : Loader σ} {content bytes : Bytes} {time stored : Int} {unit : CompiledUnit}
    (encoded : Artifact.encode? (wholeMillis time) unit = some bytes) (script : loader.disk.Holds path content time)
    (artifact : loader.disk.Holds (loader.cache.artifactOf path) bytes stored) :
    (loader.cache.load path loader.disk).value.1 = .ok (some unit) := by
  have decoded := Artifact.decode_of_encode encoded (wholeMillis time)
  rw [if_pos rfl] at decoded
  simp [Cache.load, Cache.examine, artifact.read, script.modifiedMillis, decoded]

/-- With an artifact made from its script or without one, a load comes to the same. -/
theorem loadScript_outcome (proper : services.commands.SpareHooks) (reader : services.reader = .ofParser parse)
    {loader : Loader σ} {content : Bytes} {time : Int} {root : Node} {unit : CompiledUnit}
    (caching : loader.config.enableCaching = true)
    (script : loader.disk.Holds path content time) (parsed : parse content = .ok root)
    (compiles : ∀ values state, (Compile.compileFile services path root values state).value.1 = unit)
    (all : services.grammar.ListsAll unit.triggers)
    (own : ∀ bytes stored, loader.disk.Holds (loader.cache.artifactOf path) bytes stored →
      Artifact.encode? (wholeMillis time) unit = some bytes) :
    (loader.loadScript services path).value.1 = .ok (.of unit) ∧
      (loader.loadScript services path).value.2.registry =
        (loader.unloadOld services path).value.registry.afterInstall path unit (services.grammar.entriesOf unit) ∧
      hookCalls (loader.loadScript services path).activity =
        hookCalls (loader.unloadOld services path).activity ++
          Registry.hookOrders unit (services.grammar.entriesOf unit) := by
  by_cases compiled : loader.Compiles services path
  · obtain ⟨state, disk, value, hooks, changes, -⟩ := loadScript_of_compiles caching compiled
    let start : Loader σ := { (loader.unloadOld services path).value with state, disk }
    have still : start.disk.Holds path content time :=
      changes.holds (loader.cache.place_ne_script path script) script
    obtain ⟨result, registry, orders⟩ := loadFresh_outcome proper reader still parsed (compiles _ _) all
    rw [value, hooks, orders]
    exact ⟨result, registry, rfl⟩
  · obtain ⟨bytes, found, infos, read, decoded, resolved, result, registry, -, -, hooks⟩ :=
      loadScript_of_not_compiles caching compiled
    obtain ⟨stored, holds⟩ := exists_holds_of_read read
    -- The stamp is the time of the script, so what is decoded is what was encoded.
    have unitEq : found = unit := by
      rw [script.modifiedMillis, Artifact.decode_of_encode (own bytes stored holds), if_pos rfl] at decoded
      exact (Except.ok.inj decoded).symm
    subst unitEq
    rw [Registry.resolve_value all] at resolved
    cases resolved
    exact ⟨result, registry, hooks⟩

/-- What is unloaded does not depend on the disk. -/
theorem unloadOld_withDisk (services : Services σ) (path : Path) (loader : Loader σ) (disk : Disk) :
    (({ loader with disk } : Loader σ).unloadOld services path).value.registry =
        (loader.unloadOld services path).value.registry ∧
      (({ loader with disk } : Loader σ).unloadOld services path).activity =
        (loader.unloadOld services path).activity := by
  unfold unloadOld
  split <;> exact ⟨rfl, rfl⟩

theorem discardArtifact_spec {loader : Loader σ} {content : Bytes} {time : Int}
    (script : loader.disk.Holds path content time) :
    ∃ disk, (loader.discardArtifact path).value = { loader with disk } ∧ disk.Holds path content time ∧
      ∀ bytes stored, ¬ disk.Holds (loader.cache.artifactOf path) bytes stored := by
  obtain ⟨changes, -, gone⟩ := Cache.dropFile_spec (loader.cache.artifactOf path) loader.disk
  rw [← Cache.discard_value] at changes gone
  exact ⟨_, rfl, changes.holds (loader.cache.place_ne_script path script) script, gone⟩

/--
An artifact was left by a load that compiled its script, and neither has changed since. Then it is
found to be good, and a load comes to the same with it and without it: the same counts are returned,
the registry holds the same, and the same hooks are called in the same order.
-/
theorem loadScript_eq_without_artifact (steady : services.Steady) (proper : services.commands.SpareHooks)
    (reader : services.reader = .ofParser parse) {earlier now : Loader σ} {content bytes : Bytes}
    {time stored kept : Int} (caching : earlier.config.enableCaching = true)
    (script : earlier.disk.Holds path content time) (compiled : earlier.Compiles services path)
    (left : (earlier.loadScript services path).value.2.disk.Holds (earlier.cache.artifactOf path) bytes stored)
    (sameConfig : now.config = earlier.config) (sameScript : now.disk.Holds path content time)
    (sameArtifact : now.disk.Holds (now.cache.artifactOf path) bytes kept) :
    let cached := now.loadScript services path
    let fresh := (now.discardArtifact path).value.loadScript services path
    (∃ unit, (now.cache.load path now.disk).value.1 = .ok (some unit) ∧
        cached.value.1 = .ok (.of unit) ∧ fresh.value.1 = .ok (.of unit)) ∧
      (now.discardArtifact path).value.Compiles services path ∧
      cached.value.2.registry = fresh.value.2.registry ∧
      hookCalls cached.activity = hookCalls fresh.activity := by
  obtain ⟨root, values, state, parsed, encoded, all, -, -⟩ := madeFrom_of_compiles reader caching script compiled left
  have unitEq (values' : Variables) (state' : σ) :=
    Compile.compileFile_unit_eq steady path root values' values state' state
  generalize (Compile.compileFile services path root values state).value.1 = unit at encoded all unitEq
  rw [← sameConfig] at caching
  have own (other : Bytes) (otherKept : Int) (holds : now.disk.Holds (now.cache.artifactOf path) other otherKept) :
      Artifact.encode? (wholeMillis time) unit = some other := by
    cases sameArtifact.symm.trans holds
    exact encoded
  obtain ⟨cachedResult, cachedRegistry, cachedHooks⟩ :=
    loadScript_outcome proper reader caching sameScript parsed unitEq all own
  -- The other load starts from a disk without the artifact.
  obtain ⟨disk, discarded, still, gone⟩ := discardArtifact_spec sameScript
  let start : Loader σ := { now with disk }
  have startCaching : start.config.enableCaching = true := caching
  have startScript : start.disk.Holds path content time := still
  have startGone : ∀ other otherKept, ¬ start.disk.Holds (start.cache.artifactOf path) other otherKept := gone
  obtain ⟨freshResult, freshRegistry, freshHooks⟩ := loadScript_outcome proper reader startCaching startScript
    parsed unitEq all fun other otherKept holds => absurd holds (startGone other otherKept)
  obtain ⟨sameRegistry, sameActivity⟩ := unloadOld_withDisk services path now disk
  dsimp only
  rw [discarded, cachedRegistry, cachedHooks, freshRegistry, freshHooks, sameRegistry, sameActivity]
  exact ⟨⟨unit, load_of_encode encoded sameScript sameArtifact, cachedResult, freshResult⟩,
    compiles_of_gone startGone, rfl, rfl⟩

section Rehearsed

open Rehearsal

/-- The loader of the rehearsal, once the scene was loaded. -/
def sceneLoaded : Loader Desk := (sceneLoader.loadScript sceneServices scenePath).value.2

def sceneArtifact : Bytes := (sceneLoaded.disk.read (sceneLoaded.cache.artifactOf scenePath)).toOption.getD []

theorem scene_loaded :
    sceneLoaded.config = sceneLoader.config ∧
      sceneLoaded.disk.look scenePath = .ok (.file sceneContent 1000000) ∧
      sceneLoaded.disk.look (sceneLoaded.cache.artifactOf scenePath) = .ok (.file sceneArtifact 0) := by
  decide +kernel

theorem commands_spareHooks (grammar : Grammar) (refused : List String) : (commands grammar refused).SpareHooks :=
  commands_keep Activity.sparesHooks_of_isCompilation grammar refused fun _ => rfl

theorem scene_compiles : sceneLoader.Compiles sceneServices scenePath :=
  compiles_of_gone scene_without_artifact

theorem scene_left : (sceneLoader.loadScript sceneServices scenePath).value.2.disk.Holds
    (sceneLoader.cache.artifactOf scenePath) sceneArtifact 0 := by
  obtain ⟨config, -, artifact⟩ := scene_loaded
  have sameCache : sceneLoaded.cache = sceneLoader.cache := by rw [cache, cache, config]
  rw [sameCache] at artifact
  rw [← sceneLoaded]
  exact artifact

/-- The scene is loaded a second time, over its first copy. -/
theorem scene_again_eq_without_artifact :
    let again := sceneLoaded.loadScript sceneServices scenePath
    let fresh := (sceneLoaded.discardArtifact scenePath).value.loadScript sceneServices scenePath
    (∃ unit, (sceneLoaded.cache.load scenePath sceneLoaded.disk).value.1 = .ok (some unit) ∧
        again.value.1 = .ok (.of unit) ∧ fresh.value.1 = .ok (.of unit)) ∧
      (sceneLoaded.discardArtifact scenePath).value.Compiles sceneServices scenePath ∧
      again.value.2.registry = fresh.value.2.registry ∧
      hookCalls again.activity = hookCalls fresh.activity :=
  @loadScript_eq_without_artifact Desk sceneServices sceneParse scenePath (plainServices_steady _)
    (commands_spareHooks _ _) rfl sceneLoader sceneLoaded sceneContent sceneArtifact 1000000 0 0 rfl scene_script
    scene_compiles scene_left scene_loaded.1 scene_loaded.2.1 scene_loaded.2.2

end Rehearsed

/-! ## Variables -/

theorem loadFresh_addsOnly (reader : services.reader = .ofParser parse) {loader : Loader σ} {content : Bytes}
    {time : Int} {root : Node} (script : loader.disk.Holds path content time) (parsed : parse content = .ok root) :
    Variables.AddsOnly (Compile.defaultNames services.classes root.children) loader.values
      (loader.loadFresh services path).value.2.values := by
  have read : (loader.disk.read path >>= parse) = .ok root := (script.read_bind parse).trans parsed
  obtain ⟨log, installed⟩ := installTree_value services path root loader
  rw [(loadFresh_ok reader read).1, finishLoad_value, installed]
  exact Compile.compileFile_addsOnly services path root loader.values loader.state

/-- A load gives values to default variables of its script only, and only where they have none. -/
theorem loadScript_addsOnly (reader : services.reader = .ofParser parse) {loader : Loader σ} {content : Bytes}
    {time : Int} {root : Node} (caching : loader.config.enableCaching = true)
    (script : loader.disk.Holds path content time) (parsed : parse content = .ok root) :
    Variables.AddsOnly (Compile.defaultNames services.classes root.children) loader.values
      (loader.loadScript services path).value.2.values := by
  by_cases compiled : loader.Compiles services path
  · obtain ⟨registry, unloadedState, unloaded, -⟩ := unloadOld_spec services path loader
    obtain ⟨state, disk, value, -, changes, -⟩ := loadScript_of_compiles caching compiled
    let start : Loader σ := { (loader.unloadOld services path).value with state, disk }
    have still : start.disk.Holds path content time :=
      changes.holds (loader.cache.place_ne_script path script) script
    have sameValues : (loader.unloadOld services path).value.values = loader.values := by rw [unloaded]
    rw [value, ← sameValues]
    exact loadFresh_addsOnly reader still parsed
  · obtain ⟨_, _, _, _, _, _, _, _, values, -⟩ := loadScript_of_not_compiles caching compiled
    rw [values]
    exact .refl _ loader.values

/--
An artifact was left by a load that compiled its script, and neither has changed since. Then the load has
left values for all default variables of the script, and the artifact is found to be good. With it and
without it, another load leaves alone every variable that is no default variable of the script or has a
value; a load that is served from it leaves alone all of them.
-/
theorem loadScript_variables_without_artifact (proper : services.commands.Advances)
    (reader : services.reader = .ofParser parse) {earlier now : Loader σ} {content bytes : Bytes}
    {time stored kept : Int} (caching : earlier.config.enableCaching = true)
    (script : earlier.disk.Holds path content time) (compiled : earlier.Compiles services path)
    (left : (earlier.loadScript services path).value.2.disk.Holds (earlier.cache.artifactOf path) bytes stored)
    (sameConfig : now.config = earlier.config) (sameScript : now.disk.Holds path content time)
    (sameArtifact : now.disk.Holds (now.cache.artifactOf path) bytes kept) :
    let cached := now.loadScript services path
    let fresh := (now.discardArtifact path).value.loadScript services path
    ∃ root, parse content = .ok root ∧
      (∀ name ∈ Compile.defaultNames services.classes root.children,
        ((earlier.loadScript services path).value.2.values.find? name).isSome) ∧
      (∃ unit, (now.cache.load path now.disk).value.1 = .ok (some unit)) ∧
      (¬ now.Compiles services path → cached.value.2.values = now.values) ∧
      ∀ name, name ∉ Compile.defaultNames services.classes root.children ∨ (now.values.find? name).isSome →
        cached.value.2.values.find? name = now.values.find? name ∧
          fresh.value.2.values.find? name = now.values.find? name := by
  obtain ⟨root, values, state, parsed, encoded, -, clean, leaves⟩ :=
    madeFrom_of_compiles reader caching script compiled left
  rw [← sameConfig] at caching
  obtain ⟨disk, discarded, still, -⟩ := discardArtifact_spec sameScript
  let start : Loader σ := { now with disk }
  have startCaching : start.config.enableCaching = true := caching
  have startScript : start.disk.Holds path content time := still
  refine ⟨root, parsed, fun name named => ?_, ⟨_, load_of_encode encoded sameScript sameArtifact⟩,
    fun served => ?_, fun name exempt => ⟨?_, ?_⟩⟩
  · rw [← leaves]
    exact Compile.compileFile_defines proper clean named
  · obtain ⟨_, _, _, _, _, _, _, _, values, -⟩ := loadScript_of_not_compiles caching served
    exact values
  · exact loadScript_addsOnly reader caching sameScript parsed name exempt
  · rw [discarded]
    exact loadScript_addsOnly reader startCaching startScript parsed name exempt

section Rehearsed

open Rehearsal

/-- The loaded scene has a value for its default variable, so both loads leave it alone. -/
theorem scene_again_variables :
    let cached := sceneLoaded.loadScript sceneServices scenePath
    let fresh := (sceneLoaded.discardArtifact scenePath).value.loadScript sceneServices scenePath
    ∃ root, sceneParse sceneContent = .ok root ∧
      (∀ name ∈ Compile.defaultNames sceneServices.classes root.children,
        ((sceneLoader.loadScript sceneServices scenePath).value.2.values.find? name).isSome) ∧
      (∃ unit, (sceneLoaded.cache.load scenePath sceneLoaded.disk).value.1 = .ok (some unit)) ∧
      (¬ sceneLoaded.Compiles sceneServices scenePath → cached.value.2.values = sceneLoaded.values) ∧
      ∀ name, name ∉ Compile.defaultNames sceneServices.classes root.children ∨
          (sceneLoaded.values.find? name).isSome →
        cached.value.2.values.find? name = sceneLoaded.values.find? name ∧
          fresh.value.2.values.find? name = sceneLoaded.values.find? name :=
  @loadScript_variables_without_artifact Desk sceneServices sceneParse scenePath (commands_advances _ _)
    rfl sceneLoader sceneLoaded sceneContent sceneArtifact 1000000 0 0 rfl scene_script scene_compiles scene_left
    scene_loaded.1 scene_loaded.2.1 scene_loaded.2.2

/-- A default variable that has lost its value gets it back without the artifact only. -/
theorem scene_emptied_variables :
    let emptied : Loader Desk := { sceneLoaded.restart with values := {} }
    sceneLoaded.log = [] ∧ (emptied.cache.load scenePath emptied.disk).value.1.toOption.join.isSome ∧
      (emptied.loadScript sceneServices scenePath).value.2.values.find? "x" = none ∧
      ((emptied.discardArtifact scenePath).value.loadScript sceneServices scenePath).value.2.values.find? "x" =
        some (.integer 1) := by
  decide +kernel

end Rehearsed

end TriggerScript.Loader
