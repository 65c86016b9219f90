import TriggerScript.Proofs.BatchOrder
import TriggerScript.Proofs.FailedLoads
import TriggerScript.Proofs.StorableUnits

/-!
# Loads that leave an artifact

A load that compiles its script starts without an artifact: an old one was of no use and is gone. Whether there is one
in the end is decided in several places. It takes a compilation without errors, triggers that are all listed,
and a unit with nothing foreign in it and no path that is not text; the first two are counted apart from the log. If the
disk does not stand in the way, these are the loads that add no error to the log and whose units can be stored, and the
artifact is that of the unit that was installed.
-/

namespace TriggerScript

/-! ## Files that can be written -/

namespace Disk

variable {disk after : Disk} {path other : Path} {content : Bytes} {time : Int}

/-- A path leads to a file, or to where one could be made. -/
def Admits (disk : Disk) (path : Path) : Prop := ∃ spot, disk.look path = .ok spot ∧ spot ≠ .directory

theorem Holds.admits (holds : disk.Holds path content time) : disk.Admits path := ⟨_, holds, nofun⟩

theorem Admits.locate (admits : disk.Admits path) :
    ∃ location, disk.locate path (plainSteps path) = .ok location ∧ disk.spot location ≠ .directory := by
  obtain ⟨spot, looked, other⟩ := admits
  obtain ⟨location, located, rfl⟩ := look_eq_ok.mp looked
  obtain ⟨proper, followed⟩ := locate_eq_ok.mp located
  exact ⟨location, locate_eq_ok.mpr ⟨proper, follow_plainSteps (along_steps path) followed other⟩, other⟩

theorem Admits.write (admits : disk.Admits path) (content : Bytes) (time : Int) :
    ∃ after, disk.write path content time = .ok after := by
  obtain ⟨location, located, other⟩ := admits.locate
  cases stands : disk.spot location with
  | directory => exact absurd stands other
  | free | file => exact ⟨_, bind_eq_ok.mpr ⟨location, located, by rw [stands]; rfl⟩⟩

/-- Where one file is written, every path leads to what it led to before, or to that file. -/
theorem look_of_updates {place : Location} {spot : Spot} (updates : Updates disk after place (.file content time))
    (replaced : disk.spot place ≠ .directory) (looked : disk.look path = .ok spot) :
    after.look path = .ok spot ∨ after.look path = .ok (.file content time) := by
  obtain ⟨location, located, rfl⟩ := look_eq_ok.mp looked
  have still := (updates.changesOnly replaced).locate located
  by_cases same : location = place
  · exact .inr (look_eq_ok.mpr ⟨location, still, by rw [updates.spot_eq, if_pos same]⟩)
  · exact .inl (look_eq_ok.mpr ⟨location, still, by rw [updates.spot_eq, if_neg same]⟩)

theorem Admits.updated {place : Location} (admits : disk.Admits path)
    (updates : Updates disk after place (.file content time)) (replaced : disk.spot place ≠ .directory) :
    after.Admits path := by
  obtain ⟨spot, looked, file⟩ := admits
  rcases look_of_updates updates replaced looked with still | overwritten
  · exact ⟨spot, still, file⟩
  · exact Holds.admits overwritten

theorem Holds.rename (holds : disk.Holds path content time) (admits : disk.Admits other) :
    ∃ after, disk.rename path other = .ok after := by
  obtain ⟨location, located, -⟩ := look_eq_ok.mp holds
  obtain ⟨goal, reached, -⟩ := admits.locate
  have renames {after : Disk}
      (moved : (if location = goal then pure disk else disk.write other content time >>= (·.remove path)) = .ok after) :
      disk.rename path other = .ok after :=
    bind_eq_ok.mpr ⟨_, holds, bind_eq_ok.mpr ⟨location, located, bind_eq_ok.mpr ⟨goal, reached, moved⟩⟩⟩
  by_cases same : location = goal
  · exact ⟨disk, renames (if_pos same)⟩
  · obtain ⟨between, written⟩ := admits.write content time
    -- Wherever the copy was put, there is a file by the old name.
    obtain ⟨place, -, replaced, updates⟩ := write_updates written
    have still : between.Holds path content time := (look_of_updates updates replaced holds).elim id id
    obtain ⟨after, removed⟩ := still.remove
    exact ⟨after, renames ((if_neg same).trans (bind_eq_ok.mpr ⟨between, written, removed⟩))⟩

end Disk

namespace Cache

open Disk

variable {cache : Cache} {script : Path} {disk : Disk} {stamp : Int64} {unit : CompiledUnit} {bytes : Bytes}

/-- The directory that a script's artifact lies in. -/
def directoryOf (cache : Cache) (script : Path) : Path := (cache.artifactOf script).parent?.getD ⟨"."⟩

/--
The disk does not stand in the way of an artifact: its directory is there or can be made, a temporary file can be
opened in it, and there is no other directory in the artifact's place.
-/
structure Writable (cache : Cache) (script : Path) (disk : Disk) : Prop where
  made : (disk.makeDirectories (cache.directoryOf script)).1 = .ok ()
  opens : ∃ temporary,
    (disk.makeDirectories (cache.directoryOf script)).2.makeTemporary (cache.directoryOf script) = .ok temporary
  admits : (disk.makeDirectories (cache.directoryOf script)).2.Admits (cache.artifactOf script)

theorem writeThrough_of_admits {temporary artifact : Path} {empty : Bytes} {time : Int}
    (holds : disk.Holds temporary empty time) (admits : disk.Admits artifact)
    (encoded : Artifact.encode? stamp unit = some bytes) :
    ∃ after, writeThrough temporary artifact stamp unit disk = .ok after := by
  obtain ⟨filled, written⟩ := holds.admits.write bytes disk.now
  obtain ⟨place, -, replaced, updates⟩ := write_updates written
  obtain ⟨after, renamed⟩ := (holds.write written).rename (admits.updated updates replaced)
  refine ⟨after, ?_⟩
  rw [writeThrough, encoded]
  exact bind_eq_ok.mpr ⟨filled, mapError_eq_ok.mpr written, mapError_eq_ok.mpr renamed⟩

theorem Writable.write (writable : cache.Writable script disk) (encoded : Artifact.encode? stamp unit = some bytes) :
    ∃ after, cache.write script stamp unit disk = (.ok (), after) := by
  obtain ⟨made, ⟨⟨temporary, opened⟩, opens⟩, admits⟩ := writable
  unfold directoryOf at made opens admits
  unfold Cache.write
  dsimp only
  generalize disk.makeDirectories ((cache.artifactOf script).parent?.getD ⟨"."⟩) = result at made opens admits ⊢
  obtain ⟨_, ready⟩ := result
  cases made
  dsimp only at opens admits ⊢
  rw [opens]
  obtain ⟨location, located, free, updates⟩ := makeTemporary_updates opens
  have replaced : ready.spot location ≠ .directory := by simp [free]
  have holds : opened.Holds temporary [] ready.now :=
    look_eq_ok.mpr ⟨_, (updates.changesOnly replaced).locate located, by rw [updates.spot_eq, if_pos rfl]⟩
  obtain ⟨after, written⟩ := writeThrough_of_admits holds (admits.updated updates replaced) encoded
  exact ⟨after, by dsimp only; rw [written]⟩

/-- What can be encoded is stored. -/
theorem Writable.store (writable : cache.Writable script disk) (encoded : Artifact.encode? stamp unit = some bytes) :
    ∃ stored, (cache.store script stamp unit disk).value.2.Holds (cache.artifactOf script) bytes stored := by
  obtain ⟨after, done⟩ := writable.write encoded
  have written := cache.write_spec script stamp unit disk
  rw [store_value]
  rw [done] at written ⊢
  cases written with
  | stored again holds changes =>
    cases encoded.symm.trans again
    exact ⟨_, holds⟩

end Cache

/-! ## Reading -/

/-- To read a script leaves no artifact of it that was not there before. -/
def Reader.AddsNoArtifact {σ : Type} (reader : Reader σ) (cache : Cache) (path : Path) : Prop :=
  ∀ disk state bytes stored, (reader.read path disk state).2.1.Holds (cache.artifactOf path) bytes stored →
    disk.Holds (cache.artifactOf path) bytes stored

/-- Reads a script, which is then written over before anything is made of it. -/
def Reader.overwriting {σ : Type} (parse : Bytes → Except IoError Node) (content : Bytes) (time : Int) : Reader σ where
  read path disk state := (disk.read path >>= parse, (disk.write path content time).toOption.getD disk, state)

theorem Reader.overwriting_addsNoArtifact {σ : Type} (parse : Bytes → Except IoError Node) (content : Bytes)
    (time : Int) (cache : Cache) (path : Path) :
    (overwriting parse content time : Reader σ).AddsNoArtifact cache path := by
  intro disk state bytes stored holds
  change ((disk.write path content time).toOption.getD disk).Holds _ _ _ at holds
  cases written : disk.write path content time with
  | error error =>
    rw [written] at holds
    exact holds
  | ok after =>
    rw [written] at holds
    exact cache.holds_of_write path written holds

namespace Loader

open Disk

variable {σ : Type} {services : Services σ} {path : Path} {loader : Loader σ} {root : Node} {disk : Disk} {state : σ}
  {stamp : Int64}

/-- Where a load stands when it turns to the script: without the old copy, and with the artifact tried in vain. -/
def beforeReading (services : Services σ) (path : Path) (loader : Loader σ) : Loader σ :=
  ((loader.unloadOld services path).value.loadCached services path).value.2

theorem beforeReading_spec (compiles : loader.Compiles services path) :
    ∃ state disk, loader.beforeReading services path = { (loader.unloadOld services path).value with state, disk } ∧
      ∀ bytes stored, ¬ disk.Holds (loader.cache.artifactOf path) bytes stored := by
  unfold beforeReading
  have cached := loadCached_spec services path (loader.unloadOld services path).value
  unfold Compiles at compiles
  obtain ⟨registry, unloadedState, unloaded, -⟩ := unloadOld_spec services path loader
  generalize hookCalls _ = hooks at cached
  generalize ((loader.unloadOld services path).value.loadCached services path).value = tried at cached compiles ⊢
  cases cached with
  | hit => exact absurd rfl (compiles _)
  | miss none changes gone =>
    rw [unloaded] at gone
    exact ⟨_, _, rfl, gone⟩

theorem loadScript_eq_loadFresh (caching : loader.config.enableCaching = true)
    (compiles : loader.Compiles services path) :
    (loader.loadScript services path).value =
      ((loader.beforeReading services path).loadFresh services path).value := by
  unfold beforeReading
  unfold Compiles at compiles
  rcases attempt : ((loader.unloadOld services path).value.loadCached services path).value with ⟨result, after⟩
  rw [attempt] at compiles
  exact (loadScript_of_miss caching compiles attempt).1

/-- The time of the script is taken first, and the artifact goes by that time even if it changes with the reading. -/
theorem loadFresh_of_read (known : loader.disk.modifiedMillis path = .ok stamp)
    (read : services.reader.read path loader.disk loader.state = (.ok root, disk, state)) :
    let installed := (({ loader with disk, state } : Loader σ).installTree services path root).value
    (loader.loadFresh services path).value = (.ok installed.1.info,
      { installed.2 with
        disk :=
          if installed.2.config.enableCaching && installed.1.clean then
            (installed.2.cache.store path stamp installed.1.unit installed.2.disk).value.2
          else installed.2.disk }) := by
  simp only [loadFresh, Reader.readTree, Recorded.value_bind, Recorded.value_pure, read, known, finishLoad_value,
    Except.toOption]

/-- What is read is compiled and installed, the reports go to the log, and without an error among them it is stored. -/
theorem loadFresh_leaves (caching : loader.config.enableCaching = true)
    (known : loader.disk.modifiedMillis path = .ok stamp)
    (read : services.reader.read path loader.disk loader.state = (.ok root, disk, state)) :
    let compiled := (Compile.compileFile services path root loader.values state).value.1
    let unit := services.grammar.listedUnit compiled
    let added := reports services path root loader.values state
    let outcome := (loader.loadFresh services path).value
    outcome.1 = .ok (.of unit) ∧
      outcome.2.registry = loader.registry.afterInstall path unit (services.grammar.entriesOf compiled) ∧
      outcome.2.log = loader.log ++ added ∧
      outcome.2.disk = if errorCount added = 0 then (loader.cache.store path stamp unit disk).value.2 else disk := by
  intro compiled unit added outcome
  let ready : Loader σ := { loader with disk, state }
  have value : outcome = _ := loadFresh_of_read known read
  have logged := log_installTree services path root ready
  have due := clean_iff services path root ready
  obtain ⟨log, installed⟩ := installTree_value services path root ready
  dsimp only at value
  generalize (ready.installTree services path root).value = result at value logged due installed
  have sameConfig : result.2.config = loader.config := by rw [installed]
  have sameCache : result.2.cache = loader.cache := congrArg (fun config => Cache.mk config.cacheDir) sameConfig
  have sameDisk : result.2.disk = disk := by rw [installed]
  have sameUnit : result.1.unit = unit := by rw [installed]
  rw [sameConfig, sameCache, sameDisk, sameUnit, caching, Bool.true_and] at value
  rw [value]
  refine ⟨by rw [installed], by rw [installed], logged, ?_⟩
  dsimp only
  by_cases clean : errorCount added = 0
  · rw [if_pos (due.mpr clean), if_pos clean]
  · rw [if_neg fun stores => clean (due.mp stores), if_neg clean]

/-- What is found in the end, if there was no artifact before: the one that was due, if it could be encoded. -/
theorem artifact_of_leaves {cache : Cache} {unit : CompiledUnit} {added : List Diagnostic} {final : Disk}
    (writable : cache.Writable path disk) (fits : unit.Fits)
    (none : ∀ bytes stored, ¬ disk.Holds (cache.artifactOf path) bytes stored)
    (leaves : final = if errorCount added = 0 then (cache.store path stamp unit disk).value.2 else disk) :
    ((∃ bytes stored, final.Holds (cache.artifactOf path) bytes stored) ↔
        errorCount added = 0 ∧ ¬ unit.HoldsForeign ∧ ¬ unit.HoldsBrokenPath) ∧
      ∀ bytes stored, final.Holds (cache.artifactOf path) bytes stored →
        Artifact.encode? stamp unit = some bytes ∧
          ∀ current, Artifact.decode bytes (.ok current) =
            if stamp = current then .ok unit else .error (.stale stamp current) := by
  by_cases clean : errorCount added = 0
  · have current := (cache.store_spec path stamp unit disk).2
    rw [leaves, if_pos clean]
    refine ⟨?_, fun bytes stored holds =>
      ⟨current bytes stored holds, Artifact.decode_of_encode (current bytes stored holds)⟩⟩
    rw [and_iff_right clean, ← Artifact.storable_iff_of_fits fits, ← Artifact.encode?_iff stamp unit]
    constructor
    · rintro ⟨bytes, stored, holds⟩
      exact ⟨bytes, current bytes stored holds⟩
    · rintro ⟨bytes, encoded⟩
      exact ⟨bytes, writable.store encoded⟩
  · rw [leaves, if_neg clean]
    exact ⟨⟨fun ⟨bytes, stored, holds⟩ => absurd holds (none bytes stored), fun ⟨due, _⟩ => absurd due clean⟩,
      fun bytes stored holds => absurd holds (none bytes stored)⟩

/--
A load compiles a script whose time can be told and which is read as a tree, and the disk does not stand in the
way of an artifact. Then it installs the unit, without the triggers that are not listed, and adds to the log what is
reported about the script. There is an artifact in the end exactly if no error is among that, nothing in the unit is
foreign, and all paths in it are text. It is that of the unit that was installed, with the script's time from before
the reading.
-/
theorem artifact_iff_clean (caching : loader.config.enableCaching = true) (compiles : loader.Compiles services path)
    (unmade : services.reader.AddsNoArtifact loader.cache path)
    (known : (loader.beforeReading services path).disk.modifiedMillis path = .ok stamp)
    (read : services.reader.read path (loader.beforeReading services path).disk
      (loader.beforeReading services path).state = (.ok root, disk, state))
    (writable : loader.cache.Writable path disk)
    (fits : (services.grammar.listedUnit
      (Compile.compileFile services path root loader.values state).value.1).Fits) :
    let compiled := (Compile.compileFile services path root loader.values state).value.1
    let unit := services.grammar.listedUnit compiled
    let added := reports services path root loader.values state
    let artifact := loader.cache.artifactOf path
    let outcome := (loader.loadScript services path).value
    outcome.1 = .ok (.of unit) ∧
      outcome.2.registry = (loader.unloadOld services path).value.registry.afterInstall path unit
        (services.grammar.entriesOf compiled) ∧
      outcome.2.log = loader.log ++ added ∧
      ((∃ bytes stored, outcome.2.disk.Holds artifact bytes stored) ↔
        errorCount added = 0 ∧ ¬ unit.HoldsForeign ∧ ¬ unit.HoldsBrokenPath) ∧
      ∀ bytes stored, outcome.2.disk.Holds artifact bytes stored →
        Artifact.encode? stamp unit = some bytes ∧
          ∀ current, Artifact.decode bytes (.ok current) =
            if stamp = current then .ok unit else .error (.stale stamp current) := by
  dsimp only
  obtain ⟨triedState, triedDisk, start, gone⟩ := beforeReading_spec compiles
  obtain ⟨registry, unloadedState, unloaded, -⟩ := unloadOld_spec services path loader
  have reached := loadScript_eq_loadFresh caching compiles
  rw [start] at reached read known
  rw [unloaded] at reached read known ⊢
  -- The artifact was tried in vain, so there is none, and the reading has made none.
  have none (bytes : Bytes) (stored : Int) : ¬ disk.Holds (loader.cache.artifactOf path) bytes stored := by
    intro holds
    have earlier := unmade triedDisk triedState bytes stored
    rw [show services.reader.read path triedDisk triedState = _ from read] at earlier
    exact gone bytes stored (earlier holds)
  let start : Loader σ := { loader with registry, state := triedState, disk := triedDisk }
  have sameCache : start.cache = loader.cache := rfl
  have sameValues : start.values = loader.values := rfl
  obtain ⟨result, installs, logs, leaves⟩ :=
    @loadFresh_leaves σ services path start root disk state stamp caching known read
  rw [sameCache, sameValues] at leaves
  rw [reached]
  exact ⟨result, installs, logs, artifact_of_leaves writable fits none leaves⟩

section Rehearsed

open Rehearsal

/-- While a script is read, it is written over. -/
def hastyServices : Services Desk := { sceneServices with reader := .overwriting sceneParse [2] 4000000 }

/-- The scene has been loaded and then written again, so that its artifact is stale. -/
def staleLoader : Loader Desk :=
  { sceneLoaded with disk := (sceneLoaded.disk.write scenePath sceneContent 3000000).toOption.getD {} }

def staleStart : Loader Desk := staleLoader.beforeReading hastyServices scenePath

def hastyDisk : Disk := (staleStart.disk.write scenePath [2] 4000000).toOption.getD staleStart.disk

def hastyUnit : CompiledUnit :=
  hastyServices.grammar.listedUnit
    (Compile.compileFile hastyServices scenePath scene staleLoader.values staleStart.state).value.1

theorem stale_ready :
    staleLoader.config.enableCaching = true ∧
      ((staleLoader.unloadOld hastyServices scenePath).value.loadCached hastyServices scenePath).value.1 =
        .error (.stale 1000 3000) ∧
      staleStart.disk.modifiedMillis scenePath = .ok 3000 ∧
      staleStart.disk.look scenePath = .ok (.file sceneContent 3000000) ∧
      hastyDisk.look scenePath = .ok (.file [2] 4000000) ∧
      (hastyDisk.makeDirectories (staleLoader.cache.directoryOf scenePath)).1 = .ok () ∧
      ((hastyDisk.makeDirectories (staleLoader.cache.directoryOf scenePath)).2.makeTemporary
        (staleLoader.cache.directoryOf scenePath)).toOption.isSome = true ∧
      (hastyDisk.makeDirectories (staleLoader.cache.directoryOf scenePath)).2.look
        (staleLoader.cache.artifactOf scenePath) = .ok .free ∧
      hastyUnit.Fits ∧
      errorCount (reports hastyServices scenePath scene staleLoader.values staleStart.state) = 0 ∧
      ¬ hastyUnit.HoldsForeign ∧ ¬ hastyUnit.HoldsBrokenPath := by
  decide +kernel

theorem hasty_read :
    hastyServices.reader.read scenePath (staleLoader.beforeReading hastyServices scenePath).disk
      (staleLoader.beforeReading hastyServices scenePath).state = (.ok scene, hastyDisk, staleStart.state) := by
  obtain ⟨-, -, -, script, -⟩ := stale_ready
  have parsed : (staleStart.disk.read scenePath >>= sceneParse) = .ok scene := Disk.Holds.read_bind script sceneParse
  exact Prod.ext parsed rfl

/-- The stale artifact is replaced by one that is stale again, since it goes by the time before the reading. -/
theorem stale_artifact_replaced :
    let outcome := (staleLoader.loadScript hastyServices scenePath).value
    let artifact := staleLoader.cache.artifactOf scenePath
    hastyDisk.look scenePath = .ok (.file [2] 4000000) ∧ outcome.1 = .ok (.of hastyUnit) ∧
      (∃ bytes stored, outcome.2.disk.Holds artifact bytes stored) ∧
      ∀ bytes stored, outcome.2.disk.Holds artifact bytes stored →
        Artifact.decode bytes (.ok 3000) = .ok hastyUnit ∧
          Artifact.decode bytes (.ok 4000) = .error (.stale 3000 4000) := by
  obtain ⟨caching, stale, known, -, edited, made, opens, free, fits, clean, own⟩ := stale_ready
  have compiles : staleLoader.Compiles hastyServices scenePath := by
    intro info hit
    cases stale.symm.trans hit
  have writable : staleLoader.cache.Writable scenePath hastyDisk := by
    obtain ⟨temporary, opened⟩ := Option.isSome_iff_exists.mp opens
    exact ⟨made, ⟨temporary, toOption_eq_some.mp opened⟩, ⟨_, free, nofun⟩⟩
  obtain ⟨result, -, -, exactly, current⟩ :=
    @artifact_iff_clean Desk hastyServices scenePath staleLoader scene hastyDisk staleStart.state 3000 caching compiles
      (Reader.overwriting_addsNoArtifact sceneParse [2] 4000000 staleLoader.cache scenePath) known hasty_read writable
      fits
  refine ⟨edited, result, exactly.mpr ⟨clean, own⟩, fun bytes stored holds => ?_⟩
  exact ⟨(current bytes stored holds).2 3000, (current bytes stored holds).2 4000⟩

/-- The scene under a path that is no text. -/
def brokenPath : Path := ⟨[0x61, 0xff, 0x2e, 0x73, 0x6b]⟩

def brokenLoader : Loader Desk :=
  { sceneLoader with disk := { entries := [.directory [] [.file brokenPath.bytes sceneContent 1000000]] } }

/-- Nothing is wrong with the scene and nothing in it is foreign, but it leaves no artifact. -/
theorem broken_path_uncached :
    brokenLoader.config.enableCaching = true ∧
      (brokenLoader.loadScript sceneServices brokenPath).value.1 = .ok ⟨1, 2, 1⟩ ∧
      (brokenLoader.loadScript sceneServices brokenPath).value.2.log = brokenLoader.log ∧
      ¬ (Compile.compileFile sceneServices brokenPath scene brokenLoader.values
        brokenLoader.state).value.1.HoldsForeign ∧
      brokenLoader.cache.Writable brokenPath brokenLoader.disk ∧
      ∀ bytes stored, ¬ (brokenLoader.loadScript sceneServices brokenPath).value.2.disk.Holds
        (brokenLoader.cache.artifactOf brokenPath) bytes stored := by
  obtain ⟨caching, loads, logged, own, made, opens, free, gone⟩ :
      brokenLoader.config.enableCaching = true ∧
      (brokenLoader.loadScript sceneServices brokenPath).value.1 = .ok ⟨1, 2, 1⟩ ∧
      (brokenLoader.loadScript sceneServices brokenPath).value.2.log = brokenLoader.log ∧
      ¬ (Compile.compileFile sceneServices brokenPath scene brokenLoader.values
        brokenLoader.state).value.1.HoldsForeign ∧
      (brokenLoader.disk.makeDirectories (brokenLoader.cache.directoryOf brokenPath)).1 = .ok () ∧
      ((brokenLoader.disk.makeDirectories (brokenLoader.cache.directoryOf brokenPath)).2.makeTemporary
        (brokenLoader.cache.directoryOf brokenPath)).toOption.isSome = true ∧
      (brokenLoader.disk.makeDirectories (brokenLoader.cache.directoryOf brokenPath)).2.look
        (brokenLoader.cache.artifactOf brokenPath) = .ok .free ∧
      (brokenLoader.loadScript sceneServices brokenPath).value.2.disk.look
        (brokenLoader.cache.artifactOf brokenPath) = .ok .free := by
    decide +kernel
  obtain ⟨temporary, opened⟩ := Option.isSome_iff_exists.mp opens
  refine ⟨caching, loads, logged, own, ⟨made, ⟨temporary, toOption_eq_some.mp opened⟩, ⟨_, free, nofun⟩⟩, ?_⟩
  intro bytes stored holds
  cases gone.symm.trans holds

end Rehearsed

end Loader

end TriggerScript
