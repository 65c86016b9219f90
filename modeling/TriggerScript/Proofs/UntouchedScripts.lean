import TriggerScript.Proofs.BatchAccounts
import TriggerScript.Proofs.DirectoryScan
import TriggerScript.Proofs.LoadOutcome

/-!
# Scripts that loading leaves alone

To load a directory writes and deletes artifacts, and makes the directories that they lie in. The name of an
artifact is that of its script with one letter more, so its extension is never that of scripts, and a
temporary file has no extension at all. What is left are the directories that are made: they may open the way to
the directory of scripts itself, and one whose path is too long is taken for a file. Apart from these two
the scan finds the same scripts before and after.
-/

namespace TriggerScript

/-! ## Names of the cache -/

namespace Path

theorem HasExtension.append {name ext added : Bytes} (has : HasExtension name ext) (dotless : dot ∉ added) :
    HasExtension (name ++ added) (ext ++ added) := by
  obtain ⟨stem, filled, rfl, dots⟩ := has
  exact ⟨stem, filled, by simp, by simp [dots, dotless]⟩

end Path

/-- A temporary file has no extension: its only dot is the first byte. -/
theorem TemporaryNames.not_hasExtension_pick (names : TemporaryNames) (entries : List DiskEntry) (ext : Bytes) :
    ¬ Path.HasExtension (names.pick entries) ext := by
  rintro ⟨stem, filled, whole, -⟩
  obtain ⟨first, rest, rfl⟩ := List.exists_cons_of_ne_nil filled
  have behind : [0x74, 0x6d, 0x70] ++ names.tail entries = rest ++ Path.dot :: ext := (List.cons.inj whole).2
  have member : Path.dot ∈ [0x74, 0x6d, 0x70] ++ names.tail entries := by
    rw [behind]
    simp
  rcases List.mem_append.mp member with letters | letter
  · exact absurd letters (by decide)
  · have alphanumeric := List.all_eq_true.mp (names.alphanumeric entries) _ letter
    exact absurd alphanumeric (by decide)

namespace Cache

/-- An artifact has the extension of its script and one letter more. -/
theorem artifactName_hasExtension {script : Path} {ext : Bytes} (has : script.extension? = some ext) :
    Path.HasExtension (artifactName script) (ext ++ [0x63]) := by
  obtain ⟨name, named, has⟩ := Path.extension?_eq_some.mp has
  rw [artifactName_eq, named]
  exact has.append (by decide)

theorem not_hasExtension_artifactName {script : Path} {ext : Bytes} (has : script.extension? = some ext) :
    ¬ Path.HasExtension (artifactName script) ext := by
  intro same
  have longer := congrArg List.length ((artifactName_hasExtension has).unique same)
  simp at longer

end Cache

/-! ## What a load does to the disk -/

/-- To read a script changes nothing on the disk. -/
def Reader.KeepsDisk {σ : Type} (reader : Reader σ) : Prop :=
  ∀ path disk state, (reader.read path disk state).2.1 = disk

theorem Reader.ofParser_keepsDisk {σ : Type} (parse : Bytes → Except IoError Node) :
    (Reader.ofParser parse : Reader σ).KeepsDisk := fun _ _ _ => rfl

namespace Loader

open Disk

variable {σ : Type} {services : Services σ} {path : Path}

/-- A loader comes from another by work on the disk that changes files in some places only. -/
structure Tends (touched : Location → Prop) (before after : Loader σ) : Prop where
  config : after.config = before.config
  changes : ChangesOnly touched before.disk after.disk
  edited : Edited before.disk after.disk

namespace Tends

variable {touched : Location → Prop} {before between after : Loader σ}

theorem of_eq (config : after.config = before.config) (disk : after.disk = before.disk) :
    Tends touched before after :=
  ⟨config, disk ▸ .refl _ _, disk ▸ .refl _⟩

theorem trans (first : Tends touched before between) (second : Tends touched between after) :
    Tends touched before after :=
  ⟨second.config.trans first.config, first.changes.trans second.changes, first.edited.trans second.edited⟩

theorem mono {wider : Location → Prop} (tends : Tends touched before after)
    (within : ∀ location, touched location → wider location) : Tends wider before after :=
  ⟨tends.config, tends.changes.mono within, tends.edited⟩

/-- Where the artifact of a script lies stays the same. -/
theorem place_eq (tends : Tends touched before after) (path : Path) :
    after.cache.place path after.disk = before.cache.place path before.disk := by
  have same : after.cache = before.cache := congrArg (Cache.mk ·.cacheDir) tends.config
  rw [same]
  exact tends.changes.destination_eq _ _

/-- Directories stay, and so does what lets them be listed. -/
theorem listable (tends : Tends touched before after) {path : Path} {location : Location}
    (listed : ∃ entries, before.disk.list path = .ok (location, entries)) :
    ∃ entries, after.disk.list path = .ok (location, entries) := by
  obtain ⟨located, unsealed, directory⟩ := exists_list_iff.mp listed
  rw [← tends.edited.sealed_eq] at unsealed
  exact exists_list_iff.mpr ⟨tends.changes.locate located, unsealed, tends.changes.directory _ directory⟩

end Tends

theorem unloadOld_tends (services : Services σ) (path : Path) (loader : Loader σ) (touched : Location → Prop) :
    Tends touched loader (loader.unloadOld services path).value := by
  obtain ⟨registry, state, unloaded, -⟩ := unloadOld_spec services path loader
  rw [unloaded]
  exact .of_eq rfl rfl

theorem loadCached_tends (services : Services σ) (path : Path) (loader : Loader σ) :
    Tends (· = loader.cache.place path loader.disk) loader (loader.loadCached services path).value.2 := by
  rcases loadCached_cases services path loader with
    ⟨unit, infos, state, -, hit⟩ | ⟨result, state, disk, -, -, left, miss⟩
  · rw [hit]
    exact .of_eq rfl rfl
  · have dropped : ChangesOnly (· = loader.cache.place path loader.disk) loader.disk disk ∧
        Edited loader.disk disk := by
      rcases left with same | same <;> rw [same]
      · exact ⟨.refl _ _, .refl _⟩
      · exact ⟨(Cache.dropFile_spec _ _).1, Cache.dropFile_edited _ _⟩
    rw [miss]
    exact ⟨rfl, dropped.1, dropped.2⟩

/-- If a script is compiled, the disk changes by its artifact at most. -/
theorem loadFresh_disk (keeps : services.reader.KeepsDisk) (path : Path) (loader : Loader σ) :
    (loader.loadFresh services path).value.2.config = loader.config ∧
      ((loader.loadFresh services path).value.2.disk = loader.disk ∨
        ∃ stamp unit, (loader.loadFresh services path).value.2.disk =
          (loader.cache.store path stamp unit loader.disk).value.2) := by
  have kept := keeps path loader.disk loader.state
  simp only [loadFresh, Reader.readTree, Recorded.value_bind, Recorded.value_pure]
  generalize services.reader.read path loader.disk loader.state = read at kept ⊢
  obtain ⟨error | root, disk, state⟩ := read
  · exact ⟨rfl, .inl kept⟩
  · dsimp only at kept
    subst kept
    obtain ⟨log, installed⟩ := installTree_value services path root { loader with state }
    simp only [Recorded.value_bind, Recorded.value_pure, installed, finishLoad_value]
    generalize (Compile.compileFile services path root loader.values state).value = compiled
    refine ⟨trivial, ?_⟩
    cases (loader.disk.modifiedMillis path).toOption with
    | none => exact .inl rfl
    | some stamp =>
      dsimp only [cache]
      split
      · exact .inr ⟨stamp, services.grammar.listedUnit compiled.1, rfl⟩
      · exact .inl rfl

theorem loadFresh_tends (keeps : services.reader.KeepsDisk) (path : Path) (loader : Loader σ) :
    Tends (· = loader.cache.place path loader.disk) loader (loader.loadFresh services path).value.2 := by
  obtain ⟨config, same | ⟨stamp, unit, stored⟩⟩ := loadFresh_disk keeps path loader
  · exact .of_eq config same
  · refine ⟨config, ?_, ?_⟩ <;> rw [stored]
    · exact (loader.cache.store_spec path stamp unit loader.disk).1
    · exact loader.cache.store_edited path stamp unit loader.disk

theorem loadScript_tends (keeps : services.reader.KeepsDisk) (path : Path) (loader : Loader σ) :
    Tends (· = loader.cache.place path loader.disk) loader (loader.loadScript services path).value.2 := by
  have ways := loadScript_cases services path loader
  have unloaded := unloadOld_tends services path loader (· = loader.cache.place path loader.disk)
  have tried := loadCached_tends services path (loader.unloadOld services path).value
  rw [unloaded.place_eq] at tried
  dsimp only at ways
  generalize ((loader.unloadOld services path).value.loadCached services path).value = cached at ways tried
  generalize (loader.unloadOld services path).value = bare at ways unloaded tried
  have fresh {start : Loader σ} (reached : Tends (· = loader.cache.place path loader.disk) loader start) :
      Tends (· = loader.cache.place path loader.disk) loader (start.loadFresh services path).value.2 := by
    -- The artifact is still where it was before the load, whatever has been deleted since.
    have last := loadFresh_tends keeps path start
    rw [reached.place_eq] at last
    exact reached.trans last
  rcases ways with ⟨info, -, loaded⟩ | ⟨start, rfl | ⟨rfl, -⟩, loaded⟩ <;> rw [loaded]
  · exact unloaded.trans tried
  · exact fresh unloaded
  · exact fresh (unloaded.trans tried)

theorem logFailure_tends (loader : Loader σ) (path : Path) (result : Except LoadError ScriptInfo)
    (touched : Location → Prop) : Tends touched loader (loader.logFailure path result).value := by
  cases result <;> exact .of_eq rfl rfl

/-- A batch changes the artifacts of its scripts and no other file. -/
theorem loadEach_tends (keeps : services.reader.KeepsDisk) (paths : List Path) (loader : Loader σ) :
    Tends (fun location => ∃ path ∈ paths, location = loader.cache.place path loader.disk) loader
      (loader.loadEach services paths).value.2 := by
  induction paths generalizing loader with
  | nil => exact .of_eq rfl rfl
  | cons path rest inductionHypothesis =>
    have first := (loadScript_tends keeps path loader).mono fun location (own : location = _) =>
      (⟨path, List.mem_cons_self, own⟩ : ∃ other ∈ path :: rest, location = loader.cache.place other loader.disk)
    have logged := first.trans (logFailure_tends (loader.loadScript services path).value.2 path
      (loader.loadScript services path).value.1 _)
    have others := inductionHypothesis ((loader.loadScript services path).value.2.logFailure path
      (loader.loadScript services path).value.1).value
    refine logged.trans (others.mono ?_)
    rintro location ⟨other, member, own⟩
    exact ⟨other, List.mem_cons_of_mem _ member, own.trans (logged.place_eq other)⟩

/-! ## What the scan finds afterwards -/

/--
The directories that one disk has more than another do not matter to a scan: none of them opens the way to the
directory of scripts where that was there already, and below it none of them has a path that is too long.
-/
structure Unobtrusive (top : Path) (location : Location) (before after : Disk) : Prop where
  reached : before.spot location = .directory → after.look top = .ok .directory → before.look top = .ok .directory
  short : ∀ names, after.spot (location ++ names) = .directory → before.spot (location ++ names) ≠ .directory →
    ¬ Overlong (top.below names)

/-- Directories stay, so those of a disk between the two do not matter either. -/
theorem Unobtrusive.between {top : Path} {location : Location} {before between after : Disk}
    {touched : Location → Prop} (unobtrusive : Unobtrusive top location before after)
    (changes : ChangesOnly touched between after) : Unobtrusive top location before between where
  reached stood leads := unobtrusive.reached stood (changes.look_directory leads)
  short names directory := unobtrusive.short names (changes.directory _ directory)

/-- A directory is listed where its path leads, if it is listed at all. -/
theorem unlisted_of_destination {disk : Disk}
    (unlisted : ¬ ∃ entries, disk.list path = .ok (disk.destination path (steps path), entries)) :
    ∀ found, disk.list path ≠ .ok found := by
  rintro ⟨location, entries⟩ listed
  obtain rfl := eq_destination_of_locate (list_eq_ok_iff.mp listed).1
  exact unlisted ⟨entries, listed⟩

section

variable {loader before after : Loader σ} {location : Location} {touched : Location → Prop}

theorem extension?_of_mem_scriptFiles
    (proper : loader.disk.ProperAt (loader.disk.destination loader.config.scriptsDir (steps loader.config.scriptsDir)))
    (member : path ∈ loader.scriptFiles.value.1) : path.extension? = some (loader.config.extension : Bytes) := by
  have listable : ∃ entries, loader.disk.list loader.config.scriptsDir =
      .ok (loader.disk.destination loader.config.scriptsDir (steps loader.config.scriptsDir), entries) := by
    by_contra unlisted
    rw [scriptFiles_of_unlisted (unlisted_of_destination unlisted)] at member
    cases member
  obtain ⟨entries, listed⟩ := listable
  obtain ⟨names, sighted, rfl⟩ := (mem_scriptFiles_iff_sighted listed proper).mp member
  obtain ⟨name, last, called⟩ := sighted.called
  obtain ⟨above, rfl⟩ := List.getLast?_eq_some_iff.mp last
  have isName := proper.isName sighted.ne_free name (by simp)
  rw [Path.below_append]
  exact (Path.extension?_join_name _ isName _).mpr called

variable (tends : Tends touched before after)
  (spared : ∀ above name, touched (above ++ [name]) → ¬ Path.HasExtension name before.config.extension)

include tends spared

theorem sightedAt_iff_of_tends (unobtrusive : Unobtrusive before.config.scriptsDir location before.disk after.disk)
    {names : Location} :
    SightedAt before.config after.disk location names ↔ SightedAt before.config before.disk location names := by
  have file (called : ∃ name, names.getLast? = some name ∧ Path.HasExtension name before.config.extension)
      (content : Bytes) (modified : Int) : after.disk.spot (location ++ names) = .file content modified ↔
        before.disk.spot (location ++ names) = .file content modified := by
    obtain ⟨name, last, called⟩ := called
    obtain ⟨above, rfl⟩ := List.getLast?_eq_some_iff.mp last
    refine tends.changes.file _ (fun changed => ?_) content modified
    rw [← List.append_assoc] at changed
    exact spared _ name changed called
  unfold SightedAt
  rw [tends.edited.sealed_eq]
  constructor
  · rintro ⟨enabled, entered, called, stands⟩
    refine ⟨enabled, entered, called, stands.imp ?_ ?_⟩
    · exact fun ⟨content, modified, stands⟩ => ⟨content, modified, (file called content modified).mp stands⟩
    · rintro ⟨directory, long⟩
      exact ⟨by_contra fun new => unobtrusive.short names directory new long, long⟩
  · rintro ⟨enabled, entered, called, stands⟩
    refine ⟨enabled, entered, called, stands.imp ?_ ?_⟩
    · exact fun ⟨content, modified, stands⟩ => ⟨content, modified, (file called content modified).mpr stands⟩
    · exact fun ⟨directory, long⟩ => ⟨tends.changes.directory _ directory, long⟩

/-- Work on the disk that spares what has the extension of scripts leaves the scan as it was. -/
theorem scriptFiles_eq_of_tends
    (proper : before.disk.ProperAt (before.disk.destination before.config.scriptsDir (steps before.config.scriptsDir)))
    (unobtrusive : Unobtrusive before.config.scriptsDir
      (before.disk.destination before.config.scriptsDir (steps before.config.scriptsDir)) before.disk after.disk) :
    after.scriptFiles.value.1 = before.scriptFiles.value.1 := by
  have unlistedBefore := @unlisted_of_destination before.config.scriptsDir before.disk
  have unlistedAfter := @unlisted_of_destination before.config.scriptsDir after.disk
  rw [tends.changes.destination_eq] at unlistedAfter
  generalize before.disk.destination before.config.scriptsDir (steps before.config.scriptsDir) = location at *
  -- What could be listed still can, so only a directory that has come up since needs an argument.
  by_cases listedAfter : ∃ entries, after.disk.list before.config.scriptsDir = .ok (location, entries)
  · obtain ⟨located, unsealed, directory⟩ := exists_list_iff.mp listedAfter
    obtain ⟨entries, listed⟩ := listedAfter
    rw [← tends.config] at listed
    have properAfter := tends.edited.properAt proper
    have found (path : Path) := @mem_scriptFiles_iff_sighted _ after _ _ listed properAfter path
    simp only [tends.config, sightedAt_iff_of_tends tends spared unobtrusive] at found
    by_cases listedBefore : ∃ entries, before.disk.list before.config.scriptsDir = .ok (location, entries)
    · obtain ⟨_, listedBefore⟩ := listedBefore
      refine Path.Increasing.eq_of_mem_iff (increasing_scriptFiles listed properAfter)
        (increasing_scriptFiles listedBefore proper) fun path => ?_
      rw [found, mem_scriptFiles_iff_sighted listedBefore proper]
    · -- Where no directory stood nothing can have stood below it.
      rw [scriptFiles_of_unlisted (unlistedBefore listedBefore), List.eq_nil_iff_forall_not_mem]
      intro path member
      obtain ⟨names, sighted, -⟩ := (found path).mp member
      have stood := spot_of_below sighted.ne_free sighted.ne_nil
      obtain ⟨reached, locatedBefore, -⟩ :=
        look_eq_ok.mp (unobtrusive.reached stood (look_eq_ok.mpr ⟨location, located, directory⟩))
      obtain rfl : location = reached := Except.ok.inj (located.symm.trans (tends.changes.locate locatedBefore))
      exact listedBefore (exists_list_iff.mpr ⟨locatedBefore, tends.edited.sealed_eq ▸ unsealed, stood⟩)
  · rw [scriptFiles_of_unlisted (unlistedBefore (mt tends.listable listedAfter)),
      scriptFiles_of_unlisted (tends.config ▸ unlistedAfter listedAfter)]

end

/-- The start of the batch of a directory load. -/
def scanned (loader : Loader σ) : Loader σ :=
  { loader.prepared with log := loader.log ++ loader.directoryComplaints }

theorem loadDirectory_after (services : Services σ) (loader : Loader σ) :
    (loader.loadDirectory services).value.2 =
      ((loader.scanned.loadEach services loader.prepared.scriptFiles.value.1).value.2.subscribe services).value := by
  rw [loadDirectory_value, loadFiles_after]
  rfl

/-- A directory load tends the artifacts of the scripts that are found once the directory was made. -/
theorem loadDirectory_tends (keeps : services.reader.KeepsDisk) (loader : Loader σ) :
    let made := loader.prepared
    Tends (fun _ => False) loader made ∧
      Tends (fun location => ∃ path ∈ made.scriptFiles.value.1, location = made.cache.place path made.disk) made
        (loader.loadDirectory services).value.2 := by
  refine ⟨⟨rfl, makeNested_changesOnly _ _, makeDirectories_edited _ _⟩, ?_⟩
  have batch := loadEach_tends keeps loader.prepared.scriptFiles.value.1 loader.scanned
  rw [loadDirectory_after]
  exact ⟨batch.config, batch.changes, batch.edited⟩

theorem config_loadDirectory (keeps : services.reader.KeepsDisk) (loader : Loader σ) :
    (loader.loadDirectory services).value.2.config = loader.config := by
  obtain ⟨made, loaded⟩ := loadDirectory_tends keeps loader
  exact loaded.config.trans made.config

/--
To load a directory leaves the list of scripts as it was, provided that no directory made meanwhile matters to the
scan. Whatever is written, replaced or deleted is an artifact of one of these scripts, and neither an artifact nor a
temporary file is a script.
-/
theorem loading_keeps_scripts {loader : Loader σ} (keeps : services.reader.KeepsDisk)
    (proper : loader.disk.ProperAt (loader.disk.destination loader.config.scriptsDir (steps loader.config.scriptsDir)))
    (unobtrusive : Unobtrusive loader.config.scriptsDir
      (loader.disk.destination loader.config.scriptsDir (steps loader.config.scriptsDir)) loader.disk
      (loader.loadDirectory services).value.2.disk) :
    let after := (loader.loadDirectory services).value.2
    let scripts := loader.scriptFiles.value.1
    after.scriptFiles.value.1 = scripts ∧
    ChangesOnly (fun location => ∃ script ∈ scripts, location = loader.cache.place script loader.disk)
      loader.disk after.disk ∧
    (∀ script ∈ scripts, loader.config.isScript (loader.cache.artifactOf script) = false) ∧
    ∀ (names : TemporaryNames) (directory : Path) (entries : List DiskEntry),
      loader.config.isScript (directory.join ⟨names.pick entries⟩) = false := by
  intro after scripts
  obtain ⟨made, loaded⟩ := loadDirectory_tends keeps loader
  have extensions (script) (member : script ∈ scripts) : script.extension? = some (loader.config.extension : Bytes) :=
    extension?_of_mem_scriptFiles proper member
  -- The scan runs when the directory has been made already, but no file has been touched by then.
  have sameMade : _ = scripts := scriptFiles_eq_of_tends made nofun proper (unobtrusive.between loaded.changes)
  have whole : Tends (fun location => ∃ script ∈ scripts, location = loader.cache.place script loader.disk)
      loader after := by
    refine (made.mono nofun).trans (loaded.mono ?_)
    rintro location ⟨script, member, own⟩
    exact ⟨script, sameMade ▸ member, own.trans (made.place_eq script)⟩
  refine ⟨scriptFiles_eq_of_tends whole ?_ proper unobtrusive, whole.changes, ?_, ?_⟩
  · rintro above name ⟨script, member, own⟩
    obtain ⟨_, ends⟩ := loader.cache.place_ends script loader.disk
    obtain rfl : name = Cache.artifactName script := by simpa using congrArg List.getLast? (own.trans ends)
    exact Cache.not_hasExtension_artifactName (extensions script member)
  · intro script member
    have called := Cache.not_hasExtension_artifactName (extensions script member)
    have artifact := loader.config.isScript_join_name ((script.parent?.getD ⟨[]⟩).join loader.cache.directory)
      (Cache.artifactName_isName script)
    exact Bool.eq_false_iff.mpr fun isScript => called (artifact.mp isScript).1
  · intro names directory entries
    have temporary := loader.config.isScript_join_name directory (isName_pick names entries)
    exact Bool.eq_false_iff.mpr fun isScript => names.not_hasExtension_pick entries _ (temporary.mp isScript).1

section Rehearsed

open Rehearsal

theorem scriptFiles_of_single {loader : Loader σ} (single : scripts (scan loader.config loader.disk) = [path]) :
    loader.scriptFiles.value.1 = [path] := by
  rw [paths_scriptFiles, single, List.mergeSort_singleton]

theorem disk_loadDirectory_of_single (services : Services σ) {loader : Loader σ}
    (single : scripts (scan loader.prepared.config loader.prepared.disk) = [path]) :
    (loader.loadDirectory services).value.2.disk = (loader.scanned.loadEach services [path]).value.2.disk := by
  rw [loadDirectory_after, scriptFiles_of_single single]
  rfl

/-- The cache directory is called like a script. -/
def nestedLoader : Loader Desk where
  config := { cacheDir := ⟨"x.sk"⟩ }
  disk := { entries := [.directory "" [.directory "scripts" [.file "a.sk" sceneContent 1000000]]] }
  state := {}

theorem nested_disk : (nestedLoader.loadDirectory sceneServices).value.2.disk =
    (nestedLoader.scanned.loadEach sceneServices [⟨"scripts/a.sk"⟩]).value.2.disk :=
  disk_loadDirectory_of_single sceneServices (by decide +kernel)

/-- The directories below the directory of scripts, once the cache directory was made. -/
def nestedDirectories : List Location := [[], ["x.sk"]]

/-- The load makes the cache directory and writes the artifact. -/
theorem nested_left :
    let disk := (nestedLoader.loadDirectory sceneServices).value.2.disk
    (disk.root.find? ["", "scripts"]).elim [] DiskEntry.directories = nestedDirectories ∧
      disk.isDirectory ⟨"scripts/x.sk"⟩ = true ∧ (disk.read ⟨"scripts/x.sk/a.skc"⟩).isOk = true := by
  rw [nested_disk]
  decide +kernel

theorem nested_location :
    nestedLoader.disk.destination nestedLoader.config.scriptsDir (steps nestedLoader.config.scriptsDir) =
      ["", "scripts"] := by
  decide +kernel

theorem nested_proper : nestedLoader.disk.ProperAt
    (nestedLoader.disk.destination nestedLoader.config.scriptsDir (steps nestedLoader.config.scriptsDir)) := by
  rw [nested_location]
  intro entry found
  cases found
  decide +kernel

theorem nested_unobtrusive :
    Unobtrusive nestedLoader.config.scriptsDir
      (nestedLoader.disk.destination nestedLoader.config.scriptsDir (steps nestedLoader.config.scriptsDir))
      nestedLoader.disk (nestedLoader.loadDirectory sceneServices).value.2.disk where
  reached _ _ := by decide +kernel
  short := by
    rw [nested_location]
    intro names directory _
    have member : names ∈ nestedDirectories := nested_left.1 ▸ mem_directories_of_spot directory
    have short : ∀ names ∈ nestedDirectories, ¬ Overlong (nestedLoader.config.scriptsDir.below names) := by
      unfold Overlong
      decide +kernel
    exact short names member

/-- The cache directory is made and filled, and is not taken for a script. -/
theorem nested_scripts_kept :
    let after := (nestedLoader.loadDirectory sceneServices).value.2
    after.disk.isDirectory ⟨"scripts/x.sk"⟩ = true ∧
      (after.disk.read ⟨"scripts/x.sk/a.skc"⟩).isOk = true ∧
      after.scriptFiles.value.1 = [⟨"scripts/a.sk"⟩] := by
  have kept := (@loading_keeps_scripts Desk sceneServices nestedLoader (Reader.ofParser_keepsDisk sceneParse)
    nested_proper nested_unobtrusive).1
  exact ⟨nested_left.2.1, nested_left.2.2, kept.trans (scriptFiles_of_single (by decide +kernel))⟩

/-- The way to the directory of scripts goes through a directory that is not there. -/
def detourLoader : Loader Desk where
  config := { scriptsDir := ⟨"a/../scripts"⟩ }
  disk := { entries := [.directory "" [.directory "scripts" [.file "x.sk" sceneContent 1000000]]] }
  state := {}

/-- To load opens the way to scripts that could not be found before. -/
theorem detour_opened_by_loading :
    detourLoader.scriptFiles.value.1 = [] ∧
      (detourLoader.loadDirectory sceneServices).value.2.scriptFiles.value.1 = [⟨"a/../scripts/x.sk"⟩] := by
  refine ⟨by decide +kernel, scriptFiles_of_single ?_⟩
  rw [config_loadDirectory (Reader.ofParser_keepsDisk sceneParse),
    disk_loadDirectory_of_single sceneServices (by decide +kernel : _ = [⟨"a/../scripts/x.sk"⟩])]
  decide +kernel

end Rehearsed

end Loader

end TriggerScript
