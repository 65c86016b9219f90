import TriggerScript.Proofs.RegistryReloads

/-!
# The counts of the loaded files

Installing a file adds to its record and to the counts of all files. That the record counts the file once
depends on every load having removed the old record before, whether it takes the script from the artifact,
compiles it, or does the one after the other has failed. Here the records are held against all that a
loader has done: a file has the counts that its last load returned, and nothing is counted besides.
-/

namespace TriggerScript

theorem Registry.unrecorded_of_not_loaded {registry : Registry} {path : Path}
    (absent : registry.isLoaded path = false) : registry.files.find? path.components = none :=
  Option.not_isSome_iff_eq_none.mp (ne_true_of_eq_false absent)

theorem Registry.fileInfo_of_unrecorded {registry : Registry} {path : Path}
    (none : registry.files.find? path.components = none) : registry.fileInfo path = {} := by
  rw [Registry.fileInfo, none]
  rfl

/-- If each of some counts counts one file, together they count as many files as there are counts. -/
theorem ScriptInfo.files_sum {infos : List ScriptInfo} (single : ∀ info ∈ infos, info.files = 1) :
    infos.sum.files = infos.length := by
  induction infos with
  | nil => rfl
  | cons info rest inductionHypothesis =>
    have others := inductionHypothesis fun other member => single other (List.mem_cons_of_mem _ member)
    rw [List.sum_cons, List.length_cons, Nat.add_comm]
    change info.files + rest.sum.files = _
    rw [single info List.mem_cons_self, others]

namespace Loader

variable {σ : Type}

/-! ## The last deed at a path -/

/-- The record that a deed leaves for its path. -/
def Deed.record? : Deed → Option ScriptInfo
  | .load _ result => result.toOption
  | _ => none

/-- A load or an unload at a path, in any spelling. -/
def Deed.isAt (key : List Path.Component) (deed : Deed) : Bool := deed.path?.any fun path => key = path.components

/-- The last deed at a path. -/
def lastAt? (key : List Path.Component) (deeds : List Deed) : Option Deed := (deeds.filter (Deed.isAt key)).getLast?

/-- The record that some deeds leave for a path. -/
def recordOf? (key : List Path.Component) (deeds : List Deed) : Option ScriptInfo :=
  (lastAt? key deeds).bind Deed.record?

theorem recordOf?_concat (key : List Path.Component) (deeds : List Deed) (deed : Deed) :
    recordOf? key (deeds ++ [deed]) = if deed.isAt key then deed.record? else recordOf? key deeds := by
  unfold recordOf? lastAt?
  rw [List.filter_append]
  cases known : deed.isAt key <;> simp [known]

theorem recordOf?_load (key : List Path.Component) (deeds : List Deed) (path : Path)
    (result : Except LoadError ScriptInfo) :
    recordOf? key (deeds ++ [.load path result]) =
      if key = path.components then result.toOption else recordOf? key deeds := by
  simp [recordOf?_concat, Deed.isAt, Deed.path?, Deed.record?]

theorem recordOf?_unload (key : List Path.Component) (deeds : List Deed) (path : Path) (removed : ScriptInfo) :
    recordOf? key (deeds ++ [.unload path removed]) =
      if key = path.components then none else recordOf? key deeds := by
  simp [recordOf?_concat, Deed.isAt, Deed.path?, Deed.record?]

theorem recordOf?_idle (key : List Path.Component) (deeds : List Deed) {deed : Deed} (idle : deed.path? = none) :
    recordOf? key (deeds ++ [deed]) = recordOf? key deeds := by
  simp [recordOf?_concat, Deed.isAt, idle]

theorem Deed.record?_eq_some_iff {deed : Deed} {info : ScriptInfo} :
    deed.record? = some info ↔ ∃ path, deed = .load path (.ok info) := by
  cases deed with
  | load path result => cases result <;> simp [Deed.record?, Except.toOption]
  | unload | subscribe | report | makeDirectory | edit => simp [Deed.record?]

theorem recordOf?_eq_some_iff {key : List Path.Component} {deeds : List Deed} {info : ScriptInfo} :
    recordOf? key deeds = some info ↔ ∃ path, lastAt? key deeds = some (.load path (.ok info)) := by
  rw [recordOf?, Option.bind_eq_some_iff]
  constructor
  · rintro ⟨deed, last, recorded⟩
    obtain ⟨path, rfl⟩ := Deed.record?_eq_some_iff.mp recorded
    exact ⟨path, last⟩
  · rintro ⟨path, last⟩
    exact ⟨_, last, rfl⟩

/-! ## Every step keeps count -/

/-- The records are those that some deeds leave, each counts one file, and they add up to the counts. -/
structure Counted (registry : Registry) (deeds : List Deed) : Prop where
  records : ∀ key, registry.files.find? key = recordOf? key deeds
  single : ∀ key info, registry.files.find? key = some info → info.files = 1
  total : registry.loaded = registry.files.total

section

variable {registry : Registry} {deeds : List Deed} {path : Path}

/-- All that a file is counted with is part of the counts. -/
theorem Counted.loaded_eq (counted : Counted registry deeds) (path : Path) :
    registry.loaded = registry.fileInfo path + (registry.files.erase path.components).total :=
  counted.total.trans (registry.files.total_eq_add_erase path.components)

theorem Counted.afterUnload (counted : Counted registry deeds) (path : Path) (removed : ScriptInfo) :
    Counted (registry.afterUnload path) (deeds ++ [.unload path removed]) where
  records key := by
    rw [recordOf?_unload, ← counted.records]
    exact Table.find?_erase _ _ _
  single key info found := by
    change (registry.files.erase path.components).find? key = some info at found
    rw [Table.find?_erase] at found
    split at found
    · cases found
    · exact counted.single key info found
  total := by
    change registry.loaded.subtract (registry.fileInfo path) = _
    rw [counted.loaded_eq path]
    exact ScriptInfo.subtract_add _ _

/-- Without a record there is nothing to remove. -/
theorem Counted.unrecorded (counted : Counted registry deeds) (absent : registry.isLoaded path = false)
    (removed : ScriptInfo) : Counted registry (deeds ++ [.unload path removed]) where
  records key := by
    rw [recordOf?_unload, ← counted.records]
    split
    · next same =>
      rw [same]
      exact Registry.unrecorded_of_not_loaded absent
    · rfl
  single := counted.single
  total := counted.total

/-- A load counts a file whose old record has been removed. -/
theorem Counted.arrives {removed : ScriptInfo} (counted : Counted registry (deeds ++ [.unload path removed]))
    {result : Except LoadError ScriptInfo} {after : Registry} (arrives : Arrives path registry result after) :
    Counted after (deeds ++ [.load path result]) := by
  cases arrives with
  | failed error =>
    refine ⟨fun key => ?_, counted.single, counted.total⟩
    rw [counted.records, recordOf?_unload, recordOf?_load]
    rfl
  | installed unit infos =>
    have none : registry.files.find? path.components = none := by
      rw [counted.records, recordOf?_unload]
      exact if_pos rfl
    have recorded (key : List Path.Component) : (registry.afterInstall path unit infos).files.find? key =
        if key = path.components then some (.of unit) else registry.files.find? key := by
      refine (Table.find?_insert _ _ _ _).trans ?_
      rw [Registry.fileInfo_of_unrecorded none]
      congr
      exact zero_add (ScriptInfo.of unit)
    refine ⟨fun key => ?_, fun key info found => ?_, ?_⟩
    · rw [recorded, recordOf?_load, counted.records, recordOf?_unload]
      split <;> rfl
    · rw [recorded] at found
      split at found
      · cases found
        rfl
      · exact counted.single key info found
    · change registry.loaded + _ = _
      rw [counted.total]
      exact (registry.files.total_insert_add path.components (.of unit)).symm

end

section

variable {loader : Loader σ} {deeds : List Deed}

/-- A load unloads the old copy, if there is one, and arrives. -/
theorem Counted.loadScript (counted : Counted loader.registry deeds) (services : Services σ) (path : Path) :
    Counted (loader.loadScript services path).value.2.registry
      (deeds ++ [.load path (loader.loadScript services path).value.1]) := by
  have unloaded : Counted (loader.unloadOld services path).value.registry (deeds ++ [.unload path {}]) := by
    obtain ⟨registry, state, unloaded, rfl⟩ := unloadOld_spec services path loader
    rw [unloaded]
    dsimp only
    split
    · exact counted.afterUnload path {}
    · next absent => exact counted.unrecorded (eq_false_of_ne_true absent) {}
  exact unloaded.arrives (loadScript_arrives services path loader)

/-- A deed that neither loads nor unloads is not counted. -/
theorem Counted.idle {registry after : Registry} {deed : Deed} (counted : Counted registry deeds)
    (idle : deed.path? = none) (files : after.files = registry.files) (loaded : after.loaded = registry.loaded) :
    Counted after (deeds ++ [deed]) where
  records key := by
    rw [recordOf?_idle key deeds idle, files]
    exact counted.records key
  single := files ▸ counted.single
  total := by rw [files, loaded, counted.total]

theorem Counted.step {services : Services σ} {after : Loader σ} {deed : Deed} {activity : List Activity}
    (counted : Counted loader.registry deeds) (step : Step services loader deed activity after) :
    Counted after.registry (deeds ++ [deed]) := by
  cases step with
  | load path => exact counted.loadScript services path
  | unload path =>
    rw [unload_value]
    exact counted.afterUnload path _
  | subscribe => exact counted.idle rfl rfl rfl
  | report log noted => exact counted.idle rfl rfl rfl
  | makeDirectory path => exact counted.idle rfl rfl rfl
  | edit disk values state => exact counted.idle rfl rfl rfl

theorem Counted.life {services : Services σ} {allowed : Loader σ → Deed → Prop} {start : Loader σ}
    {past : List Deed} {journal : List Activity} (counted : Counted start.registry past)
    (life : Life services allowed start deeds journal loader) : Counted loader.registry (past ++ deeds) := by
  induction life with
  | born => simpa using counted
  | step _ step _ earlier =>
    rw [← List.append_assoc]
    exact earlier.step step

theorem counted_empty : Counted {} [] := ⟨fun _ => rfl, nofun, rfl⟩

/-- Where every record counts one file, the counts count the records. -/
theorem Counted.files_eq (counted : Counted loader.registry deeds) :
    loader.registry.loaded.files = loader.registry.files.keys.length := by
  have single : ∀ info ∈ loader.registry.files.entries.map Prod.snd, info.files = 1 := by
    intro info member
    obtain ⟨⟨key, _⟩, entry, rfl⟩ := List.mem_map.mp member
    exact counted.single key _ (Table.mem_entries_iff.mp entry)
  rw [counted.total, Table.total, ScriptInfo.files_sum single, List.length_map, Table.keys, List.length_map]

/-- An unload takes away what it returns, and no counter stops at zero. -/
theorem Counted.unload_exact (counted : Counted loader.registry deeds) (services : Services σ) (path : Path) :
    (loader.unload services path).value.2.registry.loaded + (loader.unload services path).value.1 =
      loader.registry.loaded := by
  rw [unload_value, counted.loaded_eq path, (counted.afterUnload path {}).total]
  exact add_comm _ _

end

/--
Whatever a new loader does and whatever others do meanwhile, its counts are those of the loaded files. A path has a
record exactly if the last deed at it was a load that succeeded, and the record is what that load returned; it counts
one file. The counts are the sum of the records, so that the number of files is that of the paths with a record. The
unload of any path, in front of a request or in the middle of a batch, takes away exactly what it returns.
-/
theorem counts_describe_loaded_files {services : Services σ} {start final : Loader σ} {journal : List Activity}
    (new : start.registry = {}) (life : Life services Unrestricted start deeds journal final) :
    let files := final.registry.files
    (∀ key info, files.find? key = some info ↔ ∃ path, lastAt? key deeds = some (.load path (.ok info))) ∧
      (∀ key info, files.find? key = some info → info.files = 1) ∧
      final.registry.loaded = files.total ∧
      (files.keys.Nodup ∧ (∀ path, path.components ∈ files.keys ↔ final.registry.isLoaded path = true) ∧
        final.registry.loaded.files = files.keys.length) ∧
      ∀ paths path,
        let before := (final.loadEach services paths).value.2
        let after := (before.unload services path).value
        after.2.registry.loaded + after.1 = before.registry.loaded := by
  intro files
  have started : Counted start.registry [] := by
    rw [new]
    exact counted_empty
  have counted : Counted final.registry deeds := started.life life
  have known (path : Path) : path.components ∈ files.keys ↔ final.registry.isLoaded path = true :=
    Table.mem_keys_iff
  refine ⟨fun key info => ?_, counted.single, counted.total, ⟨files.distinct, known, counted.files_eq⟩, ?_⟩
  · rw [counted.records, recordOf?_eq_some_iff]
  · intro paths path
    obtain ⟨further, batch, -⟩ := loadEach_lives services paths final
    exact (counted.life batch).unload_exact services path

section Scene

open Rehearsal

/-- A script was loaded under two spellings of its path, was lost, and was reloaded under the first one. -/
def sceneLost : Loader Desk :=
  let batch := (sceneLoader.loadFiles sceneServices [scenePath, ⟨"./a.sk"⟩]).value.2
  (({ batch with disk := {} } : Loader Desk).reload sceneServices scenePath).value.2

theorem sceneLost_life : ∃ deeds journal, Life sceneServices Unrestricted sceneLoader deeds journal sceneLost := by
  obtain ⟨_, batch, -⟩ := loadFiles_lives sceneServices [scenePath, ⟨"./a.sk"⟩] sceneLoader
  unfold sceneLost
  generalize (sceneLoader.loadFiles sceneServices [scenePath, ⟨"./a.sk"⟩]).value.2 = loaded at batch ⊢
  obtain ⟨_, again, -⟩ := reload_lives sceneServices scenePath { loaded with disk := {} }
  exact ⟨_, _, (batch.unrestricted.step (.edit {} _ _) trivial).trans again.unrestricted⟩

theorem scene_counts :
    ∃ deeds journal, Life sceneServices Unrestricted sceneLoader deeds journal sceneLost ∧
      sceneLost.registry.loaded = ⟨1, 2, 1⟩ ∧ sceneLost.registry.isLoaded scenePath = false ∧
      (∃ path, lastAt? (Path.components ⟨"./a.sk"⟩) deeds = some (.load path (.ok ⟨1, 2, 1⟩))) ∧
      sceneLost.registry.files.keys.length = 1 := by
  obtain ⟨loaded, gone, recorded⟩ : sceneLost.registry.loaded = ⟨1, 2, 1⟩ ∧
      sceneLost.registry.isLoaded scenePath = false ∧
      sceneLost.registry.files.find? (Path.components ⟨"./a.sk"⟩) = some ⟨1, 2, 1⟩ := by
    decide +kernel
  obtain ⟨deeds, journal, life⟩ := sceneLost_life
  have described := @counts_describe_loaded_files Desk deeds sceneServices sceneLoader sceneLost journal rfl life
  refine ⟨deeds, journal, life, loaded, gone, (described.1 _ _).mp recorded, ?_⟩
  rw [← described.2.2.2.1.2.2, loaded]

end Scene

end Loader

end TriggerScript
