import Mathlib.Data.List.Nodup
import TriggerScript.Proofs.RegistryReplay
import TriggerScript.Proofs.Subscriptions

/-!
# Files that are loaded again

A batch unloads each of its files, if it is loaded, and installs what the file brings now. `Reloaded` tells
what such a batch makes of any registry: all that came from the files is gone, and their new installs have
been added in order. For a batch of different files the order shows nowhere but in the order of the lists.
-/

namespace TriggerScript

namespace Table

variable {κ ν : Type} [DecidableEq κ]

theorem mem_entries_iff {table : Table κ ν} {key : κ} {value : ν} :
    (key, value) ∈ table.entries ↔ table.find? key = some value := by
  rw [find?, List.lookup_eq_some_iff]
  constructor
  · intro member
    obtain ⟨before, after, split⟩ := List.append_of_mem member
    refine ⟨before, after, split, fun entry earlier => ?_⟩
    have distinct := table.distinct
    rw [split, List.map_append, List.map_cons, List.nodup_append] at distinct
    exact bne_iff_ne.mpr (distinct.2.2 _ (List.mem_map_of_mem earlier) key List.mem_cons_self).symm
  · rintro ⟨before, after, split, -⟩
    rw [split]
    exact List.mem_append_right _ List.mem_cons_self

theorem mem_keys_iff {table : Table κ ν} {key : κ} : key ∈ table.keys ↔ (table.find? key).isSome = true := by
  rw [keys, List.mem_map, Option.isSome_iff_exists]
  constructor
  · rintro ⟨entry, member, rfl⟩
    exact ⟨entry.2, mem_entries_iff.mp member⟩
  · rintro ⟨value, found⟩
    exact ⟨(key, value), mem_entries_iff.mpr found, rfl⟩

/-- What a table adds up to does not depend on the order of its keys. -/
theorem total_eq_of_find? [AddCommMonoid ν] {left right : Table κ ν}
    (same : ∀ key, left.find? key = right.find? key) : left.total = right.total := by
  have entriesDistinct (table : Table κ ν) : table.entries.Nodup := table.distinct.of_map
  -- Without repeated keys, tables with the same entries are permutations of each other.
  have reordered : left.entries.Perm right.entries := by
    refine (List.perm_ext_iff_of_nodup (entriesDistinct left) (entriesDistinct right)).mpr fun entry => ?_
    rw [mem_entries_iff, mem_entries_iff, same]
  exact (reordered.map Prod.snd).sum_eq

end Table

namespace Registry

/-! ## What a batch makes of a registry -/

/-- The counts are those of all files together, and no event type has an empty list. -/
structure Sound (registry : Registry) : Prop where
  counted : registry.loaded = registry.files.total
  filled : ∀ eventType, registry.dispatch.find? eventType ≠ some []

theorem Represents.sound {registry : Registry} {installs : List Install} (represents : Represents registry installs) :
    registry.Sound where
  counted := represents.counted
  filled eventType := by
    rw [represents.dispatch]
    exact nonempty?_ne_some_nil _

/-- A trigger stays when some files are unloaded, those of them that are loaded. -/
def outlives (start : Registry) (paths : List Path) (trigger : Trigger) : Bool :=
  paths.all fun path => !(start.isLoaded path && trigger.isFrom path)

/-- All that came from some files is gone, and some installs have been added. -/
structure Reloaded (start : Registry) (paths : List Path) (installs : List Install) (registry : Registry) :
    Prop where
  files : ∀ key, registry.files.find? key =
    if key ∈ paths.map Path.components then recordAt? installs key else start.files.find? key
  dispatch : ∀ eventType, registry.dispatch.find? eventType =
    nonempty? ((start.triggersFor eventType).filter (start.outlives paths) ++
      boundTo eventType (installs.flatMap Install.bindings))
  selfManaged : registry.selfManaged =
    (start.selfManaged.filter fun entry => start.outlives paths entry.2) ++ installs.flatMap Install.hooked
  subscribed : registry.subscribed = start.subscribed
  counted : registry.loaded = registry.files.total

/-- All installs are of some files. -/
def InstallsOf (paths : List Path) (installs : List Install) : Prop :=
  ∀ install ∈ installs, install.file.components ∈ paths.map Path.components

section Steps

variable {start registry : Registry} {paths : List Path} {installs : List Install} {path : Path}

theorem outlives_concat_loaded (loaded : start.isLoaded path = true) :
    start.outlives (paths ++ [path]) = fun trigger => !trigger.isFrom path && start.outlives paths trigger := by
  funext trigger
  simp [outlives, loaded, Bool.and_comm]

theorem outlives_concat_unloaded (unloaded : start.isLoaded path = false) :
    start.outlives (paths ++ [path]) = start.outlives paths := by
  funext trigger
  simp [outlives, unloaded]

/-- Nothing was installed for another file. -/
theorem InstallsOf.filter_isAt (own : InstallsOf paths installs)
    (new : path.components ∉ paths.map Path.components) :
    (installs.filter fun install => !install.isAt path.components) = installs := by
  refine List.filter_eq_self.mpr fun install member => ?_
  have other : install.file.components ≠ path.components := fun same => new (same ▸ own install member)
  simp [Install.isAt, other]

theorem InstallsOf.recordAt?_eq_none (own : InstallsOf paths installs)
    (new : path.components ∉ paths.map Path.components) : recordAt? installs path.components = none := by
  rw [← own.filter_isAt new, recordAt?_filter, if_pos rfl]

theorem reloaded_nothing (sound : start.Sound) : Reloaded start [] [] start where
  files key := rfl
  dispatch eventType := by
    have all : (start.triggersFor eventType).filter (start.outlives []) = start.triggersFor eventType :=
      List.filter_eq_self.mpr fun _ _ => rfl
    rw [all, List.flatMap_nil, boundTo, List.filter_nil, List.map_nil, List.append_nil, triggersFor]
    have filled := sound.filled eventType
    cases found : start.dispatch.find? eventType with
    | none => rfl
    | some triggers =>
      rw [Option.getD_some, nonempty?_of_ne_nil]
      rintro rfl
      exact filled found
  selfManaged := by simp [outlives]
  subscribed := rfl
  counted := sound.counted

theorem Reloaded.isLoaded_eq (reloaded : Reloaded start paths installs registry)
    (new : path.components ∉ paths.map Path.components) : registry.isLoaded path = start.isLoaded path := by
  rw [isLoaded, isLoaded, Table.contains, Table.contains, reloaded.files, if_neg new]

/-- The records once one more file is unloaded. -/
theorem Reloaded.files_concat (reloaded : Reloaded start paths installs registry) (own : InstallsOf paths installs)
    (new : path.components ∉ paths.map Path.components) (key : List Path.Component) :
    (if key = path.components then none else registry.files.find? key) =
      if key ∈ (paths ++ [path]).map Path.components then recordAt? installs key else start.files.find? key := by
  by_cases same : key = path.components
  · subst same
    rw [if_pos rfl, if_pos (by simp), own.recordAt?_eq_none new]
  · rw [if_neg same, reloaded.files]
    simp [same]

theorem Reloaded.unload (reloaded : Reloaded start paths installs registry) (own : InstallsOf paths installs)
    (new : path.components ∉ paths.map Path.components) (loaded : registry.isLoaded path = true) :
    Reloaded start (paths ++ [path]) installs (registry.afterUnload path) := by
  have wasLoaded : start.isLoaded path = true := (reloaded.isLoaded_eq new).symm.trans loaded
  refine ⟨fun key => ?_, fun eventType => ?_, ?_, reloaded.subscribed, ?_⟩
  · rw [← reloaded.files_concat own new]
    exact Table.find?_erase _ _ _
  · refine (Table.find?_update _ _ _).trans ?_
    rw [reloaded.dispatch]
    refine (nonempty?_bind_filter _ _).trans ?_
    -- The new installs are of other files, so only triggers of the start can go.
    rw [List.filter_append, List.filter_filter, filter_boundTo, filter_flatMap_installs Install.mem_of_bindings,
      own.filter_isAt new, outlives_concat_loaded wasLoaded]
  · change registry.selfManaged.filter _ = _
    rw [reloaded.selfManaged, List.filter_append, List.filter_filter, filter_flatMap_installs Install.mem_of_hooked,
      own.filter_isAt new, outlives_concat_loaded wasLoaded]
  · -- The file's counts are a part of the total, so nothing is lost in the subtraction.
    have parted := reloaded.counted.trans (registry.files.total_eq_add_erase path.components)
    change registry.loaded.subtract (registry.fileInfo path) = (registry.files.erase path.components).total
    rw [parted]
    exact ScriptInfo.subtract_add _ _

theorem Reloaded.skip (reloaded : Reloaded start paths installs registry) (own : InstallsOf paths installs)
    (new : path.components ∉ paths.map Path.components) (unloaded : registry.isLoaded path = false) :
    Reloaded start (paths ++ [path]) installs registry := by
  have wasUnloaded : start.isLoaded path = false := (reloaded.isLoaded_eq new).symm.trans unloaded
  have absent : registry.files.find? path.components = none := by
    simpa [isLoaded, Table.contains] using unloaded
  refine ⟨fun key => ?_, ?_, ?_, reloaded.subscribed, reloaded.counted⟩
  · rw [← reloaded.files_concat own new]
    split
    · next same => rw [same, absent]
    · rfl
  · rw [outlives_concat_unloaded wasUnloaded]
    exact reloaded.dispatch
  · rw [outlives_concat_unloaded wasUnloaded]
    exact reloaded.selfManaged

theorem Reloaded.install (reloaded : Reloaded start paths installs registry) (install : Install)
    (listed : install.file.components ∈ paths.map Path.components) :
    Reloaded start paths (installs ++ [install])
      (registry.afterInstall install.file install.unit install.infos) where
  files key := by
    have record : registry.fileInfo install.file = (recordAt? installs install.file.components).getD 0 := by
      rw [fileInfo, reloaded.files, if_pos listed]
      rfl
    refine (Table.find?_insert _ _ _ _).trans ?_
    rw [record, recordAt?_append]
    split
    · next same => rw [same, if_pos listed]; rfl
    · exact reloaded.files key
  dispatch eventType := by
    rw [List.flatMap_append, boundTo_append, List.flatMap_singleton, ← List.append_assoc]
    exact find?_foldl_enlist (reloaded.dispatch eventType) install.bindings
  selfManaged := by
    rw [List.flatMap_append, List.flatMap_singleton, ← List.append_assoc, ← reloaded.selfManaged]
    rfl
  subscribed := reloaded.subscribed
  counted :=
    (congrArg (· + install.counts) reloaded.counted).trans
      (Table.total_insert_add registry.files install.file.components install.counts).symm

end Steps

/-! ## Another order -/

/-- Two registries hold the same, up to the order in their lists and tables. -/
structure SameUpToOrder (left right : Registry) : Prop where
  loaded : left.loaded = right.loaded
  files : ∀ key, left.files.find? key = right.files.find? key
  triggers : ∀ eventType, (left.triggersFor eventType).Perm (right.triggersFor eventType)
  selfManaged : left.selfManaged.Perm right.selfManaged
  subscribed : ∀ eventType, left.isSubscribed eventType = right.isSubscribed eventType

theorem outlives_perm (start : Registry) {paths order : List Path} (reordered : paths.Perm order) :
    start.outlives paths = start.outlives order := by
  funext trigger
  rw [outlives, outlives, Bool.eq_iff_iff, List.all_eq_true, List.all_eq_true]
  exact forall_congr' fun path => imp_congr_left reordered.mem_iff

theorem nonempty?_isSome_perm {α : Type} {left right : List α} (reordered : left.Perm right) :
    (nonempty? left).isSome = (nonempty? right).isSome := by
  by_cases empty : left = []
  · subst empty
    rw [reordered.nil_eq]
  · have filled : right ≠ [] := fun none => empty (none ▸ reordered).eq_nil
    rw [nonempty?_of_ne_nil empty, nonempty?_of_ne_nil filled]
    rfl

theorem recordAt?_perm {left right : List Install} (reordered : left.Perm right) (key : List Path.Component) :
    recordAt? left key = recordAt? right key := by
  have own := reordered.filter (Install.isAt key)
  rw [recordAt?, recordAt?]
  by_cases empty : left.filter (Install.isAt key) = []
  · rw [empty] at own ⊢
    rw [← own.nil_eq]
  · have filled : right.filter (Install.isAt key) ≠ [] := fun none => empty (none ▸ own).eq_nil
    rw [nonempty?_of_ne_nil empty, nonempty?_of_ne_nil filled, Option.map_some, Option.map_some,
      (own.map Install.counts).sum_eq]

/-- The same files with the same installs leave the same in any order, also once the host has been asked. -/
theorem Reloaded.subscribe_sameUpToOrder {start left right : Registry} {paths order : List Path}
    {installs installs' : List Install} (reloaded : Reloaded start paths installs left)
    (reloaded' : Reloaded start order installs' right) (reordered : paths.Perm order)
    (installed : installs.Perm installs') (host : Host) :
    SameUpToOrder (left.subscribe host).value.2 (right.subscribe host).value.2 := by
  have files (key : List Path.Component) : left.files.find? key = right.files.find? key := by
    rw [reloaded.files, reloaded'.files, recordAt?_perm installed]
    simp only [(reordered.map Path.components).mem_iff]
  have bound (eventType : EventType) :
      ((start.triggersFor eventType).filter (start.outlives paths) ++
        boundTo eventType (installs.flatMap Install.bindings)).Perm
      ((start.triggersFor eventType).filter (start.outlives order) ++
        boundTo eventType (installs'.flatMap Install.bindings)) := by
    rw [outlives_perm start reordered]
    exact (((installed.flatMap_right _).filter _).map _).append_left _
  refine ⟨?_, files, fun eventType => ?_, ?_, fun eventType => ?_⟩
  · change left.loaded = right.loaded
    rw [reloaded.counted, reloaded'.counted, Table.total_eq_of_find? files]
  · change ((left.dispatch.find? eventType).getD []).Perm ((right.dispatch.find? eventType).getD [])
    rw [reloaded.dispatch, reloaded'.dispatch, getD_nonempty?, getD_nonempty?]
    exact bound eventType
  · change left.selfManaged.Perm right.selfManaged
    rw [reloaded.selfManaged, reloaded'.selfManaged, outlives_perm start reordered]
    exact (installed.flatMap_right _).append_left _
  · -- The host has been asked for the types on record and for those with triggers.
    have asked (registry : Registry) (known : registry.subscribed = start.subscribed) :
        (registry.subscribe host).value.2.isSubscribed eventType = true ↔
          eventType ∈ start.subscribed ∨ (registry.dispatch.find? eventType).isSome = true := by
      rw [isSubscribed_iff]
      change eventType ∈ registry.subscribed ++ registry.unsubscribed ↔ _
      rw [List.mem_append, mem_unsubscribed, known, Table.mem_keys_iff]
      tauto
    rw [Bool.eq_iff_iff, asked left reloaded.subscribed, asked right reloaded'.subscribed, reloaded.dispatch,
      reloaded'.dispatch, nonempty?_isSome_perm (bound eventType)]

end Registry

end TriggerScript
