import TriggerScript.Proofs.ArtifactFiles
import TriggerScript.Proofs.PathOrder

/-!
# Proper trees

On a proper disk the entries of one directory have different names, and each name can be a step of a path. The
program keeps the disk proper: all that it ever does to a disk is to put a file or an empty directory at a place
that a path leads to, or to remove the file there.
-/

namespace TriggerScript

namespace DiskEntry

/-- Entries of one directory have different names, and every name can be a step of a path. -/
inductive Proper : DiskEntry → Prop where
  | file (name : Bytes) (content : Bytes) (modified : Int) : Proper (.file name content modified)
  | directory (own : Bytes) {entries : List DiskEntry}
      (distinct : (entries.map DiskEntry.name).Nodup)
      (named : ∀ entry ∈ entries, Path.IsName entry.name)
      (inside : ∀ entry ∈ entries, entry.Proper) : Proper (.directory own entries)

theorem proper_directory_iff {own : Bytes} {entries : List DiskEntry} :
    (DiskEntry.directory own entries).Proper ↔ (entries.map DiskEntry.name).Nodup ∧
      (∀ entry ∈ entries, Path.IsName entry.name) ∧ ∀ entry ∈ entries, entry.Proper :=
  ⟨fun | .directory _ distinct named inside => ⟨distinct, named, inside⟩,
    fun ⟨distinct, named, inside⟩ => .directory own distinct named inside⟩

mutual

def decideProper : (entry : DiskEntry) → Decidable entry.Proper
  | .file .. => .isTrue (.file ..)
  | .directory _ entries =>
    have := decideAllProper entries
    decidable_of_iff _ proper_directory_iff.symm
termination_by structural entry => entry

def decideAllProper : (entries : List DiskEntry) → Decidable (∀ entry ∈ entries, entry.Proper)
  | [] => .isTrue nofun
  | entry :: rest =>
    have := decideProper entry
    have := decideAllProper rest
    decidable_of_iff _ List.forall_mem_cons.symm
termination_by structural entries => entries

end

instance : DecidablePred Proper := decideProper

/-- In a proper directory every entry is found by its name. -/
theorem find?_name {entries : List DiskEntry} (distinct : (entries.map DiskEntry.name).Nodup)
    {entry : DiskEntry} (member : entry ∈ entries) : entries.find? (·.name = entry.name) = some entry := by
  induction entries with
  | nil => cases member
  | cons first rest inductionHypothesis =>
    obtain ⟨absent, distinct⟩ := List.nodup_cons.mp distinct
    rcases List.mem_cons.mp member with rfl | member
    · simp
    · have apart : first.name ≠ entry.name := fun same => absent (same ▸ List.mem_map_of_mem member)
      rw [List.find?_cons_of_neg (by simpa using apart), inductionHypothesis distinct member]

/-- The names that lead to an entry of a proper tree are proper names. -/
theorem Proper.isName {entry : DiskEntry} (proper : entry.Proper) {names : Location}
    (found : entry.find? names ≠ none) : ∀ name ∈ names, Path.IsName name := by
  induction proper generalizing names with
  | file _ _ _ =>
    cases names with
    | nil => simp
    | cons name names => exact absurd rfl found
  | @directory own entries distinct named inside inductionHypothesis =>
    cases names with
    | nil => simp
    | cons name names =>
      rw [find?_directory] at found
      cases first : entries.find? (·.name = name) with
      | none => simp [first] at found
      | some entry =>
        have member := List.mem_of_find?_eq_some first
        have same : entry.name = name := by simpa using List.find?_some first
        rw [first, Option.bind_some] at found
        exact List.forall_mem_cons.mpr ⟨same ▸ named entry member, inductionHypothesis entry member found⟩

/-- All that stands in a proper tree is proper. -/
theorem Proper.of_find? {entry found : DiskEntry} (proper : entry.Proper) {names : Location}
    (reached : found ∈ entry.find? names) : found.Proper := by
  induction proper generalizing names with
  | file name content modified =>
    cases names with
    | nil =>
      cases reached
      exact .file ..
    | cons name names => cases reached
  | @directory own entries distinct named inside inductionHypothesis =>
    cases names with
    | nil =>
      cases reached
      exact .directory own distinct named inside
    | cons name names =>
      rw [find?_directory] at reached
      obtain ⟨child, first, below⟩ := Option.mem_bind_iff.mp reached
      exact inductionHypothesis child (List.mem_of_find?_eq_some first) below

/-! ## Changed trees -/

theorem set_file (location : Location) (placed : Option DiskEntry) (name : Bytes) (content : Bytes)
    (modified : Int) : set location placed (.file name content modified) = .file name content modified := by
  rcases location with _ | ⟨_, _ | ⟨_, _⟩⟩ <;> rfl

theorem set_below (own : Bytes) (entries : List DiskEntry) (step : Bytes) (above : Location) (name : Bytes)
    (placed : Option DiskEntry) :
    set (step :: above ++ [name]) placed (.directory own entries) =
      .directory own (entries.map fun other =>
        if other.name = step then set (above ++ [name]) placed other else other) := by
  cases above <;> rfl

section

variable {name : Bytes} {placed : Option DiskEntry} (isName : Path.IsName name)
  (named : ∀ entry ∈ placed, entry.name = name) (whole : ∀ entry ∈ placed, entry.Proper)

include isName named whole

theorem proper_replaceIn {own : Bytes} {entries : List DiskEntry}
    (proper : (DiskEntry.directory own entries).Proper) :
    (DiskEntry.directory own (replaceIn name placed entries)).Proper := by
  obtain ⟨distinct, names, inside⟩ := proper_directory_iff.mp proper
  have member {entry : DiskEntry} (member : entry ∈ replaceIn name placed entries) :
      entry ∈ entries ∨ entry ∈ placed := by
    rcases List.mem_append.mp member with kept | new
    · exact .inl (List.mem_filter.mp kept).1
    · exact .inr (Option.mem_toList.mp new)
  refine .directory own ?_ (fun entry isMember => ?_) (fun entry isMember => ?_)
  · rw [replaceIn, List.map_append]
    have kept := distinct.sublist (List.filter_sublist (p := fun other => other.name ≠ name)
      |>.map DiskEntry.name)
    cases placed with
    | none => simpa using kept
    | some entry =>
      refine List.nodup_append.mpr ⟨kept, by simp, ?_⟩
      simp only [List.mem_map, List.mem_filter, Option.toList_some, List.map_singleton, List.mem_singleton,
        decide_eq_true_eq, named entry rfl]
      rintro _ ⟨other, ⟨-, different⟩, rfl⟩ _ rfl
      exact different
  · rcases member isMember with old | new
    · exact names entry old
    · exact named entry new ▸ isName
  · rcases member isMember with old | new
    · exact inside entry old
    · exact whole entry new

theorem proper_set {entry : DiskEntry} (proper : entry.Proper) (above : Location) :
    (set (above ++ [name]) placed entry).Proper := by
  induction above generalizing entry with
  | nil =>
    cases entry with
    | file _ _ _ => exact proper
    | directory own entries => exact proper_replaceIn isName named whole proper
  | cons step above inductionHypothesis =>
    cases entry with
    | file _ _ _ => rwa [set_file]
    | directory own entries =>
      obtain ⟨distinct, names, inside⟩ := proper_directory_iff.mp proper
      have sameName (other : DiskEntry) :
          (if other.name = step then set (above ++ [name]) placed other else other).name = other.name := by
        split <;> simp
      rw [set_below]
      refine .directory own ?_ ?_ ?_
      · rwa [List.map_map, show DiskEntry.name ∘ _ = DiskEntry.name from funext sameName]
      · simpa only [List.forall_mem_map, sameName] using names
      · simp only [List.forall_mem_map]
        intro other member
        split
        · exact inductionHypothesis (inside other member)
        · exact inside other member

/-- An entry that is put into a tree leaves proper what was proper, wherever that is. -/
theorem proper_find?_set {entry : DiskEntry} {location : Location}
    (proper : ∀ found ∈ entry.find? location, found.Proper) (above : Location) :
    ∀ found ∈ (set (above ++ [name]) placed entry).find? location, found.Proper := by
  induction location generalizing entry above with
  | nil =>
    simp only [find?_nil, Option.mem_def, Option.some.injEq, forall_eq'] at proper ⊢
    exact proper_set isName named whole proper above
  | cons step steps inductionHypothesis =>
    cases entry with
    | file _ _ _ => rwa [set_file]
    | directory own entries =>
      cases above with
      | nil =>
        rw [List.nil_append, set, find?_directory]
        by_cases same : step = name
        · subst same
          rw [find?_replaceIn_self named]
          intro found reached
          obtain ⟨child, new, below⟩ := Option.mem_bind_iff.mp reached
          exact (whole child new).of_find? below
        · rwa [find?_replaceIn_other named same, ← find?_directory own]
      | cons first above =>
        rw [set_below, find?_directory, find?_map_set]
        rw [find?_directory] at proper
        generalize entries.find? (·.name = step) = reached at proper ⊢
        cases reached with
        | none => exact proper
        | some child =>
          simp only [Option.map_some, Option.bind_some] at proper ⊢
          split
          · exact inductionHypothesis proper above
          · exact proper

end

mutual

/-- The names that lead to the directories of a tree. -/
def directories : DiskEntry → List Location
  | .file .. => []
  | .directory _ entries => [] :: directoriesIn entries
termination_by structural entry => entry

def directoriesIn : List DiskEntry → List Location
  | [] => []
  | entry :: rest => entry.directories.map (entry.name :: ·) ++ directoriesIn rest
termination_by structural entries => entries

end

theorem mem_directoriesIn {entries : List DiskEntry} {entry : DiskEntry} (member : entry ∈ entries)
    {names : Location} (stands : names ∈ entry.directories) : entry.name :: names ∈ directoriesIn entries := by
  induction entries with
  | nil => cases member
  | cons first rest inductionHypothesis =>
    rw [directoriesIn, List.mem_append]
    rcases List.mem_cons.mp member with rfl | member
    · exact .inl (List.mem_map_of_mem stands)
    · exact .inr (inductionHypothesis member)

theorem mem_directories {entry : DiskEntry} {names : Location}
    (stands : Spot.of (entry.find? names) = .directory) : names ∈ entry.directories := by
  induction names generalizing entry with
  | nil =>
    cases entry with
    | file _ _ _ => cases stands
    | directory own entries => exact List.mem_cons_self
  | cons name names inductionHypothesis =>
    cases entry with
    | file _ _ _ => cases stands
    | directory own entries =>
      rw [find?_directory] at stands
      cases first : entries.find? (·.name = name) with
      | none =>
        rw [first] at stands
        cases stands
      | some child =>
        rw [first, Option.bind_some] at stands
        obtain rfl : child.name = name := by simpa using List.find?_some first
        exact List.mem_cons_of_mem _
          (mem_directoriesIn (List.mem_of_find?_eq_some first) (inductionHypothesis stands))

end DiskEntry

namespace Disk

/-- A tree stands at a location that is proper, or nothing does. -/
def ProperAt (disk : Disk) (location : Location) : Prop :=
  ∀ entry ∈ disk.root.find? location, entry.Proper

/-- What something stands below is a directory. -/
theorem spot_of_below {disk : Disk} {above names : Location} (stands : disk.spot (above ++ names) ≠ .free)
    (filled : names ≠ []) : disk.spot above = .directory := by
  obtain ⟨name, rest, rfl⟩ := List.exists_cons_of_ne_nil filled
  rw [spot, DiskEntry.find?_append] at stands
  unfold spot
  cases found : disk.root.find? above with
  | none => simp [found, Spot.of] at stands
  | some entry =>
    cases entry with
    | file _ _ _ => simp [found, DiskEntry.find?, Spot.of] at stands
    | directory _ _ => rfl

/-- The names that lead further down from a proper tree are proper names. -/
theorem ProperAt.isName {disk : Disk} {location : Location} (proper : disk.ProperAt location) {names : Location}
    (stands : disk.spot (location ++ names) ≠ .free) : ∀ name ∈ names, Path.IsName name := by
  rw [spot, DiskEntry.find?_append] at stands
  cases found : disk.root.find? location with
  | none => simp [found, Spot.of] at stands
  | some entry =>
    refine (proper entry found).isName fun missing => stands ?_
    rw [found, Option.bind_some, missing]
    rfl

theorem mem_directories_of_spot {disk : Disk} {location names : Location}
    (directory : disk.spot (location ++ names) = .directory) :
    names ∈ (disk.root.find? location).elim [] DiskEntry.directories := by
  rw [spot, DiskEntry.find?_append] at directory
  cases found : disk.root.find? location with
  | none =>
    rw [found] at directory
    cases directory
  | some entry =>
    rw [found, Option.bind_some] at directory
    exact DiskEntry.mem_directories directory

/-! ## Edited disks -/

/-- One disk comes from another by putting proper entries to places with proper names, or by removing them. -/
inductive Edited : Disk → Disk → Prop where
  | refl (disk : Disk) : Edited disk disk
  | set (disk : Disk) (above : Location) {name : Bytes} {placed : Option DiskEntry}
      (isName : Path.IsName name) (named : ∀ entry ∈ placed, entry.name = name)
      (whole : ∀ entry ∈ placed, entry.Proper) : Edited disk (disk.set (above ++ [name]) placed)
  | trans {before between after : Disk} : Edited before between → Edited between after → Edited before after

theorem Edited.sealed_eq {before after : Disk} (edited : Edited before after) : after.sealed = before.sealed := by
  induction edited with
  | refl | set => rfl
  | trans _ _ first second => exact second.trans first

theorem Edited.properAt {before after : Disk} (edited : Edited before after) {location : Location}
    (proper : before.ProperAt location) : after.ProperAt location := by
  induction edited with
  | refl => exact proper
  | set disk above isName named whole =>
    unfold ProperAt at proper ⊢
    rw [root_set]
    exact DiskEntry.proper_find?_set isName named whole proper above
  | trans _ _ first second => exact second (first proper)

section

variable {disk after : Disk} {path : Path} {location : Location} {placed : Option DiskEntry}

/-- What is no directory has a proper name, so it can be replaced. -/
theorem edited_set {taken : List Bytes} (along : Along path taken)
    (located : disk.locate path taken = .ok location) (other : disk.spot location ≠ .directory)
    (named : ∀ entry ∈ placed, entry.name = location.getLastD []) (whole : ∀ entry ∈ placed, entry.Proper) :
    Edited disk (disk.set location placed) := by
  obtain ⟨above, name, rfl, ends⟩ := ends_in_name along located other
  exact .set disk above (Path.isName_of_fileName? ends) (by simpa using named) whole

theorem write_edited {content : Bytes} {modified : Int} (written : disk.write path content modified = .ok after) :
    Edited disk after := by
  obtain ⟨location, located, placed⟩ := bind_eq_ok.mp written
  cases spot : disk.spot location with
  | directory =>
    rw [spot] at placed
    cases placed
  | free | file _ _ =>
    rw [spot] at placed
    cases placed
    exact edited_set (along_plainSteps path) located (by simp [spot]) (by simp [DiskEntry.name])
      (by simpa using DiskEntry.Proper.file _ content modified)

theorem remove_edited (removed : disk.remove path = .ok after) : Edited disk after := by
  obtain ⟨location, located, placed⟩ := bind_eq_ok.mp removed
  cases spot : disk.spot location with
  | free | directory =>
    rw [spot] at placed
    cases placed
  | file content modified =>
    rw [spot] at placed
    cases placed
    exact edited_set (along_steps path) located (by simp [spot]) nofun nofun

theorem makeDirectory_edited (made : disk.makeDirectory path = .ok after) : Edited disk after := by
  obtain ⟨location, located, placed⟩ := bind_eq_ok.mp made
  cases spot : disk.spot location with
  | file _ _ | directory =>
    rw [spot] at placed
    cases placed
  | free =>
    rw [spot] at placed
    cases placed
    exact edited_set (along_plainSteps path) located (by simp [spot]) (by simp [DiskEntry.name])
      (by simpa using .directory _ List.nodup_nil nofun nofun)

theorem makeDirectories_edited (disk : Disk) (path : Path) : Edited disk (disk.makeDirectories path).2 :=
  makeNested_related .refl .trans makeDirectory_edited disk path.ancestors

theorem makeTemporary_edited {directory : Path} (made : disk.makeTemporary directory = .ok (path, after)) :
    Edited disk after := by
  obtain ⟨entries, -, continued⟩ := bind_eq_ok.mp made
  obtain ⟨written, wrote, ended⟩ := bind_eq_ok.mp continued
  cases ended
  exact write_edited wrote

theorem rename_edited {source target : Path} (renamed : disk.rename source target = .ok after) :
    Edited disk after := by
  obtain ⟨spot, -, continued⟩ := bind_eq_ok.mp renamed
  cases spot with
  | free | directory => cases continued
  | file content modified =>
    obtain ⟨location, -, continued⟩ := bind_eq_ok.mp continued
    obtain ⟨goal, -, continued⟩ := bind_eq_ok.mp continued
    split at continued
    · cases continued
      exact .refl disk
    · obtain ⟨between, written, removed⟩ := bind_eq_ok.mp continued
      exact (write_edited written).trans (remove_edited removed)

end

end Disk

namespace Cache

open Disk

theorem dropFile_edited (path : Path) (disk : Disk) : Edited disk (dropFile path disk) := by
  unfold dropFile
  cases removed : disk.remove path with
  | ok after => exact remove_edited removed
  | error error => exact .refl disk

theorem writeThrough_edited {temporary artifact : Path} {stamp : Int64} {unit : CompiledUnit} {disk after : Disk}
    (written : writeThrough temporary artifact stamp unit disk = .ok after) : Edited disk after := by
  unfold writeThrough at written
  cases encoded : Artifact.encode? stamp unit with
  | none =>
    rw [encoded] at written
    cases written
  | some bytes =>
    rw [encoded] at written
    obtain ⟨filled, wrote, renamed⟩ := bind_eq_ok.mp written
    exact (write_edited (mapError_eq_ok.mp wrote)).trans (rename_edited (mapError_eq_ok.mp renamed))

section

variable (cache : Cache) (script : Path) (stamp : Int64) (unit : CompiledUnit) (disk : Disk)

theorem write_edited : Edited disk (cache.write script stamp unit disk).2 := by
  have made := makeDirectories_edited disk ((cache.artifactOf script).parent?.getD ⟨"."⟩)
  unfold Cache.write
  dsimp only
  generalize disk.makeDirectories ((cache.artifactOf script).parent?.getD ⟨"."⟩) = result at made
  obtain ⟨error | _, ready⟩ := result
  · exact made
  dsimp only at made ⊢
  cases temporary : ready.makeTemporary ((cache.artifactOf script).parent?.getD ⟨"."⟩) with
  | error error => exact made
  | ok opened =>
    obtain ⟨path, opened⟩ := opened
    have opens := made.trans (makeTemporary_edited temporary)
    dsimp only
    cases written : writeThrough path (cache.artifactOf script) stamp unit opened with
    | ok after => exact opens.trans (writeThrough_edited written)
    | error error => exact opens.trans (dropFile_edited path opened)

theorem store_edited : Edited disk (cache.store script stamp unit disk).value.2 := by
  have written := cache.write_edited script stamp unit disk
  rw [store_value]
  generalize cache.write script stamp unit disk = result at written ⊢
  obtain ⟨error | _, after⟩ := result
  · exact written.trans (dropFile_edited _ after)
  · exact written

end

end Cache

end TriggerScript
