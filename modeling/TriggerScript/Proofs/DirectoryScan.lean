import TriggerScript.Loader
import TriggerScript.Proofs.ProperTrees

/-!
# The directory scan

The scan goes down from the directory of scripts and keeps what looks like a script: `Sighted` says, of
the names on the way, when it comes to an entry and keeps it. Below a directory that can be read
throughout, that is the case for the files with the extension of scripts, where no name on the way is
one to pass over; a name that is no text is never passed over. The result is sorted, so the order in which
directories list their entries makes no difference.
-/

namespace TriggerScript

/-! ## Listings -/

/-- The same entries in other orders, in the directory and in those below it. -/
inductive DiskEntry.Relisted : List DiskEntry → List DiskEntry → Prop where
  | nil : Relisted [] []
  | cons (entry : DiskEntry) {left right : List DiskEntry} :
      Relisted left right → Relisted (entry :: left) (entry :: right)
  | within (name : Bytes) {below others left right : List DiskEntry} :
      Relisted below others → Relisted left right →
        Relisted (.directory name below :: left) (.directory name others :: right)
  | swap (first second : DiskEntry) (rest : List DiskEntry) :
      Relisted (first :: second :: rest) (second :: first :: rest)
  | trans {left between right : List DiskEntry} :
      Relisted left between → Relisted between right → Relisted left right

namespace Disk

/-- A path that is too long to be followed. -/
def Overlong (path : Path) : Prop := pathLimit ≤ path.bytes.length

/-- A directory is listed where its path leads, unless it does not let its entries be listed. -/
theorem list_eq_ok_iff {disk : Disk} {path : Path} {location : Location} {entries : List DiskEntry} :
    disk.list path = .ok (location, entries) ↔
      disk.locate path (steps path) = .ok location ∧ disk.sealed location = none ∧
        ∃ own, disk.root.find? location = some (.directory own entries) := by
  rw [list, bind_eq_ok]
  constructor
  · rintro ⟨⟨reached, held⟩, found, listed⟩
    obtain ⟨located, stands⟩ := contents_eq_ok.mp found
    dsimp only at listed
    cases unsealed : disk.sealed reached with
    | some error =>
      rw [unsealed] at listed
      cases listed
    | none =>
      rw [unsealed] at listed
      cases listed
      exact ⟨located, unsealed, stands⟩
  · rintro ⟨located, unsealed, stands⟩
    refine ⟨(location, entries), contents_eq_ok.mpr ⟨located, stands⟩, ?_⟩
    simp only [unsealed]
    rfl

theorem not_overlong_of_list {disk : Disk} {path : Path} {found : Location × List DiskEntry}
    (listed : disk.list path = .ok found) : ¬ Overlong path :=
  Nat.not_le.mpr (locate_eq_ok.mp (list_eq_ok_iff.mp listed).1).1.2.2

theorem exists_list_iff {disk : Disk} {path : Path} {location : Location} :
    (∃ entries, disk.list path = .ok (location, entries)) ↔
      disk.locate path (steps path) = .ok location ∧ disk.sealed location = none ∧
        disk.spot location = .directory := by
  simp only [list_eq_ok_iff]
  constructor
  · rintro ⟨entries, located, unsealed, own, found⟩
    exact ⟨located, unsealed, by rw [spot, found]; rfl⟩
  · rintro ⟨located, unsealed, directory⟩
    unfold spot at directory
    cases found : disk.root.find? location with
    | none => simp [found, Spot.of] at directory
    | some entry =>
      cases entry with
      | file _ _ _ => simp [found, Spot.of] at directory
      | directory own entries => exact ⟨entries, located, unsealed, own, rfl⟩

/-- All directories from a location on down can be read by their paths below `top`. -/
def Readable (disk : Disk) (top : Path) (location : Location) : Prop :=
  ∀ names, disk.spot (location ++ names) = .directory →
    ∃ entries, disk.list (top.below names) = .ok (location ++ names, entries)

end Disk

namespace Config

/-! ## Names of scripts -/

/-- Texts that start like this one are passed over; an empty start passes over nothing. -/
def Skips (config : Config) (name : Bytes) : Prop :=
  config.disabledPrefix ≠ "" ∧ ∃ text, Text.ofBytes? name = some text ∧ config.disabledPrefix.toList <+: text.toList

variable (config : Config) (directory : Path) {name : Bytes}

theorem isDisabled_join_name (isName : Path.IsName name) :
    config.isDisabled (directory.join ⟨name⟩) = true ↔ config.Skips name := by
  rw [isDisabled, Path.fileName?_join_name directory isName, Option.bind_some, Skips]
  cases Text.ofBytes? name <;> simp

theorem isScript_join_name (isName : Path.IsName name) :
    config.isScript (directory.join ⟨name⟩) = true ↔
      Path.HasExtension name config.extension ∧ ¬ config.Skips name := by
  simp [isScript, Path.extension?_join_name directory isName, ← isDisabled_join_name config directory isName]

end Config

namespace Loader

/-! ## What the scan comes to -/

/-- The path of what a scan comes upon. -/
def Finding.path : Finding → Path
  | .script path => path
  | .unlisted directory _ => directory

/-- The scan of a directory comes to where some names lead, and takes what stands there for a script. A
directory is entered if its entries can be listed, unless its path is too long; then it is taken for a file. -/
structure Sighted (config : Config) (directory : Path) (spotAt : Location → Spot)
    (sealed : Location → Option IoError) (names : Location) : Prop where
  enabled : ∀ name ∈ names, ¬ config.Skips name
  entered : ∀ above, above <+: names → above ≠ [] → above ≠ names →
    ¬ Disk.Overlong (directory.below above) ∧ sealed above = none
  called : ∃ name, names.getLast? = some name ∧ Path.HasExtension name config.extension
  stands : (∃ content modified, spotAt names = .file content modified) ∨
    (spotAt names = .directory ∧ Disk.Overlong (directory.below names))

section

variable {config : Config} {directory : Path} {spotAt : Location → Spot} {sealed : Location → Option IoError}
  {name : Bytes} {names : Location}

theorem Sighted.ne_nil (sighted : Sighted config directory spotAt sealed names) : names ≠ [] := by
  obtain ⟨name, last, -⟩ := sighted.called
  rintro rfl
  cases last

theorem Sighted.ne_free (sighted : Sighted config directory spotAt sealed names) : spotAt names ≠ .free := by
  obtain ⟨content, modified, file⟩ | ⟨stands, -⟩ := sighted.stands
  · simp [file]
  · simp [stands]

theorem sighted_singleton : Sighted config directory spotAt sealed [name] ↔
    ¬ config.Skips name ∧ Path.HasExtension name config.extension ∧
      ((∃ content modified, spotAt [name] = .file content modified) ∨
        (spotAt [name] = .directory ∧ Disk.Overlong (directory.join ⟨name⟩))) := by
  constructor
  · rintro ⟨enabled, -, ⟨_, last, called⟩, stands⟩
    cases last
    exact ⟨enabled _ List.mem_cons_self, called, stands⟩
  · rintro ⟨enabled, called, stands⟩
    refine ⟨by simpa using enabled, fun above start filled different => ?_, ⟨name, rfl, called⟩, stands⟩
    rcases List.prefix_cons_iff.mp start with rfl | ⟨rest, rfl, within⟩
    · exact absurd rfl filled
    · exact absurd (by rw [List.prefix_nil.mp within]) different

theorem sighted_cons (filled : names ≠ []) : Sighted config directory spotAt sealed (name :: names) ↔
    ¬ config.Skips name ∧ (¬ Disk.Overlong (directory.join ⟨name⟩) ∧ sealed [name] = none) ∧
      Sighted config (directory.join ⟨name⟩) (fun below => spotAt (name :: below))
        (fun below => sealed (name :: below)) names := by
  obtain ⟨next, rest, rfl⟩ := List.exists_cons_of_ne_nil filled
  constructor
  · rintro ⟨enabled, entered, called, stands⟩
    obtain ⟨first, others⟩ := List.forall_mem_cons.mp enabled
    refine ⟨first, entered [name] (by simp) (by simp) (by simp), others, ?_, called, stands⟩
    intro above start _ different
    exact entered (name :: above) (List.cons_prefix_cons.mpr ⟨rfl, start⟩) (by simp) (by simpa using different)
  · rintro ⟨first, passed, others, entered, called, stands⟩
    refine ⟨List.forall_mem_cons.mpr ⟨first, others⟩, ?_, called, stands⟩
    intro above start filled different
    rcases List.prefix_cons_iff.mp start with rfl | ⟨above, rfl, within⟩
    · exact absurd rfl filled
    · cases above with
      | nil => exact passed
      | cons second above => exact entered _ within (by simp) (by simpa using different)

end

theorem scanEntries_eq_flatMap (config : Config) (directory : Path) (sealed : Location → Option IoError)
    (entries : List DiskEntry) :
    scanEntries config directory sealed entries = entries.flatMap (scanEntry config directory sealed) := by
  induction entries with
  | nil => rfl
  | cons entry rest inductionHypothesis => rw [scanEntries, inductionHypothesis, List.flatMap_cons]

/-- What a scan comes upon at a directory that it does not go into; there is one finding at most. -/
def barred (config : Config) (path : Path) (refusal : Option IoError) : Option (List Finding) :=
  if config.isDisabled path then some []
  else if Disk.pathLimit ≤ path.bytes.length then some (if config.isScript path then [.script path] else [])
  else refusal.map fun error => [.unlisted path error]

theorem barred_cases {config : Config} {path : Path} {refusal : Option IoError} {findings : List Finding}
    (stopped : barred config path refusal = some findings) :
    findings = [] ∨ ∃ finding, findings = [finding] ∧ finding.path = path := by
  unfold barred at stopped
  split at stopped
  · exact .inl (Option.some.inj stopped).symm
  · split at stopped
    · split at stopped <;> cases stopped
      · exact .inr ⟨_, rfl, rfl⟩
      · exact .inl rfl
    · obtain ⟨error, -, rfl⟩ := Option.map_eq_some_iff.mp stopped
      exact .inr ⟨_, rfl, rfl⟩

section

variable {config : Config} {directory path : Path} {sealed : Location → Option IoError} {name : Bytes}

theorem scanEntry_directory_eq (entries : List DiskEntry) :
    scanEntry config directory sealed (.directory name entries) =
      (barred config (directory.join ⟨name⟩) (sealed [name])).getD
        (scanEntries config (directory.join ⟨name⟩) (fun names => sealed (name :: names)) entries) := by
  rw [scanEntry, barred]
  split
  · rfl
  · split
    · rfl
    · cases sealed [name] <;> rfl

theorem scanEntry_file (isName : Path.IsName name) {content : Bytes} {modified : Int} :
    Finding.script path ∈ scanEntry config directory sealed (.file name content modified) ↔
      path = directory.join ⟨name⟩ ∧ ¬ config.Skips name ∧ Path.HasExtension name config.extension := by
  have script := config.isScript_join_name directory isName
  have disabled := config.isDisabled_join_name directory isName
  rw [scanEntry]
  by_cases skipped : config.Skips name <;> by_cases called : Path.HasExtension name config.extension <;> simp_all

theorem scanEntry_directory (isName : Path.IsName name) {entries : List DiskEntry} :
    Finding.script path ∈ scanEntry config directory sealed (.directory name entries) ↔
      ¬ config.Skips name ∧
        ((Disk.Overlong (directory.join ⟨name⟩) ∧ path = directory.join ⟨name⟩ ∧
            Path.HasExtension name config.extension) ∨
          ((¬ Disk.Overlong (directory.join ⟨name⟩) ∧ sealed [name] = none) ∧
            .script path ∈
              scanEntries config (directory.join ⟨name⟩) (fun names => sealed (name :: names)) entries)) := by
  have script := config.isScript_join_name directory isName
  have disabled := config.isDisabled_join_name directory isName
  rw [scanEntry_directory_eq, barred]
  by_cases skipped : config.Skips name
  · simp_all
  · rw [if_neg (mt disabled.mp skipped)]
    by_cases long : Disk.Overlong (directory.join ⟨name⟩)
    · rw [if_pos (show Disk.pathLimit ≤ _ from long)]
      by_cases called : Path.HasExtension name config.extension <;> simp_all
    · rw [if_neg (show ¬ Disk.pathLimit ≤ _ from long)]
      cases sealed [name] <;> simp [skipped, long]

/-- What the scan finds at one entry is sighted by its name, if that is so for what the entry holds. -/
theorem mem_scanEntry_iff_sighted {entry : DiskEntry} (isName : Path.IsName entry.name)
    {spotAt : Location → Spot} (spots : ∀ names, spotAt (entry.name :: names) = .of (entry.find? names))
    (inside : ∀ {directory path : Path} {sealed : Location → Option IoError},
      Finding.script path ∈ scanEntries config directory sealed entry.entries ↔
        ∃ names, Sighted config directory (fun below => .of (entry.find? below)) sealed names ∧
          path = directory.below names) :
    Finding.script path ∈ scanEntry config directory sealed entry ↔
      ∃ names, Sighted config directory spotAt sealed (entry.name :: names) ∧
        path = directory.below (entry.name :: names) := by
  have behind := funext spots
  cases entry with
  | file name content modified =>
    dsimp only [DiskEntry.name] at *
    rw [scanEntry_file isName]
    constructor
    · rintro ⟨rfl, enabled, called⟩
      exact ⟨[], sighted_singleton.mpr ⟨enabled, called, .inl ⟨content, modified, spots []⟩⟩, rfl⟩
    · rintro ⟨names, sighted, rfl⟩
      cases names with
      | nil =>
        obtain ⟨enabled, called, -⟩ := sighted_singleton.mp sighted
        exact ⟨rfl, enabled, called⟩
      -- There is nothing below a file.
      | cons next more => exact absurd (spots (next :: more)) sighted.ne_free
  | directory name held =>
    dsimp only [DiskEntry.name] at *
    rw [scanEntry_directory isName]
    constructor
    · rintro ⟨enabled, ⟨long, rfl, called⟩ | ⟨passed, found⟩⟩
      · exact ⟨[], sighted_singleton.mpr ⟨enabled, called, .inr ⟨spots [], long⟩⟩, rfl⟩
      · obtain ⟨names, sighted, rfl⟩ := inside.mp found
        rw [← behind] at sighted
        exact ⟨names, (sighted_cons sighted.ne_nil).mpr ⟨enabled, passed, sighted⟩, rfl⟩
    · rintro ⟨names, sighted, rfl⟩
      -- A directory is itself taken for a script only if its path is too long, and then nothing in it is seen.
      by_cases ends : names = []
      · subst ends
        obtain ⟨enabled, called, ⟨_, _, file⟩ | ⟨-, long⟩⟩ := sighted_singleton.mp sighted
        · cases file.symm.trans (spots [])
        · exact ⟨enabled, .inl ⟨long, rfl, called⟩⟩
      · obtain ⟨enabled, passed, within⟩ := (sighted_cons ends).mp sighted
        exact ⟨enabled, .inr ⟨passed, inside.mpr ⟨names, behind ▸ within, rfl⟩⟩⟩

/-- The scan of a proper directory finds what is sighted in it. -/
theorem mem_entries_iff_sighted {entry : DiskEntry} (proper : entry.Proper) :
    Finding.script path ∈ scanEntries config directory sealed entry.entries ↔
      ∃ names, Sighted config directory (fun below => .of (entry.find? below)) sealed names ∧
        path = directory.below names := by
  -- What is below an entry is scanned by a longer path and with the seals seen from there, so both vary.
  induction proper generalizing directory path sealed with
  | file _ _ _ =>
    refine iff_of_false List.not_mem_nil ?_
    rintro ⟨names, sighted, -⟩
    obtain ⟨name, rest, rfl⟩ := List.exists_cons_of_ne_nil sighted.ne_nil
    exact sighted.ne_free rfl
  | @directory own entries distinct named inside inductionHypothesis =>
    have spots (entry) (member : entry ∈ entries) (names : Location) :
        Spot.of ((DiskEntry.directory own entries).find? (entry.name :: names)) = .of (entry.find? names) := by
      rw [DiskEntry.find?_directory, DiskEntry.find?_name distinct member, Option.bind_some]
    have step (entry) (member : entry ∈ entries) :=
      @mem_scanEntry_iff_sighted config directory path sealed entry (named entry member)
        (fun names => .of ((DiskEntry.directory own entries).find? names)) (spots entry member)
        (inductionHypothesis entry member)
    rw [DiskEntry.entries, scanEntries_eq_flatMap, List.mem_flatMap]
    constructor
    · rintro ⟨entry, member, found⟩
      obtain ⟨names, sighted, reached⟩ := (step entry member).mp found
      exact ⟨entry.name :: names, sighted, reached⟩
    · rintro ⟨names, sighted, reached⟩
      obtain ⟨name, rest, rfl⟩ := List.exists_cons_of_ne_nil sighted.ne_nil
      obtain ⟨entry, first⟩ : ∃ entry, entries.find? (·.name = name) = some entry := by
        refine Option.ne_none_iff_exists'.mp fun missing => sighted.ne_free ?_
        rw [DiskEntry.find?_directory, missing]
        rfl
      have member := List.mem_of_find?_eq_some first
      obtain rfl : entry.name = name := by simpa using List.find?_some first
      exact ⟨entry, member, (step entry member).mpr ⟨rest, sighted, reached⟩⟩

/-! ## The order of the scan -/

/-- What the scan comes upon at an entry is the entry itself, or something inside of a directory. -/
theorem scanEntry_cases {entry : DiskEntry} {finding : Finding}
    (found : finding ∈ scanEntry config directory sealed entry) :
    finding.path = directory.join ⟨entry.name⟩ ∨
      finding ∈ scanEntries config (directory.join ⟨entry.name⟩) (fun names => sealed (entry.name :: names))
        entry.entries := by
  cases entry with
  | file name content modified =>
    rw [scanEntry] at found
    split at found
    · exact .inl (by rw [List.mem_singleton.mp found]; rfl)
    · cases found
  | directory name entries =>
    rw [scanEntry_directory_eq] at found
    cases stopped : barred config (directory.join ⟨name⟩) (sealed [name]) with
    | none =>
      rw [stopped] at found
      exact .inr found
    | some findings =>
      rw [stopped] at found
      rcases barred_cases stopped with rfl | ⟨_, rfl, own⟩
      · cases found
      · exact .inl (List.mem_singleton.mp found ▸ own)

/-- What the scan comes upon at an entry has a path that goes through the entry's name. -/
theorem components_of_mem_scanEntry {entry : DiskEntry} (proper : entry.Proper) (isName : Path.IsName entry.name)
    {finding : Finding} (found : finding ∈ scanEntry config directory sealed entry) :
    ∃ rest, finding.path.components = directory.components ++ .name entry.name :: rest := by
  induction proper generalizing directory sealed with
  | file name content modified =>
    rcases scanEntry_cases found with own | inside
    · exact ⟨[], own ▸ Path.components_join_name directory isName⟩
    · cases inside
  | @directory name entries distinct named inside inductionHypothesis =>
    have own := Path.components_join_name directory isName
    rcases scanEntry_cases found with itself | found
    · exact ⟨[], itself ▸ own⟩
    · rw [scanEntries_eq_flatMap] at found
      obtain ⟨entry, member, found⟩ := List.mem_flatMap.mp found
      obtain ⟨rest, components⟩ := inductionHypothesis entry member (named entry member) found
      rw [own] at components
      exact ⟨.name entry.name :: rest, by simpa [DiskEntry.name] using components⟩

/-- The scan of a proper directory comes upon no path twice. -/
theorem pairwise_scanEntries {entry : DiskEntry} (proper : entry.Proper) :
    (scanEntries config directory sealed entry.entries).Pairwise
      fun left right => left.path.components ≠ right.path.components := by
  induction proper generalizing directory sealed with
  | file _ _ _ => exact .nil
  | @directory own entries distinct named inside inductionHypothesis =>
    rw [DiskEntry.entries, scanEntries_eq_flatMap, List.pairwise_flatMap]
    refine ⟨fun entry member => ?_, ?_⟩
    · cases entry with
      | file name content modified =>
        rw [scanEntry]
        split <;> simp
      | directory name held =>
        rw [scanEntry_directory_eq]
        cases stopped : barred config (directory.join ⟨name⟩) (sealed [name]) with
        | none => exact inductionHypothesis _ member
        | some findings => rcases barred_cases stopped with rfl | ⟨_, rfl, -⟩ <;> simp
    · -- Paths through different entries differ in the name that follows the directory.
      refine List.Pairwise.imp_of_mem ?_ (List.pairwise_map.mp distinct)
      intro left right isLeft isRight different first found second alsoFound same
      obtain ⟨_, ofFirst⟩ := components_of_mem_scanEntry (inside left isLeft) (named left isLeft) found
      obtain ⟨_, ofSecond⟩ := components_of_mem_scanEntry (inside right isRight) (named right isRight) alsoFound
      rw [ofFirst, ofSecond, List.append_cancel_left_eq] at same
      exact different (Path.Component.name.inj (List.cons.inj same).1)

end

/-- In whatever order directories list their entries, the scan comes upon the same. -/
theorem scanEntries_perm (config : Config) {left right : List DiskEntry}
    (relisted : DiskEntry.Relisted left right) (directory : Path) (sealed : Location → Option IoError) :
    (scanEntries config directory sealed left).Perm (scanEntries config directory sealed right) := by
  induction relisted generalizing directory sealed with
  | nil => exact .nil
  | cons entry _ inductionHypothesis => exact (inductionHypothesis directory sealed).append_left _
  | within name _ _ inside rest =>
    refine List.Perm.append ?_ (rest directory sealed)
    rw [scanEntry_directory_eq, scanEntry_directory_eq]
    -- Whether the scan goes into a directory does not depend on what the directory holds.
    cases barred config (directory.join ⟨name⟩) (sealed [name]) with
    | none => exact inside _ _
    | some findings => exact .refl _
  | swap first second rest =>
    simp only [scanEntries, ← List.append_assoc]
    exact List.perm_append_comm.append_right _
  | trans _ _ first second => exact (first directory sealed).trans (second directory sealed)

variable {σ : Type}

/-- The scripts among what a scan comes upon. -/
def scripts (findings : List Finding) : List Path := findings.filterMap Finding.script?

theorem mem_scripts {findings : List Finding} {path : Path} : path ∈ scripts findings ↔ .script path ∈ findings := by
  rw [scripts, List.mem_filterMap]
  constructor
  · rintro ⟨_ | _, member, same⟩ <;> cases same
    exact member
  · exact fun member => ⟨.script path, member, rfl⟩

theorem pairwise_scripts {findings : List Finding}
    (different : findings.Pairwise fun left right => left.path.components ≠ right.path.components) :
    (scripts findings).Pairwise fun left right => left.components ≠ right.components := by
  refine different.filterMap _ fun left right apart path isPath other isOther => ?_
  cases left <;> cases right <;> cases isPath <;> cases isOther
  exact apart

theorem paths_scriptFiles (loader : Loader σ) :
    loader.scriptFiles.value.1 = (scripts (scan loader.config loader.disk)).mergeSort Path.atMost := rfl

theorem scan_of_list {config : Config} {disk : Disk} {location : Location} {entries : List DiskEntry}
    (listed : disk.list config.scriptsDir = .ok (location, entries)) :
    scan config disk = scanEntries config config.scriptsDir (fun names => disk.sealed (location ++ names)) entries := by
  rw [scan, listed]

/-- A scan that cannot begin finds nothing. -/
theorem scriptFiles_of_unlisted {loader : Loader σ}
    (unlisted : ∀ found, loader.disk.list loader.config.scriptsDir ≠ .ok found) : loader.scriptFiles.value.1 = [] := by
  rw [paths_scriptFiles, scan]
  cases listed : loader.disk.list loader.config.scriptsDir with
  | error error => exact List.mergeSort_nil
  | ok found => exact absurd listed (unlisted found)

/-- What stands at the names below a location, as far as the tree there tells. -/
theorem spotsBelow {disk : Disk} {location : Location} {entry : DiskEntry}
    (found : disk.root.find? location = some entry) :
    (fun names => disk.spot (location ++ names)) = fun names => .of (entry.find? names) := by
  funext names
  rw [Disk.spot, DiskEntry.find?_append, found, Option.bind_some]

/-- What a scan sights below the location that it starts from. -/
def SightedAt (config : Config) (disk : Disk) (location names : Location) : Prop :=
  Sighted config config.scriptsDir (fun names => disk.spot (location ++ names))
    (fun names => disk.sealed (location ++ names)) names

section

variable {loader : Loader σ} {location : Location} {entries : List DiskEntry}
  (listed : loader.disk.list loader.config.scriptsDir = .ok (location, entries))
  (proper : loader.disk.ProperAt location)

include listed proper

theorem mem_scriptFiles_iff_sighted {path : Path} :
    path ∈ loader.scriptFiles.value.1 ↔
      ∃ names, SightedAt loader.config loader.disk location names ∧ path = loader.config.scriptsDir.below names := by
  obtain ⟨-, -, own, found⟩ := Disk.list_eq_ok_iff.mp listed
  unfold SightedAt
  rw [paths_scriptFiles, scan_of_list listed, List.mem_mergeSort, mem_scripts, spotsBelow found]
  exact mem_entries_iff_sighted (proper _ found)

/-- The paths that a scan of a proper directory finds are different. -/
theorem pairwise_scan :
    (scripts (scan loader.config loader.disk)).Pairwise fun left right => left.components ≠ right.components := by
  obtain ⟨-, -, own, found⟩ := Disk.list_eq_ok_iff.mp listed
  rw [scan_of_list listed]
  exact pairwise_scripts (pairwise_scanEntries (proper _ found))

theorem increasing_scriptFiles : Path.Increasing loader.scriptFiles.value.1 :=
  Path.increasing_mergeSort (pairwise_scan listed proper)

/-- Both scans come upon the same, and sorting forgets the order it was found in. -/
theorem scriptFiles_of_relisted {other : Loader σ} {relisted : List DiskEntry}
    (sameConfig : other.config = loader.config)
    (again : other.disk.list loader.config.scriptsDir = .ok (location, relisted))
    (sameSeals : other.disk.sealed = loader.disk.sealed) (relists : DiskEntry.Relisted entries relisted) :
    other.scriptFiles.value.1 = loader.scriptFiles.value.1 := by
  have permutation := (scanEntries_perm loader.config relists loader.config.scriptsDir
    fun names => loader.disk.sealed (location ++ names)).filterMap Finding.script?
  have otherScan : scan other.config other.disk =
      scanEntries loader.config loader.config.scriptsDir (fun names => loader.disk.sealed (location ++ names))
        relisted := by
    rw [scan_of_list (sameConfig ▸ again), sameConfig, sameSeals]
  have different := pairwise_scan listed proper
  rw [scan_of_list listed] at different
  rw [paths_scriptFiles, otherScan]
  refine Path.Increasing.eq_of_mem_iff (Path.increasing_mergeSort (different.perm permutation Ne.symm))
    (increasing_scriptFiles listed proper) fun path => ?_
  rw [paths_scriptFiles, scan_of_list listed, List.mem_mergeSort, List.mem_mergeSort]
  exact permutation.symm.mem_iff

end

/-- Where all can be read, the scan takes files for scripts and nothing else. -/
theorem sightedAt_iff_of_readable {config : Config} {disk : Disk} {location : Location}
    (readable : disk.Readable config.scriptsDir location) {above : Location} {name : Bytes} :
    SightedAt config disk location (above ++ [name]) ↔
      (∃ content modified, disk.spot (location ++ (above ++ [name])) = .file content modified) ∧
        Path.HasExtension name config.extension ∧ ∀ part ∈ above ++ [name], ¬ config.Skips part := by
  have passed (names) (directory : disk.spot (location ++ names) = .directory) :
      ¬ Disk.Overlong (config.scriptsDir.below names) ∧ disk.sealed (location ++ names) = none := by
    obtain ⟨entries, listed⟩ := readable names directory
    exact ⟨Disk.not_overlong_of_list listed, (Disk.list_eq_ok_iff.mp listed).2.1⟩
  constructor
  · rintro ⟨enabled, -, ⟨_, last, called⟩, file | ⟨directory, long⟩⟩
    · rw [List.getLast?_concat] at last
      cases last
      exact ⟨file, called, enabled⟩
    · exact absurd long (passed _ directory).1
  · rintro ⟨⟨content, modified, file⟩, called, enabled⟩
    refine ⟨enabled, fun upper start _ different => ?_, ⟨name, by simp, called⟩, .inl ⟨content, modified, file⟩⟩
    obtain ⟨rest, whole⟩ := start
    rw [← whole, ← List.append_assoc] at file
    have within : rest ≠ [] := by
      rintro rfl
      exact different (by simpa using whole)
    exact passed upper (Disk.spot_of_below (by rw [file]; simp) within)

/--
The scan finds exactly what is sighted below a directory that can be listed, in increasing order, and the order in
which directories list their entries makes no difference. Where all can be read, that is the files with the extension
of scripts that are not below or at a name to pass over.
-/
theorem scan_finds_enabled_scripts {loader : Loader σ} {location : Location} {entries : List DiskEntry}
    (listed : loader.disk.list loader.config.scriptsDir = .ok (location, entries))
    (proper : loader.disk.ProperAt location) :
    (∀ path, path ∈ loader.scriptFiles.value.1 ↔
      ∃ names, SightedAt loader.config loader.disk location names ∧ path = loader.config.scriptsDir.below names) ∧
    Path.Increasing loader.scriptFiles.value.1 ∧
    (∀ (other : Loader σ) (relisted : List DiskEntry), other.config = loader.config →
      other.disk.list loader.config.scriptsDir = .ok (location, relisted) →
      other.disk.sealed = loader.disk.sealed → DiskEntry.Relisted entries relisted →
      other.scriptFiles.value.1 = loader.scriptFiles.value.1) ∧
    (loader.disk.Readable loader.config.scriptsDir location →
      ∀ path, path ∈ loader.scriptFiles.value.1 ↔
        ∃ above name content modified,
          path = loader.config.scriptsDir.below (above ++ [name]) ∧
          loader.disk.spot (location ++ (above ++ [name])) = .file content modified ∧
          Path.HasExtension name loader.config.extension ∧
          ∀ part ∈ above ++ [name], ¬ loader.config.Skips part) := by
  have found (path : Path) := @mem_scriptFiles_iff_sighted σ loader location entries listed proper path
  refine ⟨found, increasing_scriptFiles listed proper, ?_, fun readable path => ?_⟩
  · intro other relisted sameConfig again sameSeals relists
    exact scriptFiles_of_relisted listed proper sameConfig again sameSeals relists
  · rw [found]
    constructor
    · rintro ⟨names, sighted, rfl⟩
      obtain ⟨above, name, rfl⟩ := names.eq_nil_or_concat'.resolve_left sighted.ne_nil
      obtain ⟨⟨content, modified, file⟩, called, enabled⟩ := (sightedAt_iff_of_readable readable).mp sighted
      exact ⟨above, name, content, modified, rfl, file, called, enabled⟩
    · rintro ⟨above, name, content, modified, rfl, file, called, enabled⟩
      exact ⟨above ++ [name],
        (sightedAt_iff_of_readable readable).mpr ⟨⟨content, modified, file⟩, called, enabled⟩, rfl⟩

/-- Scripts and others; `left` and `right` are listed in an order that is left open. -/
def sampleTree (left right : DiskEntry) : DiskEntry :=
  .directory "scripts" [.file "..sk" [] 0, left, right, .directory "-old" [.file "x.sk" [] 0],
    .directory "c.sk" [.file ".sk" [] 0, .file "d.sk" [] 0]]

def sampleFile : DiskEntry := .file "a-b.sk" [] 0

def sampleDirectory : DiskEntry := .directory "a" [.file "b.sk" [] 0, .file "-off.sk" [] 0]

def sampleLoader (left right : DiskEntry) : Loader Unit where
  config := {}
  disk := { entries := [.directory "" [sampleTree left right]] }
  state := ()

theorem sampleLoader_listed (left right : DiskEntry) :
    (sampleLoader left right).disk.list ⟨"scripts"⟩ = .ok (["", "scripts"], (sampleTree left right).entries) :=
  rfl

theorem sampleLoader_proper : (sampleLoader sampleFile sampleDirectory).disk.ProperAt ["", "scripts"] := by
  intro entry found
  cases found
  decide +kernel

theorem sampleLoader_readable :
    (sampleLoader sampleFile sampleDirectory).disk.Readable ⟨"scripts"⟩ ["", "scripts"] := by
  have all : ∀ names ∈ (sampleTree sampleFile sampleDirectory).directories,
      ((sampleLoader sampleFile sampleDirectory).disk.list (Path.below ⟨"scripts"⟩ names)).toOption.map Prod.fst =
        some (["", "scripts"] ++ names) := by
    decide +kernel
  intro names directory
  have listed := all names (DiskEntry.mem_directories directory)
  revert listed
  cases (sampleLoader sampleFile sampleDirectory).disk.list (Path.below ⟨"scripts"⟩ names) with
  | error error => exact nofun
  | ok found =>
    intro reached
    obtain ⟨location, entries⟩ := found
    cases reached
    exact ⟨entries, rfl⟩

theorem scan_of_sampleTree :
    (sampleLoader sampleFile sampleDirectory).disk.Readable ⟨"scripts"⟩ ["", "scripts"] ∧
    (sampleLoader sampleFile sampleDirectory).scriptFiles.value.1 =
      [⟨"scripts/..sk"⟩, ⟨"scripts/a/b.sk"⟩, ⟨"scripts/a-b.sk"⟩, ⟨"scripts/c.sk/d.sk"⟩] := by
  refine ⟨sampleLoader_readable, ?_⟩
  have relisted := (@scan_finds_enabled_scripts Unit (sampleLoader sampleFile sampleDirectory) _ _
    (sampleLoader_listed _ _) sampleLoader_proper).2.2.1 (sampleLoader sampleDirectory sampleFile) _ rfl
    (sampleLoader_listed _ _) rfl (.cons _ (.swap _ _ _))
  rw [← relisted, paths_scriptFiles]
  exact (List.mergeSort_of_pairwise (by decide +kernel)).trans (by decide +kernel)

/-! ## Names and paths that the scan misjudges -/

theorem partsBetween_slashes (count : Nat) : Text.partsBetween Path.slash (List.replicate count Path.slash) = [] := by
  induction count with
  | zero => rfl
  | succ count inductionHypothesis =>
    exact (Text.partsBetween_append [] (List.replicate count Path.slash)).trans inductionHypothesis

/-- The path of `a` with slashes behind it. -/
def stretched (count : Nat) : Path := ⟨0x61 :: List.replicate count Path.slash⟩

theorem stretched_ends (count : Nat) : (stretched (count + 1)).bytes.getLast? = some Path.slash := by
  rw [stretched, List.getLast?_cons, List.getLast?_replicate, if_neg (Nat.succ_ne_zero count)]
  rfl

theorem steps_stretched (count : Nat) : Disk.steps (stretched (count + 1)) = ["a", "."] := by
  have pieces : (stretched (count + 1)).pieces = ["a"] := by
    have parts := @Text.partsBetween_append UInt8 _ Path.slash [0x61] (List.replicate count Path.slash)
    rw [partsBetween_slashes, List.append_nil] at parts
    exact parts
  rw [Disk.steps, if_pos (stretched_ends count), Disk.plainSteps, pieces]
  rfl

/-- Below a path with slashes at its end there is a directory that is called like a script. -/
def stretchedLoader (count : Nat) : Loader Unit where
  config := { scriptsDir := stretched count, extension := "k" }
  disk := { entries := [.directory "" [.directory "a" [.directory "b.k" []]]] }
  state := ()

section

variable {count : Nat} (fits : count + 2 < Disk.pathLimit)

include fits

theorem stretchedLoader_listed :
    (stretchedLoader (count + 1)).disk.list (stretched (count + 1)) = .ok (["", "a"], [.directory "b.k" []]) := by
  have taken : Disk.IsTaken (stretched (count + 1)) := by
    refine ⟨nofun, ?_, ?_⟩
    · simp [stretched, Path.slash]
    · simpa [stretched] using fits
  refine Disk.list_eq_ok_iff.mpr ⟨?_, rfl, "a", rfl⟩
  rw [steps_stretched]
  exact Disk.locate_eq_ok.mpr ⟨taken, rfl⟩

/-- With no room for one more name, the directory is taken for a script. -/
theorem stretched_mem_scriptFiles (overflows : Disk.pathLimit ≤ count + 5) :
    (stretched (count + 1)).join ⟨"b.k"⟩ ∈ (stretchedLoader (count + 1)).scriptFiles.value.1 := by
  have proper : (stretchedLoader (count + 1)).disk.ProperAt ["", "a"] := by
    intro entry found
    cases found
    decide +kernel
  have long : Disk.Overlong ((stretched (count + 1)).join ⟨"b.k"⟩) := by
    have relative : Path.isAbsolute ⟨"b.k"⟩ = false := by decide +kernel
    rw [Disk.Overlong, Path.join, if_neg (by simp [relative]), if_pos (.inr (stretched_ends count))]
    have three : (Text.toBytes "b.k").length = 3 := by decide +kernel
    simp only [stretched, List.length_append, List.length_cons, List.length_replicate, three]
    omega
  have called : Path.HasExtension "b.k" "k" := ⟨"b", by decide +kernel, by decide +kernel, by decide +kernel⟩
  have enabled : ¬ (stretchedLoader (count + 1)).config.Skips "b.k" := by
    rintro ⟨-, text, isText, starts⟩
    have readable : Text.ofBytes? "b.k" = some "b.k" := by decide +kernel
    obtain rfl : "b.k" = text := Option.some.inj (readable.symm.trans isText)
    exact absurd starts (show ¬ "-".toList <+: "b.k".toList by decide +kernel)
  exact (mem_scriptFiles_iff_sighted (stretchedLoader_listed fits) proper).mpr
    ⟨["b.k"], sighted_singleton.mpr ⟨enabled, called, .inr ⟨rfl, long⟩⟩, rfl⟩

end

/-- One file and one directory have names that start like disabled ones but are no text. -/
def brokenNames : Loader Unit where
  config := {}
  disk :=
    { entries :=
        [.directory "" [.directory "scripts"
          [.directory [0x2d, 0xfe] [.file "a.sk" [] 0], .file ([0x2d, 0xff] ++ Text.toBytes ".sk") [] 0]]] }
  state := ()

/-- The scan takes names that start like disabled ones if they are no text, and directories whose paths are too long. -/
theorem scan_takes_disabled_and_directories :
    (brokenNames.config.disabledPrefix = "-" ∧
      brokenNames.scriptFiles.value.1 =
        [⟨Text.toBytes "scripts/-" ++ 0xfe :: Text.toBytes "/a.sk"⟩,
          ⟨Text.toBytes "scripts/-" ++ 0xff :: Text.toBytes ".sk"⟩]) ∧
    (stretchedLoader 4092).disk.isDirectory ⟨"a/b.k"⟩ = true ∧
      (stretched 4092).join ⟨"b.k"⟩ ∈ (stretchedLoader 4092).scriptFiles.value.1 := by
  refine ⟨⟨rfl, ?_⟩, by decide +kernel, @stretched_mem_scriptFiles 4091 (by decide) (by decide)⟩
  exact (List.mergeSort_of_pairwise (by decide +kernel)).trans (by decide +kernel)

end Loader

end TriggerScript
