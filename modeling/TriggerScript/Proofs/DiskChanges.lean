import Mathlib.Data.List.Basic
import TriggerScript.Disk
import TriggerScript.Proofs.PathPieces

/-!
# Changes of the disk

An operation changes what stands at one location, if anything; `Updates` says so exactly. From it follows
what a change leaves alone: `ChangesOnly` keeps all directories, and all files outside of the locations
that were touched. Where a path leads depends on its bytes alone, so two paths that lead to different
locations never get in each other's way.
-/

namespace TriggerScript

theorem bind_eq_ok {ε α β : Type} {first : Except ε α} {next : α → Except ε β} {result : β} :
    (first >>= next) = .ok result ↔ ∃ value, first = .ok value ∧ next value = .ok result := by
  cases first with
  | error error => exact ⟨nofun, nofun⟩
  | ok value =>
    refine ⟨fun continued => ⟨value, rfl, continued⟩, fun ⟨_, same, continued⟩ => ?_⟩
    cases same
    exact continued

theorem mapError_eq_ok {ε ε' α : Type} {first : Except ε α} {change : ε → ε'} {value : α} :
    first.mapError change = .ok value ↔ first = .ok value := by
  cases first with
  | error error => exact ⟨nofun, nofun⟩
  | ok found => exact ⟨fun same => by cases same; rfl, fun same => by cases same; rfl⟩

namespace DiskEntry

@[simp] theorem find?_nil (entry : DiskEntry) : entry.find? [] = some entry := by
  cases entry <;> rfl

theorem find?_directory (own : Bytes) (entries : List DiskEntry) (step : Bytes)
    (steps : Location) :
    (DiskEntry.directory own entries).find? (step :: steps) =
      (entries.find? (·.name = step)).bind (·.find? steps) := by
  rw [find?]
  cases entries.find? (·.name = step) <;> rfl

/-- An entry has no entries of its own. -/
def IsLeaf (entry : DiskEntry) : Prop := entry.entries = []

theorem isLeaf_of_ne_directory {found : Option DiskEntry} (other : Spot.of found ≠ .directory) :
    ∀ entry ∈ found, entry.IsLeaf := by
  rintro (_ | _) rfl
  · rfl
  · exact absurd rfl other

/-- Nothing stands below a leaf. -/
theorem bind_find?_cons {found : Option DiskEntry} (leaf : ∀ entry ∈ found, entry.IsLeaf)
    (step : Bytes) (steps : Location) : (found.bind (·.find? (step :: steps))) = none := by
  cases found with
  | none => rfl
  | some entry =>
    cases entry with
    | file name content modified => rfl
    | directory name entries =>
      have empty : entries = [] := leaf _ rfl
      rw [empty]
      rfl

@[simp] theorem name_set (location : Location) (placed : Option DiskEntry) (entry : DiskEntry) :
    (set location placed entry).name = entry.name := by
  cases entry <;> cases location with
  | nil => rfl
  | cons step steps => cases steps <;> rfl

theorem set_within (own : Bytes) (entries : List DiskEntry) (step next : Bytes) (steps : Location)
    (placed : Option DiskEntry) :
    set (step :: next :: steps) placed (.directory own entries) =
      .directory own (entries.map fun other =>
        if other.name = step then set (next :: steps) placed other else other) := rfl

theorem find?_replaceIn_self {name : Bytes} {placed : Option DiskEntry}
    (named : ∀ entry ∈ placed, entry.name = name) (entries : List DiskEntry) :
    (replaceIn name placed entries).find? (·.name = name) = placed := by
  have gone : (entries.filter fun other => other.name ≠ name).find? (·.name = name) = none := by
    simp
  rw [replaceIn, List.find?_append, gone]
  cases placed with
  | none => rfl
  | some entry => simp [named entry rfl]

theorem find?_replaceIn_other {name other : Bytes} {placed : Option DiskEntry}
    (named : ∀ entry ∈ placed, entry.name = name) (different : other ≠ name)
    (entries : List DiskEntry) :
    (replaceIn name placed entries).find? (·.name = other) = entries.find? (·.name = other) := by
  have kept : (entries.filter fun entry => entry.name ≠ name).find? (·.name = other) =
      entries.find? (·.name = other) := by
    rw [List.find?_filter]
    congr 1
    funext entry
    grind
  have missing : placed.toList.find? (·.name = other) = none := by
    cases placed with
    | none => rfl
    | some entry => simp [named entry rfl, Ne.symm different]
  rw [replaceIn, List.find?_append, kept, missing, Option.or_none]

theorem find?_map_set (step other : Bytes) (location : Location) (placed : Option DiskEntry)
    (entries : List DiskEntry) :
    (entries.map fun entry => if entry.name = step then set location placed entry else entry).find?
        (·.name = other) =
      (entries.find? (·.name = other)).map fun entry =>
        if entry.name = step then set location placed entry else entry := by
  rw [List.find?_map]
  congr 2
  funext entry
  simp only [Function.comp_apply]
  split <;> simp

/-- A leaf, put in the place of a leaf, changes what stands at its own location and nothing else. -/
theorem spot_set {above : Location} {name : Bytes} {placed : Option DiskEntry}
    (named : ∀ entry ∈ placed, entry.name = name) (leaf : ∀ entry ∈ placed, entry.IsLeaf)
    {entry : DiskEntry} (directory : Spot.of (entry.find? above) = .directory)
    (replaced : Spot.of (entry.find? (above ++ [name])) ≠ .directory) (location : Location) :
    Spot.of ((entry.set (above ++ [name]) placed).find? location) =
      if location = above ++ [name] then Spot.of placed else Spot.of (entry.find? location) := by
  induction above generalizing entry location with
  | nil =>
    cases entry with
    | file _ _ _ => cases directory
    | directory own entries =>
      cases location with
      | nil => rfl
      | cons step steps =>
        rw [List.nil_append, set, find?_directory, find?_directory]
        by_cases same : step = name
        · subst same
          rw [find?_replaceIn_self named]
          cases steps with
          | nil => cases placed <;> simp
          | cons next steps =>
            -- Neither the new entry nor the old one has anything below it.
            rw [List.nil_append, find?_directory] at replaced
            have old := isLeaf_of_ne_directory (by simpa using replaced)
            rw [bind_find?_cons leaf, bind_find?_cons old, if_neg (by simp)]
        · rw [find?_replaceIn_other named same, if_neg (by simp [same])]
  | cons step above inductionHypothesis =>
    cases entry with
    | file _ _ _ => cases directory
    | directory own entries =>
      obtain ⟨next, rest, below⟩ : ∃ next rest, above ++ [name] = next :: rest := by
        cases above <;> simp
      rw [List.cons_append, find?_directory] at *
      cases location with
      | nil =>
        rw [below]
        rfl
      | cons first steps =>
        rw [below, set_within, find?_directory, find?_map_set, find?_directory]
        by_cases same : first = step
        · subst same
          rw [← below]
          cases found : entries.find? (·.name = first) with
          | none =>
            rw [found] at directory
            cases directory
          | some child =>
            rw [found] at directory replaced
            have childNamed : child.name = first := by simpa using List.find?_some found
            simpa [childNamed] using inductionHypothesis directory replaced steps
        · rw [if_neg (by simp [same])]
          cases found : entries.find? (·.name = first) with
          | none => rfl
          | some child =>
            have childNamed : child.name = first := by simpa using List.find?_some found
            simp [childNamed, same]

theorem find?_append (entry : DiskEntry) (above below : Location) :
    entry.find? (above ++ below) = (entry.find? above).bind (·.find? below) := by
  induction above generalizing entry with
  | nil => simp
  | cons step above inductionHypothesis =>
    cases entry with
    | file _ _ _ => rfl
    | directory own entries =>
      rw [List.cons_append, find?_directory, find?_directory]
      cases entries.find? (·.name = step) with
      | none => rfl
      | some child => exact inductionHypothesis child

end DiskEntry

namespace Disk

@[simp] theorem spot_nil (disk : Disk) : disk.spot [] = .directory := rfl

/-- What stands above a directory is a directory. -/
theorem spot_dropLast {disk : Disk} {location : Location} (directory : disk.spot location = .directory) :
    disk.spot location.dropLast = .directory := by
  rcases location.eq_nil_or_concat' with rfl | ⟨above, name, rfl⟩
  · rfl
  · rw [List.dropLast_concat]
    rw [spot, DiskEntry.find?_append] at directory
    rw [spot]
    cases found : disk.root.find? above with
    | none =>
      rw [found] at directory
      cases directory
    | some entry =>
      cases entry with
      | file _ _ _ =>
        rw [found] at directory
        cases directory
      | directory _ _ => rfl

/-! ## Following steps -/

theorem follow_cons_eq_ok {disk : Disk} {location last : Location} {step : Bytes}
    {rest : List Bytes} :
    disk.follow location (step :: rest) = .ok last ↔
      disk.spot location = .directory ∧ step.length ≤ nameLimit ∧
        disk.follow (advance location step) rest = .ok last := by
  rw [follow]
  cases disk.spot location with
  | free => simp
  | file _ _ => simp
  | directory =>
    by_cases short : step.length ≤ nameLimit
    · simp [short, Nat.not_lt.mpr short]
    · simp [short, Nat.lt_of_not_le short]

theorem follow_append_eq_ok {disk : Disk} {location last : Location} {first second : List Bytes} :
    disk.follow location (first ++ second) = .ok last ↔
      ∃ between, disk.follow location first = .ok between ∧ disk.follow between second = .ok last := by
  induction first generalizing location with
  | nil => simp [follow]
  | cons step rest inductionHypothesis =>
    simp only [List.cons_append, follow_cons_eq_ok, inductionHypothesis]
    grind

/-- Where steps lead does not depend on the disk, only whether they can be taken. -/
theorem eq_foldl_of_follow {disk : Disk} {location last : Location} {steps : List Bytes}
    (followed : disk.follow location steps = .ok last) : last = steps.foldl advance location := by
  induction steps generalizing location with
  | nil => exact (Except.ok.inj followed).symm
  | cons step rest inductionHypothesis =>
    obtain ⟨-, -, later⟩ := follow_cons_eq_ok.mp followed
    exact inductionHypothesis later

/-- There is a directory at the location, or right above it. -/
def Near (disk : Disk) (location : Location) : Prop :=
  disk.spot location = .directory ∨
    ∃ above name, location = above ++ [name] ∧ disk.spot above = .directory

theorem near_advance {disk : Disk} {location : Location}
    (directory : disk.spot location = .directory) (step : Bytes) :
    disk.Near (advance location step) := by
  unfold advance
  split
  · exact .inl directory
  · split
    · exact .inl (spot_dropLast directory)
    · exact .inr ⟨location, step, rfl, directory⟩

theorem near_of_follow {disk : Disk} {location last : Location} {steps : List Bytes}
    (near : disk.Near location) (followed : disk.follow location steps = .ok last) :
    disk.Near last := by
  induction steps generalizing location with
  | nil => exact Except.ok.inj followed ▸ near
  | cons step rest inductionHypothesis =>
    obtain ⟨directory, -, later⟩ := follow_cons_eq_ok.mp followed
    exact inductionHypothesis (near_advance directory step) later

/-! ## Following a path -/

/-- Where some steps lead that start where a path starts. -/
def destination (disk : Disk) (path : Path) (taken : List Bytes) : Location :=
  taken.foldl advance (disk.start path)

/-- What the file system takes for a path. -/
def IsTaken (path : Path) : Prop := path.bytes ≠ [] ∧ 0 ∉ path.bytes ∧ path.bytes.length < pathLimit

theorem locate_eq_ok {disk : Disk} {path : Path} {taken : List Bytes} {location : Location} :
    disk.locate path taken = .ok location ↔
      IsTaken path ∧ disk.follow (disk.start path) taken = .ok location := by
  simp only [locate, IsTaken, List.contains_iff_mem]
  grind

theorem eq_destination_of_locate {disk : Disk} {path : Path} {taken : List Bytes}
    {location : Location} (located : disk.locate path taken = .ok location) :
    location = disk.destination path taken :=
  eq_foldl_of_follow (locate_eq_ok.mp located).2

theorem plainSteps_ne_nil {path : Path} (taken : IsTaken path) (relative : path.isAbsolute = false) :
    plainSteps path ≠ [] := by
  rw [plainSteps, Path.pieces, Text.partsBetween]
  cases bytes : path.bytes with
  | nil => exact absurd bytes taken.1
  | cons first rest =>
    have notSlash : first ≠ Path.slash := by simpa [Path.isAbsolute, bytes] using relative
    rw [Text.splitOn, if_neg notSlash]
    cases Text.splitOn Path.slash rest <;> simp

/-- The steps that an operation takes along a path. -/
def Along (path : Path) (taken : List Bytes) : Prop := taken = plainSteps path ∨ taken = steps path

theorem along_plainSteps (path : Path) : Along path (plainSteps path) := .inl rfl

theorem along_steps (path : Path) : Along path (steps path) := .inr rfl

theorem near_of_locate {disk : Disk} {path : Path} {taken : List Bytes} {location : Location}
    (along : Along path taken) (located : disk.locate path taken = .ok location) :
    disk.Near location := by
  obtain ⟨proper, followed⟩ := locate_eq_ok.mp located
  refine near_of_follow (.inl ?_) followed
  cases absolute : path.isAbsolute with
  | true => simp [start, absolute]
  | false =>
    -- A relative path has a first step, which is taken from a directory.
    obtain ⟨step, rest, rfl⟩ : ∃ step rest, taken = step :: rest := by
      refine List.exists_cons_of_ne_nil ?_
      have some := plainSteps_ne_nil proper absolute
      rcases along with rfl | rfl
      · exact some
      · unfold steps
        split <;> simp [some]
    exact (follow_cons_eq_ok.mp followed).1

theorem advance_name {piece : Bytes} (isName : Path.IsName piece) (location : Location) :
    advance location piece = location ++ [piece] := by
  obtain ⟨-, -, notHere, notUp⟩ := isName
  rw [advance, if_neg notHere, if_neg notUp]

/-- A slash at the end of a path does not change where it leads. -/
theorem destination_along (disk : Disk) {path : Path} {taken : List Bytes} (along : Along path taken) :
    disk.destination path taken = disk.destination path (plainSteps path) := by
  rcases along with rfl | rfl
  · rfl
  · unfold steps
    split
    · simp [destination, advance]
    · rfl

/-- A path that ends in a name leads to an entry of that name. -/
theorem destination_of_name {path : Path} {before : List Bytes} {piece : Bytes}
    (ends : path.pieces = before ++ [piece]) (isName : Path.IsName piece) (disk : Disk)
    {taken : List Bytes} (along : Along path taken) :
    ∃ above, disk.destination path taken = above ++ [piece] := by
  have plain : disk.destination path (plainSteps path) = before.foldl advance (disk.start path) ++ [piece] := by
    simp [destination, plainSteps, ends, advance_name isName]
  exact ⟨_, (destination_along disk along).trans plain⟩

theorem steps_join_name (directory : Path) {name : Bytes} (isName : Path.IsName name) :
    steps (directory.join ⟨name⟩) = plainSteps (directory.join ⟨name⟩) := by
  rw [steps, if_neg]
  rw [Path.getLast?_join_name directory isName]
  exact fun slash => isName.1 (List.mem_of_getLast? slash)

theorem follow_single {disk : Disk} {location last : Location} {step : Bytes}
    (followed : disk.follow location [step] = .ok last) :
    disk.spot location = .directory ∧ last = advance location step := by
  obtain ⟨directory, -, ended⟩ := follow_cons_eq_ok.mp followed
  exact ⟨directory, (Except.ok.inj ended).symm⟩

/-- What is no directory is reached by the plain steps of a path, none after them. -/
theorem follow_plainSteps {disk : Disk} {path : Path} {taken : List Bytes} {location last : Location}
    (along : Along path taken) (followed : disk.follow location taken = .ok last)
    (other : disk.spot last ≠ .directory) : disk.follow location (plainSteps path) = .ok last := by
  rcases along with rfl | rfl
  · exact followed
  · unfold steps at followed
    split at followed
    · obtain ⟨between, -, ended⟩ := follow_append_eq_ok.mp followed
      obtain ⟨directory, rfl⟩ := follow_single ended
      exact absurd directory other
    · exact followed

/-- What is no directory stands at the end of a path that ends in its name. -/
theorem ends_in_name {disk : Disk} {path : Path} {taken : List Bytes} {location : Location}
    (along : Along path taken) (located : disk.locate path taken = .ok location)
    (other : disk.spot location ≠ .directory) :
    ∃ above name, location = above ++ [name] ∧ path.fileName? = some name := by
  obtain ⟨proper, followed⟩ := locate_eq_ok.mp located
  have plain := follow_plainSteps along followed other
  rcases path.pieces.eq_nil_or_concat' with none | ⟨before, piece, ends⟩
  · rw [plainSteps, none] at plain
    cases plain
    cases absolute : path.isAbsolute with
    | true => simp [start, absolute] at other
    | false => exact absurd none (plainSteps_ne_nil proper absolute)
  · rw [plainSteps, ends] at plain
    obtain ⟨above, -, ended⟩ := follow_append_eq_ok.mp plain
    obtain ⟨directory, rfl⟩ := follow_single ended
    have member : piece ∈ path.pieces := by simp [ends]
    -- A dot stays in the directory and two dots lead to the one above it.
    have isName : Path.IsName piece := by
      refine ⟨Path.not_mem_of_mem_pieces member, by simpa using (List.mem_filter.mp member).2, ?_, ?_⟩
      · rintro rfl
        exact other directory
      · rintro rfl
        exact other (spot_dropLast directory)
    exact ⟨above, _, advance_name isName above, Path.fileName?_of_pieces ends isName⟩

/-! ## One changed location -/

/-- The disk differs from an earlier one in what stands at a location. -/
structure Updates (before after : Disk) (location : Location) (spot : Spot) : Prop where
  home : after.home = before.home
  now : after.now = before.now
  spot_eq : ∀ other, after.spot other = if other = location then spot else before.spot other

theorem root_set (disk : Disk) (location : Location) (placed : Option DiskEntry) :
    (disk.set location placed).root = disk.root.set location placed := by
  rcases location with _ | ⟨_, _ | ⟨_, _⟩⟩ <;> rfl

theorem updates_set {disk : Disk} {location : Location} {placed : Option DiskEntry}
    (near : disk.Near location) (replaced : disk.spot location ≠ .directory)
    (named : ∀ entry ∈ placed, entry.name = location.getLastD [])
    (leaf : ∀ entry ∈ placed, entry.IsLeaf) :
    Updates disk (disk.set location placed) location (Spot.of placed) := by
  refine ⟨rfl, rfl, fun other => ?_⟩
  obtain directory | ⟨above, name, rfl, directory⟩ := near
  · exact absurd directory replaced
  · rw [spot, root_set]
    exact DiskEntry.spot_set (by simpa using named) leaf directory replaced other

/-! ## What a change leaves as it was -/

/-- All directories stay, and all files stay as they are outside of some locations. -/
structure ChangesOnly (touched : Location → Prop) (before after : Disk) : Prop where
  home : after.home = before.home
  now : after.now = before.now
  directory : ∀ location, before.spot location = .directory → after.spot location = .directory
  file : ∀ location, ¬ touched location → ∀ content modified,
    after.spot location = .file content modified ↔ before.spot location = .file content modified

namespace ChangesOnly

variable {touched : Location → Prop} {before between after : Disk}

theorem refl (touched : Location → Prop) (disk : Disk) : ChangesOnly touched disk disk :=
  ⟨rfl, rfl, fun _ => id, fun _ _ _ _ => .rfl⟩

theorem trans (first : ChangesOnly touched before between) (second : ChangesOnly touched between after) :
    ChangesOnly touched before after where
  home := second.home.trans first.home
  now := second.now.trans first.now
  directory location stands := second.directory location (first.directory location stands)
  file location spared content modified :=
    (second.file location spared content modified).trans (first.file location spared content modified)

theorem mono {wider : Location → Prop} (changes : ChangesOnly touched before after)
    (within : ∀ location, touched location → wider location) : ChangesOnly wider before after :=
  { changes with file := fun location spared => changes.file location (mt (within location) spared) }

/-- A location with no file before and no file after has not been touched. -/
theorem spare {spared : Location}
    (changes : ChangesOnly (fun location => location = spared ∨ touched location) before after)
    (noneBefore : ∀ content modified, before.spot spared ≠ .file content modified)
    (noneAfter : ∀ content modified, after.spot spared ≠ .file content modified) :
    ChangesOnly touched before after :=
  { changes with
    file := fun location untouched content modified => by
      by_cases same : location = spared
      · subst same
        exact iff_of_false (noneAfter content modified) (noneBefore content modified)
      · exact changes.file location (not_or.mpr ⟨same, untouched⟩) content modified }

theorem follow (changes : ChangesOnly touched before after) {location last : Location}
    {steps : List Bytes} (followed : before.follow location steps = .ok last) :
    after.follow location steps = .ok last := by
  induction steps generalizing location with
  | nil => exact followed
  | cons step rest inductionHypothesis =>
    obtain ⟨stands, short, later⟩ := follow_cons_eq_ok.mp followed
    exact follow_cons_eq_ok.mpr ⟨changes.directory location stands, short, inductionHypothesis later⟩

theorem start_eq (changes : ChangesOnly touched before after) (path : Path) :
    after.start path = before.start path := by
  rw [start, start, changes.home]

theorem destination_eq (changes : ChangesOnly touched before after) (path : Path)
    (taken : List Bytes) : after.destination path taken = before.destination path taken := by
  rw [destination, destination, changes.start_eq]

theorem locate (changes : ChangesOnly touched before after) {path : Path} {taken : List Bytes}
    {location : Location} (located : before.locate path taken = .ok location) :
    after.locate path taken = .ok location := by
  obtain ⟨proper, followed⟩ := locate_eq_ok.mp located
  rw [← changes.start_eq] at followed
  exact locate_eq_ok.mpr ⟨proper, changes.follow followed⟩

end ChangesOnly

namespace Updates

variable {before after : Disk} {location : Location} {spot : Spot}

theorem changesOnly (updates : Updates before after location spot)
    (replaced : before.spot location ≠ .directory) : ChangesOnly (· = location) before after where
  home := updates.home
  now := updates.now
  directory other stands := by
    have apart : other ≠ location := fun same => replaced (same ▸ stands)
    rw [updates.spot_eq, if_neg apart, stands]
  file other apart content modified := by rw [updates.spot_eq, if_neg apart]

/-- To undo a change at one location is to change that location. -/
theorem undone (updates : Updates before after location spot) (placed : spot ≠ .directory) :
    ChangesOnly (· = location) after before where
  home := updates.home.symm
  now := updates.now.symm
  directory other stands := by
    rw [updates.spot_eq] at stands
    split at stands
    · exact absurd stands placed
    · exact stands
  file other apart content modified := by rw [updates.spot_eq, if_neg apart]

end Updates

/-! ## Operations -/

theorem write_updates {disk after : Disk} {path : Path} {content : Bytes} {modified : Int}
    (written : disk.write path content modified = .ok after) :
    ∃ location, disk.locate path (plainSteps path) = .ok location ∧
      disk.spot location ≠ .directory ∧ Updates disk after location (.file content modified) := by
  obtain ⟨location, located, placed⟩ := bind_eq_ok.mp written
  have near := near_of_locate (along_plainSteps path) located
  refine ⟨location, located, ?_⟩
  have updates (replaced : disk.spot location ≠ .directory) :
      Updates disk (disk.set location (some (.file (location.getLastD []) content modified))) location
        (.file content modified) :=
    updates_set near replaced (by simp [DiskEntry.name]) (by simp [DiskEntry.IsLeaf, DiskEntry.entries])
  cases spot : disk.spot location with
  | directory =>
    rw [spot] at placed
    cases placed
  | free | file _ _ =>
    rw [spot] at placed
    cases placed
    exact ⟨nofun, updates (by simp [spot])⟩

theorem remove_updates {disk after : Disk} {path : Path} (removed : disk.remove path = .ok after) :
    ∃ location content modified, disk.locate path (steps path) = .ok location ∧
      disk.spot location = .file content modified ∧ Updates disk after location .free := by
  obtain ⟨location, located, placed⟩ := bind_eq_ok.mp removed
  have near := near_of_locate (along_steps path) located
  cases spot : disk.spot location with
  | free | directory =>
    rw [spot] at placed
    cases placed
  | file content modified =>
    rw [spot] at placed
    cases placed
    exact ⟨location, content, modified, located, spot,
      updates_set near (by simp [spot]) (by simp) (by simp)⟩

/-- A file that is moved stands at its new place, and if that is another one, no longer at its old one. -/
theorem rename_spec {disk after : Disk} {source target : Path} {location : Location}
    {content : Bytes} {time : Int} (located : disk.locate source (steps source) = .ok location)
    (file : disk.spot location = .file content time) (renamed : disk.rename source target = .ok after) :
    ∃ goal, after.locate target (plainSteps target) = .ok goal ∧
      after.spot goal = .file content time ∧ (location ≠ goal → after.spot location = .free) ∧
      ChangesOnly (fun other => other = location ∨ other = goal) disk after := by
  have looked : disk.look source = .ok (.file content time) := by
    rw [look, located, ← file]
    rfl
  obtain ⟨spot, again, renamed⟩ := bind_eq_ok.mp renamed
  cases looked.symm.trans again
  obtain ⟨left, again, renamed⟩ := bind_eq_ok.mp renamed
  cases located.symm.trans again
  obtain ⟨goal, reached, renamed⟩ := bind_eq_ok.mp renamed
  split at renamed
  · next same =>
    cases renamed
    exact ⟨goal, reached, same ▸ file, fun apart => absurd same apart, .refl _ disk⟩
  · next apart =>
    obtain ⟨between, written, removed⟩ := bind_eq_ok.mp renamed
    obtain ⟨place, found, replaced, moved⟩ := write_updates written
    cases reached.symm.trans found
    obtain ⟨_, _, _, again, stood, freed⟩ := remove_updates removed
    have first := moved.changesOnly replaced
    have second := freed.changesOnly (by simp [stood])
    cases (first.locate located).symm.trans again
    refine ⟨goal, second.locate (first.locate reached), ?_, fun _ => ?_, ?_⟩
    · rw [freed.spot_eq, if_neg (Ne.symm apart), moved.spot_eq, if_pos rfl]
    · rw [freed.spot_eq, if_pos rfl]
    · exact (first.mono fun _ => .inr).trans (second.mono fun _ => .inl)

theorem makeDirectory_updates {disk after : Disk} {path : Path}
    (made : disk.makeDirectory path = .ok after) :
    ∃ location, disk.spot location = .free ∧ Updates disk after location .directory := by
  obtain ⟨location, located, placed⟩ := bind_eq_ok.mp made
  have near := near_of_locate (along_plainSteps path) located
  cases spot : disk.spot location with
  | free =>
    rw [spot] at placed
    cases placed
    exact ⟨location, spot, updates_set near (by simp [spot])
      (by simp [DiskEntry.name]) (by simp [DiskEntry.IsLeaf, DiskEntry.entries])⟩
  | file _ _ | directory =>
    rw [spot] at placed
    cases placed

/-- Nested directories are made one at a time. -/
theorem makeNested_related {related : Disk → Disk → Prop} (same : ∀ disk, related disk disk)
    (later : ∀ {before between after}, related before between → related between after → related before after)
    (made : ∀ {disk after : Disk} {path : Path}, disk.makeDirectory path = .ok after → related disk after)
    (disk : Disk) (paths : List Path) : related disk (disk.makeNested paths).2 := by
  induction paths generalizing disk with
  | nil => exact same disk
  | cons path above inductionHypothesis =>
    rw [makeNested]
    split
    · exact same disk
    · split
      · next done => exact made done
      · have nested := inductionHypothesis disk
        split
        · next result => rwa [result] at nested
        · next result =>
          rw [result] at nested
          split
          · next done => exact later nested (made done)
          · split <;> exact nested
      · split <;> exact same disk

theorem makeNested_changesOnly (disk : Disk) (paths : List Path) :
    ChangesOnly (fun _ => False) disk (disk.makeNested paths).2 := by
  refine makeNested_related (.refl _) .trans (fun {disk after path} made => ?_) disk paths
  obtain ⟨location, free, updates⟩ := makeDirectory_updates made
  refine ((updates.changesOnly (by simp [free])).mono fun _ => Or.inl).spare ?_ ?_
  · simp [free]
  · simp [updates.spot_eq]

/-! ## Temporary files -/

theorem isName_pick (names : TemporaryNames) (entries : List DiskEntry) : Path.IsName (names.pick entries) := by
  have noSlash : Path.slash ∉ names.tail entries := fun member => by
    have letter := List.all_eq_true.mp (names.alphanumeric entries) _ member
    revert letter
    decide
  have start : temporaryStart = [0x2e, 0x74, 0x6d, 0x70] := rfl
  have apart : Path.slash ∉ temporaryStart := by decide
  refine ⟨fun member => (List.mem_append.mp member).elim apart noSlash, ?_⟩
  simp [TemporaryNames.pick, start]

theorem contents_eq_ok {disk : Disk} {path : Path} {location : Location} {entries : List DiskEntry} :
    disk.contents path = .ok (location, entries) ↔
      disk.locate path (steps path) = .ok location ∧
        ∃ own, disk.root.find? location = some (.directory own entries) := by
  rw [contents, bind_eq_ok]
  constructor
  · rintro ⟨reached, located, found⟩
    split at found
    · cases found
    · cases found
    · next own _ stands =>
      cases found
      exact ⟨located, own, stands⟩
  · rintro ⟨located, own, stands⟩
    refine ⟨location, located, ?_⟩
    rw [stands]
    rfl

/-- The place of a name in a directory; the empty path is the home directory. -/
theorem destination_join_name (disk : Disk) (directory : Path) {name : Bytes}
    (isName : Path.IsName name) :
    disk.destination (directory.join ⟨name⟩) (plainSteps (directory.join ⟨name⟩)) =
      let listed := if directory.bytes = [] then ⟨"."⟩ else directory
      disk.destination listed (plainSteps listed) ++ [name] := by
  have relative := Path.isAbsolute_of_name isName.1
  simp only [destination, plainSteps, Path.pieces_join_name directory isName, List.foldl_append,
    List.foldl_cons, List.foldl_nil, advance_name isName]
  split
  · next empty =>
    obtain ⟨bytes⟩ := directory
    subst empty
    have joined : Path.join ⟨[]⟩ ⟨name⟩ = ⟨name⟩ := by simp [Path.join, relative]
    rw [joined, start, relative]
    rfl
  · next filled => rw [start, start, Path.isAbsolute_join filled relative]

/-- A temporary file is made where nothing was. -/
theorem makeTemporary_updates {disk after : Disk} {directory temporary : Path}
    (made : disk.makeTemporary directory = .ok (temporary, after)) :
    ∃ location, disk.locate temporary (steps temporary) = .ok location ∧ disk.spot location = .free ∧
      Updates disk after location (.file [] disk.now) := by
  obtain ⟨⟨above, entries⟩, listed, continued⟩ := bind_eq_ok.mp made
  obtain ⟨written, wrote, ended⟩ := bind_eq_ok.mp continued
  cases ended
  obtain ⟨located, own, stands⟩ := contents_eq_ok.mp listed
  obtain ⟨location, reached, -, updates⟩ := write_updates wrote
  have isName := isName_pick disk.temporaryNames entries
  have place := eq_destination_of_locate reached
  rw [destination_join_name disk directory isName] at place
  rw [eq_destination_of_locate located, destination_along disk (along_steps _)] at stands
  rw [← steps_join_name directory isName] at reached
  refine ⟨location, reached, ?_, updates⟩
  have unused : entries.find? (·.name = disk.temporaryNames.pick entries) = none :=
    List.find?_eq_none.mpr fun entry member taken =>
      disk.temporaryNames.unused entries entry member (of_decide_eq_true taken)
  rw [place, spot, DiskEntry.find?_append, stands, Option.bind_some, DiskEntry.find?_directory, unused]
  rfl

/-! ## Files and their times -/

/-- A path leads to a file with a content and a time of its last change. -/
def Holds (disk : Disk) (path : Path) (content : Bytes) (time : Int) : Prop :=
  disk.look path = .ok (.file content time)

section

variable {disk before after : Disk} {path : Path} {content : Bytes} {time : Int}

theorem look_eq_ok {spot : Spot} : disk.look path = .ok spot ↔
    ∃ location, disk.locate path (steps path) = .ok location ∧ disk.spot location = spot := by
  rw [look, bind_eq_ok]
  simp [pure, Except.pure]

theorem Holds.read (holds : disk.Holds path content time) : disk.read path = .ok content := by
  rw [Disk.read, holds]
  rfl

theorem Holds.read_bind {β : Type} (holds : disk.Holds path content time) (next : Bytes → Except IoError β) :
    (disk.read path >>= next) = next content := by
  rw [holds.read]
  rfl

theorem Holds.modified (holds : disk.Holds path content time) :
    disk.modified path = .ok time := by
  rw [Disk.modified, holds]
  rfl

theorem Holds.modifiedMillis (holds : disk.Holds path content time) :
    disk.modifiedMillis path = .ok (wholeMillis time) := by
  rw [Disk.modifiedMillis, holds.modified]
  rfl

theorem exists_holds_of_read (read : disk.read path = .ok content) :
    ∃ time, disk.Holds path content time := by
  obtain ⟨spot, looked, found⟩ := bind_eq_ok.mp read
  cases spot with
  | free | directory => cases found
  | file content time =>
    cases found
    exact ⟨time, looked⟩

/-- A file can be removed. -/
theorem Holds.remove (holds : disk.Holds path content time) : ∃ after, disk.remove path = .ok after := by
  obtain ⟨location, located, file⟩ := look_eq_ok.mp holds
  refine ⟨disk.set location none, bind_eq_ok.mpr ⟨location, located, ?_⟩⟩
  rw [file]
  rfl

/-- What was written is the only file that its path can lead to. -/
theorem eq_of_write {found : Bytes} {modified : Int} (written : before.write path content time = .ok after)
    (holds : after.Holds path found modified) : found = content ∧ modified = time := by
  obtain ⟨location, located, file⟩ := look_eq_ok.mp holds
  obtain ⟨place, reached, replaced, updates⟩ := write_updates written
  have same : location = place := by
    rw [eq_destination_of_locate located, eq_destination_of_locate reached,
      (updates.changesOnly replaced).destination_eq, destination_along before (along_steps path)]
  rw [updates.spot_eq, if_pos same] at file
  cases file
  exact ⟨rfl, rfl⟩

/-- A file that is written over holds what was written. -/
theorem Holds.write {old : Bytes} {earlier : Int} (holds : before.Holds path old earlier)
    (written : before.write path content time = .ok after) : after.Holds path content time := by
  obtain ⟨location, located, -⟩ := look_eq_ok.mp holds
  obtain ⟨place, reached, replaced, updates⟩ := write_updates written
  have same : location = place := by
    rw [eq_destination_of_locate located, eq_destination_of_locate reached,
      destination_along before (along_steps path)]
  exact look_eq_ok.mpr ⟨location, (updates.changesOnly replaced).locate located, by
    rw [updates.spot_eq, if_pos same]⟩

theorem ChangesOnly.look_directory {touched : Location → Prop} (changes : ChangesOnly touched before after)
    (directory : before.look path = .ok .directory) : after.look path = .ok .directory := by
  obtain ⟨location, located, stands⟩ := look_eq_ok.mp directory
  exact look_eq_ok.mpr ⟨location, changes.locate located, changes.directory location stands⟩

/-- A file stays as it is when only other locations change. -/
theorem ChangesOnly.holds {touched : Location → Prop} (changes : ChangesOnly touched before after)
    (spared : ¬ touched (before.destination path (steps path)))
    (holds : before.Holds path content time) : after.Holds path content time := by
  obtain ⟨location, located, file⟩ := look_eq_ok.mp holds
  rw [← eq_destination_of_locate located] at spared
  exact look_eq_ok.mpr ⟨location, changes.locate located, (changes.file _ spared _ _).mpr file⟩

end

end Disk
end TriggerScript
