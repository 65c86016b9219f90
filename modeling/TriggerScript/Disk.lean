import TriggerScript.Error

/-!
# The disk

A tree of directories and files, with the directory that relative paths start from. Paths are
followed step by step: a step can be taken only from a directory, two dots lead back to the directory
above, and a slash at the end asks for a directory. Names and paths have a greatest length.

Some of what a file system has is left out. There are no links, so every entry has one location. Of
permissions there is only the one to list a directory. All directories are taken to have been changed
just now, whatever happens in them; the time of a file is its own.
-/

namespace TriggerScript

inductive DiskEntry where
  /-- A file with its content and the time of its last change, in microseconds. -/
  | file (name : Bytes) (content : Bytes) (modified : Int)
  | directory (name : Bytes) (entries : List DiskEntry)
deriving Repr, Inhabited

/-- The names that lead from the top of the disk to an entry. -/
abbrev Location := List Bytes

namespace DiskEntry

def name : DiskEntry → Bytes
  | .file name _ _ => name
  | .directory name _ => name

def entries : DiskEntry → List DiskEntry
  | .file .. => []
  | .directory _ entries => entries

/-- The entry that some names lead to. -/
def find? : DiskEntry → Location → Option DiskEntry
  | entry, [] => some entry
  | .directory _ entries, name :: names =>
    match entries.find? (·.name = name) with
    | some entry => entry.find? names
    | none => none
  | .file .., _ :: _ => none

/-- The entries of a directory with `entry` in the place of the one called `name`. -/
def replaceIn (name : Bytes) (entry : Option DiskEntry) (entries : List DiskEntry) :
    List DiskEntry :=
  (entries.filter fun other => other.name ≠ name) ++ entry.toList

/-- Puts an entry at a location, or removes the one there. The directory above must exist. -/
def set : Location → Option DiskEntry → DiskEntry → DiskEntry
  | [name], entry, .directory own entries => .directory own (replaceIn name entry entries)
  | name :: names, entry, .directory own entries =>
    .directory own (entries.map fun other =>
      if other.name = name then set names entry other else other)
  | _, _, other => other

mutual

/-- The paths of an entry and of all below it; a directory's path ends in a slash. -/
def listing (above : String) : DiskEntry → List String
  | .file name _ _ => [above ++ Text.lossy name]
  | .directory name entries =>
    let own := above ++ Text.lossy name ++ "/"
    own :: listingAll own entries
termination_by structural entry => entry

def listingAll (above : String) : List DiskEntry → List String
  | [] => []
  | entry :: rest => entry.listing above ++ listingAll above rest
termination_by structural entries => entries

end

end DiskEntry

/-- What stands at a location, as far as a path that leads there can tell. -/
inductive Spot where
  | free
  | file (content : Bytes) (modified : Int)
  | directory
deriving DecidableEq, Repr

/-- What an entry makes of its location; without an entry the location is free. -/
def Spot.of : Option DiskEntry → Spot
  | none => .free
  | some (.file _ content modified) => .file content modified
  | some (.directory ..) => .directory

/-- Whether a byte is a letter or a digit. -/
def isAlphanumeric (byte : UInt8) : Bool :=
  0x30 ≤ byte && byte ≤ 0x39 || 0x41 ≤ byte && byte ≤ 0x5a || 0x61 ≤ byte && byte ≤ 0x7a

/-- The dot and the letters that the name of a temporary file starts with. -/
def temporaryStart : Bytes := ".tmp"

/-- A way to name temporary files, by what is in their directory already. -/
structure TemporaryNames where
  /-- The letters and digits behind the start. -/
  tail : List DiskEntry → Bytes
  alphanumeric : ∀ entries, (tail entries).all isAlphanumeric
  unused : ∀ entries, ∀ entry ∈ entries, entry.name ≠ temporaryStart ++ tail entries

namespace TemporaryNames

/-- A name that no entry of a directory has yet. -/
def pick (names : TemporaryNames) (entries : List DiskEntry) : Bytes := temporaryStart ++ names.tail entries

/-- The length of the longest name. -/
def longest (entries : List DiskEntry) : Nat := entries.foldr (fun entry length => max entry.name.length length) 0

theorem length_le_longest {entries : List DiskEntry} {entry : DiskEntry} (member : entry ∈ entries) :
    entry.name.length ≤ longest entries := by
  induction entries with
  | nil => cases member
  | cons first rest inductionHypothesis =>
    rcases List.mem_cons.mp member with rfl | member
    · exact Nat.le_max_left _ _
    · exact Nat.le_trans (inductionHypothesis member) (Nat.le_max_right _ _)

/-- Six zeros, or if that name is taken, more of them than any name is long. -/
def zeros : TemporaryNames where
  tail entries :=
    List.replicate (if entries.all (·.name ≠ temporaryStart ++ List.replicate 6 0x30) then 6 else longest entries) 0x30
  alphanumeric entries := by
    rw [List.all_replicate]
    exact ite_eq_left_iff.mpr fun _ => rfl
  unused entries entry member same := by
    split at same
    · next free =>
      have different := List.all_eq_true.mp free entry member
      exact of_decide_eq_true different same
    · have longer := congrArg List.length same
      have shorter := length_le_longest member
      rw [List.length_append, List.length_replicate, show temporaryStart.length = 4 from rfl] at longer
      omega

end TemporaryNames

structure Disk where
  /-- What stands at the top of the disk. -/
  entries : List DiskEntry := [.directory [] []]
  /-- The directory that relative paths start from. Here it has no name, so that no path from above
  leads into it. -/
  home : Location := [[]]
  /-- The time, in microseconds, that the program's own writes leave on a file. -/
  now : Int := 0
  /-- Why the directory at a location does not let its entries be listed, if it does not. -/
  sealed : Location → Option IoError := fun _ => none
  temporaryNames : TemporaryNames := .zeros

namespace Disk

instance : Inhabited Disk := ⟨{}⟩

/-- The directory at the top of the disk. -/
def root (disk : Disk) : DiskEntry := .directory [] disk.entries

def spot (disk : Disk) (location : Location) : Spot := .of (disk.root.find? location)

/-! ## Following a path -/

/-- The steps of a path, a slash at the end apart. -/
def plainSteps (path : Path) : List Bytes := path.pieces

/-- The steps of a path; a slash at the end is one more step, to where the path already is. -/
def steps (path : Path) : List Bytes :=
  if path.bytes.getLast? = some Path.slash then plainSteps path ++ [[Path.dot]] else plainSteps path

/-- The greatest number of bytes in a name. -/
def nameLimit : Nat := 255

/-- The least number of bytes that makes a path too long. -/
def pathLimit : Nat := 4096

def advance (location : Location) (step : Bytes) : Location :=
  if step = [Path.dot] then location
  else if step = [Path.dot, Path.dot] then location.dropLast
  else location ++ [step]

/-- Follows steps from a location. Each step needs a directory to be taken from, and a name that is
not too long. -/
def follow (disk : Disk) : Location → List Bytes → Except IoError Location
  | location, [] => .ok location
  | location, step :: rest =>
    match disk.spot location with
    | .free => .error .notFound
    | .file .. => .error .notADirectory
    | .directory =>
      if nameLimit < step.length then .error .nameTooLong
      else disk.follow (advance location step) rest

/-- Where a path starts. -/
def start (disk : Disk) (path : Path) : Location := if path.isAbsolute then [] else disk.home

/-- The location that a path leads to, by the given steps; the empty path leads nowhere. -/
def locate (disk : Disk) (path : Path) (taken : List Bytes) : Except IoError Location :=
  if path.bytes = [] then .error .notFound
  else if path.bytes.contains 0 then .error .nulInPath
  else if pathLimit ≤ path.bytes.length then .error .nameTooLong
  else disk.follow (disk.start path) taken

/-! ## Looking -/

/-- What stands where a path leads. -/
def look (disk : Disk) (path : Path) : Except IoError Spot := do
  let location ← disk.locate path (steps path)
  pure (disk.spot location)

def isDirectory (disk : Disk) (path : Path) : Bool :=
  match disk.look path with
  | .ok .directory => true
  | _ => false

def read (disk : Disk) (path : Path) : Except IoError Bytes := do
  match ← disk.look path with
  | .free => throw .notFound
  | .file content _ => pure content
  | .directory => throw .isADirectory

def readText (disk : Disk) (path : Path) : Except IoError String := do
  match Text.ofBytes? (← disk.read path) with
  | some text => pure text
  | none => throw .notText

/-- The time of the last change, in microseconds. -/
def modified (disk : Disk) (path : Path) : Except IoError Int := do
  match ← disk.look path with
  | .free => throw .notFound
  | .file _ modified => pure modified
  | .directory => pure disk.now

/-- Microseconds as whole milliseconds, rounded toward zero and kept within 64 bits. -/
def wholeMillis (micros : Int) : Int64 :=
  let millis := micros.tdiv 1000
  if millis < Int64.minValue.toInt then Int64.minValue
  else if Int64.maxValue.toInt < millis then Int64.maxValue
  else Int64.ofInt millis

/-- The time of the last change, in milliseconds. -/
def modifiedMillis (disk : Disk) (path : Path) : Except IoError Int64 := do
  pure (wholeMillis (← disk.modified path))

/-- Where a directory is, and what is in it. -/
def contents (disk : Disk) (path : Path) : Except IoError (Location × List DiskEntry) := do
  let location ← disk.locate path (steps path)
  match disk.root.find? location with
  | none => throw .notFound
  | some (.file ..) => throw .notADirectory
  | some (.directory _ entries) => pure (location, entries)

/-- Where a directory is, and what is in it, if it lets its entries be listed. -/
def list (disk : Disk) (path : Path) : Except IoError (Location × List DiskEntry) := do
  let (location, entries) ← disk.contents path
  match disk.sealed location with
  | none => pure (location, entries)
  | some error => throw error

/-- The paths of all entries below the home directory, in order. -/
def listing (disk : Disk) : List String :=
  match disk.root.find? disk.home with
  | some (.directory _ entries) =>
    (DiskEntry.listingAll "" entries).mergeSort fun left right => (compare left right).isLE
  | _ => []

/-! ## Changing -/

def set (disk : Disk) (location : Location) (entry : Option DiskEntry) : Disk :=
  { disk with entries := (disk.root.set location entry).entries }

def makeDirectory (disk : Disk) (path : Path) : Except IoError Disk := do
  let location ← disk.locate path (plainSteps path)
  match disk.spot location with
  | .free => pure (disk.set location (some (.directory (location.getLastD []) [])))
  | .file .. | .directory => throw .alreadyExists

/-- Makes the first of some nested paths a directory, after those above it where they are missing. -/
def makeNested (disk : Disk) : List Path → Except IoError Unit × Disk
  | [] => (.error .notFound, disk)
  | path :: above =>
    if path.bytes = [] then (.ok (), disk)
    else match disk.makeDirectory path with
      | .ok disk => (.ok (), disk)
      | .error .notFound =>
        match disk.makeNested above with
        | (.error error, disk) => (.error error, disk)
        | (.ok (), disk) =>
          match disk.makeDirectory path with
          | .ok disk => (.ok (), disk)
          | .error error => if disk.isDirectory path then (.ok (), disk) else (.error error, disk)
      | .error error => if disk.isDirectory path then (.ok (), disk) else (.error error, disk)

/-- Makes a directory and those above it. What was made before a failure stays. -/
def makeDirectories (disk : Disk) (path : Path) : Except IoError Unit × Disk :=
  disk.makeNested path.ancestors

/-- Writes a file whose directory exists. -/
def write (disk : Disk) (path : Path) (content : Bytes) (modified : Int) : Except IoError Disk := do
  let location ← disk.locate path (plainSteps path)
  match disk.spot location with
  | .directory => throw .isADirectory
  | .free | .file .. =>
    pure (disk.set location (some (.file (location.getLastD []) content modified)))

/-- Sets the time of the last change of a file. -/
def touch (disk : Disk) (path : Path) (modified : Int) : Except IoError Disk := do
  let location ← disk.locate path (steps path)
  match disk.spot location with
  | .free => throw .notFound
  | .file content _ =>
    pure (disk.set location (some (.file (location.getLastD []) content modified)))
  | .directory => throw .isADirectory

def remove (disk : Disk) (path : Path) : Except IoError Disk := do
  let location ← disk.locate path (steps path)
  match disk.spot location with
  | .free => throw .notFound
  | .file .. => pure (disk.set location none)
  | .directory => throw .isADirectory

/-- Moves a file to another path, over any file there. A file that is moved to where it is stays there. -/
def rename (disk : Disk) (source target : Path) : Except IoError Disk := do
  match ← disk.look source with
  | .free => throw .notFound
  | .file content modified =>
    let location ← disk.locate source (steps source)
    let goal ← disk.locate target (plainSteps target)
    if location = goal then pure disk
    else
      let disk ← disk.write target content modified
      disk.remove source
  | .directory => throw .isADirectory

/-- Makes an empty file under a new name in a directory; the empty path is the home directory. -/
def makeTemporary (disk : Disk) (directory : Path) : Except IoError (Path × Disk) := do
  let (_, entries) ← disk.contents (if directory.bytes = [] then ⟨"."⟩ else directory)
  let path := directory.join ⟨disk.temporaryNames.pick entries⟩
  pure (path, ← disk.write path [] disk.now)

/-- Writes a file and makes the directories above it. -/
def place (disk : Disk) (path : Path) (content : Bytes) (modified : Int) : Except IoError Disk :=
  match disk.makeDirectories (path.parent?.getD ⟨[]⟩) with
  | (.error error, _) => .error error
  | (.ok (), disk) => disk.write path content modified

end Disk

end TriggerScript
