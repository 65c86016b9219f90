import TriggerScript.Artifact.Decode
import TriggerScript.Artifact.Encode
import TriggerScript.Artifact.Parts
import TriggerScript.Journal

/-!
# The cache

Beside a script, in the cache directory, lies its artifact. It is used only while its stamp is the
time of the script's last change. An artifact that cannot be used is deleted, and one that cannot be
written leaves none behind.
-/

namespace TriggerScript

structure Cache where
  /-- The directory of the artifacts, seen from the directory of the script. -/
  directory : Path
deriving DecidableEq, Repr, Inhabited

namespace Cache

/-- Where the artifact of a script lies. -/
def artifactOf (cache : Cache) (script : Path) : Path :=
  let beside := script.parent?.getD ⟨[]⟩
  (beside.join cache.directory).join ⟨script.fileName?.getD [] ++ "c"⟩

/-- Deletes the artifact of a script, if there is one. -/
def discard (cache : Cache) (script : Path) (disk : Disk) : Recorded Disk := do
  let artifact := cache.artifactOf script
  match disk.remove artifact with
  | .ok disk =>
    note (.deleted artifact)
    pure disk
  | .error .notFound => pure disk
  | .error error =>
    note (.notDeleted error artifact)
    pure disk

/-- The unit in what was found in the place of a script's artifact. Without an artifact there is none. -/
def examine (cache : Cache) (script : Path) (found : Except IoError Bytes) (disk : Disk) :
    Recorded (Except CacheError (Option CompiledUnit) × Disk) := do
  let artifact := cache.artifactOf script
  match found with
  | .error .notFound => pure (.ok none, disk)
  | .error error =>
    let disk ← cache.discard script disk
    pure (.error (.io error), disk)
  | .ok bytes =>
    match Artifact.decode bytes (disk.modifiedMillis script) with
    | .ok unit =>
      note (.cacheHit artifact unit.triggers.length)
      pure (.ok (some unit), disk)
    | .error error =>
      note (.discarding error artifact)
      let disk ← cache.discard script disk
      pure (.error error, disk)

/-- The unit in the artifact of a script. -/
def load (cache : Cache) (script : Path) (disk : Disk) :
    Recorded (Except CacheError (Option CompiledUnit) × Disk) :=
  cache.examine script (disk.read (cache.artifactOf script)) disk

/-- Fills a new temporary file and moves it to where the artifact lies. -/
def writeThrough (temporary artifact : Path) (stamp : Int64) (unit : CompiledUnit) (disk : Disk) :
    Except CacheError Disk := do
  match Artifact.encode? stamp unit with
  | none => throw (@CacheError.encode unit.obstacle)
  | some bytes =>
    let disk ← (disk.write temporary bytes disk.now).mapError .io
    (disk.rename temporary artifact).mapError .io

/-- Deletes a file if it is there. -/
def dropFile (path : Path) (disk : Disk) : Disk :=
  match disk.remove path with
  | .ok disk => disk
  | .error _ => disk

/--
Writes the artifact of a script. It is written under a temporary name first, so that the artifact is
replaced as a whole or not at all; after a failure the temporary file is deleted.
-/
def write (cache : Cache) (script : Path) (stamp : Int64) (unit : CompiledUnit) (disk : Disk) :
    Except CacheError Unit × Disk :=
  let artifact := cache.artifactOf script
  let directory := artifact.parent?.getD ⟨"."⟩
  match disk.makeDirectories directory with
  | (.error error, disk) => (.error (.io error), disk)
  | (.ok (), disk) =>
    match disk.makeTemporary directory with
    | .error error => (.error (.io error), disk)
    | .ok (temporary, disk) =>
      match writeThrough temporary artifact stamp unit disk with
      | .ok disk => (.ok (), disk)
      | .error error => (.error error, dropFile temporary disk)

/-- Writes the artifact of a script; after a failure there is none, not even an older one. -/
def store (cache : Cache) (script : Path) (stamp : Int64) (unit : CompiledUnit) (disk : Disk) :
    Recorded (Except CacheError Unit × Disk) := do
  match cache.write script stamp unit disk with
  | (.ok (), disk) =>
    note (.stored (cache.artifactOf script))
    pure (.ok (), disk)
  | (.error error, disk) =>
    note (.notCached error script)
    let disk ← cache.discard script disk
    pure (.error error, disk)

end Cache

end TriggerScript
