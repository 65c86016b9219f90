import TriggerScript.Proofs.CleanLoads

/-!
# Storing as a transaction

An artifact is written in several steps: its directory is made, a temporary file is opened there, filled and moved to
the artifact's place. Each of them may fail, the filling in the midst of a unit. Whatever happens, the artifact is
replaced as a whole or gone, and apart from new directories nothing else on the disk can tell that a store was tried.
-/

namespace TriggerScript.Cache

open Disk

variable (cache : Cache) (script : Path)

/-- What a store can come to: the artifact is in its place, or there is none; no other file differs. -/
inductive Transacted (stamp : Int64) (unit : CompiledUnit) (disk : Disk) : Except CacheError Unit × Disk → Prop
  | done {bytes : Bytes} {after : Disk} (encoded : Artifact.encode? stamp unit = some bytes)
    (holds : after.Holds (cache.artifactOf script) bytes disk.now)
    (changes : ChangesOnly (· = cache.place script disk) disk after) :
    Transacted stamp unit disk (.ok (), after)
  | undone (error : CacheError) {after : Disk} (changes : ChangesOnly (· = cache.place script disk) disk after)
    (gone : ∀ content time, ¬ after.Holds (cache.artifactOf script) content time)
    (unmade : ∀ location content time,
      after.spot location = .file content time → disk.spot location = .file content time) :
    Transacted stamp unit disk (.error error, after)

theorem store_transacted (stamp : Int64) (unit : CompiledUnit) (disk : Disk) :
    Transacted cache script stamp unit disk (cache.store script stamp unit disk).value := by
  have written := cache.write_spec script stamp unit disk
  rw [store_value]
  generalize cache.write script stamp unit disk = result at written ⊢
  cases written with
  | stored encoded holds changes => exact .done encoded holds changes
  | @failed error after changes =>
    -- The attempt has left all files as they were, so an older artifact is still there to be dropped.
    obtain ⟨dropped, -, gone⟩ := dropFile_spec (cache.artifactOf script) after
    rw [changes.destination_eq] at dropped
    refine .undone error ((changes.mono fun _ => False.elim).trans dropped) gone fun location content time stands => ?_
    exact (changes.file location not_false content time).mp (spot_of_dropFile stands)

/-- While an artifact changes, the time of its script stays the same. -/
theorem modifiedMillis_of_changes {stamp : Int64} {before after : Disk}
    (changes : ChangesOnly (· = cache.place script before) before after)
    (known : before.modifiedMillis script = .ok stamp) : after.modifiedMillis script = .ok stamp := by
  unfold modifiedMillis modified at known ⊢
  cases stands : before.look script with
  | error error => simp [stands, bind, Except.bind] at known
  | ok spot =>
    have same : after.look script = .ok spot := by
      cases spot with
      | free => simp [stands, bind, Except.bind, throw, throwThe, MonadExceptOf.throw] at known
      | file content time => exact changes.holds (cache.place_ne_script script stands) stands
      | directory => exact changes.look_directory stands
    rwa [same, changes.now, ← stands]

/-- As long as the script's time is the artifact's, the artifact is taken for the script. -/
theorem load_of_read {stamp : Int64} {unit : CompiledUnit} {bytes : Bytes} {disk : Disk}
    (encoded : Artifact.encode? stamp unit = some bytes) (read : disk.read (cache.artifactOf script) = .ok bytes)
    (time : disk.modifiedMillis script = .ok stamp) :
    (cache.load script disk).value = (.ok (some unit), disk) := by
  have decoded := Artifact.decode_of_encode encoded stamp
  rw [if_pos rfl] at decoded
  simp only [load, examine, read, time, decoded, Recorded.value_bind, Recorded.value_pure]

/--
A store that succeeds leaves an artifact from which the unit is loaded, at once if the script's time is the stamp, and
on any later disk with that artifact whenever it is. One that fails leaves no artifact, not even an older one. In
both cases no file is there that was not there before, but for the new artifact, and outside of its place every
file is as it was. If the disk does not stand in the way, a unit that can be encoded is stored.
-/
theorem stored_as_whole_or_gone (stamp : Int64) (unit : CompiledUnit) (disk : Disk) :
    let artifact := cache.artifactOf script
    let place := cache.place script disk
    let stored := (cache.store script stamp unit disk).value
    (stored.1 = .ok () →
      (disk.modifiedMillis script = .ok stamp → (cache.load script stored.2).value = (.ok (some unit), stored.2)) ∧
      ∀ later : Disk, later.read artifact = stored.2.read artifact → later.modifiedMillis script = .ok stamp →
        (cache.load script later).value = (.ok (some unit), later)) ∧
      (∀ error, stored.1 = .error error → ∀ content time, ¬ stored.2.Holds artifact content time) ∧
      (∀ location content time, stored.2.spot location = .file content time →
        disk.spot location = .file content time ∨ stored.1 = .ok () ∧ location = place) ∧
      ChangesOnly (· = place) disk stored.2 ∧
      (cache.Writable script disk → (∃ bytes, Artifact.encode? stamp unit = some bytes) → stored.1 = .ok ()) := by
  intro artifact place stored
  have possible : cache.Writable script disk → (∃ bytes, Artifact.encode? stamp unit = some bytes) →
      stored.1 = .ok () := by
    rintro writable ⟨bytes, encoded⟩
    obtain ⟨after, written⟩ := writable.write encoded
    rw [show stored = _ from store_value cache script stamp unit disk, written]
  have transacted : Transacted cache script stamp unit disk stored := cache.store_transacted script stamp unit disk
  clear_value stored
  cases transacted with
  | @done bytes after encoded holds changes =>
    refine ⟨fun _ => ⟨fun time => ?_, fun later same time => ?_⟩, nofun, ?_, changes, possible⟩
    · exact cache.load_of_read script encoded holds.read (cache.modifiedMillis_of_changes script changes time)
    · exact cache.load_of_read script encoded (same.trans holds.read) time
    · intro location content time stands
      by_cases own : location = place
      · exact .inr ⟨rfl, own⟩
      · exact .inl ((changes.file location own content time).mp stands)
  | undone error changes gone unmade =>
    exact ⟨nofun, fun _ _ => gone, fun location content time stands => .inl (unmade location content time stands),
      changes, possible⟩

/-- A unit is stored, and then one that holds something foreign: the directory is empty again. -/
example :
    let cache : Cache := ⟨⟨"cache"⟩⟩
    let foreign : Command := ⟨"/spawn", none, .foreign ⟨0, 7⟩⟩
    let disk : Disk := { entries := [.directory "" [.file "a.sk" [1] 1000000]] }
    let first := (cache.store ⟨"a.sk"⟩ 1000 {} disk).value
    let second := (cache.store ⟨"a.sk"⟩ 1000 { commands := [foreign] } first.2).value
    first.1 = .ok () ∧ first.2.look ⟨"cache/a.skc"⟩ ≠ .ok .free ∧
      second.1 = .error (@CacheError.encode .foreignObject) ∧
      (second.2.list ⟨"cache"⟩).toOption.any (·.2.isEmpty) = true := by
  decide +kernel

end TriggerScript.Cache
