import TriggerScript.Cache
import TriggerScript.Proofs.DiskChanges

/-!
# The files of the cache

An artifact has a name of its own, which is not the script's. A temporary file may have that name, but then it
is where the artifact is to be. So the cache changes nothing on the disk but the artifact: to discard it leaves
no artifact, and to store it leaves the new one or none.
-/

namespace TriggerScript.Cache

open Disk

/-! ## Names -/

/-- The name of a script's artifact. -/
def artifactName (script : Path) : Bytes := script.fileName?.getD [] ++ Text.toBytes "c"

theorem artifactName_eq (script : Path) : artifactName script = script.fileName?.getD [] ++ [0x63] := rfl

theorem artifactName_isName (script : Path) : Path.IsName (artifactName script) := by
  have absent : Path.slash ∉ script.fileName?.getD [] := by
    cases named : script.fileName? with
    | none => simp
    | some name => simpa using Path.not_mem_of_fileName? named
  rw [artifactName_eq]
  refine ⟨by simp [absent, Path.slash], by simp, ?_, ?_⟩ <;>
  · intro same
    simpa [Path.dot] using congrArg List.getLast? same

section

variable (cache : Cache) (script : Path)

theorem steps_artifactOf : steps (cache.artifactOf script) = plainSteps (cache.artifactOf script) :=
  steps_join_name _ (artifactName_isName script)

/-- The location of a script's artifact. -/
def place (disk : Disk) : Location :=
  disk.destination (cache.artifactOf script) (steps (cache.artifactOf script))

theorem place_ends (disk : Disk) :
    ∃ above, cache.place script disk = above ++ [artifactName script] := by
  have ends := Path.pieces_join_name ((script.parent?.getD ⟨[]⟩).join cache.directory)
    (artifactName_isName script)
  exact destination_of_name ends (artifactName_isName script) disk (along_steps _)

/-- Where a script stands, or could, no artifact of it lies. -/
theorem place_ne_located {disk : Disk} {taken : List Bytes} {location : Location} (along : Along script taken)
    (located : disk.locate script taken = .ok location) (other : disk.spot location ≠ .directory) :
    location ≠ cache.place script disk := by
  obtain ⟨above, name, rfl, named⟩ := ends_in_name along located other
  obtain ⟨artifactAbove, ends⟩ := cache.place_ends script disk
  rw [ends, artifactName_eq, named]
  intro same
  have longer : name = name ++ [0x63] := by simpa using congrArg List.getLast? same
  simpa using congrArg List.length longer

/-- A script is never its own artifact. -/
theorem place_ne_script {disk : Disk} {content : Bytes} {time : Int}
    (holds : disk.Holds script content time) :
    disk.destination script (steps script) ≠ cache.place script disk := by
  obtain ⟨location, located, file⟩ := look_eq_ok.mp holds
  rw [← eq_destination_of_locate located]
  exact cache.place_ne_located script (along_steps script) located (by simp [file])

/-- To write a script leaves its artifact alone. -/
theorem holds_of_write {disk after : Disk} {content bytes : Bytes} {time stored : Int}
    (written : disk.write script content time = .ok after)
    (holds : after.Holds (cache.artifactOf script) bytes stored) :
    disk.Holds (cache.artifactOf script) bytes stored := by
  obtain ⟨location, located, replaced, updates⟩ := write_updates written
  have apart := cache.place_ne_located script (along_plainSteps script) located replaced
  rw [place, ← (updates.changesOnly replaced).destination_eq] at apart
  exact (updates.undone nofun).holds apart.symm holds

/-! ## Discarding -/

/-- A file that is dropped is gone, and all else is as it was. -/
theorem dropFile_spec (path : Path) (disk : Disk) :
    ChangesOnly (· = disk.destination path (steps path)) disk (dropFile path disk) ∧
      ChangesOnly (· = disk.destination path (steps path)) (dropFile path disk) disk ∧
      ∀ content time, ¬ (dropFile path disk).Holds path content time := by
  unfold dropFile
  cases removed : disk.remove path with
  | error error =>
    refine ⟨.refl _ disk, .refl _ disk, fun content time holds => ?_⟩
    obtain ⟨after, done⟩ := holds.remove
    rw [removed] at done
    cases done
  | ok after =>
    obtain ⟨location, content, time, located, file, updates⟩ := remove_updates removed
    rw [← eq_destination_of_locate located]
    have changes := updates.changesOnly (by simp [file])
    refine ⟨changes, updates.undone nofun, fun content time holds => ?_⟩
    obtain ⟨reached, again, stands⟩ := look_eq_ok.mp holds
    rw [changes.locate located] at again
    cases again
    rw [updates.spot_eq, if_pos rfl] at stands
    cases stands

/-- To drop a file adds none. -/
theorem spot_of_dropFile {path : Path} {disk : Disk} {location : Location} {content : Bytes} {time : Int}
    (stands : (dropFile path disk).spot location = .file content time) :
    disk.spot location = .file content time := by
  unfold dropFile at stands
  cases removed : disk.remove path with
  | error error =>
    rw [removed] at stands
    exact stands
  | ok after =>
    obtain ⟨freed, _, _, -, -, updates⟩ := remove_updates removed
    rw [removed] at stands
    dsimp only at stands
    rw [updates.spot_eq] at stands
    split at stands
    · cases stands
    · exact stands

/-- To drop an artifact leaves its script alone. -/
theorem holds_dropFile_artifact {disk : Disk} {content : Bytes} {time : Int} :
    (dropFile (cache.artifactOf script) disk).Holds script content time ↔ disk.Holds script content time := by
  obtain ⟨changes, undone, -⟩ := dropFile_spec (cache.artifactOf script) disk
  constructor
  · intro holds
    have apart := cache.place_ne_script script holds
    rw [place, changes.destination_eq (cache.artifactOf script)] at apart
    exact undone.holds apart holds
  · exact fun holds => changes.holds (cache.place_ne_script script holds) holds

theorem discard_value (disk : Disk) :
    (cache.discard script disk).value = dropFile (cache.artifactOf script) disk := by
  unfold discard dropFile
  dsimp only
  cases disk.remove (cache.artifactOf script) with
  | ok after => rfl
  | error error => cases error <;> rfl

/-! ## Examining -/

/-- What the examination of an artifact can come to. -/
inductive Examined (found : Except IoError Bytes) (disk : Disk) :
    Except CacheError (Option CompiledUnit) × Disk → Prop
  | missing (absent : found = .error .notFound) : Examined found disk (.ok none, disk)
  | good {bytes : Bytes} {unit : CompiledUnit} (present : found = .ok bytes)
    (decoded : Artifact.decode bytes (disk.modifiedMillis script) = .ok unit) :
    Examined found disk (.ok (some unit), disk)
  | refused (error : CacheError)
    (bad : ∀ bytes unit, found = .ok bytes →
      Artifact.decode bytes (disk.modifiedMillis script) ≠ .ok unit) :
    Examined found disk (.error error, (cache.discard script disk).value)

theorem examine_spec (found : Except IoError Bytes) (disk : Disk) :
    Examined cache script found disk (cache.examine script found disk).value := by
  unfold examine
  dsimp only
  cases found with
  | error error =>
    cases error with
    | notFound => exact .missing rfl
    | _ => exact .refused _ nofun
  | ok bytes =>
    dsimp only
    cases decoded : Artifact.decode bytes (disk.modifiedMillis script) with
    | ok unit => exact .good rfl decoded
    | error error =>
      refine .refused error fun bytes unit same => ?_
      cases same
      simp [decoded]

/-! ## Storing -/

theorem writeThrough_spec {temporary : Path} {location : Location} {stamp : Int64} {unit : CompiledUnit}
    {disk after : Disk} (located : disk.locate temporary (steps temporary) = .ok location)
    (written : writeThrough temporary (cache.artifactOf script) stamp unit disk = .ok after) :
    (∃ bytes, Artifact.encode? stamp unit = some bytes ∧
      after.Holds (cache.artifactOf script) bytes disk.now) ∧
    (location ≠ cache.place script disk → after.spot location = .free) ∧
    ChangesOnly (fun other => other = location ∨ other = cache.place script disk) disk after := by
  unfold writeThrough at written
  cases encoded : Artifact.encode? stamp unit with
  | none =>
    rw [encoded] at written
    cases written
  | some bytes =>
    rw [encoded] at written
    obtain ⟨filled, wrote, renamed⟩ := bind_eq_ok.mp written
    obtain ⟨reached, again, replaced, updates⟩ := write_updates (mapError_eq_ok.mp wrote)
    have changes := updates.changesOnly replaced
    have same : reached = location := by
      rw [eq_destination_of_locate again, eq_destination_of_locate located,
        destination_along disk (along_steps temporary)]
    subst same
    have goalEq : cache.place script disk = filled.destination (cache.artifactOf script)
        (plainSteps (cache.artifactOf script)) := by
      rw [place, steps_artifactOf, changes.destination_eq]
    obtain ⟨goal, found, file, freed, moved⟩ := rename_spec (changes.locate located)
      (by rw [updates.spot_eq, if_pos rfl]) (mapError_eq_ok.mp renamed)
    have goalAt : goal = cache.place script disk := by
      rw [eq_destination_of_locate found, goalEq, moved.destination_eq]
    rw [goalAt] at found file freed moved
    rw [← steps_artifactOf] at found
    exact ⟨⟨bytes, rfl, look_eq_ok.mpr ⟨_, found, file⟩⟩, freed,
      (changes.mono fun _ => .inl).trans moved⟩

/-- What the attempt to write an artifact can come to. -/
inductive Written (stamp : Int64) (unit : CompiledUnit) (disk : Disk) :
    Except CacheError Unit × Disk → Prop
  | stored {bytes : Bytes} {after : Disk} (encoded : Artifact.encode? stamp unit = some bytes)
    (holds : after.Holds (cache.artifactOf script) bytes disk.now)
    (changes : ChangesOnly (· = cache.place script disk) disk after) :
    Written stamp unit disk (.ok (), after)
  | failed (error : CacheError) {after : Disk} (changes : ChangesOnly (fun _ => False) disk after) :
    Written stamp unit disk (.error error, after)

/-- To write an artifact changes nothing else, and after a failure nothing at all. -/
theorem write_spec (stamp : Int64) (unit : CompiledUnit) (disk : Disk) :
    Written cache script stamp unit disk (cache.write script stamp unit disk) := by
  have made := makeNested_changesOnly disk ((cache.artifactOf script).parent?.getD ⟨"."⟩).ancestors
  unfold Cache.write Disk.makeDirectories
  dsimp only
  generalize disk.makeNested ((cache.artifactOf script).parent?.getD ⟨"."⟩).ancestors = result at made
  obtain ⟨error | _, ready⟩ := result
  · exact .failed (.io error) made
  dsimp only at made ⊢
  cases temporary : ready.makeTemporary ((cache.artifactOf script).parent?.getD ⟨"."⟩) with
  | error error => exact .failed (.io error) made
  | ok opened =>
    obtain ⟨path, opened⟩ := opened
    obtain ⟨location, located, free, updates⟩ := makeTemporary_updates temporary
    have opens := updates.changesOnly (by simp [free])
    have placeEq : cache.place script opened = cache.place script disk := by
      rw [place, opens.destination_eq, made.destination_eq, place]
    -- No file stood where the temporary file is made.
    have none : ∀ content time, disk.spot location ≠ .file content time := fun content time stood => by
      have stands := (made.file _ not_false content time).mpr stood
      rw [free] at stands
      cases stands
    dsimp only
    cases written : writeThrough path (cache.artifactOf script) stamp unit opened with
    | ok after =>
      obtain ⟨⟨bytes, encoded, holds⟩, freed, changes⟩ :=
        writeThrough_spec cache script (opens.locate located) written
      rw [placeEq] at changes freed
      rw [opens.now, made.now] at holds
      have whole := (made.mono fun _ => False.elim).trans ((opens.mono fun _ => .inl).trans changes)
      refine .stored encoded holds ?_
      by_cases same : location = cache.place script disk
      · exact whole.mono fun _ touched => touched.elim (·.trans same) id
      · exact whole.spare none (by simp [freed same])
    | error error =>
      obtain ⟨dropped, -, gone⟩ := dropFile_spec path opened
      have reached := eq_destination_of_locate (opens.locate located)
      rw [← reached] at dropped
      refine .failed error (.spare
        (((made.mono fun _ => False.elim).trans (opens.trans dropped)).mono fun _ => .inl)
        none fun content time stands => ?_)
      exact gone content time
        (look_eq_ok.mpr ⟨_, dropped.locate (opens.locate located), stands⟩)

theorem store_value (stamp : Int64) (unit : CompiledUnit) (disk : Disk) :
    (cache.store script stamp unit disk).value =
      match cache.write script stamp unit disk with
      | (.ok (), after) => (.ok (), after)
      | (.error error, after) => (.error error, dropFile (cache.artifactOf script) after) := by
  unfold store
  cases cache.write script stamp unit disk with
  | mk written after =>
    cases written with
    | ok done => rfl
    | error error => exact congrArg (Prod.mk (Except.error error)) (discard_value cache script after)

/-- After an artifact was stored, the new one is there, or none. -/
theorem store_spec (stamp : Int64) (unit : CompiledUnit) (disk : Disk) :
    ChangesOnly (· = cache.place script disk) disk (cache.store script stamp unit disk).value.2 ∧
    ∀ content time, (cache.store script stamp unit disk).value.2.Holds (cache.artifactOf script) content time →
      Artifact.encode? stamp unit = some content := by
  have written := cache.write_spec script stamp unit disk
  rw [store_value]
  generalize cache.write script stamp unit disk = result at written ⊢
  cases written with
  | stored encoded stands changes =>
    refine ⟨changes, fun content time holds => ?_⟩
    cases stands.symm.trans holds
    exact encoded
  | @failed error after changes =>
    dsimp only
    obtain ⟨dropped, -, gone⟩ := dropFile_spec (cache.artifactOf script) after
    rw [changes.destination_eq] at dropped
    exact ⟨(changes.mono fun _ => False.elim).trans dropped,
      fun content time holds => absurd holds (gone content time)⟩

/-- What stands in the place of an artifact that was to be stored is the new one or the one before. -/
theorem spot_of_store {stamp : Int64} {unit : CompiledUnit} {disk : Disk} {content : Bytes} {time : Int}
    (stands : (cache.store script stamp unit disk).value.2.spot (cache.place script disk) = .file content time) :
    Artifact.encode? stamp unit = some content ∨ disk.spot (cache.place script disk) = .file content time := by
  have written := cache.write_spec script stamp unit disk
  rw [store_value] at stands
  generalize cache.write script stamp unit disk = result at written stands
  cases written with
  | stored encoded holds changes =>
    obtain ⟨location, located, file⟩ := look_eq_ok.mp holds
    have reached : location = cache.place script disk := by
      rw [eq_destination_of_locate located, changes.destination_eq, place]
    rw [← reached] at stands
    cases file.symm.trans stands
    exact .inl encoded
  | failed error changes =>
    dsimp only at stands
    exact .inr ((changes.file _ not_false content time).mp (spot_of_dropFile stands))

end

end TriggerScript.Cache
