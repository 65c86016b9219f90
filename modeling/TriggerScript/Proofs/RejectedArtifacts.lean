import TriggerScript.Proofs.CachedLoad

/-!
# Rejected artifacts

An artifact is examined from its front: first the stamp, then the unit, and at last the kinds of the unit's
triggers. Whatever is wrong with it, it is deleted, and until then nothing has been done but to look at it. So
the load goes on as if there had not been an artifact.
-/

namespace TriggerScript

/-- A trigger of a kind that the catalog lacks ends the search, if all those in front of it are listed. -/
theorem Registry.resolve_of_unlisted {grammar : Grammar} {known : List Trigger} {trigger : Trigger}
    (listed : grammar.ListsAll known) (unlisted : grammar.eventInfo? trigger.event.kind = none)
    (later : List Trigger) :
    (Registry.resolve grammar (known ++ trigger :: later)).value =
      .error (.unknownEvent trigger.name trigger.event.kind) := by
  induction known with
  | nil => simp [Registry.resolve, Grammar.lookUpEvent, unlisted]
  | cons first rest inductionHypothesis =>
    obtain ⟨info, found⟩ := Option.isSome_iff_exists.mp (listed first List.mem_cons_self)
    have others := inductionHypothesis fun other member => listed other (List.mem_cons_of_mem _ member)
    simp [Registry.resolve, Grammar.lookUpEvent, found, others]

/-! ## Reasons to reject an artifact -/

namespace Artifact

/-- The bytes of an artifact are of no use to a script with the time `current`, for the reason given. -/
inductive Rejected (grammar : Grammar) (bytes : Bytes) (current : Except IoError Int64) : CacheError → Prop
  /-- There are not even the bytes of a stamp. -/
  | short (cut : bytes.length < 8) : Rejected grammar bytes current (.decode .shortStamp)
  /-- The stamp is another time than that of the script. -/
  | stale {stamp now : Int64} {rest : Bytes} (stamped : bytes = stampBytes stamp ++ rest) (dated : current = .ok now)
    (differs : stamp ≠ now) : Rejected grammar bytes current (.stale stamp now)
  /-- What stands behind the stamp is no unit. -/
  | undecodable {stamp : Int64} {rest : Bytes} {error : DecodeError} (stamped : bytes = stampBytes stamp ++ rest)
    (dated : current = .ok stamp) (broken : decodeUnit rest = .error error) :
    Rejected grammar bytes current (.decode error)
  /-- The unit has a trigger of a kind that the catalog lacks; this is the first one. -/
  | unknownKind {unit : CompiledUnit} {known later : List Trigger} {trigger : Trigger}
    (decoded : decode bytes current = .ok unit) (triggers : unit.triggers = known ++ trigger :: later)
    (listed : grammar.ListsAll known) (unlisted : grammar.eventInfo? trigger.event.kind = none) :
    Rejected grammar bytes current (.unknownEvent trigger.name trigger.event.kind)

theorem decode_of_short {bytes : Bytes} (cut : bytes.length < 8) (current : Except IoError Int64) :
    decode bytes current = .error (.decode .shortStamp) := by
  have short : (bytes.take 8).length < 8 := by
    rw [List.length_take]
    omega
  simp only [decode, decodeStamp, if_pos short]
  rfl

theorem decode_of_stale {stamp now : Int64} (differs : stamp ≠ now) (rest : Bytes) :
    decode (stampBytes stamp ++ rest) (.ok now) = .error (.stale stamp now) := by
  rw [decode, decodeStamp_yields stamp rest]
  simp [differs]
  rfl

theorem decode_of_broken {rest : Bytes} {error : DecodeError} (broken : decodeUnit rest = .error error)
    (stamp : Int64) :
    decode (stampBytes stamp ++ rest) (.ok stamp) = .error (.decode error) := by
  rw [decode, decodeStamp_yields stamp rest]
  simp [broken]
  rfl

end Artifact

namespace Cache

variable {cache : Cache} {script : Path} {disk without : Disk}

/-- A file that has been removed is not found any more. -/
theorem read_of_remove {path : Path} (removed : disk.remove path = .ok without) :
    without.read path = .error .notFound := by
  obtain ⟨location, content, time, located, file, updates⟩ := Disk.remove_updates removed
  have located := (updates.changesOnly (by simp [file])).locate located
  have free : without.look path = .ok .free := by
    refine Disk.look_eq_ok.mpr ⟨location, located, ?_⟩
    rw [updates.spot_eq, if_pos rfl]
  rw [Disk.read, free]
  rfl

theorem discard_of_remove (removed : disk.remove (cache.artifactOf script) = .ok without) :
    cache.discard script disk = ⟨without, [.noted (.deleted (cache.artifactOf script))]⟩ := by
  unfold discard
  dsimp only
  generalize disk.remove (cache.artifactOf script) = outcome at removed ⊢
  subst removed
  rfl

/-- Bytes that are no artifact of the script as it is are deleted. -/
theorem examine_of_refused {bytes : Bytes} {error : CacheError}
    (removed : disk.remove (cache.artifactOf script) = .ok without)
    (refused : Artifact.decode bytes (disk.modifiedMillis script) = .error error) :
    cache.examine script (.ok bytes) disk =
      ⟨(.error error, without),
        [.noted (.discarding error (cache.artifactOf script)), .noted (.deleted (cache.artifactOf script))]⟩ := by
  simp only [examine, refused, discard_of_remove removed]
  rfl

end Cache

namespace Loader

variable {σ : Type} {services : Services σ} {path : Path} {loader : Loader σ} {without : Disk} {bytes : Bytes}
  {error : CacheError}

/-! ## Loads that find no use for an artifact -/

/-- Where there is no artifact, nothing is tried. -/
theorem loadCached_of_absent (absent : loader.disk.read (loader.cache.artifactOf path) = .error .notFound) :
    loader.loadCached services path = pure (.ok none, loader) := by
  rw [loadCached, Cache.load, absent]
  rfl

/-- An artifact whose unit cannot be told is deleted, and the loader is as it was. -/
theorem loadCached_of_refused (artifact : loader.disk.read (loader.cache.artifactOf path) = .ok bytes)
    (deletable : loader.disk.remove (loader.cache.artifactOf path) = .ok without)
    (refused : Artifact.decode bytes (loader.disk.modifiedMillis path) = .error error) :
    (loader.loadCached services path).value = (.error error, { loader with disk := without }) ∧
      (loader.loadCached services path).Only Activity.isInspection := by
  rw [loadCached, Cache.load, artifact, Cache.examine_of_refused deletable refused]
  exact ⟨rfl, rfl⟩

/-- Once the unit of an artifact is known, it is left to be brought in. -/
theorem loadCached_of_decoded {unit : CompiledUnit}
    (artifact : loader.disk.read (loader.cache.artifactOf path) = .ok bytes)
    (decoded : Artifact.decode bytes (loader.disk.modifiedMillis path) = .ok unit) :
    loader.loadCached services path = (do
      note (.cacheHit (loader.cache.artifactOf path) unit.triggers.length)
      loader.restore services path (.ok (some unit))) := by
  simp only [loadCached, Cache.load, artifact, Cache.examine, decoded]
  rfl

theorem discardArtifact_of_remove (deletable : loader.disk.remove (loader.cache.artifactOf path) = .ok without) :
    loader.discardArtifact path =
      ⟨{ loader with disk := without }, [.noted (.deleted (loader.cache.artifactOf path))]⟩ := by
  rw [discardArtifact, Cache.discard_of_remove deletable]
  rfl

/-- A unit with a trigger of an unknown kind is not brought in, and its artifact is deleted. -/
theorem restore_of_unresolved {unit : CompiledUnit}
    (deletable : loader.disk.remove (loader.cache.artifactOf path) = .ok without)
    (unresolved : (Registry.resolve services.grammar unit.triggers).value = .error error) :
    (loader.restore services path (.ok (some unit))).value = (.error error, { loader with disk := without }) ∧
      (loader.restore services path (.ok (some unit))).Only Activity.isInspection := by
  have inspects := Registry.resolve_inspects services.grammar unit.triggers
  rw [restore]
  generalize Registry.resolve services.grammar unit.triggers = resolved at unresolved inspects ⊢
  obtain ⟨found, asked⟩ := resolved
  cases unresolved
  rw [discardArtifact_of_remove deletable]
  exact ⟨rfl, .bind inspects rfl⟩

theorem loadCached_of_rejected (artifact : loader.disk.read (loader.cache.artifactOf path) = .ok bytes)
    (deletable : loader.disk.remove (loader.cache.artifactOf path) = .ok without)
    (rejected : Artifact.Rejected services.grammar bytes (loader.disk.modifiedMillis path) error) :
    (loader.loadCached services path).value = (.error error, { loader with disk := without }) ∧
      (loader.loadCached services path).Only Activity.isInspection := by
  cases rejected with
  | short cut => exact loadCached_of_refused artifact deletable (Artifact.decode_of_short cut _)
  | stale stamped dated differs =>
    rw [stamped] at artifact
    refine loadCached_of_refused artifact deletable ?_
    rw [dated]
    exact Artifact.decode_of_stale differs _
  | undecodable stamped dated broken =>
    rw [stamped] at artifact
    refine loadCached_of_refused artifact deletable ?_
    rw [dated]
    exact Artifact.decode_of_broken broken _
  | @unknownKind _ _ later _ decoded triggers listed unlisted =>
    have unresolved := Registry.resolve_of_unlisted listed unlisted later
    rw [← triggers] at unresolved
    obtain ⟨value, inspects⟩ := restore_of_unresolved deletable unresolved
    rw [loadCached_of_decoded artifact decoded]
    exact ⟨value, .bind rfl inspects⟩

/-! ## Whole loads -/

/-- What is unloaded does not depend on the disk, and leaves it alone. -/
theorem unloadOld_onDisk (services : Services σ) (path : Path) (loader : Loader σ) (disk : Disk) :
    ({ loader with disk } : Loader σ).unloadOld services path =
      ⟨{ (loader.unloadOld services path).value with disk }, (loader.unloadOld services path).activity⟩ := by
  unfold unloadOld
  split <;> rfl

/--
A load finds an artifact that it rejects: it is shorter than a stamp, its stamp is not the time of the script,
what is behind the stamp is no unit, or the unit has a trigger of a kind that the catalog lacks. Then the load
comes to the same result as if the artifact had been removed before. It leaves the same registry, log, variables,
state of the collaborators, and disk. Also what it does on the way is the same, except that it inspects the
artifact first.
-/
theorem rejected_artifact_as_absent (caching : loader.config.enableCaching = true)
    (artifact : loader.disk.read (loader.cache.artifactOf path) = .ok bytes)
    (deletable : loader.disk.remove (loader.cache.artifactOf path) = .ok without)
    (rejected : Artifact.Rejected services.grammar bytes (loader.disk.modifiedMillis path) error) :
    let absent : Loader σ := { loader with disk := without }
    absent.disk.read (absent.cache.artifactOf path) = .error .notFound ∧
      (loader.loadScript services path).value = (absent.loadScript services path).value ∧
      ∃ before inspection behind,
        (loader.loadScript services path).activity = before ++ (inspection ++ behind) ∧
        (absent.loadScript services path).activity = before ++ behind ∧
        inspection.all Activity.isInspection = true := by
  intro absent
  have gone : absent.disk.read (absent.cache.artifactOf path) = .error .notFound := Cache.read_of_remove deletable
  obtain ⟨registry, state, unloaded, -⟩ := unloadOld_spec services path loader
  let start : Loader σ := { loader with registry, state }
  let fresh : Loader σ := { start with disk := without }
  obtain ⟨value, inspects⟩ :=
    @loadCached_of_rejected σ services path start without bytes error artifact deletable rejected
  have tried : (loader.unloadOld services path).value.loadCached services path =
      ⟨(.error error, fresh), (start.loadCached services path).activity⟩ := by
    rw [unloaded, ← value]
  have triedWithout : (absent.unloadOld services path).value.loadCached services path = ⟨(.ok none, fresh), []⟩ := by
    rw [unloadOld_onDisk, unloaded]
    exact loadCached_of_absent gone
  have unloads : (absent.unloadOld services path).activity = (loader.unloadOld services path).activity := by
    rw [unloadOld_onDisk services path loader without]
  -- Both loads compile the script from the same loader.
  have load := loadScript_eq_of_miss caching (fun _ hit => by cases hit) tried
  have loadWithout :=
    @loadScript_eq_of_miss σ services path absent caching _ _ _ (fun _ hit => by cases hit) triedWithout
  rw [load, loadWithout, unloads]
  refine ⟨gone, rfl, _, _, _, rfl, rfl, ?_⟩
  rw [List.all_append, inspects]
  rfl

section Rehearsed

open Rehearsal

/-- Collaborators whose catalog has lost a kind that the scene uses. -/
def forgetfulServices : Services Desk := Rehearsal.services { forgotten := ["every"] } sceneParse

def sceneUnit : CompiledUnit := (Compile.compileFile sceneServices scenePath scene {} {}).value.1

theorem scene_decoded :
    Artifact.decode sceneArtifact (sceneLoaded.disk.modifiedMillis scenePath) = .ok sceneUnit ∧
      sceneUnit.triggers.map (fun trigger => (trigger.name, trigger.event.kind)) =
        [("on join", "join"), ("every", "every")] := by
  decide +kernel

/-- The kind of the scene's second trigger is forgotten, and the first one is resolved before that is found out. -/
theorem scene_rejected : Artifact.Rejected forgetfulServices.grammar sceneArtifact
    (sceneLoaded.disk.modifiedMillis scenePath) (.unknownEvent "every" "every") := by
  obtain ⟨decoded, kinds⟩ := scene_decoded
  obtain ⟨first, others, triggers, firstKind, kinds⟩ := List.map_eq_cons_iff.mp kinds
  obtain ⟨second, later, rfl, secondKind, -⟩ := List.map_eq_cons_iff.mp kinds
  obtain ⟨-, known⟩ := Prod.mk.inj firstKind
  obtain ⟨name, forgotten⟩ := Prod.mk.inj secondKind
  have listed : forgetfulServices.grammar.ListsAll [first] := by
    intro trigger member
    rw [List.mem_singleton.mp member, known]
    decide
  have unlisted : forgetfulServices.grammar.eventInfo? second.event.kind = none := by
    rw [forgotten]
    decide
  have rejected := Artifact.Rejected.unknownKind decoded triggers listed unlisted
  rwa [name, forgotten] at rejected

/-- The scene is loaded again over its first copy, and the artifact of the first load is of no use any more. -/
theorem scene_rejected_as_absent :
    ∃ without, sceneLoaded.disk.remove (sceneLoaded.cache.artifactOf scenePath) = .ok without ∧
      Artifact.Rejected forgetfulServices.grammar sceneArtifact (sceneLoaded.disk.modifiedMillis scenePath)
        (.unknownEvent "every" "every") ∧
      (sceneLoaded.loadScript forgetfulServices scenePath).value =
        (({ sceneLoaded with disk := without } : Loader Desk).loadScript forgetfulServices scenePath).value := by
  obtain ⟨config, -, artifact⟩ := scene_loaded
  have caching : sceneLoaded.config.enableCaching = true := by
    rw [config]
    rfl
  have holds : sceneLoaded.disk.Holds (sceneLoaded.cache.artifactOf scenePath) sceneArtifact 0 := artifact
  obtain ⟨without, deletable⟩ := holds.remove
  obtain ⟨-, same, -⟩ := rejected_artifact_as_absent caching holds.read deletable scene_rejected
  exact ⟨without, deletable, scene_rejected, same⟩

end Rehearsed

end Loader

end TriggerScript
