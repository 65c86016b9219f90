import Mathlib.Logic.Relation
import TriggerScript.Proofs.ArtifactRoundTrip
import TriggerScript.Proofs.LoadSteps
import TriggerScript.Proofs.RehearsalServices
import TriggerScript.Proofs.ScriptUnits

/-!
# Edits while a script is loaded

A load turns to the disk several times, and between two turns the script may change. The stamp of an
artifact is taken before the script is read. So a change after that leaves an artifact whose stamp is older
than the script, and one with the script's own time as its stamp holds what the script compiles to.
-/

namespace TriggerScript

open Disk (wholeMillis)

variable {σ : Type}

namespace Loader

/-! ## Stages -/

/-- Where a load stands. From one stage to the next it turns to the disk at most once. -/
inductive Stage where
  | starting
  | opening
  /-- Something was found in the place of the artifact; the time of the script comes next. -/
  | checking (found : Except IoError Bytes)
  | stamping
  | reading (stamp : Option Int64)
  | compiling (stamp : Option Int64) (root : Node)
  | storing (stamp : Option Int64) (installed : Installed)
  | ended (result : Except LoadError ScriptInfo)

/-- Takes a load to its next stage. -/
def proceed (services : Services σ) (path : Path) : Stage → Loader σ → Recorded (Stage × Loader σ)
  | .starting, loader => do
    let loader ← loader.unloadOld services path
    pure (if loader.config.enableCaching then .opening else .stamping, loader)
  | .opening, loader => pure (.checking (loader.disk.read (loader.cache.artifactOf path)), loader)
  | .checking found, loader => do
    match ← loader.loadFound services path found with
    | (.ok (some info), loader) => pure (.ended (.ok info), loader)
    | (.ok none, loader) => pure (.stamping, loader)
    | (.error error, loader) =>
      note (.recompiling error path)
      pure (.stamping, loader)
  | .stamping, loader => pure (.reading (loader.disk.modifiedMillis path).toOption, loader)
  | .reading stamp, loader => do
    let (read, disk, state) ← services.reader.readTree path loader.disk loader.state
    let loader := { loader with disk, state }
    match read with
    | .error error => pure (.ended (.error (.io path error)), loader)
    | .ok root => pure (.compiling stamp root, loader)
  | .compiling stamp root, loader => do
    let (installed, loader) ← loader.installTree services path root
    pure (.storing stamp installed, loader)
  | .storing stamp installed, loader => do
    let (info, loader) ← loader.finishLoad path stamp installed
    pure (.ended (.ok info), loader)
  | .ended result, loader => pure (.ended result, loader)

/-- Takes a load some stages on, with nothing in between. -/
def proceedFor (services : Services σ) (path : Path) :
    Nat → Stage × Loader σ → Recorded (Stage × Loader σ)
  | 0, now => pure now
  | count + 1, (stage, loader) => do
    let next ← loader.proceed services path stage
    proceedFor services path count next

/-- The last stage of a load with some outcome. -/
def ended (outcome : Except LoadError ScriptInfo × Loader σ) : Stage × Loader σ := (.ended outcome.1, outcome.2)

section

variable (services : Services σ) (path : Path)

theorem proceedFor_ended (count : Nat) (result : Except LoadError ScriptInfo) (loader : Loader σ) :
    proceedFor services path count (.ended result, loader) = pure (.ended result, loader) := by
  induction count with
  | zero => rfl
  | succ count inductionHypothesis => simpa [proceedFor, proceed] using inductionHypothesis

theorem proceedFor_compiling (count : Nat) (stamp : Option Int64) (root : Node) (loader : Loader σ) :
    proceedFor services path (count + 2) (.compiling stamp root, loader) = do
      let (installed, loader) ← loader.installTree services path root
      let (info, loader) ← loader.finishLoad path stamp installed
      return ended (.ok info, loader) := by
  rw [proceedFor, proceed, bind_assoc]
  refine bind_congr fun installed => ?_
  rw [pure_bind, proceedFor, proceed, bind_assoc]
  refine bind_congr fun finished => ?_
  rw [pure_bind, proceedFor_ended]
  rfl

theorem proceedFor_stamping (count : Nat) (loader : Loader σ) :
    proceedFor services path (count + 4) (.stamping, loader) = ended <$> loader.loadFresh services path := by
  rw [proceedFor, proceed, pure_bind, proceedFor, proceed, loadFresh, bind_assoc, map_bind]
  refine bind_congr fun outcome => ?_
  rcases outcome with ⟨error | root, disk, state⟩
  · dsimp only
    rw [pure_bind, proceedFor_ended, map_pure]
    rfl
  · dsimp only
    rw [pure_bind, proceedFor_compiling]
    simp only [map_bind, map_pure]

/-- Where nothing comes in between, the stages make up a load. -/
theorem proceedFor_starting (loader : Loader σ) :
    proceedFor services path 7 (.starting, loader) = ended <$> loader.loadScript services path := by
  rw [proceedFor, proceed, loadScript, bind_assoc, map_bind]
  refine bind_congr fun loader => ?_
  rw [pure_bind]
  cases loader.config.enableCaching with
  | false => exact proceedFor_stamping services path 2 loader
  | true =>
    rw [if_pos rfl, if_pos rfl, loadCached_eq, proceedFor, proceed, pure_bind, proceedFor, proceed, bind_assoc,
      map_bind]
    refine bind_congr fun outcome => ?_
    rcases outcome with ⟨error | _ | info, loader⟩
    · -- An artifact that cannot be used is noted, and then the script is compiled all the same.
      dsimp only
      rw [bind_assoc, map_bind]
      refine bind_congr fun _ => ?_
      rw [pure_bind]
      exact proceedFor_stamping services path 0 loader
    · dsimp only
      rw [pure_bind]
      exact proceedFor_stamping services path 0 loader
    · dsimp only
      rw [pure_bind, proceedFor_ended, map_pure]
      rfl

end

/-! ## Loads and edits -/

/-- A moment in a history of loads and edits of one script. -/
structure Moment (σ : Type) where
  loader : Loader σ
  stage : Stage := .starting
  /-- The times, in milliseconds, that the script has had so far. -/
  times : List Int64

/-- What can come next. Every edit leaves the script with a time that it has never had. -/
inductive Next (services : Services σ) (path : Path) : Moment σ → Moment σ → Prop
  | proceeds (moment : Moment σ) {stage : Stage} {loader : Loader σ}
    (next : (moment.loader.proceed services path moment.stage).value = (stage, loader)) :
    Next services path moment { moment with stage, loader }
  /-- Another load starts; the one before it may have been cut off. -/
  | starts (moment : Moment σ) : Next services path moment { moment with stage := .starting }
  | edits (moment : Moment σ) {content : Bytes} {time : Int} {disk : Disk}
    (written : moment.loader.disk.write path content time = .ok disk)
    (new : wholeMillis time ∉ moment.times) :
    Next services path moment
      { moment with loader := { moment.loader with disk }, times := wholeMillis time :: moment.times }
  /-- Other scripts come and go, and variables change. -/
  | passes (moment : Moment σ) (registry : Registry) (log : List Diagnostic) (values : Variables) (state : σ) :
    Next services path moment { moment with loader := { moment.loader with registry, log, values, state } }

/-- A content compiles to a unit, whatever the variables are. -/
def CompilesTo (services : Services σ) (parse : Bytes → Except IoError Node) (path : Path) (unit : CompiledUnit)
    (content : Bytes) : Prop :=
  ∃ root, parse content = .ok root ∧
    ∀ values state, (Compile.compileFile services path root values state).value.1 = unit

/-- A stamp is a time of the script; while it is the script's time, the content has a property. -/
def Tracks (path : Path) (disk : Disk) (times : List Int64) (stamp : Int64) (about : Bytes → Prop) : Prop :=
  stamp ∈ times ∧ ∃ content time, disk.Holds path content time ∧ (wholeMillis time = stamp → about content)

section

variable {services : Services σ} {parse : Bytes → Except IoError Node} {path : Path} {disk after : Disk}
  {times : List Int64} {stamp : Int64} {about about' : Bytes → Prop}

theorem Tracks.imp (tracks : Tracks path disk times stamp about)
    (implies : ∀ content, about content → about' content) : Tracks path disk times stamp about' := by
  obtain ⟨known, content, time, holds, current⟩ := tracks
  exact ⟨known, content, time, holds, fun same => implies content (current same)⟩

/-- An edit takes the stamp's time from the script. -/
theorem Tracks.edited (tracks : Tracks path disk times stamp about) {content : Bytes} {time : Int}
    (written : disk.write path content time = .ok after) (new : wholeMillis time ∉ times) :
    Tracks path after (wholeMillis time :: times) stamp about := by
  obtain ⟨known, old, earlier, holds, -⟩ := tracks
  -- The stamp is one of the earlier times, and the new time is none of them.
  exact ⟨.tail _ known, content, time, holds.write written, fun same => absurd (same ▸ known) new⟩

theorem Tracks.kept (tracks : Tracks path disk times stamp about)
    (kept : ∀ content time, disk.Holds path content time → after.Holds path content time) :
    Tracks path after times stamp about := by
  obtain ⟨known, content, time, holds, current⟩ := tracks
  exact ⟨known, content, time, kept content time holds, current⟩

/-- The bytes of an artifact that is behind its script or holds what the script compiles to. -/
def Sound (services : Services σ) (parse : Bytes → Except IoError Node) (path : Path) (disk : Disk)
    (times : List Int64) (bytes : Bytes) : Prop :=
  ∃ stamp unit, Artifact.encode? stamp unit = some bytes ∧
    Tracks path disk times stamp (CompilesTo services parse path unit)

theorem Sound.of_tracks {bytes bytes' : Bytes} {disk' : Disk} {times' : List Int64}
    (sound : Sound services parse path disk times bytes) (same : bytes = bytes')
    (tracks : ∀ stamp about, Tracks path disk times stamp about → Tracks path disk' times' stamp about) :
    Sound services parse path disk' times' bytes' := by
  obtain ⟨stamp, unit, encoded, current⟩ := sound
  exact ⟨stamp, unit, same ▸ encoded, tracks _ _ current⟩

/-- What a load has found out so far fits the script, or the script has changed since. -/
def Fits (services : Services σ) (parse : Bytes → Except IoError Node) (path : Path) (disk : Disk)
    (times : List Int64) : Stage → Prop
  | .checking (.ok bytes) => Sound services parse path disk times bytes
  | .reading (some stamp) => stamp ∈ times ∨ disk.look path = .ok .directory
  | .compiling (some stamp) root => Tracks path disk times stamp (parse · = .ok root)
  | .storing (some stamp) installed =>
    installed.clean = true → Tracks path disk times stamp (CompilesTo services parse path installed.unit)
  | _ => True

/-- What is true at every moment. -/
structure Coherent (services : Services σ) (parse : Bytes → Except IoError Node) (path : Path)
    (moment : Moment σ) : Prop where
  known : ∀ content time, moment.loader.disk.Holds path content time → wholeMillis time ∈ moment.times
  artifact : ∀ bytes stored, moment.loader.disk.Holds (moment.loader.cache.artifactOf path) bytes stored →
    Sound services parse path moment.loader.disk moment.times bytes
  fits : Fits services parse path moment.loader.disk moment.times moment.stage

namespace Coherent

variable {moment : Moment σ} {loader : Loader σ} {stage : Stage}

/-- Where the disk stays as it is, only the stage is to be looked at. -/
theorem sameDisk (coherent : Coherent services parse path moment) (disk : loader.disk = moment.loader.disk)
    (config : loader.config = moment.loader.config)
    (fits : Fits services parse path moment.loader.disk moment.times stage) :
    Coherent services parse path { moment with loader, stage } where
  known := by
    rw [disk]
    exact coherent.known
  artifact := by
    rw [disk, cache, config]
    exact coherent.artifact
  fits := by
    rw [disk]
    exact fits

theorem edited (coherent : Coherent services parse path moment) {content : Bytes} {time : Int}
    (written : moment.loader.disk.write path content time = .ok disk) (new : wholeMillis time ∉ moment.times) :
    Coherent services parse path
      { moment with loader := { moment.loader with disk }, times := wholeMillis time :: moment.times } where
  known found modified holds := by
    rw [(Disk.eq_of_write written holds).2]
    exact .head _
  artifact bytes stored holds :=
    (coherent.artifact bytes stored (Cache.holds_of_write _ _ written holds)).of_tracks rfl
      fun _ _ tracks => tracks.edited written new
  fits := by
    have fits := coherent.fits
    dsimp only
    generalize moment.stage = stage at fits ⊢
    -- Only a stage that has seen the script or the artifact says anything about them.
    rcases stage with _ | _ | (_ | bytes) | _ | (_ | stamp) | ⟨_ | stamp, root⟩ | ⟨_ | stamp, installed⟩ | _ <;>
      try trivial
    · exact Sound.of_tracks fits rfl fun _ _ tracks => tracks.edited written new
    · refine fits.imp (.tail _) fun directory => ?_
      obtain ⟨location, -, replaced, updates⟩ := Disk.write_updates written
      exact (updates.changesOnly replaced).look_directory directory
    · exact Tracks.edited fits written new
    · exact fun clean => (fits clean).edited written new

/-- Without its artifact a script can have no stale one. -/
theorem dropped (coherent : Coherent services parse path moment) (config : loader.config = moment.loader.config)
    (dropped : loader.disk = Cache.dropFile (moment.loader.cache.artifactOf path) moment.loader.disk) :
    Coherent services parse path { moment with loader, stage := .stamping } where
  known content time := by
    rw [dropped, Cache.holds_dropFile_artifact]
    exact coherent.known content time
  artifact bytes stored holds := by
    obtain ⟨-, -, gone⟩ := Cache.dropFile_spec (moment.loader.cache.artifactOf path) moment.loader.disk
    have sameCache : loader.cache = moment.loader.cache := by rw [cache, cache, config]
    dsimp only at holds
    rw [dropped, sameCache] at holds
    exact absurd holds (gone bytes stored)
  fits := trivial

/-- An artifact that is stored for the script's time holds what the script compiles to. -/
theorem stored (coherent : Coherent services parse path moment) {unit : CompiledUnit}
    {result : Except LoadError ScriptInfo}
    (tracks : Tracks path moment.loader.disk moment.times stamp (CompilesTo services parse path unit))
    (stores : (moment.loader.cache.store path stamp unit moment.loader.disk).value.2 = disk) :
    Coherent services parse path
      { moment with loader := { moment.loader with disk }, stage := .ended result } := by
  obtain ⟨changes, encoded⟩ := moment.loader.cache.store_spec path stamp unit moment.loader.disk
  rw [stores] at changes encoded
  have kept (content : Bytes) (time : Int) (holds : moment.loader.disk.Holds path content time) :=
    changes.holds (moment.loader.cache.place_ne_script path holds) holds
  obtain ⟨-, content, time, holds, -⟩ := id tracks
  -- The script is still there, and what is there now can only be what was there before.
  refine ⟨fun found modified after => ?_, fun bytes stored after => ?_, trivial⟩
  · cases (kept content time holds).symm.trans after
    exact coherent.known content time holds
  · exact ⟨stamp, unit, encoded bytes stored after, tracks.kept kept⟩

/-- The stamp of a script that is there is one of its times. -/
theorem fits_reading (coherent : Coherent services parse path moment) :
    Fits services parse path moment.loader.disk moment.times
      (.reading (moment.loader.disk.modifiedMillis path).toOption) := by
  cases looked : moment.loader.disk.look path with
  | error error => simp [Disk.modifiedMillis, Disk.modified, looked, Fits, Except.toOption, bind, Except.bind]
  | ok spot =>
    cases spot with
    | free => simp [Disk.modifiedMillis, Disk.modified, looked, Fits, Except.toOption, bind, Except.bind]
    | directory =>
      cases (moment.loader.disk.modifiedMillis path).toOption with
      | none => trivial
      | some stamp => exact .inr looked
    | file content time =>
      rw [Disk.Holds.modifiedMillis looked]
      exact .inl (coherent.known content time looked)

/-- The content is read after the stamp was taken, so it is at least as new. -/
theorem fits_compiling (coherent : Coherent services parse path moment) {stamp : Option Int64} {root : Node}
    (taken : moment.stage = .reading stamp) (parsed : (moment.loader.disk.read path >>= parse) = .ok root) :
    Fits services parse path moment.loader.disk moment.times (.compiling stamp root) := by
  cases stamp with
  | none => trivial
  | some stamp =>
    obtain ⟨content, read, tree⟩ := bind_eq_ok.mp parsed
    obtain ⟨time, holds⟩ := Disk.exists_holds_of_read read
    have fits := coherent.fits
    rw [taken] at fits
    -- What had a stamp was the script or a directory, and a directory could not have been read.
    rcases fits with known | directory
    · exact ⟨known, content, time, holds, fun _ => tree⟩
    · cases directory.symm.trans holds

/-- Without errors the unit to be stored is the one that was compiled. -/
theorem fits_storing (steady : services.Steady) (coherent : Coherent services parse path moment)
    {stamp : Option Int64} {root : Node} (taken : moment.stage = .compiling stamp root) :
    Fits services parse path moment.loader.disk moment.times
      (.storing stamp (moment.loader.installTree services path root).value.1) := by
  cases stamp with
  | none => trivial
  | some stamp =>
    have fits := coherent.fits
    rw [taken] at fits
    obtain ⟨log, installed⟩ := installTree_value services path root moment.loader
    rw [installed]
    intro clean
    have all := Grammar.listsAll_of_length (of_decide_eq_true clean).2
    refine Tracks.imp fits fun content tree => ⟨root, tree, fun values state => ?_⟩
    dsimp only
    rw [all.listedUnit_eq]
    exact Compile.compileFile_unit_eq steady path root values _ state _

theorem proceeds (steady : services.Steady) (reader : services.reader = .ofParser parse)
    (coherent : Coherent services parse path moment)
    (next : (moment.loader.proceed services path moment.stage).value = (stage, loader)) :
    Coherent services parse path { moment with stage, loader } := by
  cases taken : moment.stage with
  | starting =>
    obtain ⟨registry, state, unloaded, -⟩ := unloadOld_spec services path moment.loader
    simp only [taken, proceed, Recorded.value_bind, Recorded.value_pure, unloaded] at next
    cases next
    refine coherent.sameDisk rfl rfl ?_
    split <;> trivial
  | opening =>
    simp only [taken, proceed, Recorded.value_pure] at next
    cases next
    refine coherent.sameDisk rfl rfl ?_
    cases read : moment.loader.disk.read (moment.loader.cache.artifactOf path) with
    | error error => trivial
    | ok bytes =>
      obtain ⟨stored, holds⟩ := Disk.exists_holds_of_read read
      exact coherent.artifact bytes stored holds
  | checking found =>
    have tried := loadFound_spec services path found moment.loader
    simp only [taken, proceed, Recorded.value_bind] at next
    generalize hookCalls _ = hooks at tried
    generalize (moment.loader.loadFound services path found).value = outcome at tried next
    cases tried with
    | hit present decoded resolved =>
      cases next
      exact coherent.sameDisk rfl rfl trivial
    | @miss result state disk none left =>
      have stamps : (stage, loader) = (.stamping, { moment.loader with state, disk }) := by
        rw [← next]
        rcases result with error | _ | info
        · rfl
        · rfl
        · exact absurd rfl (none info)
      cases stamps
      -- The bytes that were checked are of no more use; the artifact may be gone by now.
      rcases left with ⟨rfl, -⟩ | dropped
      · exact coherent.sameDisk rfl rfl trivial
      · exact coherent.dropped rfl dropped
  | stamping =>
    simp only [taken, proceed, Recorded.value_pure] at next
    cases next
    exact coherent.sameDisk rfl rfl coherent.fits_reading
  | reading stamp =>
    simp only [taken, proceed, Recorded.value_bind, Reader.readTree, reader, Reader.ofParser,
      Recorded.value_pure] at next
    cases parsed : moment.loader.disk.read path >>= parse with
    | error error =>
      rw [parsed] at next
      cases next
      exact coherent.sameDisk rfl rfl trivial
    | ok root =>
      rw [parsed] at next
      cases next
      exact coherent.sameDisk rfl rfl (coherent.fits_compiling taken parsed)
  | compiling stamp root =>
    have fits := fits_storing steady coherent taken
    obtain ⟨log, installed⟩ := installTree_value services path root moment.loader
    simp only [taken, proceed, Recorded.value_bind, Recorded.value_pure] at next
    cases next
    refine coherent.sameDisk ?_ ?_ fits <;> rw [installed]
  | storing stamp installed =>
    have fits := coherent.fits
    simp only [taken, proceed, Recorded.value_bind, Recorded.value_pure, finishLoad_value] at next fits
    cases stamp with
    | none =>
      cases next
      exact coherent.sameDisk rfl rfl trivial
    | some stamp =>
      dsimp only at next
      split at next
      · next stores =>
        generalize written : (moment.loader.cache.store path stamp installed.unit moment.loader.disk).value.2 = disk
          at next
        cases next
        exact coherent.stored (fits (Bool.and_eq_true_iff.mp stores).2) written
      · cases next
        exact coherent.sameDisk rfl rfl trivial
  | ended result =>
    simp only [taken, proceed, Recorded.value_pure] at next
    cases next
    exact coherent.sameDisk rfl rfl trivial

theorem next (steady : services.Steady) (reader : services.reader = .ofParser parse) {after : Moment σ}
    (coherent : Coherent services parse path moment) (next : Next services path moment after) :
    Coherent services parse path after := by
  cases next with
  | proceeds next => exact proceeds steady reader coherent next
  | starts => exact coherent.sameDisk rfl rfl trivial
  | edits written new => exact coherent.edited written new
  | passes registry log values state => exact coherent.sameDisk rfl rfl coherent.fits

theorem always (steady : services.Steady) (reader : services.reader = .ofParser parse) {after : Moment σ}
    (coherent : Coherent services parse path moment)
    (reached : Relation.ReflTransGen (Next services path) moment after) : Coherent services parse path after := by
  induction reached with
  | refl => exact coherent
  | tail earlier last inductionHypothesis => exact inductionHypothesis.next steady reader last

end Coherent

/-- A sound artifact with the time of the script as its stamp holds what the script compiles to. -/
theorem Sound.compilesTo {bytes : Bytes} {unit : CompiledUnit} (sound : Sound services parse path disk times bytes)
    (decoded : Artifact.decode bytes (disk.modifiedMillis path) = .ok unit) :
    ∃ content time, disk.Holds path content time ∧ CompilesTo services parse path unit content := by
  obtain ⟨stamp, made, encoded, -, content, time, holds, current⟩ := sound
  rw [holds.modifiedMillis, Artifact.decode_of_encode encoded] at decoded
  split at decoded
  · next same =>
    cases decoded
    exact ⟨content, time, holds, current same.symm⟩
  · cases decoded

/--
The script may be edited at any time, also between the stages that make up a load. Then at every moment an
artifact whose stamp is the time of the script holds what the script's content compiles to, and a load that
is served from what it found as the artifact installs what the content compiles to at that moment.
-/
theorem artifact_of_same_time_is_current (steady : services.Steady) (reader : services.reader = .ofParser parse)
    {loader : Loader σ} {moment : Moment σ}
    (known : ∀ content time, loader.disk.Holds path content time → wholeMillis time ∈ times)
    (none : ∀ bytes stored, ¬ loader.disk.Holds (loader.cache.artifactOf path) bytes stored)
    (reached : Relation.ReflTransGen (Next services path) { loader, times } moment) :
    proceedFor services path 7 (.starting, moment.loader) = ended <$> moment.loader.loadScript services path ∧
      (∀ bytes stored content time unit,
        moment.loader.disk.Holds (moment.loader.cache.artifactOf path) bytes stored →
        moment.loader.disk.Holds path content time →
        Artifact.decode bytes (.ok (wholeMillis time)) = .ok unit → CompilesTo services parse path unit content) ∧
      ∀ found info after, moment.stage = .checking found →
        (moment.loader.proceed services path (.checking found)).value = (.ended (.ok info), after) →
        ∃ content time unit infos, moment.loader.disk.Holds path content time ∧
          CompilesTo services parse path unit content ∧ info = .of unit ∧
          after.registry = moment.loader.registry.afterInstall path unit infos := by
  have first : Coherent services parse path { loader, times } :=
    ⟨known, fun bytes stored holds => absurd holds (none bytes stored), trivial⟩
  have coherent := first.always steady reader reached
  refine ⟨proceedFor_starting services path moment.loader, ?_, ?_⟩
  · intro bytes stored content time unit artifact script decoded
    rw [← script.modifiedMillis] at decoded
    obtain ⟨found, modified, holds, compiles⟩ := (coherent.artifact bytes stored artifact).compilesTo decoded
    cases script.symm.trans holds
    exact compiles
  · intro found info after taken next
    have fits := coherent.fits
    rw [taken] at fits
    have tried := loadFound_spec services path found moment.loader
    simp only [proceed, Recorded.value_bind] at next
    generalize hookCalls _ = hooks at tried
    generalize (moment.loader.loadFound services path found).value = outcome at tried next
    cases tried with
    | @hit bytes unit infos state present decoded resolved =>
      subst present
      cases next
      obtain ⟨content, time, holds, compiles⟩ := Sound.compilesTo fits decoded
      exact ⟨content, time, unit, infos, holds, compiles, rfl, rfl⟩
    | @miss result state disk none left =>
      rcases result with error | _ | info
      · cases next
      · cases next
      · exact absurd rfl (none info)

/-- The moment some stages later, with nothing in between. -/
def Moment.later (services : Services σ) (path : Path) (count : Nat) (moment : Moment σ) : Moment σ :=
  { moment with
    stage := (proceedFor services path count (moment.stage, moment.loader)).value.1
    loader := (proceedFor services path count (moment.stage, moment.loader)).value.2 }

theorem reaches_later (services : Services σ) (path : Path) (count : Nat) (moment : Moment σ) :
    Relation.ReflTransGen (Next services path) moment (moment.later services path count) := by
  induction count generalizing moment with
  | zero => exact .refl
  | succ count inductionHypothesis => exact .head (.proceeds moment rfl) (inductionHypothesis _)

end

section Rehearsed

open Rehearsal

/-- The scene has been read, and is about to be compiled. -/
def sceneRead : Moment Desk := { loader := sceneLoader, times := [1000] : Moment Desk }.later sceneServices scenePath 5

def sceneRewritten : Disk := (sceneRead.loader.disk.write scenePath [2] 2000000).toOption.getD {}

/-- The scene has been changed before it was compiled. -/
def sceneEdited : Moment Desk :=
  { sceneRead with loader := { sceneRead.loader with disk := sceneRewritten }, times := [2000, 1000] }

/-- The load has ended, and the scene has been loaded once more. -/
def sceneReloaded : Moment Desk :=
  { sceneEdited.later sceneServices scenePath 2 with stage := .starting }.later sceneServices scenePath 7

/-- A third load has read the artifact. -/
def sceneChecked : Moment Desk := { sceneReloaded with stage := .starting }.later sceneServices scenePath 2

theorem scene_edited : Next sceneServices scenePath sceneRead sceneEdited := by
  have written : sceneRead.loader.disk.write scenePath [2] 2000000 = .ok sceneRewritten := by
    have accepted : (sceneRead.loader.disk.write scenePath [2] 2000000).toOption.isSome = true := by
      decide +kernel
    unfold sceneRewritten
    cases outcome : sceneRead.loader.disk.write scenePath [2] 2000000 with
    | error error =>
      rw [outcome] at accepted
      cases accepted
    | ok disk => rfl
  exact .edits sceneRead written (by decide)

theorem scene_reached :
    Relation.ReflTransGen (Next sceneServices scenePath) { loader := sceneLoader, times := [1000] } sceneChecked :=
  .trans ((reaches_later _ _ 5 _).tail scene_edited) <|
    .trans ((reaches_later _ _ 2 sceneEdited).tail (.starts _)) <|
      .trans ((reaches_later _ _ 7 _).tail (.starts sceneReloaded)) (reaches_later _ _ 2 _)

theorem scene_known (content : Bytes) (time : Int) (holds : sceneLoader.disk.Holds scenePath content time) :
    wholeMillis time ∈ [(1000 : Int64)] := by
  cases scene_script.symm.trans holds
  decide

theorem scene_checked :
    sceneChecked.loader.disk.look scenePath = .ok (.file [2] 2000000) ∧
      (sceneChecked.loader.cache.load scenePath sceneChecked.loader.disk).value.1.toOption.join.isSome := by
  decide +kernel

/-- The artifact is found to be good, and the content that it was made from is the new one. -/
theorem scene_checked_after_edit :
    sceneChecked.loader.disk.Holds scenePath [2] 2000000 ∧
      (sceneChecked.loader.cache.load scenePath sceneChecked.loader.disk).value.1.toOption.join.isSome ∧
      proceedFor sceneServices scenePath 7 (.starting, sceneChecked.loader) =
        ended <$> sceneChecked.loader.loadScript sceneServices scenePath ∧
      (∀ bytes stored content time unit,
        sceneChecked.loader.disk.Holds (sceneChecked.loader.cache.artifactOf scenePath) bytes stored →
        sceneChecked.loader.disk.Holds scenePath content time →
        Artifact.decode bytes (.ok (wholeMillis time)) = .ok unit →
        CompilesTo sceneServices sceneParse scenePath unit content) ∧
      ∀ found info after, sceneChecked.stage = .checking found →
        (sceneChecked.loader.proceed sceneServices scenePath (.checking found)).value = (.ended (.ok info), after) →
        ∃ content time unit infos, sceneChecked.loader.disk.Holds scenePath content time ∧
          CompilesTo sceneServices sceneParse scenePath unit content ∧ info = .of unit ∧
          after.registry = sceneChecked.loader.registry.afterInstall scenePath unit infos :=
  ⟨scene_checked.1, scene_checked.2,
    artifact_of_same_time_is_current (plainServices_steady _) rfl scene_known scene_without_artifact scene_reached⟩

end Rehearsed

end Loader

end TriggerScript
