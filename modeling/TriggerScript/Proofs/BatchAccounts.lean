import TriggerScript.Proofs.FailedLoads
import TriggerScript.Proofs.UnreadScripts

/-!
# The accounts of a batch

A batch keeps three accounts: the log, the sum of what its loads return, and the registry's counts. They are kept in
different places, by loads that succeed, fail, are served by an artifact or lose some of their triggers. Here they are
held against the attempts that the batch is made of. An attempt only ever adds to the log, so the difference
that a summary gives counts what was added after the batch began; what a directory load has reported before that is
not in it.
-/

namespace TriggerScript

namespace Loader

variable {σ : Type} {services : Services σ} {path : Path} {loader : Loader σ}

/-! ## The log of one load -/

/-- What a load makes of the log, with the result that it returns: a load that fails reports nothing itself. -/
inductive Logs (before : List Diagnostic) : Except LoadError ScriptInfo → List Diagnostic → Prop
  | unread (error : LoadError) : Logs before (.error error) before
  | reported (info : ScriptInfo) (added : List Diagnostic) : Logs before (.ok info) (before ++ added)

theorem Logs.grows {before after : List Diagnostic} {result : Except LoadError ScriptInfo}
    (logs : Logs before result after) : before <+: after := by
  cases logs with
  | unread error => exact ⟨[], List.append_nil _⟩
  | reported info added => exact ⟨added, rfl⟩

theorem loadFresh_logs (services : Services σ) (path : Path) (loader : Loader σ) :
    Logs loader.log (loader.loadFresh services path).value.1 (loader.loadFresh services path).value.2.log := by
  simp only [loadFresh, Reader.readTree, Recorded.value_bind, Recorded.value_pure]
  rcases services.reader.read path loader.disk loader.state with ⟨error | root, disk, state⟩
  · exact .unread _
  · simp only [Recorded.value_bind, Recorded.value_pure, finishLoad_value, log_installTree]
    exact .reported _ _

theorem loadScript_logs (services : Services σ) (path : Path) (loader : Loader σ) :
    Logs loader.log (loader.loadScript services path).value.1 (loader.loadScript services path).value.2.log := by
  obtain ⟨registry, unloadedState, unloaded, -⟩ := unloadOld_spec services path loader
  rcases loadScript_served_or_fresh services path loader with
    ⟨unit, infos, state, served⟩ | ⟨state, disk, compiled⟩
  · rw [served, unloaded]
    have silent := @Logs.reported loader.log (.of unit) []
    rwa [List.append_nil] at silent
  · rw [compiled, unloaded]
    exact loadFresh_logs services path { loader with registry, state, disk }

/-! ## Attempts -/

/-- A load of a batch, with the loader that it starts from. -/
structure Attempt (σ : Type) where
  path : Path
  before : Loader σ

namespace Attempt

def load (services : Services σ) (attempt : Attempt σ) : Recorded (Except LoadError ScriptInfo × Loader σ) :=
  attempt.before.loadScript services attempt.path

/-- The end of the attempt, where a failure is logged. -/
def finish (services : Services σ) (attempt : Attempt σ) : Recorded (Loader σ) :=
  (attempt.load services).value.2.logFailure attempt.path (attempt.load services).value.1

/-- The counts that the load returns, if it succeeds. -/
def info? (services : Services σ) (attempt : Attempt σ) : Option ScriptInfo :=
  (attempt.load services).value.1.toOption

/-- What the attempt adds to the log, from the place where the log ended before. -/
def entries (services : Services σ) (attempt : Attempt σ) : List Diagnostic :=
  (attempt.finish services).value.log.drop attempt.before.log.length

section

variable {attempt : Attempt σ}

theorem entries_of_ok {info : ScriptInfo} (loaded : (attempt.load services).value.1 = .ok info) :
    (attempt.load services).value.2.log = attempt.before.log ++ attempt.entries services := by
  obtain ⟨added, grown⟩ := (loadScript_logs services attempt.path attempt.before).grows
  have finished : (attempt.finish services).value = (attempt.load services).value.2 := by
    rw [finish, loaded]
    rfl
  rw [entries, finished, load, ← grown, List.drop_left]

/-- By the time a load fails it has reported nothing, so the failure is all that is logged. -/
theorem entries_of_error {error : LoadError} (failed : (attempt.load services).value.1 = .error error) :
    (attempt.load services).value.2.log = attempt.before.log ∧
      attempt.entries services = [⟨.error, error.message, some attempt.path, 0⟩] := by
  have logs : Logs attempt.before.log (attempt.load services).value.1 (attempt.load services).value.2.log :=
    loadScript_logs services attempt.path attempt.before
  have silent : (attempt.load services).value.2.log = attempt.before.log := by
    rw [failed] at logs
    generalize (attempt.load services).value.2.log = after at logs ⊢
    cases logs
    rfl
  have finished : (attempt.finish services).value.log =
      attempt.before.log ++ [⟨.error, error.message, some attempt.path, 0⟩] := by
    rw [finish, failed, ← silent]
    rfl
  exact ⟨silent, by rw [entries, finished, List.drop_left]⟩

theorem log_finish (services : Services σ) (attempt : Attempt σ) :
    (attempt.finish services).value.log = attempt.before.log ++ attempt.entries services := by
  cases result : (attempt.load services).value.1 with
  | ok info =>
    rw [← entries_of_ok result, finish, result]
    rfl
  | error error =>
    obtain ⟨silent, added⟩ := entries_of_error result
    rw [added, finish, result, ← silent]
    rfl

end

end Attempt

/-- The attempts of a batch: each starts from where the one before has left the loader. -/
def attempts (services : Services σ) : List Path → Loader σ → List (Attempt σ)
  | [], _ => []
  | path :: rest, loader =>
    ⟨path, loader⟩ :: attempts services rest (Attempt.finish services ⟨path, loader⟩).value

theorem path_attempts (services : Services σ) (paths : List Path) (loader : Loader σ) :
    (loader.attempts services paths).map Attempt.path = paths := by
  induction paths generalizing loader with
  | nil => rfl
  | cons path rest inductionHypothesis => rw [attempts, List.map_cons, inductionHypothesis]

/-! ## The accounts of the attempts -/

theorem loadEach_activity (services : Services σ) (paths : List Path) (loader : Loader σ) :
    (loader.loadEach services paths).activity = (loader.attempts services paths).flatMap fun attempt =>
      (attempt.load services).activity ++ (attempt.finish services).activity := by
  induction paths generalizing loader with
  | nil => rfl
  | cons path rest inductionHypothesis =>
    rw [attempts, List.flatMap_cons, ← inductionHypothesis]
    simp only [loadEach, Recorded.activity_bind, Recorded.activity_pure, List.append_nil, List.append_assoc]
    rfl

theorem loadEach_log (services : Services σ) (paths : List Path) (loader : Loader σ) :
    (loader.loadEach services paths).value.2.log =
      loader.log ++ (loader.attempts services paths).flatMap (Attempt.entries services) := by
  induction paths generalizing loader with
  | nil => exact (List.append_nil _).symm
  | cons path rest inductionHypothesis =>
    rw [attempts, List.flatMap_cons, ← List.append_assoc, ← Attempt.log_finish services ⟨path, loader⟩,
      ← inductionHypothesis]
    rfl

theorem loadEach_loaded (services : Services σ) (paths : List Path) (loader : Loader σ) :
    (loader.loadEach services paths).value.1 =
      ((loader.attempts services paths).filterMap (Attempt.info? services)).sum := by
  induction paths generalizing loader with
  | nil => rfl
  | cons path rest inductionHypothesis =>
    let attempt : Attempt σ := ⟨path, loader⟩
    have added : (loader.loadEach services (path :: rest)).value.1 =
        loadedInfo (attempt.load services).value.1 +
          ((attempt.finish services).value.loadEach services rest).value.1 := rfl
    rw [added, inductionHypothesis, attempts]
    cases result : (attempt.load services).value.1 with
    | ok info =>
      have counted : attempt.info? services = some info := congrArg Except.toOption result
      rw [List.filterMap_cons_some counted, List.sum_cons]
      rfl
    | error error =>
      have uncounted : attempt.info? services = none := congrArg Except.toOption result
      rw [List.filterMap_cons_none uncounted]
      exact zero_add _

/-! ## The registry's counts -/

section

variable {before after : Registry} {result : Except LoadError ScriptInfo}

theorem Arrives.loaded_eq (arrives : Arrives path before result after) :
    after.loaded = before.loaded + loadedInfo result := by
  cases arrives with
  | failed error => exact (add_zero _).symm
  | installed unit infos => rfl

theorem Arrives.isLoaded_eq (arrives : Arrives path before result after) {other : Path}
    (different : other.components ≠ path.components) : after.isLoaded other = before.isLoaded other := by
  cases arrives with
  | failed error => rfl
  | installed unit infos =>
    unfold Registry.isLoaded Table.contains
    rw [Registry.afterInstall, Table.find?_insert, if_neg different]

end

/-- A script that is not loaded is brought into the registry as it is. -/
theorem loadScript_arrives_of_absent (services : Services σ) (absent : loader.registry.isLoaded path = false) :
    Arrives path loader.registry (loader.loadScript services path).value.1
      (loader.loadScript services path).value.2.registry := by
  have arrives := loadScript_arrives services path loader
  obtain ⟨registry, state, unloaded, rfl⟩ := unloadOld_spec services path loader
  rw [unloaded, absent] at arrives
  exact arrives

/-- The counts grow by what the loads return, as long as none of them replaces an old copy. -/
theorem loadEach_counts (services : Services σ) {paths : List Path} (distinct : (paths.map Path.components).Nodup)
    (absent : ∀ path ∈ paths, loader.registry.isLoaded path = false) :
    (loader.loadEach services paths).value.2.registry.loaded =
      loader.registry.loaded + (loader.loadEach services paths).value.1 := by
  induction paths generalizing loader with
  | nil => exact (add_zero _).symm
  | cons path rest inductionHypothesis =>
    obtain ⟨first, others⟩ := List.nodup_cons.mp distinct
    have arrives := loadScript_arrives_of_absent services (absent path List.mem_cons_self)
    simp only [loadEach, Recorded.value_bind, Recorded.value_pure]
    generalize (loader.loadScript services path).value = outcome at arrives ⊢
    obtain ⟨log, logged⟩ := logFailure_value outcome.2 path outcome.1
    rw [logged]
    -- The later paths differ from this one, so they are still not loaded.
    have stillAbsent : ∀ other ∈ rest, outcome.2.registry.isLoaded other = false := by
      intro other member
      have different : other.components ≠ path.components :=
        fun same => first (same ▸ List.mem_map_of_mem member)
      rw [arrives.isLoaded_eq different]
      exact absent other (List.mem_cons_of_mem _ member)
    have counted := @inductionHypothesis { outcome.2 with log } others stillAbsent
    rw [counted, arrives.loaded_eq, add_assoc]

/-! ## Batches -/

theorem finishBatch_summary (services : Services σ) (loaded : ScriptInfo) (errorsBefore : Nat) (loader : Loader σ) :
    (loader.finishBatch services loaded errorsBefore).value.1 = ⟨loaded, errorCount loader.log - errorsBefore⟩ := by
  unfold finishBatch
  dsimp only [Recorded.value_bind]
  split <;> split <;> rfl

theorem loadFiles_after (services : Services σ) (paths : List Path) (loader : Loader σ) :
    (loader.loadFiles services paths).value.2 =
      ((loader.loadEach services paths).value.2.subscribe services).value := by
  rw [loadFiles, Recorded.value_bind, finishBatch_value]

theorem loadFiles_log (services : Services σ) (paths : List Path) (loader : Loader σ) :
    (loader.loadFiles services paths).value.2.log =
      loader.log ++ (loader.attempts services paths).flatMap (Attempt.entries services) := by
  rw [← loadEach_log, loadFiles_after]
  rfl

/-- The log only grows, so the difference is the number of errors among what was added. -/
theorem loadFiles_summary (services : Services σ) (paths : List Path) (loader : Loader σ) :
    (loader.loadFiles services paths).value.1 =
      ⟨(loader.loadEach services paths).value.1,
        errorCount ((loader.attempts services paths).flatMap (Attempt.entries services))⟩ := by
  rw [loadFiles, Recorded.value_bind, finishBatch_summary, loadEach_log, errorCount_append, Nat.add_sub_cancel_left]

theorem loadFiles_activity (services : Services σ) (paths : List Path) (loader : Loader σ) :
    ∃ ending, (loader.loadFiles services paths).activity =
      ((loader.attempts services paths).flatMap fun attempt =>
        (attempt.load services).activity ++ (attempt.finish services).activity) ++ ending := by
  rw [← loadEach_activity]
  exact ⟨_, rfl⟩

/--
A batch attempts every path, in order: its activity is that of the attempts, and of its end. The log only
grows, by what the attempts add to it, and the summary counts the errors among that. It sums up what the loads that
succeed return. A load that fails has reported nothing itself, and its attempt adds one error about the file as
a whole; an attempt that succeeds adds what its load has reported. If the paths are different and none of them is
loaded, the registry's counts grow by the sum.
-/
theorem batch_exact (services : Services σ) (paths : List Path) (loader : Loader σ) :
    let attempts := loader.attempts services paths
    let batch := loader.loadFiles services paths
    let added := attempts.flatMap (Attempt.entries services)
    attempts.map Attempt.path = paths ∧
      (∃ ending, batch.activity =
        (attempts.flatMap fun attempt => (attempt.load services).activity ++ (attempt.finish services).activity) ++
          ending) ∧
      batch.value.2.log = loader.log ++ added ∧
      batch.value.1.errors = errorCount added ∧
      batch.value.1.loaded = (attempts.filterMap (Attempt.info? services)).sum ∧
      (∀ attempt ∈ attempts,
        let outcome := (attempt.load services).value
        (∀ info, outcome.1 = .ok info → outcome.2.log = attempt.before.log ++ attempt.entries services) ∧
        ∀ error, outcome.1 = .error error → outcome.2.log = attempt.before.log ∧
          attempt.entries services = [⟨.error, error.message, some attempt.path, 0⟩]) ∧
      ((paths.map Path.components).Nodup → (∀ path ∈ paths, loader.registry.isLoaded path = false) →
        batch.value.2.registry.loaded = loader.registry.loaded + batch.value.1.loaded) := by
  intro attempts batch added
  have summary : batch.value.1 = _ := loadFiles_summary services paths loader
  refine ⟨path_attempts services paths loader, loadFiles_activity services paths loader,
    loadFiles_log services paths loader, ?_, ?_, ?_, ?_⟩
  · rw [summary]
  · rw [summary]
    exact loadEach_loaded services paths loader
  · intro attempt _
    exact ⟨fun _ loaded => Attempt.entries_of_ok loaded, fun _ failed => Attempt.entries_of_error failed⟩
  · intro distinct absent
    have after : batch.value.2 = _ := loadFiles_after services paths loader
    rw [after, summary]
    exact loadEach_counts services distinct absent

section Rehearsed

open Rehearsal

/-- One script that is faultless, and one with errors of all kinds. -/
def mixedServices : Services Desk :=
  plainServices fun content => .ok (if content = sceneContent then scene else faultyScene)

def mixedLoader : Loader Desk where
  config := {}
  disk := { entries := [.directory "" [.file "a.sk" sceneContent 1000000, .file "c.sk" [] 1000000]] }
  state := {}

/-- Between the two scripts there is one that does not exist. -/
def mixedPaths : List Path := [scenePath, ⟨"b.sk"⟩, ⟨"c.sk"⟩]

theorem mixed_batch_exact :
    let attempts := mixedLoader.attempts mixedServices mixedPaths
    let batch := (mixedLoader.loadFiles mixedServices mixedPaths).value
    batch.1 = ⟨⟨2, 3, 1⟩, 4⟩ ∧
      batch.2.log.head? =
        some ⟨.error, "could not read 'b.sk': No such file or directory (os error 2)", some ⟨"b.sk"⟩, 0⟩ ∧
      attempts.map Attempt.path = mixedPaths ∧
      (attempts.filterMap (Attempt.info? mixedServices)).sum = ⟨2, 3, 1⟩ ∧
      errorCount (attempts.flatMap (Attempt.entries mixedServices)) = 4 ∧
      batch.2.registry.loaded = mixedLoader.registry.loaded + batch.1.loaded := by
  have ready : (mixedLoader.loadFiles mixedServices mixedPaths).value.1 = ⟨⟨2, 3, 1⟩, 4⟩ ∧
      (mixedLoader.loadFiles mixedServices mixedPaths).value.2.log.head? =
        some ⟨.error, "could not read 'b.sk': No such file or directory (os error 2)", some ⟨"b.sk"⟩, 0⟩ := by
    decide +kernel
  have distinct : (mixedPaths.map Path.components).Nodup ∧
      ∀ path ∈ mixedPaths, mixedLoader.registry.isLoaded path = false := by
    decide +kernel
  obtain ⟨paths, -, -, errors, loaded, -, counts⟩ := batch_exact mixedServices mixedPaths mixedLoader
  rw [ready.1] at errors loaded
  exact ⟨ready.1, ready.2, paths, loaded.symm, errors.symm, counts distinct.1 distinct.2⟩

end Rehearsed

/-! ## Directories -/

/-- What is logged about a directory that cannot be listed. -/
def Finding.complaint? : Finding → Option Diagnostic
  | .script _ => none
  | .unlisted directory error => some (.ofFile directory ("could not list directory: " ++ error.message))

/-- What is logged if the directory of scripts cannot be made. -/
def makingComplaints (loader : Loader σ) : List Diagnostic :=
  match (loader.disk.makeDirectories loader.config.scriptsDir).1 with
  | .ok _ => []
  | .error error => [.ofFile loader.config.scriptsDir ("could not create scripts directory: " ++ error.message)]

/-- What is logged about directories before the scripts in them are loaded. -/
def directoryComplaints (loader : Loader σ) : List Diagnostic :=
  loader.makingComplaints ++ (scan loader.config loader.prepared.disk).filterMap Finding.complaint?

theorem makingComplaints_eq_nil_iff {loader : Loader σ} :
    loader.makingComplaints = [] ↔ (loader.disk.makeDirectories loader.config.scriptsDir).1 = .ok () := by
  unfold makingComplaints
  cases (loader.disk.makeDirectories loader.config.scriptsDir).1 <;> simp

theorem complaints_eq_nil_iff {found : List Finding} :
    found.filterMap Finding.complaint? = [] ↔ ∀ directory error, .unlisted directory error ∉ found := by
  rw [List.filterMap_eq_nil_iff]
  constructor
  · exact fun silent directory error member => nomatch silent _ member
  · rintro listed (_ | ⟨directory, error⟩) member
    · rfl
    · exact absurd member (listed directory error)

/-- All complaints are errors. -/
theorem errorCount_directoryComplaints (loader : Loader σ) :
    errorCount loader.directoryComplaints = loader.directoryComplaints.length := by
  refine List.countP_eq_length.mpr fun diagnostic member => ?_
  rcases List.mem_append.mp member with making | listing
  · unfold makingComplaints at making
    split at making
    · nomatch making
    · exact List.mem_singleton.mp making ▸ rfl
  · obtain ⟨_ | _, _, same⟩ := List.mem_filterMap.mp listing <;> cases same
    rfl

theorem logUnlisted_value (found : List Finding) (loader : Loader σ) :
    (logUnlisted found loader).value = { loader with log := loader.log ++ found.filterMap Finding.complaint? } := by
  induction found generalizing loader with
  | nil => exact congrArg (fun log => { loader with log }) (List.append_nil _).symm
  | cons finding rest inductionHypothesis =>
    cases finding with
    | script path => exact inductionHypothesis loader
    | unlisted directory error =>
      have further := inductionHypothesis
        (loader.logError directory ("could not list directory: " ++ error.message)).value
      exact further.trans (congrArg (fun log => { loader with log }) (List.append_assoc ..))

/-- What a directory load does before its batch begins. -/
theorem loadDirectory_value (services : Services σ) (loader : Loader σ) :
    (loader.loadDirectory services).value =
      (({ loader.prepared with log := loader.log ++ loader.directoryComplaints } : Loader σ).loadFiles services
        loader.prepared.scriptFiles.value.1).value := by
  have scanned (log : List Diagnostic) : ({ loader.prepared with log } : Loader σ).scriptFiles.value =
      (loader.prepared.scriptFiles.value.1,
        { loader.prepared with
          log := log ++ (scan loader.config loader.prepared.disk).filterMap Finding.complaint? }) :=
    congrArg (Prod.mk _) (logUnlisted_value _ _)
  have made : ∃ activity, loader.loadDirectory services =
      ((⟨{ loader.prepared with log := loader.log ++ loader.makingComplaints }, activity⟩ : Recorded (Loader σ)) >>=
        fun made => made.scriptFiles >>= fun found => found.2.loadFiles services found.1) := by
    unfold loadDirectory makingComplaints prepared
    dsimp only
    rcases loader.disk.makeDirectories loader.config.scriptsDir with ⟨error | _, disk⟩
    · exact ⟨_, rfl⟩
    · rw [List.append_nil]
      exact ⟨[], rfl⟩
  obtain ⟨activity, course⟩ := made
  rw [course, Recorded.value_bind, Recorded.value_bind, scanned, directoryComplaints, List.append_assoc]

/--
A directory load logs what is wrong with directories before its batch begins, so the summary counts the errors among
what is added after that. It counts all errors that the load has logged exactly if the directory of scripts could
be made and the scan came upon no directory, however far down, that could not be listed; otherwise it falls short by
one for each of these.
-/
theorem directory_summary_without_complaints (services : Services σ) (loader : Loader σ) :
    let made := loader.disk.makeDirectories loader.config.scriptsDir
    let outcome := (loader.loadDirectory services).value
    let missed := loader.directoryComplaints
    (∃ added, outcome.2.log = loader.log ++ (missed ++ added) ∧ outcome.1.errors = errorCount added) ∧
      errorCount outcome.2.log = errorCount loader.log + missed.length + outcome.1.errors ∧
      (errorCount outcome.2.log = errorCount loader.log + outcome.1.errors ↔
        made.1 = .ok () ∧ ∀ directory error, .unlisted directory error ∉ scan loader.config made.2) := by
  intro made outcome missed
  -- The complaints are in the log when the batch begins, so the batch counts from behind them.
  let start : Loader σ := { loader.prepared with log := loader.log ++ missed }
  let paths := loader.prepared.scriptFiles.value.1
  have value : outcome = (start.loadFiles services paths).value := loadDirectory_value services loader
  have log : outcome.2.log = loader.log ++
      (missed ++ (start.attempts services paths).flatMap (Attempt.entries services)) := by
    rw [← List.append_assoc, value]
    exact loadFiles_log services paths start
  have errors : outcome.1.errors =
      errorCount ((start.attempts services paths).flatMap (Attempt.entries services)) := by
    rw [value, loadFiles_summary]
  have total : errorCount outcome.2.log = errorCount loader.log + missed.length + outcome.1.errors := by
    rw [log, errorCount_append, errorCount_append, errorCount_directoryComplaints, errors, Nat.add_assoc]
  have exactly : missed = [] ↔
      made.1 = .ok () ∧ ∀ directory error, .unlisted directory error ∉ scan loader.config made.2 :=
    List.append_eq_nil_iff.trans (and_congr makingComplaints_eq_nil_iff complaints_eq_nil_iff)
  refine ⟨⟨_, log, errors⟩, total, ?_⟩
  rw [← exactly, ← List.length_eq_zero_iff]
  omega

section Rehearsed

open Rehearsal

/-- A file stands where the directory of scripts should be. -/
def blockedLoader : Loader Desk where
  config := {}
  disk := { entries := [.directory "" [.file "scripts" [] 1000000]] }
  state := {}

/-- Two errors are logged, none is counted, and the batch is said to be without errors. -/
theorem blocked_directory_uncounted :
    let outcome := blockedLoader.loadDirectory sceneServices
    outcome.value.2.log =
        [⟨.error, "could not create scripts directory: File exists (os error 17)", some ⟨"scripts"⟩, 0⟩,
          ⟨.error, "could not list directory: Not a directory (os error 20)", some ⟨"scripts"⟩, 0⟩] ∧
      errorCount outcome.value.2.log - errorCount blockedLoader.log = 2 ∧ outcome.value.1.errors = 0 ∧
      outcome.activity.any (fun activity => activity matches .noted .noErrors) = true := by
  decide +kernel

/-- A directory further down cannot be listed; that is not counted either. -/
def sealedLoader : Loader Desk where
  config := {}
  disk := {
    entries := [.directory "" [.directory "scripts" [.directory "deeper" [.file "a.sk" sceneContent 1000000]]]]
    sealed := fun location => if location = ["", "scripts", "deeper"] then some .permissionDenied else none }
  state := {}

example :
    let outcome := (sealedLoader.loadDirectory sceneServices).value
    outcome.2.log.map Diagnostic.message = ["could not list directory: Permission denied (os error 13)"] ∧
      outcome.1.errors = 0 := by
  decide +kernel

end Rehearsed

end Loader

end TriggerScript
