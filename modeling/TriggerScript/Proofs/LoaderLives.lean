import TriggerScript.Loader

/-!
# The life of a loader

All that ever becomes of a loader comes about in steps of six kinds. It loads or unloads a script, asks the host for
event types, reports something, or makes a directory; and meanwhile others may change the disk, the variables and
their own state in any way. A `Life` is a run of such steps, with all that was done. Batches, reloads and whole
directories are runs of these steps too, so what every step keeps is kept by every request.
-/

namespace TriggerScript

/-- Something is written to the log, and nobody is consulted. -/
def Activity.isNotice (activity : Activity) : Bool := activity.notice?.isSome

namespace Loader

variable {σ : Type} {services : Services σ}

/-! ## Steps -/

/-- Something in the life of a loader; a load and an unload with what they returned. -/
inductive Deed where
  | load (path : Path) (result : Except LoadError ScriptInfo)
  | unload (path : Path) (removed : ScriptInfo)
  | subscribe
  | report
  | makeDirectory
  /-- Others have changed something. -/
  | edit

namespace Deed

/-- The script that is loaded or unloaded. -/
def path? : Deed → Option Path
  | .load path _ | .unload path _ => some path
  | _ => none

/-- Nothing is loaded but the given scripts, and others keep out of it. -/
def StaysWithin (paths : List Path) : Deed → Prop
  | .load path _ => path ∈ paths
  | .edit => False
  | _ => True

end Deed

/-- What a loader becomes by a deed, and the activity meanwhile. -/
inductive Step (services : Services σ) (loader : Loader σ) : Deed → List Activity → Loader σ → Prop where
  | load (path : Path) :
      Step services loader (.load path (loader.loadScript services path).value.1)
        (loader.loadScript services path).activity (loader.loadScript services path).value.2
  | unload (path : Path) :
      Step services loader (.unload path (loader.unload services path).value.1)
        (loader.unload services path).activity (loader.unload services path).value.2
  | subscribe :
      Step services loader .subscribe (loader.subscribe services).activity (loader.subscribe services).value
  | report (log : List Diagnostic) {activity : List Activity} (noted : activity.all Activity.isNotice = true) :
      Step services loader .report activity { loader with log }
  | makeDirectory (path : Path) :
      Step services loader .makeDirectory [] { loader with disk := (loader.disk.makeDirectories path).2 }
  | edit (disk : Disk) (values : Variables) (state : σ) :
      Step services loader .edit [] { loader with disk, values, state }

/-- A loader after some steps, with the deeds and the activity so far. No deed occurs that is not allowed. -/
inductive Life (services : Services σ) (allowed : Loader σ → Deed → Prop) (start : Loader σ) :
    List Deed → List Activity → Loader σ → Prop where
  | born : Life services allowed start [] [] start
  | step {deeds : List Deed} {journal : List Activity} {loader after : Loader σ} {deed : Deed}
      {activity : List Activity} (life : Life services allowed start deeds journal loader)
      (step : Step services loader deed activity after) (permitted : allowed loader deed) :
      Life services allowed start (deeds ++ [deed]) (journal ++ activity) after

/-- All deeds are allowed. -/
abbrev Unrestricted (_ : Loader σ) (_ : Deed) : Prop := True

/-- Others keep out of it. -/
abbrev Undisturbed (_ : Loader σ) (deed : Deed) : Prop := deed ≠ .edit

/-- Only the given scripts are loaded, and others keep out of it. -/
abbrev Within (paths : List Path) (_ : Loader σ) (deed : Deed) : Prop := deed.StaysWithin paths

namespace Life

variable {allowed : Loader σ → Deed → Prop} {start between final loader : Loader σ} {deeds further : List Deed}
  {journal more : List Activity}

theorem trans (first : Life services allowed start deeds journal between)
    (second : Life services allowed between further more final) :
    Life services allowed start (deeds ++ further) (journal ++ more) final := by
  induction second with
  | born => simpa using first
  | step _ step permitted earlier => simpa using earlier.step step permitted

theorem mono {wider : Loader σ → Deed → Prop} (life : Life services allowed start deeds journal loader)
    (within : ∀ loader deed, allowed loader deed → wider loader deed) :
    Life services wider start deeds journal loader := by
  induction life with
  | born => exact .born
  | step _ step permitted earlier => exact earlier.step step (within _ _ permitted)

theorem unrestricted (life : Life services allowed start deeds journal loader) :
    Life services Unrestricted start deeds journal loader := life.mono fun _ _ _ => trivial

theorem within {paths : List Path} (life : Life services Undisturbed start deeds journal loader)
    (known : ∀ path ∈ deeds.filterMap Deed.path?, path ∈ paths) :
    Life services (Within paths) start deeds journal loader := by
  induction life with
  | born => exact .born
  | @step deeds _ _ _ deed _ _ step undisturbed earlier =>
    rw [List.filterMap_append] at known
    have before := earlier fun path member => known path (List.mem_append_left _ member)
    refine before.step step ?_
    -- Only a load names a script that has to be known, and an edit was ruled out before.
    cases deed with
    | load path result => exact known path (List.mem_append_right _ List.mem_cons_self)
    | edit => exact undisturbed rfl
    | unload | subscribe | report | makeDirectory => trivial

end Life

/-! ## Requests -/

/-- A loader becomes another one in steps, and the given scripts are loaded and unloaded in their order. -/
def Lives (services : Services σ) (paths : List Path) (before : Loader σ) (activity : List Activity)
    (after : Loader σ) : Prop :=
  ∃ deeds, Life services Undisturbed before deeds activity after ∧ deeds.filterMap Deed.path? = paths

namespace Lives

variable {paths further : List Path} {before between after : Loader σ} {first second : List Activity}

theorem refl (loader : Loader σ) : Lives services [] loader [] loader := ⟨[], .born, rfl⟩

theorem trans (earlier : Lives services paths before first between)
    (later : Lives services further between second after) :
    Lives services (paths ++ further) before (first ++ second) after := by
  obtain ⟨deeds, life, rfl⟩ := earlier
  obtain ⟨moreDeeds, continued, rfl⟩ := later
  exact ⟨deeds ++ moreDeeds, life.trans continued, List.filterMap_append⟩

/-- Something goes before that neither loads nor unloads. -/
theorem after_idle (earlier : Lives services [] before first between)
    (later : Lives services paths between second after) : Lives services paths before (first ++ second) after :=
  earlier.trans later

/-- Something comes after that neither loads nor unloads. -/
theorem then_idle (earlier : Lives services paths before first between)
    (later : Lives services [] between second after) : Lives services paths before (first ++ second) after := by
  simpa using earlier.trans later

theorem of_step {deed : Deed} (step : Step services before deed first after) (undisturbed : deed ≠ .edit) :
    Lives services deed.path?.toList before first after := by
  refine ⟨[deed], .step .born step undisturbed, ?_⟩
  cases deed <;> rfl

end Lives

theorem report_lives (loader : Loader σ) (log : List Diagnostic) {activity : List Activity}
    (noted : activity.all Activity.isNotice = true) : Lives services [] loader activity { loader with log } :=
  .of_step (.report log noted) nofun

theorem loadScript_lives (services : Services σ) (path : Path) (loader : Loader σ) :
    Lives services [path] loader (loader.loadScript services path).activity
      (loader.loadScript services path).value.2 := .of_step (.load path) nofun

theorem subscribe_lives (services : Services σ) (loader : Loader σ) :
    Lives services [] loader (loader.subscribe services).activity (loader.subscribe services).value :=
  .of_step .subscribe nofun

theorem logFailure_lives (path : Path) (result : Except LoadError ScriptInfo) (loader : Loader σ) :
    Lives services [] loader (loader.logFailure path result).activity (loader.logFailure path result).value := by
  cases result <;> exact report_lives loader _ rfl

theorem loadEach_lives (services : Services σ) (paths : List Path) (loader : Loader σ) :
    Lives services paths loader (loader.loadEach services paths).activity
      (loader.loadEach services paths).value.2 := by
  induction paths generalizing loader with
  | nil => exact .refl loader
  | cons path rest inductionHypothesis =>
    -- A failure is logged between one script and the next.
    have logged := @logFailure_lives _ services path (loader.loadScript services path).value.1
      (loader.loadScript services path).value.2
    exact (loadScript_lives services path loader).trans
      (logged.after_idle ((inductionHypothesis _).then_idle (.refl _)))

theorem finishBatch_lives (services : Services σ) (loaded : ScriptInfo) (errorsBefore : Nat) (loader : Loader σ) :
    Lives services [] loader (loader.finishBatch services loaded errorsBefore).activity
      (loader.finishBatch services loaded errorsBefore).value.2 := by
  unfold finishBatch
  rw [Recorded.value_bind, Recorded.activity_bind]
  refine (subscribe_lives services loader).trans ?_
  dsimp only
  split <;> split <;> exact report_lives _ _ rfl

theorem loadFiles_lives (services : Services σ) (paths : List Path) (loader : Loader σ) :
    Lives services paths loader (loader.loadFiles services paths).activity
      (loader.loadFiles services paths).value.2 :=
  (loadEach_lives services paths loader).then_idle (finishBatch_lives services _ _ _)

theorem reload_lives (services : Services σ) (path : Path) (loader : Loader σ) :
    Lives services [path] loader (loader.reload services path).activity (loader.reload services path).value.2 := by
  have loaded := loadScript_lives services path loader
  unfold reload
  rw [Recorded.value_bind, Recorded.activity_bind]
  generalize loader.loadScript services path = outcome at loaded ⊢
  obtain ⟨⟨error | info, after⟩, activity⟩ := outcome
  · exact loaded.then_idle (.refl after)
  · exact loaded.then_idle ((subscribe_lives services after).trans (.refl _))

theorem loadTasks_lives (services : Services σ) (paths : List Path) (loader : Loader σ) :
    Lives services paths loader (loader.loadTasks services paths).activity
      (loader.loadTasks services paths).value.2 := by
  induction paths generalizing loader with
  | nil => exact .refl loader
  | cons path rest inductionHypothesis =>
    exact (loadScript_lives services path loader).trans ((inductionHypothesis _).then_idle (.refl _))

theorem logFailures_lives (results : List (Path × Except LoadError ScriptInfo)) (loader : Loader σ) :
    Lives services [] loader (loader.logFailures results).activity (loader.logFailures results).value := by
  induction results generalizing loader with
  | nil => exact .refl loader
  | cons result rest inductionHypothesis =>
    exact (logFailure_lives result.1 result.2 loader).trans (inductionHypothesis _)

theorem loadConcurrently_lives (services : Services σ) (paths : List Path) (loader : Loader σ) :
    Lives services (distinct paths) loader (loader.loadConcurrently services paths).activity
      (loader.loadConcurrently services paths).value.2 :=
  (loadTasks_lives services _ loader).then_idle
    ((logFailures_lives _ _).trans (finishBatch_lives services _ _ _))

theorem logUnlisted_lives (found : List Finding) (loader : Loader σ) :
    Lives services [] loader (logUnlisted found loader).activity (logUnlisted found loader).value := by
  induction found generalizing loader with
  | nil => exact .refl loader
  | cons finding rest inductionHypothesis =>
    cases finding with
    | script path => exact inductionHypothesis loader
    | unlisted directory error => exact (report_lives loader _ rfl).trans (inductionHypothesis _)

theorem scriptFiles_lives (loader : Loader σ) :
    Lives services [] loader loader.scriptFiles.activity loader.scriptFiles.value.2 :=
  (logUnlisted_lives _ loader).trans (.refl _)

/-- The loader once its directory was made, or could not be. -/
def prepared (loader : Loader σ) : Loader σ :=
  { loader with disk := (loader.disk.makeDirectories loader.config.scriptsDir).2 }

/-- What a directory load does before its batch begins. -/
theorem loadDirectory_eq (services : Services σ) (loader : Loader σ) :
    ∃ log activity, activity.all Activity.isNotice = true ∧
      loader.loadDirectory services =
        ((⟨{ loader.prepared with log }, activity⟩ : Recorded (Loader σ)) >>= fun made =>
          made.scriptFiles >>= fun found => found.2.loadFiles services found.1) := by
  unfold loadDirectory prepared
  dsimp only
  rcases loader.disk.makeDirectories loader.config.scriptsDir with ⟨error | _, disk⟩
  · exact ⟨_, _, rfl, rfl⟩
  · exact ⟨loader.log, [], rfl, rfl⟩

theorem loadDirectory_lives (services : Services σ) (loader : Loader σ) :
    Lives services loader.prepared.scriptFiles.value.1 loader (loader.loadDirectory services).activity
      (loader.loadDirectory services).value.2 := by
  obtain ⟨log, activity, noted, course⟩ := loadDirectory_eq services loader
  have made : Lives services [] loader [] loader.prepared :=
    .of_step (.makeDirectory loader.config.scriptsDir) nofun
  rw [course]
  exact made.after_idle ((report_lives loader.prepared log noted).after_idle
    ((scriptFiles_lives _).after_idle (loadFiles_lives services _ _)))

/-- A request to a loader. -/
inductive Request where
  | loadFiles (paths : List Path)
  | loadConcurrently (paths : List Path)
  | loadDirectory
  | loadScript (path : Path)
  | reload (path : Path)
  | unload (path : Path)

/-- The scripts that are loaded or unloaded for a request, in order. -/
def touches (loader : Loader σ) : Request → List Path
  | .loadFiles paths => paths
  | .loadConcurrently paths => distinct paths
  | .loadDirectory => loader.prepared.scriptFiles.value.1
  | .loadScript path | .reload path | .unload path => [path]

/-- What a loader becomes by a request; what the request returns is left aside. -/
def serve (services : Services σ) (loader : Loader σ) : Request → Recorded (Loader σ)
  | .loadFiles paths => Prod.snd <$> loader.loadFiles services paths
  | .loadConcurrently paths => Prod.snd <$> loader.loadConcurrently services paths
  | .loadDirectory => Prod.snd <$> loader.loadDirectory services
  | .loadScript path => Prod.snd <$> loader.loadScript services path
  | .reload path => Prod.snd <$> loader.reload services path
  | .unload path => Prod.snd <$> loader.unload services path

/-- Every request is served in steps. -/
theorem serve_lives (services : Services σ) (loader : Loader σ) (request : Request) :
    Lives services (loader.touches request) loader (loader.serve services request).activity
      (loader.serve services request).value := by
  have whole {α : Type} {recorded : Recorded (α × Loader σ)} {paths : List Path}
      (lives : Lives services paths loader recorded.activity recorded.value.2) :
      Lives services paths loader (Prod.snd <$> recorded).activity (Prod.snd <$> recorded).value :=
    lives.then_idle (.refl _)
  cases request with
  | loadFiles paths => exact whole (loadFiles_lives services paths loader)
  | loadConcurrently paths => exact whole (loadConcurrently_lives services paths loader)
  | loadDirectory => exact whole (loadDirectory_lives services loader)
  | loadScript path => exact whole (loadScript_lives services path loader)
  | reload path => exact whole (reload_lives services path loader)
  | unload path => exact whole (.of_step (.unload path) nofun)

end Loader

end TriggerScript
