import TriggerScript.Loader
import TriggerScript.Proofs.Activities

/-!
# What goes before a script is compiled

A load removes the old copy of its script, looks at the artifact and the catalog, and may try to register the
commands of the artifact. Here it is said once what each of these steps does on the way. None of them reports
anything, sets a variable, or tells a hook about a new trigger.
-/

namespace TriggerScript

namespace Activity

/-- A look into the catalog, or a notice that is no report. -/
def isInspection : Activity → Bool
  | .noted (.reported _) => false
  | .noted _ | .consulted (.eventInfo _) => true
  | .consulted _ => false

/-- An inspection, or a change to the registered commands. -/
def isTrial : Activity → Bool
  | .consulted (.registerCommand _) | .consulted (.unregisterCommands _) => true
  | activity => activity.isInspection

/-- A trial, a call of a hook for a trigger that goes away, or the reading of a script. -/
def isPreparation : Activity → Bool
  | .consulted (.unregister ..) | .consulted (.read _) => true
  | activity => activity.isTrial

theorem isTrial_of_isInspection {activity : Activity} (inspection : activity.isInspection = true) :
    activity.isTrial = true := by
  unfold isTrial
  split
  · rfl
  · rfl
  · exact inspection

theorem isPreparation_of_isTrial {activity : Activity} (trial : activity.isTrial = true) :
    activity.isPreparation = true := by
  unfold isPreparation
  split
  · rfl
  · rfl
  · exact trial

end Activity

namespace Recorded.Only

variable {α : Type} {recorded : Recorded α}

theorem tries (only : recorded.Only Activity.isInspection) : recorded.Only Activity.isTrial :=
  only.mono Activity.isTrial_of_isInspection

theorem prepares (only : recorded.Only Activity.isTrial) : recorded.Only Activity.isPreparation :=
  only.mono Activity.isPreparation_of_isTrial

end Recorded.Only

/-! ## Artifacts and the catalog -/

theorem Registry.resolve_inspects (grammar : Grammar) (triggers : List Trigger) :
    (Registry.resolve grammar triggers).Only Activity.isInspection := by
  induction triggers with
  | nil => rfl
  | cons trigger rest inductionHypothesis =>
    refine .bind rfl ?_
    split
    · rfl
    · refine .bind inductionHypothesis ?_
      split <;> rfl

namespace Cache

theorem discard_inspects (cache : Cache) (script : Path) (disk : Disk) :
    (cache.discard script disk).Only Activity.isInspection := by
  unfold discard
  dsimp only
  split <;> rfl

theorem examine_inspects (cache : Cache) (script : Path) (found : Except IoError Bytes) (disk : Disk) :
    (cache.examine script found disk).Only Activity.isInspection := by
  have discarded := cache.discard_inspects script disk
  unfold examine
  dsimp only
  split
  · rfl
  · exact .bind discarded rfl
  · split
    · rfl
    · exact .bind rfl (.bind discarded rfl)

theorem store_inspects (cache : Cache) (script : Path) (stamp : Int64) (unit : CompiledUnit) (disk : Disk) :
    (cache.store script stamp unit disk).Only Activity.isInspection := by
  unfold store
  split
  · rfl
  · exact .bind rfl (.bind (cache.discard_inspects script _) rfl)

end Cache

namespace Loader

variable {σ : Type} {services : Services σ} {path : Path} {loader : Loader σ}

theorem discardArtifact_inspects (loader : Loader σ) (path : Path) :
    (loader.discardArtifact path).Only Activity.isInspection :=
  .bind (loader.cache.discard_inspects path loader.disk) rfl

/-! ## Commands of an artifact -/

theorem registerCommands_tries (commands : Commands σ) (restored : List Command) (state : σ) :
    (registerCommands commands restored state).Only Activity.isTrial := by
  induction restored generalizing state with
  | nil => rfl
  | cons command rest inductionHypothesis =>
    refine .bind rfl ?_
    split
    · exact inductionHypothesis _
    · rfl

theorem restoreCommands_tries (commands : Commands σ) (path : Path) (restored : List Command) (state : σ) :
    (restoreCommands commands path restored state).Only Activity.isTrial := by
  refine .bind (registerCommands_tries commands restored state) ?_
  split <;> rfl

/-- An artifact that is not brought in has been tried, at most. -/
theorem restore_tries {found : Except CacheError (Option CompiledUnit)}
    (missed : ∀ info, (loader.restore services path found).value.1 ≠ .ok (some info)) :
    (loader.restore services path found).Only Activity.isTrial := by
  rcases found with error | _ | unit
  · rfl
  · rfl
  · unfold restore at missed ⊢
    refine .bind (Registry.resolve_inspects services.grammar unit.triggers).tries ?_
    rw [Recorded.value_bind] at missed
    generalize (Registry.resolve services.grammar unit.triggers).value = resolved at missed ⊢
    cases resolved with
    | error error => exact .bind (loader.discardArtifact_inspects path).tries rfl
    | ok infos =>
      refine .bind (restoreCommands_tries services.commands path unit.commands loader.state) ?_
      dsimp only at missed
      rw [Recorded.value_bind] at missed
      generalize (restoreCommands services.commands path unit.commands loader.state).value = registered at missed ⊢
      rcases registered with ⟨error | _, state⟩
      · exact .bind (({ loader with state } : Loader σ).discardArtifact_inspects path).tries rfl
      · -- The unit would have been installed.
        exact absurd rfl (missed _)

theorem loadCached_tries (missed : ∀ info, (loader.loadCached services path).value.1 ≠ .ok (some info)) :
    (loader.loadCached services path).Only Activity.isTrial :=
  .bind (loader.cache.examine_inspects path _ loader.disk).tries (restore_tries missed)

/-! ## Old copies -/

theorem unload_prepares (services : Services σ) (path : Path) (loader : Loader σ) :
    (loader.unload services path).Only Activity.isPreparation := by
  refine .bind ?_ rfl
  unfold Registry.unload
  dsimp only
  split
  · refine .bind rfl (.bind (.forM fun _ => rfl) (.bind rfl ?_))
    split <;> rfl
  · refine .bind (.forM fun _ => rfl) (.bind rfl ?_)
    split <;> rfl

theorem unloadOld_prepares (services : Services σ) (path : Path) (loader : Loader σ) :
    (loader.unloadOld services path).Only Activity.isPreparation := by
  unfold unloadOld
  split
  · exact .bind (loader.unload_prepares services path) rfl
  · rfl

end Loader

end TriggerScript
