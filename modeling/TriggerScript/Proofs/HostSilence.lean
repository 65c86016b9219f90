import TriggerScript.Proofs.CompilerWork
import TriggerScript.Proofs.Preparations
import TriggerScript.Proofs.RehearsalServices

/-!
# Where the host is left alone

The host is asked for event types in one place only, when a batch or a reload ends. Nothing that happens
while a script is compiled, restored, installed or unloaded comes to its ears.
-/

namespace TriggerScript

/-- The event type that the host is asked for, if the activity is such a question. -/
def Activity.subscription? : Activity → Option EventType
  | .consulted (.subscribe eventType) => some eventType
  | _ => none

/-- The event types that the host is asked for, in order. -/
def subscriptions (activity : List Activity) : List EventType := activity.filterMap Activity.subscription?

@[simp] theorem subscriptions_append (first second : List Activity) :
    subscriptions (first ++ second) = subscriptions first ++ subscriptions second := List.filterMap_append

/-- Someone else is asked, or nobody. -/
def Activity.sparesHost (activity : Activity) : Bool := activity.subscription?.isNone

namespace Recorded

variable {α : Type} {recorded : Recorded α}

/-- The host is not asked for anything. -/
def SparesHost (recorded : Recorded α) : Prop := recorded.Only Activity.sparesHost

theorem SparesHost.silent (spares : recorded.SparesHost) : subscriptions recorded.activity = [] :=
  Only.filterMap_eq_nil spares fun _ => Option.isNone_iff_eq_none.mp

theorem Only.sparesHost (only : recorded.Only Activity.isPreparation) : recorded.SparesHost :=
  only.mono fun {activity} preparation => by
    cases activity with
    | noted _ => rfl
    | consulted consultation =>
      cases consultation <;>
        simp_all [Activity.isPreparation, Activity.isTrial, Activity.isInspection, Activity.sparesHost,
          Activity.subscription?]

end Recorded

open Recorded

/-- The compiler of commands does not ask the host for anything. -/
def Commands.SpareHost {σ : Type} (commands : Commands σ) : Prop := commands.Keep Activity.sparesHost

theorem Activity.sparesHost_of_isCompilation {activity : Activity} (compilation : activity.isCompilation = true) :
    activity.sparesHost = true := by
  cases activity with
  | noted _ => rfl
  | consulted consultation =>
    cases consultation <;> simp_all [isCompilation, isTableWork, sparesHost, subscription?]

/-! ## Loading -/

namespace Loader

variable {σ : Type} {services : Services σ}

theorem unload_sparesHost (services : Services σ) (path : Path) (loader : Loader σ) :
    (loader.unload services path).SparesHost := (loader.unload_prepares services path).sparesHost

theorem install_sparesHost (loader : Loader σ) (path : Path) (unit : CompiledUnit) (infos : List EventInfo) :
    (loader.install path unit infos).SparesHost :=
  .bind (.bind (.forM fun _ => rfl) rfl) rfl

theorem restore_sparesHost (services : Services σ) (path : Path)
    (found : Except CacheError (Option CompiledUnit)) (loader : Loader σ) :
    (loader.restore services path found).SparesHost := by
  unfold restore
  split
  · rfl
  · rfl
  · refine .bind (Registry.resolve_inspects services.grammar _).tries.prepares.sparesHost ?_
    split
    · exact .bind (discardArtifact_inspects loader path).tries.prepares.sparesHost rfl
    · refine .bind (restoreCommands_tries services.commands path _ _).prepares.sparesHost ?_
      split
      · exact .bind (discardArtifact_inspects _ path).tries.prepares.sparesHost rfl
      · exact .bind (install_sparesHost _ path _ _) rfl

theorem loadCached_sparesHost (services : Services σ) (path : Path) (loader : Loader σ) :
    (loader.loadCached services path).SparesHost :=
  .bind (loader.cache.examine_inspects path _ loader.disk).tries.prepares.sparesHost
    (restore_sparesHost services path _ _)

theorem bindable_sparesHost (grammar : Grammar) (path : Path) (triggers : List Trigger) (loader : Loader σ) :
    (bindable grammar path triggers loader).SparesHost := by
  induction triggers generalizing loader with
  | nil => rfl
  | cons trigger rest inductionHypothesis =>
    refine .bind rfl ?_
    split
    · exact .bind (inductionHypothesis loader) rfl
    · exact .bind rfl (inductionHypothesis _)

theorem installTree_sparesHost (proper : services.commands.SpareHost) (path : Path) (root : Node)
    (loader : Loader σ) : (loader.installTree services path root).SparesHost := by
  have compiled := Compile.compileFile_only Activity.sparesHost_of_isCompilation proper path root loader.values
    loader.state
  refine .bind (.bind compiled rfl) (.bind (bindable_sparesHost services.grammar path _ _) ?_)
  exact .bind (install_sparesHost _ path _ _) rfl

theorem finishLoad_sparesHost (path : Path) (stamp : Option Int64) (installed : Installed) (loader : Loader σ) :
    (loader.finishLoad path stamp installed).SparesHost := by
  unfold finishLoad
  dsimp only
  split
  · split
    · refine .bind (.bind ?_ rfl) rfl
      exact (loader.cache.store_inspects path _ installed.unit loader.disk).tries.prepares.sparesHost
    · rfl
  · rfl

theorem loadFresh_sparesHost (proper : services.commands.SpareHost) (path : Path) (loader : Loader σ) :
    (loader.loadFresh services path).SparesHost := by
  refine .bind rfl ?_
  dsimp only
  split
  · rfl
  · exact .bind (installTree_sparesHost proper path _ _) (.bind (finishLoad_sparesHost path _ _ _) rfl)

/-- A script is loaded without a word to the host. -/
theorem loadScript_sparesHost (proper : services.commands.SpareHost) (path : Path) (loader : Loader σ) :
    (loader.loadScript services path).SparesHost := by
  have fresh := loadFresh_sparesHost proper path
  refine .bind (unloadOld_prepares services path loader).sparesHost ?_
  split
  · refine .bind (loadCached_sparesHost services path _) ?_
    split
    · rfl
    · exact fresh _
    · exact .bind rfl (fresh _)
  · exact fresh _

end Loader

theorem Rehearsal.commands_spareHost (grammar : Grammar) (refused : List String) :
    (commands grammar refused).SpareHost :=
  commands_keep Activity.sparesHost_of_isCompilation grammar refused fun _ => rfl

end TriggerScript
