import TriggerScript.Proofs.LoadedCounts

/-!
# Scripts that cannot be read

The one way for a load to fail is that the script cannot be read. By then the old copy of the script is gone, and
an artifact may have been tried: its commands may have been registered in part and withdrawn again. All that
comes before the reading is preparation, whatever the artifact was like, so a failed load is as good as an unload.
-/

namespace TriggerScript

theorem Registry.isLoaded_afterUnload (registry : Registry) (path : Path) :
    (registry.afterUnload path).isLoaded path = false := by
  rw [isLoaded, Table.contains, afterUnload, Table.find?_erase, if_pos rfl]
  rfl

namespace Loader

variable {σ : Type} {services : Services σ} {path : Path} {loader : Loader σ} {error : LoadError}

/-- To compile a script fails at its reading only, when nothing has been compiled yet. -/
theorem loadFresh_of_error (failed : (loader.loadFresh services path).value.1 = .error error) :
    (∃ disk state, (loader.loadFresh services path).value.2 = { loader with disk, state }) ∧
      (loader.loadFresh services path).Only Activity.isPreparation := by
  unfold loadFresh Reader.readTree at failed ⊢
  dsimp only [Recorded.value_bind, Recorded.value_pure] at failed ⊢
  generalize services.reader.read path loader.disk loader.state = outcome at failed ⊢
  obtain ⟨error | root, disk, state⟩ := outcome
  · exact ⟨⟨disk, state, rfl⟩, rfl⟩
  · cases failed

/--
A load that fails has made preparations only. Apart from the disk and the collaborators' state, it leaves the
loader as it was without the old copy.
-/
theorem loadScript_of_error (failed : (loader.loadScript services path).value.1 = .error error) :
    (∃ disk state,
        (loader.loadScript services path).value.2 = { (loader.unloadOld services path).value with disk, state }) ∧
      (loader.loadScript services path).Only Activity.isPreparation := by
  have unloads := loader.unloadOld_prepares services path
  cases caching : loader.config.enableCaching with
  | false =>
    rw [loadScript_eq_without_cache caching] at failed ⊢
    obtain ⟨spared, prepares⟩ := loadFresh_of_error failed
    exact ⟨spared, .bind unloads prepares⟩
  | true =>
    have attempt := loadCached_spec services path (loader.unloadOld services path).value
    have trials := @loadCached_tries σ services path (loader.unloadOld services path).value
    generalize hookCalls _ = called at attempt
    rcases tried : (loader.unloadOld services path).value.loadCached services path with ⟨⟨result, after⟩, tries⟩
    rw [tried] at attempt trials
    cases attempt with
    | hit =>
      -- A load from the artifact does not fail.
      rw [(loadScript_of_hit caching (congrArg Recorded.value tried)).1] at failed
      cases failed
    | miss none =>
      rw [loadScript_eq_of_miss caching none tried] at failed ⊢
      -- The artifact has changed nothing but the disk and the state, and the reading changes no more than that.
      obtain ⟨⟨disk, state, spared⟩, prepares⟩ := loadFresh_of_error failed
      refine ⟨⟨disk, state, spared⟩, ?_⟩
      have attempted : tries.all Activity.isPreparation = true := (trials none).prepares
      have noted : (missNotes path result).all Activity.isPreparation = true := by
        cases result <;> rfl
      rw [Recorded.Only, List.all_append, List.all_append, List.all_append, unloads, attempted, noted, prepares]
      rfl

/--
If a load fails, its script is not loaded any more. The registry is as an unload of the script leaves it if the script
was loaded before, and as it was otherwise. No hook has been told to register anything, nothing has been reported
or added to the log, and no variable has been set.
-/
theorem failed_load_unloads (failed : (loader.loadScript services path).value.1 = .error error) :
    let outcome := loader.loadScript services path
    let after := outcome.value.2
    after.registry.isLoaded path = false ∧
      after.registry =
        (if loader.registry.isLoaded path then (loader.unload services path).value.2.registry else loader.registry) ∧
      (∀ hooks trigger, .consulted (.register hooks trigger) ∉ outcome.activity) ∧
      (∀ diagnostic, .noted (.reported diagnostic) ∉ outcome.activity) ∧ after.log = loader.log ∧
      (∀ name value, .consulted (.setVariable name value) ∉ outcome.activity) ∧ after.values = loader.values := by
  obtain ⟨⟨disk, state, left⟩, prepares⟩ := loadScript_of_error failed
  obtain ⟨registry, unloadedState, unloaded, rfl⟩ := unloadOld_spec services path loader
  rw [unloaded] at left
  dsimp only
  rw [left, unload_value]
  refine ⟨?_, rfl, fun _ _ => prepares.not_mem rfl, fun _ => prepares.not_mem rfl, rfl,
    fun _ _ => prepares.not_mem rfl, rfl⟩
  split
  · exact loader.registry.isLoaded_afterUnload path
  · next absent => exact eq_false_of_ne_true absent

section Rehearsed

open Rehearsal

/-- The scene with a second command. -/
def crowdedScene : Node := .section "" (scene.children ++ [.section "command /bye" [] 11]) 0

def crowdedLoaded : Loader Desk :=
  (sceneLoader.loadScript (Rehearsal.services {} fun _ => .ok crowdedScene) scenePath).value.2

/-- Collaborators that refuse the second command and cannot read any script. -/
def blindServices : Services Desk := Rehearsal.services { refused := ["/bye"] } fun _ => .error .notText

/-- The names of the commands that were to be registered. -/
def offeredCommands (activity : List Activity) : List String :=
  activity.filterMap fun
    | .consulted (.registerCommand command) => some command.name
    | _ => none

/-- The first command is registered from the artifact, and taken back before the script turns out to be unreadable. -/
theorem crowded_unloaded :
    let outcome := crowdedLoaded.loadScript blindServices scenePath
    crowdedLoaded.registry.isLoaded scenePath = true ∧
      outcome.value.1 = .error (.io scenePath .notText) ∧ offeredCommands outcome.activity = ["/hi", "/bye"] ∧
      outcome.value.2.registry.isLoaded scenePath = false ∧
      outcome.value.2.registry = (crowdedLoaded.unload blindServices scenePath).value.2.registry ∧
      outcome.value.2.values = crowdedLoaded.values := by
  have ready : crowdedLoaded.registry.isLoaded scenePath = true ∧
      (crowdedLoaded.loadScript blindServices scenePath).value.1 = .error (.io scenePath .notText) ∧
      offeredCommands (crowdedLoaded.loadScript blindServices scenePath).activity = ["/hi", "/bye"] := by
    decide +kernel
  obtain ⟨loaded, failed, offered⟩ := ready
  obtain ⟨unloaded, registry, -, -, -, -, values⟩ := failed_load_unloads failed
  rw [if_pos loaded] at registry
  exact ⟨loaded, failed, offered, unloaded, registry, values⟩

end Rehearsed

end Loader

end TriggerScript
