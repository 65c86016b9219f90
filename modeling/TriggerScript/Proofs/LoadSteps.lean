import TriggerScript.Proofs.ArtifactFiles
import TriggerScript.Proofs.CompilerWork
import TriggerScript.Proofs.Preparations
import TriggerScript.Proofs.RegistryReplay

/-!
# The steps of a load

What each step of a load leaves behind: which parts of the loader it changes, what becomes of the files,
and which hooks it calls. Loads are put together from these facts and not from the steps themselves.
-/

namespace TriggerScript

open Disk

/-! ## Catalog entries -/

/-- The triggers whose kinds the catalog lists, with their entries. -/
def Grammar.listed (grammar : Grammar) (triggers : List Trigger) : List (Trigger × EventInfo) :=
  triggers.filterMap fun trigger => (grammar.eventInfo? trigger.event.kind).map (trigger, ·)

/-- The catalog lists the kinds of all these triggers. -/
def Grammar.ListsAll (grammar : Grammar) (triggers : List Trigger) : Prop :=
  ∀ trigger ∈ triggers, (grammar.eventInfo? trigger.event.kind).isSome

/-- The unit without the triggers that are not listed. -/
def Grammar.listedUnit (grammar : Grammar) (unit : CompiledUnit) : CompiledUnit :=
  { unit with triggers := (grammar.listed unit.triggers).map (·.1) }

/-- The entries of the triggers that are listed. -/
def Grammar.entriesOf (grammar : Grammar) (unit : CompiledUnit) : List EventInfo :=
  (grammar.listed unit.triggers).map (·.2)

section

variable {grammar : Grammar} {triggers : List Trigger}

theorem Grammar.listed_cons_some {trigger : Trigger} {info : EventInfo}
    (found : grammar.eventInfo? trigger.event.kind = some info) (rest : List Trigger) :
    grammar.listed (trigger :: rest) = (trigger, info) :: grammar.listed rest := by
  simp [listed, found]

theorem Grammar.listed_cons_none {trigger : Trigger}
    (missing : grammar.eventInfo? trigger.event.kind = none) (rest : List Trigger) :
    grammar.listed (trigger :: rest) = grammar.listed rest := by
  simp [listed, missing]

theorem Grammar.ListsAll.map_fst (all : grammar.ListsAll triggers) :
    (grammar.listed triggers).map (·.1) = triggers := by
  induction triggers with
  | nil => rfl
  | cons trigger rest inductionHypothesis =>
    obtain ⟨info, found⟩ := Option.isSome_iff_exists.mp (all trigger List.mem_cons_self)
    rw [listed_cons_some found, List.map_cons,
      inductionHypothesis fun other member => all other (List.mem_cons_of_mem _ member)]

theorem Grammar.ListsAll.listedUnit_eq {unit : CompiledUnit} (all : grammar.ListsAll unit.triggers) :
    grammar.listedUnit unit = unit := by
  rw [listedUnit, all.map_fst]

/-- Only a trigger that is not listed makes the list shorter. -/
theorem Grammar.listsAll_of_length (same : (grammar.listed triggers).length = triggers.length) :
    grammar.ListsAll triggers := by
  intro trigger member
  simpa using List.filterMap_length_eq_length.mp same trigger member

/-- The entries of triggers that are all listed are found. -/
theorem Registry.resolve_value (all : grammar.ListsAll triggers) :
    (Registry.resolve grammar triggers).value = .ok ((grammar.listed triggers).map (·.2)) := by
  induction triggers with
  | nil => rfl
  | cons trigger rest inductionHypothesis =>
    obtain ⟨info, found⟩ := Option.isSome_iff_exists.mp (all trigger List.mem_cons_self)
    have others := inductionHypothesis fun other member => all other (List.mem_cons_of_mem _ member)
    simp [Registry.resolve, Grammar.lookUpEvent, found, others, Grammar.listed_cons_some found]

/-- If the entries of some triggers are found, all are listed. -/
theorem Registry.listsAll_of_resolve {infos : List EventInfo}
    (resolved : (Registry.resolve grammar triggers).value = .ok infos) : grammar.ListsAll triggers := by
  induction triggers generalizing infos with
  | nil => exact fun _ member => by cases member
  | cons trigger rest inductionHypothesis =>
    unfold Registry.resolve Grammar.lookUpEvent at resolved
    dsimp only [Recorded.value_bind, Recorded.value_pure] at resolved
    cases found : grammar.eventInfo? trigger.event.kind with
    | none =>
      rw [found] at resolved
      cases resolved
    | some info =>
      rw [found] at resolved
      dsimp only [Recorded.value_bind] at resolved
      cases others : (Registry.resolve grammar rest).value with
      | error error =>
        rw [others] at resolved
        cases resolved
      | ok entries =>
        intro other member
        rcases List.mem_cons.mp member with rfl | later
        · rw [found]
          rfl
        · exact inductionHypothesis others other later

end

/-! ## Hooks -/

theorem Activity.sparesHooks_of_isTrial {activity : Activity} (trial : activity.isTrial = true) :
    activity.sparesHooks = true := by
  cases activity with
  | noted _ => rfl
  | consulted consultation => cases consultation <;> simp_all [isTrial, isInspection, sparesHooks]

/-- What is only tried is nothing that hooks hear of. -/
theorem Recorded.Only.quiet {α : Type} {recorded : Recorded α} (only : recorded.Only Activity.isTrial) :
    hookCalls recorded.activity = [] :=
  hookCalls_eq_nil (only.mono Activity.sparesHooks_of_isTrial)

theorem Activity.sparesHooks_of_isCompilation {activity : Activity} (compilation : activity.isCompilation = true) :
    activity.sparesHooks = true := by
  cases activity with
  | noted _ => rfl
  | consulted consultation =>
    cases consultation <;> simp_all [isCompilation, isTableWork, sparesHooks]

/-- The compiler of commands leaves hooks alone. -/
def Commands.SpareHooks {σ : Type} (commands : Commands σ) : Prop := commands.Keep Activity.sparesHooks

theorem hookCalls_forM_register (hooked : List (Hooks × Trigger)) :
    hookCalls (hooked.forM fun (hooks, trigger) => consult (.register hooks trigger)).activity =
      hooked.map fun (hooks, trigger) => .register hooks trigger := by
  induction hooked with
  | nil => rfl
  | cons entry rest inductionHypothesis =>
    refine (hookCalls_append _ _).trans ?_
    rw [inductionHypothesis]
    rfl

namespace Registry

/-- The hooks that an install calls. -/
def hookOrders (unit : CompiledUnit) (infos : List EventInfo) : List Consultation :=
  ((bound unit.triggers infos).flatMap fun (trigger, info) => hooksOf trigger info).map
    fun (hooks, trigger) => .register hooks trigger

theorem install_value (registry : Registry) (file : Path) (unit : CompiledUnit) (infos : List EventInfo) :
    (registry.install file unit infos).value = (.of unit, registry.afterInstall file unit infos) := rfl

theorem install_hookCalls (registry : Registry) (file : Path) (unit : CompiledUnit)
    (infos : List EventInfo) :
    hookCalls (registry.install file unit infos).activity = hookOrders unit infos := by
  unfold install
  rw [Recorded.activity_bind, hookCalls_append, hookCalls_forM_register]
  exact List.append_nil _

end Registry

namespace Loader

variable {σ : Type} {services : Services σ} {path : Path}

/-! ## Unloading -/

theorem unloadOld_spec (services : Services σ) (path : Path) (loader : Loader σ) :
    ∃ registry state, (loader.unloadOld services path).value = { loader with registry, state } ∧
      registry = (if loader.registry.isLoaded path then loader.registry.afterUnload path else loader.registry) := by
  unfold unloadOld
  split
  · refine ⟨_, _, rfl, Registry.unload_eq_afterUnload ..⟩
  · exact ⟨_, _, rfl, rfl⟩

/-! ## Loading from the script -/

theorem bindable_spec (grammar : Grammar) (path : Path) (triggers : List Trigger) (loader : Loader σ) :
    (∃ log, (bindable grammar path triggers loader).value = (grammar.listed triggers, { loader with log })) ∧
      hookCalls (bindable grammar path triggers loader).activity = [] := by
  induction triggers generalizing loader with
  | nil => exact ⟨⟨_, rfl⟩, rfl⟩
  | cons trigger rest inductionHypothesis =>
    unfold bindable Grammar.lookUpEvent
    dsimp only [Recorded.value_bind, Recorded.activity_bind, Recorded.value_pure]
    cases found : grammar.eventInfo? trigger.event.kind with
    | some info =>
      obtain ⟨⟨log, others⟩, quiet⟩ := inductionHypothesis loader
      rw [Grammar.listed_cons_some found]
      refine ⟨⟨log, ?_⟩, quiet_append rfl (quiet_append quiet rfl)⟩
      simp only [Recorded.value_bind, Recorded.value_pure, others]
    | none =>
      rw [Grammar.listed_cons_none found]
      obtain ⟨⟨log, others⟩, quiet⟩ := inductionHypothesis
        (loader.logError path
          ("trigger '" ++ trigger.name ++ "' uses unknown event kind '" ++ trigger.event.kind ++ "'")).value
      exact ⟨⟨log, others⟩, quiet_append rfl (quiet_append rfl quiet)⟩

theorem compileFile_quiet (proper : services.commands.SpareHooks) (root : Node) (values : Variables) (state : σ) :
    hookCalls (Compile.compileFile services path root values state).activity = [] :=
  hookCalls_eq_nil (Compile.compileFile_only Activity.sparesHooks_of_isCompilation proper path root values state)

theorem installTree_value (services : Services σ) (path : Path) (root : Node) (loader : Loader σ) :
    let compiled := (Compile.compileFile services path root loader.values loader.state).value
    let unit := services.grammar.listedUnit compiled.1
    ∃ log, (loader.installTree services path root).value =
      (⟨.of unit, unit, errorCount compiled.2.context.diagnostics = 0 ∧
          (services.grammar.listed compiled.1.triggers).length = compiled.1.triggers.length⟩,
        { loader with
          registry := loader.registry.afterInstall path unit (services.grammar.entriesOf compiled.1)
          log
          values := compiled.2.values
          state := compiled.2.state }) := by
  intro compiled unit
  obtain ⟨log, bound⟩ := (bindable_spec services.grammar path
    (loader.compileTree services path root).value.1.triggers
    (loader.compileTree services path root).value.2.2).1
  refine ⟨log, ?_⟩
  simp only [installTree, Recorded.value_bind, Recorded.value_pure, bound]
  rfl

theorem installTree_hookCalls (proper : services.commands.SpareHooks) (root : Node) (loader : Loader σ) :
    let compiled := (Compile.compileFile services path root loader.values loader.state).value
    hookCalls (loader.installTree services path root).activity =
      Registry.hookOrders (services.grammar.listedUnit compiled.1) (services.grammar.entriesOf compiled.1) := by
  intro compiled
  have compileQuiet : hookCalls (loader.compileTree services path root).activity = [] :=
    quiet_append (compileFile_quiet proper root loader.values loader.state) rfl
  obtain ⟨⟨log, bound⟩, bindQuiet⟩ := bindable_spec services.grammar path
    (loader.compileTree services path root).value.1.triggers
    (loader.compileTree services path root).value.2.2
  simp only [installTree, install, Recorded.activity_bind, Recorded.activity_pure, List.append_nil,
    hookCalls_append, compileQuiet, bindQuiet, List.nil_append, bound, Registry.install_hookCalls]
  rfl

/-! ## Storing -/

/-- The end of a load changes nothing but the artifact. -/
theorem finishLoad_value (path : Path) (stamp : Option Int64) (installed : Installed) (loader : Loader σ) :
    (loader.finishLoad path stamp installed).value = (installed.info,
      { loader with
        disk :=
          match stamp with
          | some stamp =>
            if loader.config.enableCaching && installed.clean then
              (loader.cache.store path stamp installed.unit loader.disk).value.2
            else loader.disk
          | none => loader.disk }) := by
  unfold finishLoad
  cases stamp with
  | none => rfl
  | some stamp =>
    cases loader.config.enableCaching && installed.clean <;> simp [storeArtifact]

theorem finishLoad_quiet (path : Path) (stamp : Option Int64) (installed : Installed) (loader : Loader σ) :
    hookCalls (loader.finishLoad path stamp installed).activity = [] := by
  unfold finishLoad
  cases stamp with
  | none => rfl
  | some stamp =>
    have quiet := (loader.cache.store_inspects path stamp installed.unit loader.disk).tries.quiet
    cases loader.config.enableCaching && installed.clean <;> simp [storeArtifact, quiet]

/-! ## Reading and compiling -/

section

variable {parse : Bytes → Except IoError Node} {loader : Loader σ}

theorem loadFresh_error (reader : services.reader = .ofParser parse) {error : IoError}
    (unread : (loader.disk.read path >>= parse) = .error error) :
    (loader.loadFresh services path).value = (.error (.io path error), loader) ∧
      hookCalls (loader.loadFresh services path).activity = [] := by
  simp only [loadFresh, Reader.readTree, reader, Reader.ofParser, Recorded.value_bind, Recorded.value_pure,
    Recorded.activity_bind, Recorded.activity_pure, unread, true_and]
  rfl

theorem loadFresh_ok (reader : services.reader = .ofParser parse) {root : Node}
    (read : (loader.disk.read path >>= parse) = .ok root) :
    let installed := loader.installTree services path root
    let finished := installed.value.2.finishLoad path (loader.disk.modifiedMillis path).toOption installed.value.1
    (loader.loadFresh services path).value = (.ok finished.value.1, finished.value.2) ∧
      hookCalls (loader.loadFresh services path).activity = hookCalls installed.activity := by
  simp only [loadFresh, Reader.readTree, reader, Reader.ofParser, Recorded.value_bind, Recorded.value_pure,
    Recorded.activity_bind, Recorded.activity_pure, read, hookCalls_append, finishLoad_quiet, List.append_nil,
    true_and]
  rfl

end

/-! ## Loading from the artifact -/

/-- What the attempt to bring in an artifact's unit can come to, and the hooks it calls. -/
inductive Restored (services : Services σ) (path : Path) (found : Except CacheError (Option CompiledUnit))
    (loader : Loader σ) : Except CacheError (Option ScriptInfo) × Loader σ → List Consultation → Prop
  | hit {unit : CompiledUnit} {infos : List EventInfo} {state : σ} (good : found = .ok (some unit))
    (resolved : (Registry.resolve services.grammar unit.triggers).value = .ok infos)
    (registered : (restoreCommands services.commands path unit.commands loader.state).value = (.ok (), state)) :
    Restored services path found loader
      (.ok (some (.of unit)),
        { loader with state, registry := loader.registry.afterInstall path unit infos })
      (Registry.hookOrders unit infos)
  | missed {result : Except CacheError (Option ScriptInfo)} (none : ∀ info, result ≠ .ok (some info))
    (absent : ∀ unit, found ≠ .ok (some unit)) : Restored services path found loader (result, loader) []
  | refused (error : CacheError) (state : σ) {unit : CompiledUnit} (good : found = .ok (some unit))
    (unlisted : ∀ infos, (Registry.resolve services.grammar unit.triggers).value = .ok infos →
      ∀ state, (restoreCommands services.commands path unit.commands loader.state).value ≠ (.ok (), state)) :
    Restored services path found loader
      (.error error, { loader with state, disk := (loader.cache.discard path loader.disk).value }) []

theorem restore_spec (services : Services σ) (path : Path)
    (found : Except CacheError (Option CompiledUnit)) (loader : Loader σ) :
    Restored services path found loader (loader.restore services path found).value
      (hookCalls (loader.restore services path found).activity) := by
  rcases found with error | _ | unit
  · exact .missed nofun nofun
  · exact .missed nofun nofun
  · have resolveQuiet := (Registry.resolve_inspects services.grammar unit.triggers).tries.quiet
    have commandsQuiet := (restoreCommands_tries services.commands path unit.commands loader.state).quiet
    simp only [restore, Recorded.value_bind, Recorded.activity_bind, hookCalls_append, resolveQuiet, List.nil_append]
    cases resolved : (Registry.resolve services.grammar unit.triggers).value with
    | error error =>
      have quiet := (loader.cache.discard_inspects path loader.disk).tries.quiet
      -- No command has been registered yet, so the state is as it was.
      have refused : Restored services path (.ok (some unit)) loader
          (.error error, { loader with disk := (loader.cache.discard path loader.disk).value }) [] :=
        .refused error loader.state rfl (by simp [resolved])
      simpa [discardArtifact, quiet] using refused
    | ok infos =>
      simp only [Recorded.value_bind, Recorded.activity_bind, hookCalls_append, commandsQuiet, List.nil_append]
      rcases registered : (restoreCommands services.commands path unit.commands loader.state).value with
        ⟨error | _, state⟩
      · have quiet := (loader.cache.discard_inspects path loader.disk).tries.quiet
        have refused : Restored services path (.ok (some unit)) loader
            (.error error, { loader with state, disk := (loader.cache.discard path loader.disk).value }) [] :=
          .refused error state rfl (by simp [registered])
        have sameCache : ({ loader with state } : Loader σ).cache = loader.cache := rfl
        simpa [discardArtifact, sameCache, quiet] using refused
      · have hit : Restored services path (.ok (some unit)) loader
            (.ok (some (.of unit)),
              { loader with state, registry := loader.registry.afterInstall path unit infos })
            (Registry.hookOrders unit infos) := .hit rfl resolved registered
        simpa [install, Registry.install_hookCalls, Registry.install_value] using hit

/-- Loads a script from what was found in the place of its artifact. -/
def loadFound (services : Services σ) (path : Path) (found : Except IoError Bytes) (loader : Loader σ) :
    Recorded (Except CacheError (Option ScriptInfo) × Loader σ) := do
  let (found, disk) ← loader.cache.examine path found loader.disk
  restore services path found { loader with disk }

theorem loadCached_eq (services : Services σ) (path : Path) (loader : Loader σ) :
    loader.loadCached services path =
      loader.loadFound services path (loader.disk.read (loader.cache.artifactOf path)) := rfl

/--
What a load from something found can come to, and the hooks it calls. After a miss there was no artifact,
or it was dropped.
-/
inductive Found (services : Services σ) (path : Path) (found : Except IoError Bytes) (loader : Loader σ) :
    Except CacheError (Option ScriptInfo) × Loader σ → List Consultation → Prop
  | hit {bytes : Bytes} {unit : CompiledUnit} {infos : List EventInfo} {state : σ} (present : found = .ok bytes)
    (decoded : Artifact.decode bytes (loader.disk.modifiedMillis path) = .ok unit)
    (resolved : (Registry.resolve services.grammar unit.triggers).value = .ok infos) :
    Found services path found loader
      (.ok (some (.of unit)),
        { loader with state, registry := loader.registry.afterInstall path unit infos })
      (Registry.hookOrders unit infos)
  | miss {result : Except CacheError (Option ScriptInfo)} {state : σ} {disk : Disk}
    (none : ∀ info, result ≠ .ok (some info))
    (left : disk = loader.disk ∧ found = .error .notFound ∨
      disk = Cache.dropFile (loader.cache.artifactOf path) loader.disk) :
    Found services path found loader (result, { loader with state, disk }) []

theorem loadFound_spec (services : Services σ) (path : Path) (found : Except IoError Bytes) (loader : Loader σ) :
    Found services path found loader (loader.loadFound services path found).value
      (hookCalls (loader.loadFound services path found).activity) := by
  have examined := loader.cache.examine_spec path found loader.disk
  have quiet := (loader.cache.examine_inspects path found loader.disk).tries.quiet
  have dropped := Cache.discard_value loader.cache path loader.disk
  unfold loadFound
  simp only [Recorded.value_bind, Recorded.activity_bind, hookCalls_append, quiet, List.nil_append]
  generalize (loader.cache.examine path found loader.disk).value = result at examined ⊢
  obtain ⟨unit, disk⟩ := result
  have restored := restore_spec services path unit { loader with disk }
  generalize (({ loader with disk } : Loader σ).restore services path unit).value = outcome at restored ⊢
  generalize hookCalls (({ loader with disk } : Loader σ).restore services path unit).activity = hooks
    at restored ⊢
  cases restored with
  | hit good resolved registered =>
    cases good
    cases examined with
    | good present decoded => exact .hit present decoded resolved
  | missed none absent =>
    cases examined with
    | missing unread => exact .miss none (.inl ⟨rfl, unread⟩)
    | good present decoded => exact absurd rfl (absent _)
    | refused error bad => exact .miss none (.inr dropped)
  | refused error state good unlisted =>
    cases good
    cases examined with
    | good present decoded => exact .miss nofun (.inr dropped)

/-- What a load from the artifact can come to, and the hooks it calls. After a miss there is no artifact. -/
inductive Cached (services : Services σ) (path : Path) (loader : Loader σ) :
    Except CacheError (Option ScriptInfo) × Loader σ → List Consultation → Prop
  | hit {bytes : Bytes} {unit : CompiledUnit} {infos : List EventInfo} {state : σ}
    (read : loader.disk.read (loader.cache.artifactOf path) = .ok bytes)
    (decoded : Artifact.decode bytes (loader.disk.modifiedMillis path) = .ok unit)
    (resolved : (Registry.resolve services.grammar unit.triggers).value = .ok infos) :
    Cached services path loader
      (.ok (some (.of unit)),
        { loader with state, registry := loader.registry.afterInstall path unit infos })
      (Registry.hookOrders unit infos)
  | miss {result : Except CacheError (Option ScriptInfo)} {state : σ} {disk : Disk}
    (none : ∀ info, result ≠ .ok (some info))
    (changes : ChangesOnly (· = loader.cache.place path loader.disk) loader.disk disk)
    (gone : ∀ content time, ¬ disk.Holds (loader.cache.artifactOf path) content time) :
    Cached services path loader (result, { loader with state, disk }) []

theorem loadCached_spec (services : Services σ) (path : Path) (loader : Loader σ) :
    Cached services path loader (loader.loadCached services path).value
      (hookCalls (loader.loadCached services path).activity) := by
  rw [loadCached_eq]
  have tried := loadFound_spec services path (loader.disk.read (loader.cache.artifactOf path)) loader
  generalize (loader.loadFound services path (loader.disk.read (loader.cache.artifactOf path))).value = outcome
    at tried ⊢
  generalize hookCalls (loader.loadFound services path _).activity = hooks at tried ⊢
  cases tried with
  | hit read decoded resolved => exact .hit read decoded resolved
  | miss none left =>
    rcases left with ⟨rfl, unread⟩ | rfl
    · -- What cannot be found is not there.
      refine .miss none (.refl _ _) fun content time holds => ?_
      rw [holds.read] at unread
      cases unread
    · obtain ⟨changes, -, gone⟩ := Cache.dropFile_spec (loader.cache.artifactOf path) loader.disk
      exact .miss none changes gone

/-! ## Whole loads -/

section

variable {loader : Loader σ}

theorem config_unloadOld (services : Services σ) (path : Path) (loader : Loader σ) :
    (loader.unloadOld services path).value.config = loader.config := by
  obtain ⟨registry, state, unloaded, -⟩ := unloadOld_spec services path loader
  rw [unloaded]

theorem loadScript_of_hit (caching : loader.config.enableCaching = true) {info : ScriptInfo} {after : Loader σ}
    (hit : ((loader.unloadOld services path).value.loadCached services path).value = (.ok (some info), after)) :
    (loader.loadScript services path).value = (.ok info, after) ∧
      hookCalls (loader.loadScript services path).activity =
        hookCalls (loader.unloadOld services path).activity ++
          hookCalls ((loader.unloadOld services path).value.loadCached services path).activity := by
  rw [← config_unloadOld services path] at caching
  simp only [loadScript, Recorded.value_bind, Recorded.activity_bind, caching, hit, if_true]
  simp

/-- What is noted when an artifact was tried in vain. -/
def missNotes (path : Path) : Except CacheError (Option ScriptInfo) → List Activity
  | .error error => [.noted (.recompiling error path)]
  | .ok _ => []

/-- A load that has tried the artifact in vain goes on from where that has left the loader. -/
theorem loadScript_eq_of_miss (caching : loader.config.enableCaching = true)
    {result : Except CacheError (Option ScriptInfo)} {after : Loader σ} {tries : List Activity}
    (none : ∀ info, result ≠ .ok (some info))
    (tried : (loader.unloadOld services path).value.loadCached services path = ⟨(result, after), tries⟩) :
    loader.loadScript services path =
      ⟨(after.loadFresh services path).value,
        (loader.unloadOld services path).activity ++
          (tries ++ missNotes path result ++ (after.loadFresh services path).activity)⟩ := by
  rw [← config_unloadOld services path] at caching
  rw [Recorded.ext_iff]
  simp only [loadScript, Recorded.value_bind, Recorded.activity_bind, caching, tried, if_true]
  rcases result with error | _ | info
  · exact ⟨rfl, by simp [missNotes]⟩
  · exact ⟨rfl, by simp [missNotes]⟩
  · exact absurd rfl (none info)

theorem loadScript_of_miss (caching : loader.config.enableCaching = true)
    {result : Except CacheError (Option ScriptInfo)} {after : Loader σ}
    (none : ∀ info, result ≠ .ok (some info))
    (miss : ((loader.unloadOld services path).value.loadCached services path).value = (result, after)) :
    (loader.loadScript services path).value = (after.loadFresh services path).value ∧
      hookCalls (loader.loadScript services path).activity =
        hookCalls (loader.unloadOld services path).activity ++
          (hookCalls ((loader.unloadOld services path).value.loadCached services path).activity ++
            hookCalls (after.loadFresh services path).activity) ∧
      (after.loadFresh services path).activity <:+ (loader.loadScript services path).activity := by
  have tried : (loader.unloadOld services path).value.loadCached services path =
      ⟨(result, after), ((loader.unloadOld services path).value.loadCached services path).activity⟩ := by
    rw [← miss]
  have quiet : hookCalls (missNotes path result) = [] := by
    cases result <;> rfl
  rw [loadScript_eq_of_miss caching none tried]
  refine ⟨rfl, ?_, (List.suffix_append _ _).trans (List.suffix_append _ _)⟩
  rw [hookCalls_append, hookCalls_append, hookCalls_append, quiet, List.append_nil]

theorem loadScript_eq_without_cache (off : loader.config.enableCaching = false) :
    loader.loadScript services path =
      (loader.unloadOld services path >>= fun unloaded => unloaded.loadFresh services path) := by
  rw [← config_unloadOld services path] at off
  rw [Recorded.ext_iff]
  simp [loadScript, off]

theorem loadScript_without_cache (off : loader.config.enableCaching = false) :
    (loader.loadScript services path).value =
      ((loader.unloadOld services path).value.loadFresh services path).value := by
  rw [loadScript_eq_without_cache off]
  rfl

/-- A load is served by the artifact, or it compiles the script, at once or where the artifact was tried in vain. -/
theorem loadScript_cases (services : Services σ) (path : Path) (loader : Loader σ) :
    let unloaded := (loader.unloadOld services path).value
    let tried := (unloaded.loadCached services path).value
    (∃ info, tried.1 = .ok (some info) ∧ (loader.loadScript services path).value = (.ok info, tried.2)) ∨
      ∃ start, (start = unloaded ∨ start = tried.2 ∧ ∀ info, tried.1 ≠ .ok (some info)) ∧
        (loader.loadScript services path).value = (start.loadFresh services path).value := by
  dsimp only
  rcases attempt : ((loader.unloadOld services path).value.loadCached services path).value with ⟨result, after⟩
  cases caching : loader.config.enableCaching with
  | false => exact .inr ⟨_, .inl rfl, loadScript_without_cache caching⟩
  | true =>
    by_cases hit : ∃ info, result = .ok (some info)
    · obtain ⟨info, rfl⟩ := hit
      exact .inl ⟨info, rfl, (loadScript_of_hit caching attempt).1⟩
    · have none : ∀ info, result ≠ .ok (some info) := fun info same => hit ⟨info, same⟩
      exact .inr ⟨after, .inr ⟨rfl, none⟩, (loadScript_of_miss caching none attempt).1⟩

/--
A load brings in the unit of the artifact, or it compiles the script. Until then nothing has changed but the
disk and the collaborators' state.
-/
theorem loadScript_served_or_fresh (services : Services σ) (path : Path) (loader : Loader σ) :
    let unloaded := (loader.unloadOld services path).value
    (∃ unit infos state, (loader.loadScript services path).value =
        (.ok (.of unit), { unloaded with state, registry := unloaded.registry.afterInstall path unit infos })) ∨
      ∃ state disk, (loader.loadScript services path).value =
        (({ unloaded with state, disk } : Loader σ).loadFresh services path).value := by
  have ways := loadScript_cases services path loader
  have cached := loadCached_spec services path (loader.unloadOld services path).value
  dsimp only at ways ⊢
  generalize hookCalls _ = hooks at cached
  generalize ((loader.unloadOld services path).value.loadCached services path).value = tried at ways cached
  rcases ways with ⟨info, hit, loaded⟩ | ⟨start, rfl | ⟨rfl, miss⟩, loaded⟩
  · cases cached with
    | hit =>
      cases hit
      exact .inl ⟨_, _, _, loaded⟩
    | miss none => exact absurd hit (none info)
  · exact .inr ⟨_, _, loaded⟩
  · cases cached with
    | hit => exact absurd rfl (miss _)
    | miss => exact .inr ⟨_, _, loaded⟩

end

/-! ## What a load makes of the registry -/

/-- What a load makes of a registry without the old copy of a script, with the result that it returns. -/
inductive Arrives (path : Path) (before : Registry) : Except LoadError ScriptInfo → Registry → Prop
  | failed (error : LoadError) : Arrives path before (.error error) before
  | installed (unit : CompiledUnit) (infos : List EventInfo) :
      Arrives path before (.ok (.of unit)) (before.afterInstall path unit infos)

theorem loadFresh_arrives (services : Services σ) (path : Path) (loader : Loader σ) :
    Arrives path loader.registry (loader.loadFresh services path).value.1
      (loader.loadFresh services path).value.2.registry := by
  simp only [loadFresh, Reader.readTree, Recorded.value_bind, Recorded.value_pure]
  rcases services.reader.read path loader.disk loader.state with ⟨error | root, disk, state⟩
  · exact .failed _
  · obtain ⟨log, installed⟩ := installTree_value services path root { loader with disk, state }
    simp only [Recorded.value_bind, Recorded.value_pure, installed, finishLoad_value]
    exact .installed _ _

theorem loadScript_arrives (services : Services σ) (path : Path) (loader : Loader σ) :
    Arrives path (loader.unloadOld services path).value.registry (loader.loadScript services path).value.1
      (loader.loadScript services path).value.2.registry := by
  rcases loadScript_served_or_fresh services path loader with
    ⟨unit, infos, state, served⟩ | ⟨state, disk, compiled⟩
  · rw [served]
    exact .installed unit infos
  · rw [compiled]
    exact loadFresh_arrives services path { (loader.unloadOld services path).value with state, disk }

/-! ## Around a load -/

theorem unload_value (services : Services σ) (path : Path) (loader : Loader σ) :
    (loader.unload services path).value = (loader.registry.fileInfo path,
      { loader with
        registry := loader.registry.afterUnload path
        state := (services.commands.unregister path loader.state).2 }) := by
  -- Neither of the two notices that may be written has a part in the value.
  simp only [unload, Registry.unload, Recorded.value_bind, Recorded.value_pure]
  split <;> simp only [Recorded.value_bind] <;> split <;> rfl

theorem logFailure_value (loader : Loader σ) (path : Path) (result : Except LoadError ScriptInfo) :
    ∃ log, (loader.logFailure path result).value = { loader with log } := by
  cases result <;> exact ⟨_, rfl⟩

theorem finishBatch_value (services : Services σ) (loaded : ScriptInfo) (errorsBefore : Nat) (loader : Loader σ) :
    (loader.finishBatch services loaded errorsBefore).value.2 = (loader.subscribe services).value := by
  unfold finishBatch
  dsimp only [Recorded.value_bind]
  split <;> split <;> rfl

end Loader

end TriggerScript
