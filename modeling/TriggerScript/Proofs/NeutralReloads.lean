import TriggerScript.Proofs.BatchOrder
import TriggerScript.Proofs.CachedLoad
import TriggerScript.Proofs.EditedLoads
import TriggerScript.Proofs.LoadedCounts

/-!
# Reloads that change nothing

A script is loaded, other files come and go, and the script is loaded again. The reload takes away what the first
load has brought and brings the same once more, whether it is served by an artifact or compiles the script. So the
counts and records are as they were, and in every list the script's triggers have moved behind those of the other
files. What a load brings is what its artifact holds or what its text compiles to, and the two need not be
the same: a text may change without a change of its time. Then a reload that has lost the artifact brings something
else.
-/

namespace TriggerScript

namespace Registry

/-! ## Triggers that move behind all others -/

/-- One registry holds the same as another one, with the triggers of a file behind all others, in their order. -/
structure MovesLast (file : Path) (before after : Registry) : Prop where
  loaded : after.loaded = before.loaded
  files : ∀ key, after.files.find? key = before.files.find? key
  dispatch : ∀ eventType, after.triggersFor eventType =
    ((before.triggersFor eventType).filter fun trigger => !trigger.isFrom file) ++
      (before.triggersFor eventType).filter fun trigger => trigger.isFrom file
  selfManaged : after.selfManaged =
    (before.selfManaged.filter fun entry => !entry.2.isFrom file) ++
      before.selfManaged.filter fun entry => entry.2.isFrom file

section

variable {registry after : Registry} {installs : List Install}

theorem Represents.triggersFor_eq (represents : registry.Represents installs) (eventType : EventType) :
    registry.triggersFor eventType = boundTo eventType (installs.flatMap Install.bindings) := by
  rw [triggersFor, represents.dispatch, getD_nonempty?]

/-- To move the installs of a file behind all others makes no difference to the records. -/
theorem recordAt?_moved (installs : List Install) (moved key : List Path.Component) :
    recordAt? ((installs.filter fun install => !install.isAt moved) ++ installs.filter (Install.isAt moved)) key =
      recordAt? installs key := by
  unfold recordAt?
  rw [List.filter_append, List.filter_filter, List.filter_filter]
  by_cases same : key = moved
  · subst same
    simp
  · have others : ∀ install ∈ installs, (install.isAt key && !install.isAt moved) = install.isAt key := by
      intro install _
      simp only [Install.isAt]
      grind
    have none : ∀ install ∈ installs, ¬ (install.isAt key && install.isAt moved) = true := by
      intro install _
      simp only [Install.isAt]
      grind
    rw [List.filter_congr others, List.filter_eq_nil_iff.mpr none, List.append_nil]

theorem Represents.movesLast (represents : registry.Represents installs) (file : Path)
    (moved : after.Represents ((installs.filter fun install => !install.isAt file.components) ++
      installs.filter (Install.isAt file.components))) : MovesLast file registry after where
  loaded := by
    rw [moved.loaded, represents.loaded, List.map_append, List.sum_append, sum_counts_eq_add installs file.components,
      getD_recordAt?, add_comm]
  files key := by rw [moved.files, represents.files, recordAt?_moved]
  dispatch eventType := by
    rw [moved.triggersFor_eq, represents.triggersFor_eq, List.flatMap_append, boundTo_append,
      filter_boundTo eventType fun trigger => !trigger.isFrom file,
      filter_boundTo eventType fun trigger => trigger.isFrom file, filter_flatMap_installs Install.mem_of_bindings]
    exact congrArg (fun own => _ ++ boundTo eventType own)
      (filter_flatMap_parts id Install.mem_of_bindings file installs).symm
  selfManaged := by
    rw [moved.selfManaged, represents.selfManaged, List.flatMap_append, filter_flatMap_installs Install.mem_of_hooked]
    exact congrArg (_ ++ ·) (filter_flatMap_parts id Install.mem_of_hooked file installs).symm

end

end Registry

namespace Loader

open Registry (Install Represents MovesLast)

variable {σ : Type} {services : Services σ} {parse : Bytes → Except IoError Node} {path : Path}
  {loader : Loader σ} {installs : List Install}

/-! ## What a load installs -/

/-- If a load uses an artifact, the artifact was made for the script's own path. -/
def TakesOwn (services : Services σ) (path : Path) (loader : Loader σ) : Prop :=
  ∀ unit infos, loader.served? services path = some (unit, infos) → unit.IsFrom path

/-- If a load uses an artifact, the artifact holds what a content compiles to. -/
def TakesCurrent (services : Services σ) (parse : Bytes → Except IoError Node) (path : Path) (content : Bytes)
    (loader : Loader σ) : Prop :=
  ∀ unit infos, loader.served? services path = some (unit, infos) → CompilesTo services parse path unit content

/-- To take away the old copy of a script makes no difference to what its load brings. -/
theorem loadScript_comesTo (deterministic : services.Deterministic parse) (path : Path) (loader : Loader σ) :
    Outcome path (loader.brings services parse path) (loader.unloadOld services path).value
      (loader.loadScript services path).value := by
  have outcome : Outcome path _ _ (loader.loadScript services path).value :=
    loadScript_brings deterministic.reader deterministic.steady loader
  have same : (loader.unloadOld services path).value.brings services parse path =
      loader.brings services parse path := by
    obtain ⟨registry, state, unloaded, -⟩ := unloadOld_spec services path loader
    rw [unloaded]
    exact brings_eq deterministic.steady deterministic.alike rfl rfl rfl
  rwa [same] at outcome

theorem config_loadScript (deterministic : services.Deterministic parse) (path : Path) (loader : Loader σ) :
    (loader.loadScript services path).value.2.config = loader.config :=
  (loadScript_comesTo deterministic path loader).config.trans (config_unloadOld services path loader)

/-- A load succeeds with what it brings. -/
theorem loadScript_eq_ok_iff (deterministic : services.Deterministic parse) {info : ScriptInfo} :
    (loader.loadScript services path).value.1 = .ok info ↔
      ∃ unit infos, loader.brings services parse path = some (unit, infos) ∧ info = .of unit := by
  have counted := (loadScript_comesTo deterministic path loader).info
  have arrives := loadScript_arrives services path loader
  generalize (loader.loadScript services path).value.1 = result at arrives counted ⊢
  generalize (loader.loadScript services path).value.2.registry = registry at arrives
  -- What is installed counts one file, and a load that fails counts none.
  cases brought : loader.brings services parse path with
  | none =>
    rw [brought] at counted
    cases arrives with
    | failed error => simp
    | installed unit infos => cases congrArg ScriptInfo.files counted
  | some pair =>
    rw [brought] at counted
    cases arrives with
    | failed error => cases congrArg ScriptInfo.files counted
    | installed unit infos =>
      have same : ScriptInfo.of unit = .of pair.1 := counted
      constructor
      · intro ok
        exact ⟨pair.1, pair.2, rfl, (Except.ok.inj ok).symm.trans same⟩
      · rintro ⟨_, _, found, rfl⟩
        cases found
        rw [same]

theorem TakesOwn.isFrom (own : loader.TakesOwn services path) (proper : services.commands.Advances)
    {unit : CompiledUnit} {infos : List EventInfo} (brought : loader.brings services parse path = some (unit, infos)) :
    unit.IsFrom path := by
  rw [brings] at brought
  rcases Option.or_eq_some_iff.mp brought with served | ⟨-, compiled⟩
  · exact own unit infos served
  · exact compiled?_isFrom proper compiled

/-- A load takes away what its script has installed, and adds what it brings. -/
theorem represents_loadScript (deterministic : services.Deterministic parse)
    (represents : loader.registry.Represents installs)
    (isFrom : ∀ {unit infos}, loader.brings services parse path = some (unit, infos) → unit.IsFrom path) :
    ∃ brought, (loader.loadScript services path).value.2.registry.Represents (others path installs ++ brought) ∧
      brought.map parts = (loader.brings services parse path).toList.map (path, ·) := by
  have installed := (loadScript_comesTo deterministic path loader).registry
  have unloaded := represents_unloadOld services path represents
  cases brought : loader.brings services parse path with
  | none =>
    rw [brought] at installed
    refine ⟨[], ?_, rfl⟩
    rw [installed, List.append_nil]
    exact unloaded
  | some pair =>
    rw [brought] at installed
    refine ⟨[⟨⟨path, pair.1, pair.2⟩, isFrom brought⟩], ?_, rfl⟩
    rw [installed]
    exact represents_afterInstall unloaded (isFrom brought) pair.2

/-! ## What happens meanwhile -/

/-- What is loaded uses no artifact but its own. -/
def LoadsOwn (services : Services σ) (loader : Loader σ) (deed : Deed) : Prop :=
  ∀ path result, deed = .load path result → loader.TakesOwn services path

section

variable {start after : Loader σ} {deed : Deed} {deeds : List Deed} {activity journal : List Activity}
  {allowed : Loader σ → Deed → Prop}

theorem Step.config (step : Step services loader deed activity after) (deterministic : services.Deterministic parse) :
    after.config = loader.config := by
  cases step with
  | load path => exact config_loadScript deterministic path loader
  | unload path => rw [unload_value]
  | subscribe | report | makeDirectory | edit => rfl

theorem Life.config (life : Life services allowed start deeds journal loader)
    (deterministic : services.Deterministic parse) : loader.config = start.config := by
  induction life with
  | born => rfl
  | step _ step _ earlier => exact (step.config deterministic).trans earlier

theorem filter_isAt_others {other : Path} (different : other.components ≠ path.components) (installs : List Install) :
    (others other installs).filter (Install.isAt path.components) =
      installs.filter (Install.isAt path.components) := by
  rw [others, List.filter_filter]
  refine List.filter_congr fun install _ => ?_
  simp only [Install.isAt]
  grind

theorem file_of_brought {brought : List Install} {pairs : List (CompiledUnit × List EventInfo)}
    (same : brought.map parts = pairs.map (path, ·)) {install : Install} (member : install ∈ brought) :
    install.file = path := by
  have listed : parts install ∈ pairs.map (path, ·) := same ▸ List.mem_map_of_mem member
  obtain ⟨pair, -, found⟩ := List.mem_map.mp listed
  exact (congrArg Prod.fst found).symm

/-- All that a script has installed after a load is what it has brought. -/
theorem filter_isAt_brought (installs : List Install) {brought : List Install}
    {pairs : List (CompiledUnit × List EventInfo)} (same : brought.map parts = pairs.map (path, ·)) :
    (others path installs ++ brought).filter (Install.isAt path.components) = brought := by
  have none : (others path installs).filter (Install.isAt path.components) = [] := by
    rw [others, List.filter_filter]
    simp
  have all : brought.filter (Install.isAt path.components) = brought := by
    refine List.filter_eq_self.mpr fun install member => ?_
    simp [Install.isAt, file_of_brought same member]
  rw [List.filter_append, none, all, List.nil_append]

/-- The registry holds what installs leave, and those of a file that a step does not touch stay. -/
theorem Step.represents (step : Step services loader deed activity after)
    (deterministic : services.Deterministic parse) (own : LoadsOwn services loader deed)
    (represents : loader.registry.Represents installs) :
    ∃ now, after.registry.Represents now ∧
      ∀ path : Path, (∀ other, deed.path? = some other → other.components ≠ path.components) →
        now.filter (Install.isAt path.components) = installs.filter (Install.isAt path.components) := by
  cases step with
  | load other =>
    have takes := own other _ rfl
    obtain ⟨brought, loaded, same⟩ :=
      represents_loadScript deterministic represents (takes.isFrom deterministic.proper)
    refine ⟨_, loaded, fun path spared => ?_⟩
    have different := spared other rfl
    have none : brought.filter (Install.isAt path.components) = [] := by
      refine List.filter_eq_nil_iff.mpr fun install member => ?_
      simp [Install.isAt, file_of_brought same member, different]
    rw [List.filter_append, none, List.append_nil, filter_isAt_others different]
  | unload other =>
    rw [unload_value]
    exact ⟨_, represents.unload other, fun path spared => filter_isAt_others (spared other rfl) installs⟩
  | subscribe => exact ⟨installs, represents.subscribe services.host, fun _ _ => rfl⟩
  | report | makeDirectory | edit => exact ⟨installs, represents, fun _ _ => rfl⟩

theorem Life.represents (life : Life services (LoadsOwn services) start deeds journal loader)
    (deterministic : services.Deterministic parse) (represents : start.registry.Represents installs) :
    ∃ now, loader.registry.Represents now ∧
      ∀ path : Path, (∀ other ∈ deeds.filterMap Deed.path?, other.components ≠ path.components) →
        now.filter (Install.isAt path.components) = installs.filter (Install.isAt path.components) := by
  induction life with
  | born => exact ⟨installs, represents, fun _ _ => rfl⟩
  | step _ step own earlier =>
    obtain ⟨before, held, keptBefore⟩ := earlier
    obtain ⟨now, holds, kept⟩ := step.represents deterministic own held
    refine ⟨now, holds, fun path spared => ?_⟩
    rw [List.filterMap_append] at spared
    rw [kept path fun other touched => spared other (List.mem_append_right _ (by simp [touched]))]
    exact keptBefore path fun other member => spared other (List.mem_append_left _ member)

end

/-! ## What an unchanged script brings -/

section

variable {content : Bytes} {time : Int}

theorem of_served {unit : CompiledUnit} {infos : List EventInfo}
    (served : loader.served? services path = some (unit, infos)) :
    loader.config.enableCaching = true ∧ loader.artifactUnit? path = some unit ∧
      (Registry.resolve services.grammar unit.triggers).value = .ok infos := by
  unfold served? at served
  split at served
  · next caching =>
    obtain ⟨found, artifact, restored⟩ := Option.bind_eq_some_iff.mp served
    unfold restored? at restored
    split at restored
    · next resolved _ =>
      cases restored
      exact ⟨caching, artifact, resolved⟩
    · cases restored
  · cases served

/-- Where the artifact holds what the text compiles to, it makes no difference which of the two is taken. -/
theorem brings_of_current (current : loader.TakesCurrent services parse path content)
    (script : loader.disk.Holds path content time) :
    loader.brings services parse path = loader.compiled? services parse path := by
  rw [brings]
  cases served : loader.served? services path with
  | none => rfl
  | some pair =>
    obtain ⟨root, parsed, compiles⟩ := current pair.1 pair.2 served
    have resolved := (of_served served).2.2
    have all := Registry.listsAll_of_resolve resolved
    rw [Registry.resolve_value all] at resolved
    have entries : services.grammar.entriesOf pair.1 = pair.2 := Except.ok.inj resolved
    simp [compiled?, script.read, Except.toOption, parsed, compiles, all.listedUnit_eq, entries]

/-- A load uses the artifact and leaves it alone, or it cannot use it. -/
theorem loadScript_served_or_compiles (alike : services.commands.RegistersAlike)
    (caching : loader.config.enableCaching = true) :
    (loader.loadScript services path).value.2.disk = loader.disk ∨
      loader.served? services path = none ∧ loader.Compiles services path := by
  obtain ⟨registry, state, unloaded, -⟩ := unloadOld_spec services path loader
  rcases loadCached_cases services path (loader.unloadOld services path).value with
    ⟨unit, infos, after, -, hit⟩ | ⟨result, after, disk, absent, none, -, miss⟩
  · refine .inl ?_
    rw [(loadScript_of_hit caching hit).1, unloaded]
  · refine .inr ⟨?_, fun info => ?_⟩
    · have same : (loader.unloadOld services path).value.served? services path = loader.served? services path := by
        rw [unloaded]
        exact served?_eq alike rfl rfl
      rw [← same, served?, config_unloadOld, if_pos caching, absent]
    · rw [miss]
      exact none info

/-- What a load has stored is what its text compiles to. -/
theorem takesCurrent_of_compiles (deterministic : services.Deterministic parse) {earlier now : Loader σ}
    (compiles : earlier.Compiles services path) (config : now.config = earlier.config)
    (script : earlier.disk.Holds path content time) (unchanged : now.disk.Holds path content time)
    (kept : (now.disk.read (now.cache.artifactOf path)).toOption =
      ((earlier.loadScript services path).value.2.disk.read (now.cache.artifactOf path)).toOption) :
    now.TakesCurrent services parse path content := by
  intro unit infos served
  obtain ⟨caching, artifact, -⟩ := of_served served
  obtain ⟨bytes, stored, nowTime, holds, modified, decoded⟩ := artifactUnit?_eq_some.mp artifact
  have sameTime : nowTime = time := Except.ok.inj (modified.symm.trans unchanged.modified)
  rw [holds.read] at kept
  obtain ⟨storedThen, left⟩ := Disk.exists_holds_of_read (toOption_eq_some.mp kept.symm)
  rw [cache, config] at left
  rw [config] at caching
  obtain ⟨root, values, state, parsed, encoded, -⟩ :=
    madeFrom_of_compiles deterministic.reader caching script compiles left
  rw [sameTime, Artifact.decode_of_encode encoded, if_pos rfl] at decoded
  refine ⟨root, parsed, fun values' state' => ?_⟩
  rw [← Except.ok.inj decoded]
  exact Compile.compileFile_unit_eq deterministic.steady path root values' values state' state

/-- An unchanged script brings the same, if the artifact is what the load has left or makes no difference. -/
theorem brings_unchanged (deterministic : services.Deterministic parse) {earlier now : Loader σ}
    (config : now.config = earlier.config) (script : earlier.disk.Holds path content time)
    (unchanged : now.disk.Holds path content time)
    (artifact : (now.disk.read (now.cache.artifactOf path)).toOption =
        ((earlier.loadScript services path).value.2.disk.read (now.cache.artifactOf path)).toOption ∨
      earlier.TakesCurrent services parse path content ∧ now.TakesCurrent services parse path content) :
    now.brings services parse path = earlier.brings services parse path := by
  have text : (now.disk.read path).toOption = (earlier.disk.read path).toOption := by rw [script.read, unchanged.read]
  have same_of_current (earlierCurrent : earlier.TakesCurrent services parse path content)
      (nowCurrent : now.TakesCurrent services parse path content) :
      now.brings services parse path = earlier.brings services parse path := by
    rw [brings_of_current nowCurrent unchanged, brings_of_current earlierCurrent script]
    exact compiled?_eq deterministic.steady text
  rcases artifact with kept | ⟨earlierCurrent, nowCurrent⟩
  · cases caching : earlier.config.enableCaching with
    | false =>
      rw [brings, brings, served?, served?, config, caching]
      exact compiled?_eq deterministic.steady text
    | true =>
      rcases loadScript_served_or_compiles deterministic.alike caching with alone | ⟨fresh, compiles⟩
      · -- The load has left the artifact that it has used.
        refine brings_eq deterministic.steady deterministic.alike config ?_ text
        rw [alone, cache, config] at kept
        rw [artifactUnit?, artifactUnit?, cache, config, cache, kept, script.modifiedMillis, unchanged.modifiedMillis]
      · refine same_of_current (fun unit infos served => ?_)
          (takesCurrent_of_compiles deterministic compiles config script unchanged kept)
        rw [fresh] at served
        cases served
  · exact same_of_current earlierCurrent nowCurrent

theorem loadScript_eq_of_ok {info : ScriptInfo} (ok : (loader.loadScript services path).value.1 = .ok info) :
    (loader.loadScript services path).value = (.ok info, (loader.loadScript services path).value.2) := by
  rw [← ok]

theorem reload_of_ok {info : ScriptInfo} {after : Loader σ}
    (loaded : (loader.loadScript services path).value = (.ok info, after)) :
    (loader.reload services path).value = (.ok info, (after.subscribe services).value) := by
  simp [reload, loaded]

/--
A script was loaded in the life of a loader, and since then other files have come and gone while its content and its
time are the same. All artifacts that were used were made for the paths they were used for. The artifact of
the script is what the load has left, or an artifact that one of the two loads uses holds what the content compiles to.
Then a reload returns what the load has returned, whether or not that reported errors, and leaves the registry as
it is, but that the script's triggers have moved behind all others in their lists.
-/
theorem reload_moves_last (deterministic : services.Deterministic parse) {start earlier loaded now : Loader σ}
    {info : ScriptInfo} {pastDeeds deeds : List Deed} {pastJournal journal : List Activity} (new : start.registry = {})
    (past : Life services (LoadsOwn services) start pastDeeds pastJournal earlier)
    (own : earlier.TakesOwn services path) (load : (earlier.loadScript services path).value = (.ok info, loaded))
    (since : Life services (LoadsOwn services) loaded deeds journal now)
    (others : ∀ other ∈ deeds.filterMap Deed.path?, other.components ≠ path.components)
    (script : earlier.disk.Holds path content time) (unchanged : now.disk.Holds path content time)
    (artifact : (now.disk.read (now.cache.artifactOf path)).toOption =
        (loaded.disk.read (now.cache.artifactOf path)).toOption ∨
      earlier.TakesCurrent services parse path content ∧ now.TakesCurrent services parse path content) :
    (now.reload services path).value.1 = .ok info ∧
      now.registry.MovesLast path (now.reload services path).value.2.registry := by
  have empty : start.registry.Represents [] := by
    rw [new]
    exact Registry.represents_empty
  obtain ⟨before, represents, -⟩ := past.represents deterministic empty
  have isFrom {unit : CompiledUnit} {infos : List EventInfo}
      (brought : earlier.brings services parse path = some (unit, infos)) : unit.IsFrom path :=
    own.isFrom deterministic.proper brought
  obtain ⟨brought, arrived, parted⟩ := represents_loadScript deterministic represents isFrom
  rw [load] at arrived
  obtain ⟨installs, held, kept⟩ := since.represents deterministic arrived
  -- What the load has installed is all that there is of the script.
  have ownInstalls : installs.filter (Install.isAt path.components) = brought := by
    rw [kept path others]
    exact filter_isAt_brought before parted
  -- The reload brings the same once more.
  have sameConfig : now.config = earlier.config := by
    rw [since.config deterministic, ← config_loadScript deterministic path earlier, load]
  have same := brings_unchanged deterministic sameConfig script unchanged (by rw [load]; exact artifact)
  obtain ⟨again, reloaded, partedAgain⟩ := represents_loadScript deterministic held
    fun brought => isFrom (same.symm.trans brought)
  have sameInstalls : again = brought := by
    apply List.map_injective_iff.mpr parts_injective
    rw [partedAgain, parted, same]
  have succeeds : (now.loadScript services path).value.1 = .ok info := by
    rw [loadScript_eq_ok_iff deterministic, same, ← loadScript_eq_ok_iff deterministic, load]
  rw [reload_of_ok (loadScript_eq_of_ok succeeds)]
  refine ⟨rfl, held.movesLast path ?_⟩
  rw [ownInstalls, ← sameInstalls]
  exact reloaded.subscribe services.host

end

section Rehearsed

open Rehearsal

theorem takesOwn_of_fresh (fresh : (loader.served? services path).isNone = true) : loader.TakesOwn services path := by
  intro unit infos served
  rw [served] at fresh
  cases fresh

theorem takesOwn_of_scene {loader : Loader Desk}
    (served : (loader.served? sceneServices path).map Prod.fst =
      some (Compile.compileFile sceneServices path scene {} {}).value.1) : loader.TakesOwn sceneServices path := by
  intro unit infos taken
  rw [taken] at served
  have same : unit = (Compile.compileFile sceneServices path scene {} {}).value.1 := Option.some.inj served
  rw [same]
  exact Compile.compileFile_isFrom scene_deterministic.proper path scene {} {}

/-- A life that is but one load. -/
theorem life_of_load (own : loader.TakesOwn services path) :
    Life services (LoadsOwn services) loader [.load path (loader.loadScript services path).value.1]
      (loader.loadScript services path).activity (loader.loadScript services path).value.2 := by
  refine .step .born (.load path) fun other result same => ?_
  cases same
  exact own

/-- The copy of the scene has been loaded after it. -/
def twinScenes : Loader Desk := (twinStart.loadScript sceneServices ⟨"b.sk"⟩).value.2

/-- The scene is compiled first and served by its artifact then, and its triggers end up behind those of its copy. -/
theorem scene_moves_behind_copy :
    (twinScenes.served? sceneServices scenePath).isSome = true ∧
      (twinScenes.reload sceneServices scenePath).value.1 = .ok ⟨1, 2, 1⟩ ∧
      twinScenes.registry.MovesLast scenePath (twinScenes.reload sceneServices scenePath).value.2.registry := by
  obtain ⟨fresh, loads, copyFresh, served, script, unchanged, kept⟩ :
      (twinLoader.served? sceneServices scenePath).isNone = true ∧
      (twinLoader.loadScript sceneServices scenePath).value.1 = .ok ⟨1, 2, 1⟩ ∧
      (twinStart.served? sceneServices ⟨"b.sk"⟩).isNone = true ∧
      (twinScenes.served? sceneServices scenePath).isSome = true ∧
      twinLoader.disk.look scenePath = .ok (.file sceneContent 1000000) ∧
      twinScenes.disk.look scenePath = .ok (.file sceneContent 1000000) ∧
      (twinScenes.disk.read (twinScenes.cache.artifactOf scenePath)).toOption =
        (twinStart.disk.read (twinScenes.cache.artifactOf scenePath)).toOption := by
    decide +kernel
  let copied : Deed := .load ⟨"b.sk"⟩ (twinStart.loadScript sceneServices ⟨"b.sk"⟩).value.1
  have since : Life sceneServices (LoadsOwn sceneServices) twinStart [copied]
      (twinStart.loadScript sceneServices ⟨"b.sk"⟩).activity twinScenes :=
    life_of_load (takesOwn_of_fresh copyFresh)
  have others : ∀ other ∈ [copied].filterMap Deed.path?, other.components ≠ scenePath.components := by
    show ∀ other ∈ [(⟨"b.sk"⟩ : Path)], other.components ≠ scenePath.components
    decide
  exact ⟨served, @reload_moves_last Desk sceneServices sceneParse scenePath sceneContent 1000000 scene_deterministic
    twinLoader twinLoader twinStart twinScenes ⟨1, 2, 1⟩ [] [copied] [] _ rfl .born (takesOwn_of_fresh fresh)
    (loadScript_eq_of_ok loads) since others script unchanged (.inl kept)⟩

/-- Two scripts that share the place of their artifacts. -/
def sharedStart : Loader Desk :=
  { sceneLoader with
    config := { cacheDir := ⟨"../c"⟩ }
    disk := { entries := [.directory "" [
      .directory "x" [.file "a.sk" sceneContent 1000000], .directory "y" [.file "a.sk" [] 2000000]]] } }

def sharedPath : Path := ⟨"x/a.sk"⟩

def sharedStored : Loader Desk := (sharedStart.loadScript sceneServices sharedPath).value.2

/-- After the load of the first one, its text has changed, but not its time. -/
def sharedEdited : Loader Desk :=
  { sharedStored with disk := (sharedStored.disk.write sharedPath [2] 1000000).toOption.getD {} }

/-- The first one once more, served by its artifact. -/
def sharedLoaded : Loader Desk := (sharedEdited.loadScript sceneServices sharedPath).value.2

/-- Then the second one, whose artifact takes the place of the other. -/
def sharedTaken : Loader Desk := (sharedLoaded.loadScript sceneServices ⟨"y/a.sk"⟩).value.2

theorem sharedEdited_step : Step sceneServices sharedStored .edit [] sharedEdited :=
  .edit ((sharedStored.disk.write sharedPath [2] 1000000).toOption.getD {}) sharedStored.values sharedStored.state

/-- A load is served by an artifact of the script's former text, and the reload compiles the text. -/
theorem reload_without_artifact :
    (∃ deeds journal, Life sceneServices (LoadsOwn sceneServices) sharedStart deeds journal sharedEdited) ∧
    sharedEdited.TakesOwn sceneServices sharedPath ∧
    (sharedEdited.loadScript sceneServices sharedPath).value = (.ok ⟨1, 2, 1⟩, sharedLoaded) ∧
    (∃ deeds journal, Life sceneServices (LoadsOwn sceneServices) sharedLoaded deeds journal sharedTaken ∧
      ∀ other ∈ deeds.filterMap Deed.path?, other.components ≠ sharedPath.components) ∧
    sharedEdited.disk.Holds sharedPath [2] 1000000 ∧ sharedTaken.disk.Holds sharedPath [2] 1000000 ∧
    sharedTaken.TakesOwn sceneServices sharedPath ∧
    (sharedTaken.reload sceneServices sharedPath).value.1 = .ok ⟨1, 0, 0⟩ ∧
    sharedTaken.registry.loaded = ⟨2, 2, 1⟩ ∧
    (sharedTaken.reload sceneServices sharedPath).value.2.registry.loaded = ⟨2, 0, 0⟩ := by
  obtain ⟨fresh, served, loads, otherFresh, script, unchanged, freshAgain, outcome⟩ :
      (sharedStart.served? sceneServices sharedPath).isNone = true ∧
      (sharedEdited.served? sceneServices sharedPath).map Prod.fst =
        some (Compile.compileFile sceneServices sharedPath scene {} {}).value.1 ∧
      (sharedEdited.loadScript sceneServices sharedPath).value.1 = .ok ⟨1, 2, 1⟩ ∧
      (sharedLoaded.served? sceneServices ⟨"y/a.sk"⟩).isNone = true ∧
      sharedEdited.disk.look sharedPath = .ok (.file [2] 1000000) ∧
      sharedTaken.disk.look sharedPath = .ok (.file [2] 1000000) ∧
      (sharedTaken.served? sceneServices sharedPath).isNone = true ∧
      (sharedTaken.reload sceneServices sharedPath).value.1 = .ok ⟨1, 0, 0⟩ ∧
      sharedTaken.registry.loaded = ⟨2, 2, 1⟩ ∧
      (sharedTaken.reload sceneServices sharedPath).value.2.registry.loaded = ⟨2, 0, 0⟩ := by
    decide +kernel
  have stored : Life sceneServices (LoadsOwn sceneServices) sharedStart _ _ sharedStored :=
    life_of_load (takesOwn_of_fresh fresh)
  have since : Life sceneServices (LoadsOwn sceneServices) sharedLoaded _ _ sharedTaken :=
    life_of_load (takesOwn_of_fresh otherFresh)
  have others : ∀ other ∈ [(⟨"y/a.sk"⟩ : Path)], other.components ≠ sharedPath.components := by decide
  exact ⟨⟨_, _, stored.step sharedEdited_step nofun⟩, takesOwn_of_scene served, loadScript_eq_of_ok loads,
    ⟨_, _, since, others⟩, script, unchanged, takesOwn_of_fresh freshAgain, outcome⟩

end Rehearsed

end Loader

end TriggerScript
