import TriggerScript.Proofs.OwnTriggers

/-!
# What a load brings

A script comes from its artifact, if that can be used, and from its own text otherwise; if neither can be
used it does not come at all. `brings` says which unit a load installs, by what the disk holds for the
script. The variables and the state of the collaborators have no part in it.
-/

namespace TriggerScript

open Disk

/-- Whether a command is accepted does not depend on what was registered before. -/
def Commands.RegistersAlike {σ : Type} (commands : Commands σ) : Prop :=
  ∀ command state state', (commands.register command state).1 = (commands.register command state').1

theorem toOption_eq_some {ε α : Type} {result : Except ε α} {value : α} :
    result.toOption = some value ↔ result = .ok value := by
  cases result with
  | error error => exact ⟨nofun, nofun⟩
  | ok found => simp [Except.toOption]

/-- What can be read by a path depends on the file it holds. -/
theorem Disk.toOption_read_eq {left right : Disk} {path : Path}
    (same : ∀ content time, left.Holds path content time ↔ right.Holds path content time) :
    (left.read path).toOption = (right.read path).toOption := by
  apply Option.ext
  intro content
  rw [toOption_eq_some, toOption_eq_some]
  constructor <;> intro read
  · obtain ⟨time, holds⟩ := exists_holds_of_read read
    exact ((same content time).mp holds).read
  · obtain ⟨time, holds⟩ := exists_holds_of_read read
    exact ((same content time).mpr holds).read

namespace Loader

variable {σ : Type} {services : Services σ} {parse : Bytes → Except IoError Node} {path : Path}

theorem registerCommands_alike {commands : Commands σ} (alike : commands.RegistersAlike) (restored : List Command)
    (state state' : σ) :
    (registerCommands commands restored state).value.1 = (registerCommands commands restored state').value.1 := by
  induction restored generalizing state state' with
  | nil => rfl
  | cons command rest inductionHypothesis =>
    have same := alike command state state'
    unfold registerCommands Commands.enter
    dsimp only [Recorded.value_bind, Recorded.value_pure]
    generalize commands.register command state = first at same ⊢
    generalize commands.register command state' = second at same ⊢
    obtain ⟨answer, after⟩ := first
    obtain ⟨answer', after'⟩ := second
    cases same
    -- The same command is the first to be refused, whatever the states have become.
    cases answer with
    | error reason => rfl
    | ok _ => exact inductionHypothesis after after'

theorem restoreCommands_alike {commands : Commands σ} (alike : commands.RegistersAlike) (path : Path)
    (restored : List Command) (state state' : σ) :
    (restoreCommands commands path restored state).value.1 =
      (restoreCommands commands path restored state').value.1 := by
  have same := registerCommands_alike alike restored state state'
  unfold restoreCommands
  dsimp only [Recorded.value_bind]
  generalize (registerCommands commands restored state).value = first at same ⊢
  generalize (registerCommands commands restored state').value = second at same ⊢
  obtain ⟨answer, after⟩ := first
  obtain ⟨answer', after'⟩ := second
  cases same
  cases answer <;> rfl

/-! ## Units and where they come from -/

/-- The unit in the artifact of a script, if the artifact is that of the script as it is now. -/
def artifactUnit? (path : Path) (loader : Loader σ) : Option CompiledUnit :=
  (loader.disk.read (loader.cache.artifactOf path)).toOption.bind fun bytes =>
    (Artifact.decode bytes (loader.disk.modifiedMillis path)).toOption

/-- The unit of an artifact with its catalog entries, if all are listed and all commands are accepted. -/
def restored? (services : Services σ) (path : Path) (state : σ) (unit : CompiledUnit) :
    Option (CompiledUnit × List EventInfo) :=
  match (Registry.resolve services.grammar unit.triggers).value,
    (restoreCommands services.commands path unit.commands state).value.1 with
  | .ok infos, .ok () => some (unit, infos)
  | _, _ => none

/-- The unit of a script's text with its catalog entries. -/
def compiled? (services : Services σ) (parse : Bytes → Except IoError Node) (path : Path) (loader : Loader σ) :
    Option (CompiledUnit × List EventInfo) :=
  (loader.disk.read path).toOption.bind fun content => (parse content).toOption.map fun root =>
    let unit := (Compile.compileFile services path root loader.values loader.state).value.1
    (services.grammar.listedUnit unit, services.grammar.entriesOf unit)

/-- What a load takes from the artifact of its script, if it can use it. -/
def served? (services : Services σ) (path : Path) (loader : Loader σ) : Option (CompiledUnit × List EventInfo) :=
  if loader.config.enableCaching then (loader.artifactUnit? path).bind (restored? services path loader.state) else none

/-- What the load of a script installs, if it installs anything. -/
def brings (services : Services σ) (parse : Bytes → Except IoError Node) (path : Path) (loader : Loader σ) :
    Option (CompiledUnit × List EventInfo) :=
  (loader.served? services path).or (loader.compiled? services parse path)

/-- What a script's text is compiled to depends on the text. -/
theorem compiled?_eq (steady : services.Steady) {left right : Loader σ}
    (script : (left.disk.read path).toOption = (right.disk.read path).toOption) :
    left.compiled? services parse path = right.compiled? services parse path := by
  unfold compiled?
  simp only [script, Compile.compileFile_unit_eq steady path _ left.values right.values left.state right.state]

/-- What is taken from an artifact depends on the artifact. -/
theorem served?_eq (alike : services.commands.RegistersAlike) {left right : Loader σ}
    (config : left.config = right.config) (artifact : left.artifactUnit? path = right.artifactUnit? path) :
    left.served? services path = right.served? services path := by
  have restoredEq : restored? services path left.state = restored? services path right.state := by
    funext unit
    rw [restored?, restoreCommands_alike alike path unit.commands left.state right.state, restored?]
  rw [served?, served?, config, artifact, restoredEq]

/-- Loaders with the same configuration that see the same of a script bring the same. -/
theorem brings_eq (steady : services.Steady) (alike : services.commands.RegistersAlike) {left right : Loader σ}
    (config : left.config = right.config) (artifact : left.artifactUnit? path = right.artifactUnit? path)
    (script : (left.disk.read path).toOption = (right.disk.read path).toOption) :
    left.brings services parse path = right.brings services parse path := by
  rw [brings, brings, served?_eq alike config artifact, compiled?_eq steady script]

/-! ## The outcome of a load -/

/-- A load comes to what it brings: that is installed, and nothing on the disk changes but the artifact. -/
structure Outcome (path : Path) (brought : Option (CompiledUnit × List EventInfo)) (before : Loader σ)
    (outcome : Except LoadError ScriptInfo × Loader σ) : Prop where
  config : outcome.2.config = before.config
  disk : ChangesOnly (· = before.cache.place path before.disk) before.disk outcome.2.disk
  info : loadedInfo outcome.1 = (brought.map (ScriptInfo.of ·.1)).getD 0
  registry : outcome.2.registry =
    brought.elim before.registry fun (unit, infos) => before.registry.afterInstall path unit infos

theorem loadFresh_brings (reader : services.reader = .ofParser parse) (path : Path) (loader : Loader σ) :
    Outcome path (loader.compiled? services parse path) loader (loader.loadFresh services path).value := by
  cases read : loader.disk.read path >>= parse with
  | error error =>
    have none : loader.compiled? services parse path = none := by
      unfold compiled?
      cases content : loader.disk.read path with
      | error _ => rfl
      | ok bytes =>
        rw [content] at read
        change parse bytes = .error error at read
        simp [Except.toOption, read]
    rw [none, (loadFresh_error reader read).1]
    exact ⟨rfl, .refl _ _, rfl, rfl⟩
  | ok root =>
    obtain ⟨content, readContent, parsed⟩ := bind_eq_ok.mp read
    obtain ⟨log, installed⟩ := installTree_value services path root loader
    have some : loader.compiled? services parse path =
        let unit := (Compile.compileFile services path root loader.values loader.state).value.1
        some (services.grammar.listedUnit unit, services.grammar.entriesOf unit) := by
      simp [compiled?, readContent, parsed, Except.toOption]
    rw [some, (loadFresh_ok reader read).1, finishLoad_value, installed]
    generalize (Compile.compileFile services path root loader.values loader.state).value = compiled
    refine ⟨rfl, ?_, rfl, rfl⟩
    -- If anything is written, it is the artifact in the script's own place.
    have stored (stamp : Int64) :=
      (loader.cache.store_spec path stamp (services.grammar.listedUnit compiled.1) loader.disk).1
    dsimp only [cache] at stored ⊢
    split
    · split
      · exact stored _
      · exact .refl _ _
    · exact .refl _ _

/-- A load from the artifact brings its unit, or leaves all but the artifact and the state as it was. -/
theorem loadCached_cases (services : Services σ) (path : Path) (loader : Loader σ) :
    (∃ unit infos state,
      (loader.artifactUnit? path).bind (restored? services path loader.state) = some (unit, infos) ∧
      (loader.loadCached services path).value =
        (.ok (some (.of unit)),
          { loader with state, registry := loader.registry.afterInstall path unit infos })) ∨
    ∃ result state disk,
      (loader.artifactUnit? path).bind (restored? services path loader.state) = none ∧
      (∀ info, result ≠ .ok (some info)) ∧
      (disk = loader.disk ∨ disk = Cache.dropFile (loader.cache.artifactOf path) loader.disk) ∧
      (loader.loadCached services path).value = (result, { loader with state, disk }) := by
  have examined := loader.cache.examine_spec path (loader.disk.read (loader.cache.artifactOf path)) loader.disk
  have dropped := Cache.discard_value loader.cache path loader.disk
  rw [loadCached_eq, loadFound]
  simp only [Recorded.value_bind, artifactUnit?]
  generalize (loader.cache.examine path _ loader.disk).value = result at examined ⊢
  obtain ⟨found, disk⟩ := result
  have restored := restore_spec services path found { loader with disk }
  generalize hookCalls _ = hooks at restored
  generalize (({ loader with disk } : Loader σ).restore services path found).value = outcome at restored ⊢
  cases restored with
  | @hit unit infos state good resolved registered =>
    cases good
    cases examined with
    | good present decoded =>
      refine .inl ⟨unit, infos, state, ?_, rfl⟩
      simp [present, decoded, Except.toOption, restored?, resolved, registered]
  | missed none absent =>
    -- There is no artifact, or it was refused and has been deleted.
    refine .inr ⟨_, loader.state, disk, ?_, none, ?_, rfl⟩ <;> cases examined
    case missing unread => simp [unread, Except.toOption]
    case good => exact absurd rfl (absent _)
    case refused error bad =>
      cases read : loader.disk.read (loader.cache.artifactOf path) with
      | error _ => rfl
      | ok bytes =>
        cases decoded : Artifact.decode bytes (loader.disk.modifiedMillis path) with
        | error _ => simp [Except.toOption, decoded]
        | ok unit => exact absurd decoded (bad bytes unit read)
    case missing unread => exact .inl rfl
    case good => exact absurd rfl (absent _)
    case refused error bad => exact .inr dropped
  | @refused error state unit good unlisted =>
    cases good
    cases examined with
    | good present decoded =>
      refine .inr ⟨.error error, state, _, ?_, nofun, .inr dropped, rfl⟩
      simp only [present, decoded, Except.toOption, Option.bind_some]
      unfold restored?
      split
      · next infos resolved registered =>
        exact (unlisted infos resolved _ (Prod.ext registered rfl)).elim
      · rfl

theorem loadScript_brings (reader : services.reader = .ofParser parse) (steady : services.Steady)
    (loader : Loader σ) :
    let unloaded := (loader.unloadOld services path).value
    Outcome path (unloaded.brings services parse path) unloaded (loader.loadScript services path).value := by
  intro unloaded
  cases caching : loader.config.enableCaching with
  | false =>
    have off : unloaded.config.enableCaching = false := by rw [config_unloadOld, caching]
    rw [loadScript_without_cache caching, brings, served?, off]
    exact loadFresh_brings reader path unloaded
  | true =>
    have on : unloaded.config.enableCaching = true := by rw [config_unloadOld, caching]
    rw [brings, served?, on, if_pos rfl]
    rcases loadCached_cases services path unloaded with
      ⟨unit, infos, state, found, hit⟩ | ⟨result, state, disk, absent, none, left, miss⟩
    · rw [found, (loadScript_of_hit caching hit).1]
      exact ⟨rfl, .refl _ _, rfl, rfl⟩
    · rw [absent, (loadScript_of_miss caching none miss).1]
      have fresh := loadFresh_brings reader path { unloaded with state, disk }
      -- The attempt may have deleted the artifact, which is no part of the script's text.
      have dropped : ChangesOnly (· = unloaded.cache.place path unloaded.disk) unloaded.disk disk ∧
          (disk.read path).toOption = (unloaded.disk.read path).toOption := by
        rcases left with rfl | rfl
        · exact ⟨.refl _ _, rfl⟩
        · exact ⟨(Cache.dropFile_spec _ _).1, toOption_read_eq fun _ _ => unloaded.cache.holds_dropFile_artifact path⟩
      have sameUnit : Loader.compiled? services parse path { unloaded with state, disk } =
        unloaded.compiled? services parse path := compiled?_eq steady dropped.2
      have samePlace : unloaded.cache.place path disk = unloaded.cache.place path unloaded.disk :=
        dropped.1.destination_eq _ _
      rw [sameUnit] at fresh
      refine ⟨fresh.config, dropped.1.trans ?_, fresh.info, fresh.registry⟩
      rw [← samePlace]
      exact fresh.disk

end Loader

end TriggerScript
