import TriggerScript.Proofs.RejectedArtifacts
import TriggerScript.Proofs.UndoneLoads

/-!
# Commands from an artifact

The commands of an artifact are registered one after the other. If one of them is refused, those in front of it
have been registered already, and all commands of the script are withdrawn together. That leaves the command
registry as it was, provided that it held no command of the script before and that the commands of the artifact
are registered under the script.
-/

namespace TriggerScript

namespace Loader

variable {σ : Type} {commands : Commands σ} {command : Command} {state after : σ}

theorem registerCommands_cons_ok (accepted : commands.register command state = (.ok (), after)) (rest : List Command) :
    (registerCommands commands (command :: rest) state).value = (registerCommands commands rest after).value := by
  simp [registerCommands, Commands.enter, accepted]

theorem registerCommands_cons_error {reason : String}
    (refused : commands.register command state = (.error reason, after)) (rest : List Command) :
    (registerCommands commands (command :: rest) state).value = (.error (.command command.name reason), after) := by
  simp [registerCommands, Commands.enter, refused]

theorem restoreCommands_of_ok {restored : List Command}
    (registered : (registerCommands commands restored state).value = (.ok (), after)) (path : Path) :
    (restoreCommands commands path restored state).value = (.ok (), after) := by
  simp [restoreCommands, registered]

theorem restoreCommands_of_error {restored : List Command} {error : CacheError}
    (stopped : (registerCommands commands restored state).value = (.error error, after)) (path : Path) :
    (restoreCommands commands path restored state).value = (.error error, (commands.unregister path after).2) := by
  simp [restoreCommands, stopped, Commands.withdraw]

end Loader

/-! ## Registering and withdrawing -/

namespace Rehearsal

variable {grammar : Grammar} {refused : List String} {path : Path} {desk : Desk}

/-- The desk with some commands registered after those that are there. -/
def Desk.entered (desk : Desk) (added : List Command) : Desk :=
  { desk with commands := desk.commands ++ added.map fun command => (command.name, command.file) }

/-- Commands that are accepted are registered in order, and then it is up to those behind them. -/
theorem registerCommands_accepted {accepted : List Command} (welcome : ∀ command ∈ accepted, command.name ∉ refused)
    (later : List Command) (desk : Desk) :
    (Loader.registerCommands (commands grammar refused) (accepted ++ later) desk).value =
      (Loader.registerCommands (commands grammar refused) later (desk.entered accepted)).value := by
  induction accepted generalizing desk with
  | nil => simp [Desk.entered]
  | cons command rest inductionHypothesis =>
    have first : register refused command desk = (.ok (), desk.entered [command]) := by
      rw [register, if_neg (by simpa using welcome command List.mem_cons_self)]
      rfl
    have all : (desk.entered [command]).entered rest = desk.entered (command :: rest) := by
      simp [Desk.entered]
    rw [List.cons_append, Loader.registerCommands_cons_ok first, ← all]
    exact inductionHypothesis (fun other member => welcome other (List.mem_cons_of_mem _ member)) _

/-- To withdraw the commands of a script takes back those that were just registered under it, and no others. -/
theorem unregister_entered {added : List Command}
    (own : ∀ command ∈ added, isUnder path (command.name, command.file) = true)
    (others : ∀ entry ∈ desk.commands, isUnder path entry = false) :
    (unregister path (desk.entered added)).2 = desk := by
  have gone : (added.map fun command => (command.name, command.file)).filter (!isUnder path ·) = [] := by
    simpa using own
  have left : (unregister path (desk.entered added)).2.commands = desk.commands := by
    rw [unregister_commands others rfl, gone, List.append_nil]
  exact (Desk.mk.injEq ..).mpr ⟨left, rfl⟩

/-- Commands of which one is refused are restored as if none of them had been registered. -/
theorem restoreCommands_of_refused {accepted later : List Command} {command : Command}
    (welcome : ∀ earlier ∈ accepted, earlier.name ∉ refused) (unwelcome : command.name ∈ refused)
    (own : ∀ earlier ∈ accepted, isUnder path (earlier.name, earlier.file) = true)
    (others : ∀ entry ∈ desk.commands, isUnder path entry = false) :
    (Loader.restoreCommands (commands grammar refused) path (accepted ++ command :: later) desk).value =
      (.error (.command command.name "refused"), desk) := by
  have last : register refused command (desk.entered accepted) = (.error "refused", desk.entered accepted) := by
    rw [register, if_pos (by simpa using unwelcome)]
  have stopped := (registerCommands_accepted welcome (command :: later) desk).trans
    (@Loader.registerCommands_cons_error _ (commands grammar refused) _ _ _ _ last later)
  rw [Loader.restoreCommands_of_error stopped]
  exact congrArg (_, ·) (unregister_entered own others)

theorem restoreCommands_of_accepted {restored : List Command} (welcome : ∀ command ∈ restored, command.name ∉ refused) :
    (Loader.restoreCommands (commands grammar refused) path restored desk).value = (.ok (), desk.entered restored) := by
  have all := @registerCommands_accepted grammar refused restored welcome [] desk
  rw [List.append_nil] at all
  exact Loader.restoreCommands_of_ok all path

end Rehearsal

namespace Grammar

variable {grammar : Grammar} {triggers : List Trigger}

/-- The first trigger whose kind of event the catalog lacks. -/
def firstUnlisted? (grammar : Grammar) (triggers : List Trigger) : Option Trigger :=
  triggers.find? fun trigger => (grammar.eventInfo? trigger.event.kind).isNone

theorem exists_firstUnlisted (missing : ¬ grammar.ListsAll triggers) :
    ∃ first, grammar.firstUnlisted? triggers = some first := by
  rw [← Option.isSome_iff_exists, firstUnlisted?, List.find?_isSome]
  simpa [ListsAll] using missing

theorem split_at_firstUnlisted {first : Trigger} (found : grammar.firstUnlisted? triggers = some first) :
    ∃ known later, triggers = known ++ first :: later ∧ grammar.ListsAll known ∧
      grammar.eventInfo? first.event.kind = none := by
  obtain ⟨unlisted, known, later, split, listed⟩ := List.find?_eq_some_iff_append.mp found
  refine ⟨known, later, split, fun trigger member => ?_, by simpa using unlisted⟩
  simpa [Option.isSome_iff_ne_none] using listed trigger member

end Grammar

namespace Loader

/-! ## Loads from an artifact -/

section

variable {σ : Type} {services : Services σ} {path : Path} {loader : Loader σ} {without : Disk} {error : CacheError}
  {unit : CompiledUnit} {infos : List EventInfo} {state : σ}

theorem restore_of_refused (deletable : loader.disk.remove (loader.cache.artifactOf path) = .ok without)
    (resolved : (Registry.resolve services.grammar unit.triggers).value = .ok infos)
    (refused : (restoreCommands services.commands path unit.commands loader.state).value = (.error error, state)) :
    (loader.restore services path (.ok (some unit))).value =
      (.error error, { loader with state, disk := without }) := by
  have discarded := @discardArtifact_of_remove σ path { loader with state } without deletable
  simp only [restore, Recorded.value_bind, resolved, refused, discarded]
  rfl

theorem restore_of_registered (resolved : (Registry.resolve services.grammar unit.triggers).value = .ok infos)
    (registered : (restoreCommands services.commands path unit.commands loader.state).value = (.ok (), state)) :
    (loader.restore services path (.ok (some unit))).value =
      (.ok (some (.of unit)), { loader with state, registry := loader.registry.afterInstall path unit infos }) := by
  simp only [restore, Recorded.value_bind, resolved, registered]
  rfl

/-- The load from an artifact fails. The artifact is gone then, no hook was called, and all else is as it was. -/
structure Abandoned (services : Services σ) (path : Path) (loader : Loader σ) (error : CacheError) : Prop where
  result : (loader.loadCached services path).value.1 = .error error
  unchanged : ∃ without, loader.disk.remove (loader.cache.artifactOf path) = .ok without ∧
    (loader.loadCached services path).value.2 = { loader with disk := without }
  gone : (loader.loadCached services path).value.2.disk.read (loader.cache.artifactOf path) = .error .notFound
  quiet : hookCalls (loader.loadCached services path).activity = []

theorem Abandoned.of_value (deletable : loader.disk.remove (loader.cache.artifactOf path) = .ok without)
    (value : (loader.loadCached services path).value = (.error error, { loader with disk := without })) :
    loader.Abandoned services path error := by
  have quiet : hookCalls (loader.loadCached services path).activity = [] := by
    have tried := loadCached_spec services path loader
    rw [value] at tried
    generalize hookCalls (loader.loadCached services path).activity = called at tried
    cases tried
    rfl
  refine ⟨by rw [value], ⟨without, deletable, by rw [value]⟩, ?_, quiet⟩
  rw [value]
  exact Cache.read_of_remove deletable

end

section

open Rehearsal

variable {services : Services Desk} {grammar : Grammar} {refused : List String} {path : Path} {loader : Loader Desk}
  {bytes : Bytes} {unit : CompiledUnit}

/--
The commands of an artifact are all registered under the script, of which no command is there yet. If some of them
are refused, the load from the artifact fails with the first of these, and nothing is left of the commands before
it. If none is refused, the commands follow those that are there, in order. All that is so if the catalog has the
kinds of event of all triggers. If it lacks one, the load fails with the first trigger of such a kind, before the
commands are looked at.
-/
theorem commands_restored_all_or_none (recorded : services.commands = commands grammar refused)
    (artifact : loader.disk.read (loader.cache.artifactOf path) = .ok bytes)
    (decoded : Artifact.decode bytes (loader.disk.modifiedMillis path) = .ok unit)
    (own : ∀ command ∈ unit.commands, isUnder path (command.name, command.file) = true)
    (others : ∀ entry ∈ loader.state.commands, isUnder path entry = false) :
    (services.grammar.ListsAll unit.triggers →
      (∀ first, unit.commands.find? (fun command => decide (command.name ∈ refused)) = some first →
        loader.Abandoned services path (.command first.name "refused")) ∧
      ((∀ command ∈ unit.commands, command.name ∉ refused) →
        (loader.loadCached services path).value =
          (.ok (some (.of unit)),
            { loader with
              state := loader.state.entered unit.commands
              registry := loader.registry.afterInstall path unit (services.grammar.entriesOf unit) }))) ∧
    (¬ services.grammar.ListsAll unit.triggers →
      ∃ first, services.grammar.firstUnlisted? unit.triggers = some first ∧
        loader.Abandoned services path (.unknownEvent first.name first.event.kind) ∧
        (loader.loadCached services path).Only Activity.isInspection) := by
  obtain ⟨time, holds⟩ := Disk.exists_holds_of_read artifact
  obtain ⟨without, deletable⟩ := holds.remove
  have value : (loader.loadCached services path).value = (loader.restore services path (.ok (some unit))).value := by
    rw [loadCached_of_decoded artifact decoded]
    rfl
  refine ⟨fun listed => ⟨fun first found => ?_, fun welcome => ?_⟩, fun unlisted => ?_⟩
  · -- Only the commands in front of the first refused one have been registered when all are withdrawn.
    obtain ⟨unwelcome, accepted, later, split, welcome⟩ := List.find?_eq_some_iff_append.mp found
    rw [split] at own
    have undone := @restoreCommands_of_refused grammar refused path loader.state accepted later first
      (by simpa using welcome) (by simpa using unwelcome)
      (fun earlier member => own earlier (List.mem_append_left _ member)) others
    rw [← split, ← recorded] at undone
    exact .of_value deletable (value.trans (restore_of_refused deletable (Registry.resolve_value listed) undone))
  · have registered := @restoreCommands_of_accepted grammar refused path loader.state unit.commands welcome
    rw [← recorded] at registered
    exact value.trans (restore_of_registered (Registry.resolve_value listed) registered)
  · -- Triggers are resolved before any command is registered.
    obtain ⟨first, found⟩ := Grammar.exists_firstUnlisted unlisted
    obtain ⟨known, later, split, listed, missing⟩ := Grammar.split_at_firstUnlisted found
    obtain ⟨value, inspects⟩ :=
      loadCached_of_rejected artifact deletable (.unknownKind decoded split listed missing)
    exact ⟨first, found, .of_value deletable value, inspects⟩

/-- A script that has one command twice, and another one in between. -/
def doubled : Node :=
  .section "" [
    .section "on join" [.line "a" 2] 1,
    .section "command /a" [] 3,
    .section "command /b" [] 4,
    .section "command /a" [] 5] 0

def doubledServices (refused : List String) : Services Desk := Rehearsal.services { refused } fun _ => .ok doubled

/-- The artifact of the script is there from an earlier run, and other scripts have registered commands before. -/
def doubledStart : Loader Desk :=
  { (sceneLoader.loadScript (doubledServices []) scenePath).value.2.restart with
    state := { commands := [("/a", some ⟨"b.sk"⟩), ("/b", none)] } }

def doubledArtifact : Bytes := (doubledStart.disk.read (doubledStart.cache.artifactOf scenePath)).toOption.getD []

def doubledUnit : CompiledUnit := (Compile.compileFile (doubledServices []) scenePath doubled {} {}).value.1

theorem doubled_decoded :
    doubledStart.disk.read (doubledStart.cache.artifactOf scenePath) = .ok doubledArtifact ∧
      Artifact.decode doubledArtifact (doubledStart.disk.modifiedMillis scenePath) = .ok doubledUnit ∧
      (∀ command ∈ doubledUnit.commands, isUnder scenePath (command.name, command.file) = true) ∧
      (∀ entry ∈ doubledStart.state.commands, isUnder scenePath entry = false) ∧
      (∀ trigger ∈ doubledUnit.triggers, ((Rehearsal.grammar []).eventInfo? trigger.event.kind).isSome = true) ∧
      doubledUnit.commands.map (·.name) = ["/a", "/b", "/a"] ∧
      (doubledStart.state.entered doubledUnit.commands).commands =
        [("/a", some ⟨"b.sk"⟩), ("/b", none), ("/a", some scenePath), ("/b", some scenePath),
          ("/a", some scenePath)] := by
  decide +kernel

/-- If the command in between is refused, none of the commands is registered, and all of them otherwise. -/
theorem doubled_restored_all_or_none :
    doubledStart.Abandoned (doubledServices ["/b"]) scenePath (.command "/b" "refused") ∧
      (doubledStart.loadCached (doubledServices ["/c"]) scenePath).value.2.state.commands =
        [("/a", some ⟨"b.sk"⟩), ("/b", none), ("/a", some scenePath), ("/b", some scenePath),
          ("/a", some scenePath)] := by
  obtain ⟨artifact, decoded, own, others, listed, names, all⟩ := doubled_decoded
  have restored (refused : List String) :=
    (@commands_restored_all_or_none (doubledServices refused) (Rehearsal.grammar []) refused scenePath doubledStart
      doubledArtifact doubledUnit rfl artifact decoded own others).1 listed
  obtain ⟨first, rest, unit, firstName, names⟩ := List.map_eq_cons_iff.mp names
  obtain ⟨second, later, rfl, secondName, names⟩ := List.map_eq_cons_iff.mp names
  obtain ⟨third, _, rfl, thirdName, last⟩ := List.map_eq_cons_iff.mp names
  rw [List.map_eq_nil_iff] at last
  refine ⟨?_, ?_⟩
  · have abandoned := (restored ["/b"]).1 second (by simp [unit, firstName, secondName])
    rwa [secondName] at abandoned
  · have registered := (restored ["/c"]).2 (by simp [unit, last, firstName, secondName, thirdName])
    exact (congrArg (·.2.state.commands) registered).trans all

/-- The catalog has lost the kind of event that the script's trigger is for. -/
def doubledForgotten (refused : List String) : Services Desk :=
  Rehearsal.services { forgotten := ["join"], refused } fun _ => .ok doubled

/-- Whether a command is refused or none, the load fails over the kind of event, and no command is registered. -/
theorem doubled_unrestored_by_unlisted_kind :
    let refusing := (doubledStart.loadCached (doubledForgotten ["/b"]) scenePath).value
    let accepting := (doubledStart.loadCached (doubledForgotten []) scenePath).value
    (refusing.1 = .error (.unknownEvent "on join" "join") ∧
      refusing.2.state.commands = doubledStart.state.commands) ∧
    accepting.1 = .error (.unknownEvent "on join" "join") ∧
      accepting.2.state.commands = doubledStart.state.commands := by
  decide +kernel

end

end Loader

end TriggerScript
