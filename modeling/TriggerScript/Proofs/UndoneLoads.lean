import TriggerScript.Proofs.CachedLoad
import TriggerScript.Proofs.LoadedCounts

/-!
# Undoing a load

A load and the unload of the same path look at a script in three ways: its triggers by the file that they
name, the counts by the record of the path, and its commands by the file that they were registered under.
The registry is put back as it was. So are the commands, except for those that were registered under no
file or under another one: the file that a command is given later comes too late for the registration.
-/

namespace TriggerScript

namespace Table

variable {κ ν : Type} [DecidableEq κ]

omit [DecidableEq κ] in
theorem eq_of_entries {left right : Table κ ν} (same : left.entries = right.entries) : left = right := by
  cases left
  cases same
  rfl

theorem filter_insertEntry (key : κ) (value : ν) (entries : List (κ × ν)) :
    ((insertEntry key value entries).filter fun entry => entry.1 ≠ key) =
      entries.filter fun entry => entry.1 ≠ key := by
  induction entries with
  | nil => simp [insertEntry]
  | cons head rest inductionHypothesis =>
    rw [insertEntry]
    split
    · next same => simp [same]
    · next different =>
      rw [List.filter_cons_of_pos (by simpa using different), inductionHypothesis,
        List.filter_cons_of_pos (by simpa using different)]

/-- A new key leaves no trace once it is erased. -/
theorem erase_insert {table : Table κ ν} {key : κ} (absent : table.find? key = none) (value : ν) :
    (table.insert key value).erase key = table := by
  apply eq_of_entries
  have missing : key ∉ table.entries.map Prod.fst := by
    intro member
    have found := mem_keys_iff.mp member
    rw [absent] at found
    cases found
  exact (filter_insertEntry key value table.entries).trans (filter_ne_of_not_mem missing)

theorem filterMap_insertEntry (change : ν → Option ν) (key : κ) (value : ν) {entries : List (κ × ν)}
    (same : change value = (entries.lookup key).bind change) :
    (insertEntry key value entries).filterMap (updated? change) = entries.filterMap (updated? change) := by
  induction entries with
  | nil =>
    have dropped : updated? change (key, value) = none := by
      rw [updated?, same]
      rfl
    exact List.filterMap_cons_none dropped
  | cons head rest inductionHypothesis =>
    obtain ⟨headKey, old⟩ := head
    by_cases atHead : key = headKey
    · subst atHead
      have updated : updated? change (key, value) = updated? change (key, old) := by
        rw [updated?, updated?, same]
        simp
      simp only [insertEntry, if_true, List.filterMap_cons, updated]
    · rw [lookup_cons_ne _ _ atHead] at same
      simp only [insertEntry, Ne.symm atHead, if_false, List.filterMap_cons, inductionHypothesis same]

/-- A value that is changed to what its key had anyway might as well not have been entered. -/
theorem update_insert {change : ν → Option ν} {table : Table κ ν} {key : κ} {value : ν}
    (same : change value = (table.find? key).bind change) :
    (table.insert key value).update change = table.update change :=
  eq_of_entries (filterMap_insertEntry change key value same)

omit [DecidableEq κ] in
theorem update_congr {change other : ν → Option ν} {table : Table κ ν}
    (same : ∀ entry ∈ table.entries, change entry.2 = other entry.2) : table.update change = table.update other := by
  apply eq_of_entries
  refine List.filterMap_congr fun entry member => ?_
  rw [updated?, updated?, same entry member]

omit [DecidableEq κ] in
theorem update_some (table : Table κ ν) : table.update some = table :=
  eq_of_entries List.filterMap_some

end Table

namespace Registry

/-- Nothing in a registry came from a path. -/
structure FreeOf (registry : Registry) (path : Path) : Prop where
  unloaded : registry.isLoaded path = false
  unbound : ∀ entry ∈ registry.dispatch.entries, ∀ trigger ∈ entry.2, trigger.isFrom path = false
  unhooked : ∀ entry ∈ registry.selfManaged, entry.2.isFrom path = false

/-- No event type has an empty list. -/
def Filled (registry : Registry) : Prop := ∀ entry ∈ registry.dispatch.entries, entry.2 ≠ []

/-- The registry without the event types that have an empty list, which neither installs nor unloads leave. -/
def tidy (registry : Registry) : Registry := { registry with dispatch := registry.dispatch.update nonempty? }

theorem tidy_eq_self {registry : Registry} (filled : registry.Filled) : registry.tidy = registry := by
  have same : registry.dispatch.update nonempty? = registry.dispatch := by
    refine (Table.update_congr fun entry member => ?_).trans (Table.update_some _)
    exact nonempty?_of_ne_nil (filled entry member)
  rw [tidy, same]

theorem update_enlist {dispatch : Table EventType (List Trigger)} {path : Path} {binding : EventType × Trigger}
    (own : binding.2.isFrom path = true) :
    (enlist dispatch binding).update (withoutFile? path) = dispatch.update (withoutFile? path) := by
  apply Table.update_insert
  have gone : [binding.2].filter (fun trigger => !trigger.isFrom path) = [] := by simp [own]
  rw [withoutFile?, List.filter_append, gone, List.append_nil]
  cases dispatch.find? binding.1 <;> rfl

theorem update_foldl_enlist {dispatch : Table EventType (List Trigger)} {path : Path}
    {bindings : List (EventType × Trigger)} (own : ∀ binding ∈ bindings, binding.2.isFrom path = true) :
    (bindings.foldl enlist dispatch).update (withoutFile? path) = dispatch.update (withoutFile? path) := by
  induction bindings generalizing dispatch with
  | nil => rfl
  | cons binding rest inductionHypothesis =>
    rw [List.foldl_cons, inductionHypothesis fun other member => own other (List.mem_cons_of_mem _ member),
      update_enlist (own binding List.mem_cons_self)]

theorem withoutFile?_of_others {path : Path} {triggers : List Trigger}
    (others : ∀ trigger ∈ triggers, trigger.isFrom path = false) : withoutFile? path triggers = nonempty? triggers := by
  have kept : triggers.filter (fun trigger => !trigger.isFrom path) = triggers := by
    refine List.filter_eq_self.mpr fun trigger member => ?_
    rw [others trigger member]
    rfl
  rw [withoutFile?, kept]

/-- Unloading what was just installed leaves a registry that had nothing of the path as it was. -/
theorem afterUnload_afterInstall {registry : Registry} (install : Install) (free : registry.FreeOf install.file) :
    let installed := registry.afterInstall install.file install.unit install.infos
    installed.fileInfo install.file = install.counts ∧ installed.afterUnload install.file = registry.tidy := by
  intro installed
  have absent := unrecorded_of_not_loaded free.unloaded
  have info : installed.fileInfo install.file = install.counts := by
    change ((registry.files.insert _ _).find? _).getD {} = _
    rw [Table.find?_insert, if_pos rfl, fileInfo_of_unrecorded absent]
    exact zero_add _
  have loaded : (registry.loaded + install.counts).subtract install.counts = registry.loaded := by
    rw [add_comm]
    exact ScriptInfo.subtract_add _ _
  have bound : (install.bindings.foldl enlist registry.dispatch).update (withoutFile? install.file) =
      registry.dispatch.update nonempty? := by
    rw [update_foldl_enlist fun binding member => install.own _ (Install.mem_of_bindings member)]
    apply Table.update_congr
    intro entry member
    exact withoutFile?_of_others (free.unbound entry member)
  have hooked : (registry.selfManaged ++ install.hooked).filter (fun entry => !entry.2.isFrom install.file) =
      registry.selfManaged := by
    have kept : registry.selfManaged.filter (fun entry => !entry.2.isFrom install.file) = registry.selfManaged := by
      simpa using free.unhooked
    have gone : install.hooked.filter (fun entry => !entry.2.isFrom install.file) = [] := by
      simpa using fun hooks trigger member => install.own trigger (Install.mem_of_hooked member)
    rw [List.filter_append, kept, gone, List.append_nil]
  refine ⟨info, ?_⟩
  rw [afterUnload, info]
  change ({ registry with
    loaded := (registry.loaded + install.counts).subtract install.counts
    files := (registry.files.insert install.file.components _).erase install.file.components
    dispatch := (install.bindings.foldl enlist registry.dispatch).update (withoutFile? install.file)
    selfManaged := (registry.selfManaged ++ install.hooked).filter _ } : Registry) = registry.tidy
  rw [loaded, Table.erase_insert absent, bound]
  exact congrArg (fun selfManaged => { registry.tidy with selfManaged }) hooked

end Registry

/-! ## Commands that are only added -/

/-- What is seen of the collaborators' state is a list, which a command is only ever added to. -/
structure Commands.Grow {σ α : Type} (commands : Commands σ) (view : σ → List α) : Prop where
  compile : ∀ node context state, view state <+: view (commands.compile node context state).value.2.2
  register : ∀ command state, view state <+: view (commands.register command state).2

section Growing

variable {σ α : Type} {services : Services σ} {view : σ → List α}

namespace Compile

theorem compileCommand_grows (grow : services.commands.Grow view) (node : Node) (session : Session σ) :
    view session.state <+: view (compileCommand services.commands node session).value.2.state := by
  have grown := grow.compile node (session.context.withEvent (some .command)) session.state
  simp only [compileCommand, Commands.compileSection, Recorded.value_bind]
  generalize (services.commands.compile node _ session.state).value = outcome at grown ⊢
  rcases outcome with ⟨reason | command, after, state⟩
  · exact grown
  · exact grown

theorem compileSection_grows (grow : services.commands.Grow view) (node : Node) (session : Session σ) :
    view session.state <+: view (compileSection services node session).value.2.state := by
  unfold compileSection
  cases SectionKind.of (Text.trim node.name) with
  | command =>
    simp only [Recorded.value_bind, Recorded.value_pure]
    exact compileCommand_grows grow node session
  | aliases | options | defaults | unbalanced | event =>
    simp only [Recorded.value_bind, Recorded.value_pure, Session.withContext]
    exact List.prefix_rfl

theorem compileTopLevel_grows (grow : services.commands.Grow view) (node : Node) (session : Session σ) :
    view session.state <+: view (compileTopLevel services node session).value.2.state := by
  unfold compileTopLevel
  dsimp only
  split
  · exact compileSection_grows grow node (session.withContext (session.context.atLine node.lineNumber))
  · exact List.prefix_rfl

theorem compileAll_grows (grow : services.commands.Grow view) (nodes : List Node) (session : Session σ) :
    view session.state <+: view (compileAll services nodes session).value.2.state := by
  induction nodes generalizing session with
  | nil => exact List.prefix_rfl
  | cons node rest inductionHypothesis =>
    exact (compileTopLevel_grows grow node session).trans (inductionHypothesis _)

theorem compileFile_grows (grow : services.commands.Grow view) (path : Path) (root : Node) (values : Variables)
    (state : σ) : view state <+: view (compileFile services path root values state).value.2.state :=
  compileAll_grows grow root.children ⟨.ofFile (some path), values, state⟩

end Compile

namespace Loader

theorem registerCommands_grows {commands : Commands σ} (grow : commands.Grow view) (restored : List Command)
    (state : σ) : view state <+: view (registerCommands commands restored state).value.2 := by
  induction restored generalizing state with
  | nil => exact List.prefix_rfl
  | cons command rest inductionHypothesis =>
    have grown := grow.register command state
    simp only [registerCommands, Commands.enter, Recorded.value_bind, Recorded.value_pure]
    generalize commands.register command state = outcome at grown ⊢
    rcases outcome with ⟨reason | _, state⟩
    · exact grown
    · exact grown.trans (inductionHypothesis state)

/-- An artifact leaves nothing in the collaborators' state but what its commands do. -/
theorem loadCached_state (services : Services σ) (path : Path) (loader : Loader σ) :
    (loader.loadCached services path).value.2.state = loader.state ∨
      ∃ restored, (loader.loadCached services path).value.2.state =
        (restoreCommands services.commands path restored loader.state).value.2 := by
  simp only [loadCached, Recorded.value_bind]
  generalize (loader.cache.load path loader.disk).value = outcome
  rcases outcome with ⟨error | _ | unit, disk⟩
  · exact .inl rfl
  · exact .inl rfl
  · simp only [restore, Recorded.value_bind]
    cases (Registry.resolve services.grammar unit.triggers).value with
    | error error => exact .inl rfl
    | ok infos =>
      refine .inr ⟨unit.commands, ?_⟩
      simp only [Recorded.value_bind]
      rcases (restoreCommands services.commands path unit.commands loader.state).value with ⟨error | _, state⟩
      · rfl
      · rfl

end Loader

end Growing

namespace Rehearsal

/-- Whether a command is registered under a file. -/
def isUnder (file : Path) (entry : String × Option Path) : Bool := entry.2.any (·.same file)

theorem register_grows (refused : List String) (command : Command) (desk : Desk) :
    desk.commands <+: (register refused command desk).2.commands := by
  unfold register
  split
  · exact List.prefix_rfl
  · exact List.prefix_append _ _

theorem commands_grow (grammar : Grammar) (refused : List String) : (commands grammar refused).Grow Desk.commands where
  compile node context desk := by
    simp only [commands, compileCommand, Recorded.value_bind]
    split
    · exact List.prefix_rfl
    · split
      · exact List.prefix_rfl
      · simp only [Recorded.value_bind]
        generalize (remarks node.children context).value = inside
        generalize (commandPayload grammar node (commandName node.name) inside).value.1 = payload
        have grown := register_grows refused
          ⟨commandName node.name, commandFile (commandName node.name) inside, payload⟩ desk
        generalize register refused _ desk = outcome at grown ⊢
        rcases outcome with ⟨reason | _, after⟩
        · exact grown
        · exact grown
  register := register_grows refused

/-- Of the commands that came last, those under the file go, and all others stay. -/
theorem unregister_commands {file : Path} {desk : Desk} {before added : List (String × Option Path)}
    (others : ∀ entry ∈ before, isUnder file entry = false) (grown : desk.commands = before ++ added) :
    (unregister file desk).2.commands = before ++ added.filter fun entry => !isUnder file entry := by
  have kept : before.filter (fun entry => !isUnder file entry) = before := by
    refine List.filter_eq_self.mpr fun entry member => ?_
    rw [others entry member]
    rfl
  change desk.commands.filter (fun entry => !isUnder file entry) = _
  rw [grown, List.filter_append, kept]

/-- Commands that are taken back because one of them was refused take no other command with them. -/
theorem restoreCommands_grows (grammar : Grammar) (refused : List String) {path : Path} {desk : Desk}
    (others : ∀ entry ∈ desk.commands, isUnder path entry = false) (restored : List Command) :
    desk.commands <+: (Loader.restoreCommands (commands grammar refused) path restored desk).value.2.commands := by
  have grown := Loader.registerCommands_grows (commands_grow grammar refused) restored desk
  simp only [Loader.restoreCommands, Commands.withdraw, Recorded.value_bind]
  generalize (Loader.registerCommands (commands grammar refused) restored desk).value = outcome at grown ⊢
  rcases outcome with ⟨error | _, after⟩
  · obtain ⟨added, grown⟩ := grown
    exact ⟨_, (unregister_commands others grown.symm).symm⟩
  · exact grown

/-- Reading a script leaves the registered commands alone. -/
def SparesCommands (reader : Reader Desk) : Prop :=
  ∀ path disk desk, (reader.read path disk desk).2.2.commands = desk.commands

theorem reader_sparesCommands (parse : Bytes → Except IoError Node) : SparesCommands (reader parse) := by
  intro path disk desk
  unfold reader
  dsimp only
  split
  · rfl
  · split
    · rfl
    · split <;> rfl

end Rehearsal

namespace Loader

open Rehearsal

variable {services : Services Desk} {grammar : Grammar} {refused : List String} {path : Path} {loader : Loader Desk}

theorem unloadOld_of_not_loaded (absent : loader.registry.isLoaded path = false) :
    (loader.unloadOld services path).value = loader := by
  unfold unloadOld
  rw [absent]
  rfl

/-! ## What a load adds to the commands -/

theorem loadFresh_commands (scripted : services.commands = commands grammar refused)
    (reads : SparesCommands services.reader) (path : Path) (loader : Loader Desk) :
    loader.state.commands <+: (loader.loadFresh services path).value.2.state.commands := by
  have same := reads path loader.disk loader.state
  simp only [loadFresh, Reader.readTree, Recorded.value_bind, Recorded.value_pure]
  generalize services.reader.read path loader.disk loader.state = outcome at same ⊢
  rcases outcome with ⟨error | root, disk, state⟩
  · rw [← same]
    exact List.prefix_rfl
  · obtain ⟨log, installed⟩ := installTree_value services path root { loader with disk, state }
    simp only [Recorded.value_bind, Recorded.value_pure, installed, finishLoad_value]
    have grow : services.commands.Grow Desk.commands := scripted ▸ commands_grow grammar refused
    rw [← same]
    exact Compile.compileFile_grows grow path root loader.values state

/-- A load adds commands to those of other files, also where an artifact was tried in vain. -/
theorem loadScript_commands (scripted : services.commands = commands grammar refused)
    (reads : SparesCommands services.reader) (absent : loader.registry.isLoaded path = false)
    (others : ∀ entry ∈ loader.state.commands, isUnder path entry = false) :
    loader.state.commands <+: (loader.loadScript services path).value.2.state.commands := by
  have tried : loader.state.commands <+: (loader.loadCached services path).value.2.state.commands := by
    rcases loadCached_state services path loader with same | ⟨restored, same⟩
    · exact ⟨[], by rw [same, List.append_nil]⟩
    · rw [same, scripted]
      exact restoreCommands_grows grammar refused others restored
  have ways := loadScript_cases services path loader
  dsimp only at ways
  rw [unloadOld_of_not_loaded absent] at ways
  generalize (loader.loadCached services path).value = attempt at ways tried
  rcases ways with ⟨info, -, loaded⟩ | ⟨start, rfl | ⟨rfl, -⟩, loaded⟩
  · rw [loaded]
    exact tried
  · rw [loaded]
    exact loadFresh_commands scripted reads path _
  · rw [loaded]
    exact tried.trans (loadFresh_commands scripted reads path _)

/-! ## Loading and unloading -/

/-- A script that is compiled is installed with triggers that name its path. -/
theorem loadFresh_installs (proper : services.commands.Advances) {info : ScriptInfo} {after : Loader Desk}
    (loads : (loader.loadFresh services path).value = (.ok info, after)) :
    ∃ install : Registry.Install, install.file = path ∧ install.counts = info ∧
      after.registry = loader.registry.afterInstall install.file install.unit install.infos := by
  simp only [loadFresh, Reader.readTree, Recorded.value_bind, Recorded.value_pure] at loads
  generalize services.reader.read path loader.disk loader.state = outcome at loads
  rcases outcome with ⟨error | root, disk, state⟩
  · cases loads
  · obtain ⟨log, installed⟩ := installTree_value services path root { loader with disk, state }
    simp only [Recorded.value_bind, Recorded.value_pure, installed, finishLoad_value] at loads
    cases loads
    have compiled := Compile.compileFile_isFrom proper path root loader.values state
    exact ⟨⟨⟨path, _, _⟩, isFrom_listedUnit services.grammar compiled⟩, rfl, rfl, rfl⟩

/--
A script is compiled and loaded where nothing of its path was registered, and is unloaded again. The unload
returns what the load did, and the registry is as it was, but for event types that had an empty list. Of the
commands that the load has added, those that were registered under the path are gone; the command registry
is as it was exactly if all of them were.
-/
theorem unload_undoes_load (scripted : services.commands = commands grammar refused)
    (reads : SparesCommands services.reader) (free : loader.registry.FreeOf path)
    (others : ∀ entry ∈ loader.state.commands, isUnder path entry = false)
    (compiles : loader.config.enableCaching = true → loader.Compiles services path)
    {info : ScriptInfo} {after : Loader Desk} (loads : (loader.loadScript services path).value = (.ok info, after)) :
    let undone := (after.unload services path).value
    undone.1 = info ∧ undone.2.registry = loader.registry.tidy ∧
      (loader.registry.Filled → undone.2.registry = loader.registry) ∧
      ∃ added, after.state.commands = loader.state.commands ++ added ∧
        undone.2.state.commands = loader.state.commands ++ added.filter (fun entry => !isUnder path entry) ∧
        (undone.2.state.commands = loader.state.commands ↔ ∀ entry ∈ added, isUnder path entry = true) := by
  have unloaded : (loader.unloadOld services path).value = loader := unloadOld_of_not_loaded free.unloaded
  have fresh : ∃ state disk, (({ loader with state, disk } : Loader Desk).loadFresh services path).value =
      (.ok info, after) := by
    cases caching : loader.config.enableCaching with
    | false =>
      rw [loadScript_without_cache caching, unloaded] at loads
      exact ⟨loader.state, loader.disk, loads⟩
    | true =>
      obtain ⟨state, disk, same, -⟩ := loadScript_of_compiles caching (compiles caching)
      rw [unloaded] at same
      exact ⟨state, disk, same.symm.trans loads⟩
  obtain ⟨state, disk, fresh⟩ := fresh
  have proper : services.commands.Advances := scripted ▸ commands_advances grammar refused
  obtain ⟨added, grown⟩ := loadScript_commands scripted reads free.unloaded others
  rw [loads] at grown
  obtain ⟨install, rfl, rfl, installed⟩ := loadFresh_installs proper fresh
  have restored := Registry.afterUnload_afterInstall install free
  have left : (services.commands.unregister install.file after.state).2.commands =
      loader.state.commands ++ added.filter fun entry => !isUnder install.file entry := by
    rw [scripted]
    exact unregister_commands others grown.symm
  rw [unload_value, installed]
  refine ⟨restored.1, restored.2, fun filled => ?_, added, grown.symm, left, ?_⟩
  · rw [restored.2, Registry.tidy_eq_self filled]
  · rw [left]
    simp

/-- A script with commands that are registered under its path, under no file, and under another one. -/
def scattered : Node :=
  .section "" [
    .section "on join" [.line "a" 2] 1,
    .section "every" [.line "c" 4] 3,
    .section "command /hello" [] 5,
    .section "command /nofile" [] 6,
    .section "command /foreign" [] 7] 0

def scatteredServices : Services Desk :=
  Rehearsal.services {} fun content => .ok (if content = sceneContent then scene else scattered)

def scatteredPath : Path := ⟨"b.sk"⟩

/-- The scene is loaded, and beside it lies the script with the scattered commands. -/
def scatteredStart : Loader Desk :=
  (({ sceneLoader with
      disk := { entries := [.directory "" [.file "a.sk" sceneContent 1000000, .file "b.sk" [2] 1000000]] } } :
    Loader Desk).loadScript scatteredServices scenePath).value.2

theorem scattered_undone :
    scatteredStart.state.commands = [("/hi", some scenePath)] ∧
      ∃ after, (scatteredStart.loadScript scatteredServices scatteredPath).value = (.ok ⟨1, 2, 3⟩, after) ∧
        (after.unload scatteredServices scatteredPath).value.1 = ⟨1, 2, 3⟩ ∧
        (after.unload scatteredServices scatteredPath).value.2.registry = scatteredStart.registry ∧
        (after.unload scatteredServices scatteredPath).value.2.state.commands =
          [("/hi", some scenePath), ("/nofile", none), ("/foreign", some ⟨"other.sk"⟩)] := by
  have ready : scatteredStart.state.commands = [("/hi", some scenePath)] ∧
      scatteredStart.registry.isLoaded scatteredPath = false ∧
      (∀ entry ∈ scatteredStart.registry.dispatch.entries, ∀ trigger ∈ entry.2,
        trigger.isFrom scatteredPath = false) ∧
      (∀ entry ∈ scatteredStart.registry.selfManaged, entry.2.isFrom scatteredPath = false) ∧
      (∀ entry ∈ scatteredStart.registry.dispatch.entries, entry.2 ≠ []) ∧
      (∀ entry ∈ scatteredStart.state.commands, isUnder scatteredPath entry = false) ∧
      ((scatteredStart.unloadOld scatteredServices scatteredPath).value.loadCached scatteredServices
        scatteredPath).value.1.toOption.join.isSome = false ∧
      (scatteredStart.loadScript scatteredServices scatteredPath).value.1.toOption = some ⟨1, 2, 3⟩ ∧
      (scatteredStart.loadScript scatteredServices scatteredPath).value.2.state.commands =
        [("/hi", some scenePath), ("/hello", some scatteredPath), ("/nofile", none),
          ("/foreign", some ⟨"other.sk"⟩)] := by
    decide +kernel
  obtain ⟨start, unloaded, unbound, unhooked, filled, others, missed, loaded, registered⟩ := ready
  have compiles : scatteredStart.Compiles scatteredServices scatteredPath := by
    intro info hit
    rw [hit] at missed
    cases missed
  rcases outcome : (scatteredStart.loadScript scatteredServices scatteredPath).value with ⟨error | info, after⟩
  · rw [outcome] at loaded
    cases loaded
  · rw [outcome] at loaded registered
    cases loaded
    obtain ⟨info, -, registry, added, grown, left, -⟩ :=
      @unload_undoes_load scatteredServices (Rehearsal.grammar []) [] scatteredPath scatteredStart rfl
        (reader_sparesCommands _) ⟨unloaded, unbound, unhooked⟩ others (fun _ => compiles) ⟨1, 2, 3⟩ after
        outcome
    rw [registered, start] at grown
    cases grown
    refine ⟨start, after, rfl, info, registry filled, ?_⟩
    rw [left, start]
    decide +kernel

/-- A script with one command, which is registered under no file. -/
def unfiled : Services Desk := Rehearsal.services {} fun _ => .ok (.section "" [.section "command /nofile x" [] 1] 0)

/-- A command that was registered under no file outlasts the script that it came with. -/
theorem unfiled_command_outlasts_unload :
    let after := (sceneLoader.loadScript unfiled scenePath).value
    let undone := (after.2.unload unfiled scenePath).value
    sceneLoader.state.commands = [] ∧ after.1.toOption = some ⟨1, 0, 1⟩ ∧ undone.1 = ⟨1, 0, 1⟩ ∧
      undone.2.registry.isLoaded scenePath = false ∧ undone.2.state.commands = [("/nofile x", none)] := by
  decide +kernel

end Loader

end TriggerScript
