import TriggerScript.Proofs.Counts
import TriggerScript.Registry

/-!
# The registry and its live installs

Files are installed and unloaded in any order, some of them again and again. What the registry holds
in the end is what the installs leave that no unloading undid: `Represents` reads the registry off the
list of these installs, one step keeps it true, and so does every run.
-/

namespace TriggerScript.Registry

/-- A unit to be installed for a file, with catalog entries. -/
structure Delivery where
  file : Path
  unit : CompiledUnit
  infos : List EventInfo

/-- A delivery whose triggers all come from its file. -/
structure Install extends Delivery where
  own : ∀ trigger ∈ unit.triggers, trigger.isFrom file = true

namespace Install

def counts (install : Install) : ScriptInfo := .of install.unit

/-- Whether the install is for the file with these components. -/
def isAt (key : List Path.Component) (install : Install) : Bool := install.file.components = key

/-- The bindings that the install makes, in order. -/
def bindings (install : Install) : List (EventType × Trigger) :=
  (bound install.unit.triggers install.infos).flatMap fun (trigger, info) =>
    bindingsOf trigger info

def hooked (install : Install) : List (Hooks × Trigger) :=
  (bound install.unit.triggers install.infos).flatMap fun (trigger, info) =>
    hooksOf trigger info

end Install

/-- The triggers that some bindings give an event type. -/
def boundTo (eventType : EventType) (bindings : List (EventType × Trigger)) : List Trigger :=
  (bindings.filter fun binding => binding.1 = eventType).map Prod.snd

/-! ## Runs -/

/-- An operation of the registry, on deliveries of some kind. Each may be done with other collaborators. -/
inductive Operation (σ ι : Type) where
  | install (installed : ι)
  | unload (file : Path) (commands : Commands σ) (state : σ)
  | subscribe (host : Host)

variable {σ : Type}

def Operation.map {ι κ : Type} (change : ι → κ) : Operation σ ι → Operation σ κ
  | .install installed => .install (change installed)
  | .unload file commands state => .unload file commands state
  | .subscribe host => .subscribe host

def perform (registry : Registry) : Operation σ Delivery → Recorded Registry
  | .install delivery => (·.2) <$> registry.install delivery.file delivery.unit delivery.infos
  | .unload file commands state => (·.2.1) <$> registry.unload file commands state
  | .subscribe host => (·.2) <$> registry.subscribe host

/-- Operations are performed one after the other. -/
def run (registry : Registry) : List (Operation σ Delivery) → Recorded Registry
  | [] => pure registry
  | operation :: later => do run (← registry.perform operation) later

/-- What becomes of the registry in a run whose deliveries are all of their files. -/
def after (registry : Registry) (operations : List (Operation σ Install)) : Registry :=
  (registry.run (operations.map (Operation.map Install.toDelivery))).value

/-- Whether an operation unloads the file of an install. -/
def Operation.undoes (install : Install) : Operation σ Install → Bool
  | .unload file _ _ => install.isAt file.components
  | .install _ | .subscribe _ => false

/-- The installs that no later operation undoes, in order. -/
def liveInstalls : List (Operation σ Install) → List Install
  | [] => []
  | .install install :: later =>
    -- A file may be installed again after it was unloaded, so only what comes later counts.
    if later.any (Operation.undoes install) then liveInstalls later else install :: liveInstalls later
  | .unload _ _ _ :: later | .subscribe _ :: later => liveInstalls later

/-! ## Lists that are not empty -/

section Lists

variable {α : Type}

@[simp] theorem nonempty?_nil : nonempty? ([] : List α) = none := rfl

theorem nonempty?_of_ne_nil {list : List α} (filled : list ≠ []) : nonempty? list = some list := by
  simp [nonempty?, filled]

@[simp] theorem getD_nonempty? (list : List α) : (nonempty? list).getD [] = list := by
  by_cases empty : list = []
  · simp [empty]
  · simp [nonempty?_of_ne_nil empty]

theorem nonempty?_ne_some_nil (list : List α) : nonempty? list ≠ some [] := by
  intro listed
  have empty := getD_nonempty? list
  rw [listed, Option.getD_some] at empty
  rw [← empty] at listed
  cases listed

theorem nonempty?_bind_filter (list : List α) (keep : α → Bool) :
    ((nonempty? list).bind fun list => nonempty? (list.filter keep)) = nonempty? (list.filter keep) := by
  by_cases empty : list = []
  · simp [empty]
  · simp [nonempty?_of_ne_nil empty]

end Lists

/-! ## What the registry holds -/

/-- The counts of the installs at some components, if there are any. -/
def recordAt? (installs : List Install) (key : List Path.Component) : Option ScriptInfo :=
  (nonempty? (installs.filter (Install.isAt key))).map fun own => (own.map Install.counts).sum

/-- The registry holds what some installs leave, in their order. -/
structure Represents (registry : Registry) (installs : List Install) : Prop where
  loaded : registry.loaded = (installs.map Install.counts).sum
  files : ∀ key, registry.files.find? key = recordAt? installs key
  dispatch : ∀ eventType,
    registry.dispatch.find? eventType = nonempty? (boundTo eventType (installs.flatMap Install.bindings))
  selfManaged : registry.selfManaged = installs.flatMap Install.hooked
  counted : registry.loaded = registry.files.total

/-! ## Bindings -/

theorem boundTo_append (eventType : EventType) (first second : List (EventType × Trigger)) :
    boundTo eventType (first ++ second) = boundTo eventType first ++ boundTo eventType second := by
  simp only [boundTo, List.filter_append, List.map_append]

theorem filter_boundTo (eventType : EventType) (keep : Trigger → Bool)
    (bindings : List (EventType × Trigger)) :
    (boundTo eventType bindings).filter keep =
      boundTo eventType (bindings.filter fun binding => keep binding.2) := by
  simp only [boundTo, List.filter_map, List.filter_filter, Bool.and_comm, Function.comp_def]

theorem find?_enlist {dispatch : Table EventType (List Trigger)} {eventType : EventType}
    {earlier : List Trigger} (before : dispatch.find? eventType = nonempty? earlier)
    (binding : EventType × Trigger) :
    (enlist dispatch binding).find? eventType =
      nonempty? (earlier ++ boundTo eventType [binding]) := by
  rw [enlist, Table.find?_insert]
  by_cases same : eventType = binding.1
  · subst same
    rw [before, getD_nonempty?, if_pos rfl, nonempty?_of_ne_nil (by simp [boundTo])]
    simp [boundTo]
  · simp [boundTo, same, Ne.symm same, before]

theorem find?_foldl_enlist {dispatch : Table EventType (List Trigger)} {eventType : EventType}
    {earlier : List Trigger} (before : dispatch.find? eventType = nonempty? earlier)
    (bindings : List (EventType × Trigger)) :
    (bindings.foldl enlist dispatch).find? eventType =
      nonempty? (earlier ++ boundTo eventType bindings) := by
  induction bindings generalizing dispatch earlier with
  | nil => simpa [boundTo] using before
  | cons binding rest inductionHypothesis =>
    rw [List.foldl_cons, inductionHypothesis (find?_enlist before binding), List.append_assoc,
      ← boundTo_append, List.singleton_append]

/-! ## Triggers of an install -/

theorem Install.isFrom_eq_isAt (install : Install) {trigger : Trigger}
    (member : trigger ∈ install.unit.triggers) (file : Path) :
    trigger.isFrom file = install.isAt file.components := by
  have own := install.own trigger member
  unfold Trigger.isFrom at own ⊢
  split at own
  · next source _ =>
    have sameFile : source.components = install.file.components := of_decide_eq_true own
    simp only [Path.same, sameFile, Install.isAt]
  · cases own

theorem eq_of_mem_bindingsOf {trigger : Trigger} {info : EventInfo} {binding : EventType × Trigger}
    (member : binding ∈ bindingsOf trigger info) : binding.2 = trigger := by
  unfold bindingsOf at member
  split at member
  · obtain ⟨eventType, _, rfl⟩ := List.mem_map.mp member
    rfl
  · cases member

theorem eq_of_mem_hooksOf {trigger : Trigger} {info : EventInfo} {entry : Hooks × Trigger}
    (member : entry ∈ hooksOf trigger info) : entry.2 = trigger := by
  unfold hooksOf at member
  split at member
  · cases member
  · rw [List.mem_singleton.mp member]

theorem Install.mem_of_bindings {install : Install} {binding : EventType × Trigger}
    (member : binding ∈ install.bindings) : binding.2 ∈ install.unit.triggers := by
  obtain ⟨pair, pairMember, bindingMember⟩ := List.mem_flatMap.mp member
  rw [eq_of_mem_bindingsOf bindingMember]
  exact (List.of_mem_zip pairMember).1

theorem Install.mem_of_hooked {install : Install} {entry : Hooks × Trigger}
    (member : entry ∈ install.hooked) : entry.2 ∈ install.unit.triggers := by
  obtain ⟨pair, pairMember, entryMember⟩ := List.mem_flatMap.mp member
  rw [eq_of_mem_hooksOf entryMember]
  exact (List.of_mem_zip pairMember).1

/-- To keep the triggers of a file, or all others, is to keep the installs of the file, or all others. -/
theorem filter_flatMap_parts {β : Type} {parts : Install → List (β × Trigger)} (keep : Bool → Bool)
    (own : ∀ {install part}, part ∈ parts install → part.2 ∈ install.unit.triggers)
    (file : Path) (installs : List Install) :
    ((installs.flatMap parts).filter fun part => keep (part.2.isFrom file)) =
      (installs.filter fun install => keep (install.isAt file.components)).flatMap parts := by
  induction installs with
  | nil => rfl
  | cons install rest inductionHypothesis =>
    -- All parts of one install are kept or dropped together.
    have sameTest : ∀ part ∈ parts install, keep (part.2.isFrom file) = keep (install.isAt file.components) :=
      fun part member => by rw [install.isFrom_eq_isAt (own member)]
    rw [List.flatMap_cons, List.filter_append, List.filter_congr sameTest, inductionHypothesis]
    cases kept : keep (install.isAt file.components) <;> simp [kept]

/-- To drop the triggers of a file is to drop the installs of the file. -/
theorem filter_flatMap_installs {β : Type} {parts : Install → List (β × Trigger)}
    (own : ∀ {install part}, part ∈ parts install → part.2 ∈ install.unit.triggers)
    (file : Path) (installs : List Install) :
    ((installs.flatMap parts).filter fun part => !part.2.isFrom file) =
      (installs.filter fun install => !install.isAt file.components).flatMap parts :=
  filter_flatMap_parts not own file installs

/-! ## Records -/

theorem getD_recordAt? (installs : List Install) (key : List Path.Component) :
    (recordAt? installs key).getD 0 = ((installs.filter (Install.isAt key)).map Install.counts).sum := by
  rw [recordAt?]
  by_cases empty : installs.filter (Install.isAt key) = []
  · simp [empty]
  · simp [nonempty?_of_ne_nil empty]

theorem recordAt?_append (installs : List Install) (install : Install) (key : List Path.Component) :
    recordAt? (installs ++ [install]) key =
      if key = install.file.components then some ((recordAt? installs key).getD 0 + install.counts)
      else recordAt? installs key := by
  split
  · next same =>
    have kept : Install.isAt key install = true := decide_eq_true same.symm
    rw [getD_recordAt?, recordAt?, List.filter_append, List.filter_cons_of_pos kept,
      nonempty?_of_ne_nil (by simp)]
    simp
  · next different =>
    have dropped : Install.isAt key install = false := decide_eq_false (Ne.symm different)
    simp [recordAt?, List.filter_append, dropped]

theorem recordAt?_filter (installs : List Install) (undone key : List Path.Component) :
    recordAt? (installs.filter fun install => !install.isAt undone) key =
      if key = undone then none else recordAt? installs key := by
  split
  · next same =>
    subst same
    simp [recordAt?, List.filter_filter]
  · next different =>
    have sameTest : ∀ install ∈ installs,
        (install.isAt key && !install.isAt undone) = install.isAt key := by
      intro install _
      simp only [Install.isAt]
      grind
    rw [recordAt?, List.filter_filter, List.filter_congr sameTest, recordAt?]

/-- The counts of all installs are those of one file and those of the others. -/
theorem sum_counts_eq_add (installs : List Install) (key : List Path.Component) :
    (installs.map Install.counts).sum =
      (recordAt? installs key).getD 0 +
        ((installs.filter fun install => !install.isAt key).map Install.counts).sum := by
  rw [getD_recordAt?, ← List.sum_append, ← List.map_append]
  exact ((List.filter_append_perm (Install.isAt key) installs).map Install.counts).sum_eq.symm

/-! ## One step -/

section Steps

variable {registry : Registry} {installs : List Install}

theorem represents_empty : Represents {} [] :=
  ⟨rfl, fun _ => rfl, fun _ => rfl, rfl, rfl⟩

theorem Represents.fileInfo_eq (represents : Represents registry installs) (file : Path) :
    registry.fileInfo file = (recordAt? installs file.components).getD 0 := by
  rw [fileInfo, represents.files]
  rfl

theorem Represents.install (represents : Represents registry installs) (install : Install) :
    Represents (registry.install install.file install.unit install.infos).value.2
      (installs ++ [install]) where
  loaded := by
    rw [List.map_append, List.sum_append, ← represents.loaded, List.map_singleton, List.sum_singleton]
    rfl
  files key := by
    rw [recordAt?_append, ← represents.files]
    refine (Table.find?_insert _ _ _ _).trans ?_
    split
    · next same =>
      subst same
      rfl
    · rfl
  dispatch eventType := by
    rw [List.flatMap_append, boundTo_append, List.flatMap_singleton]
    exact find?_foldl_enlist (represents.dispatch eventType) install.bindings
  selfManaged := by
    rw [List.flatMap_append, ← represents.selfManaged, List.flatMap_singleton]
    rfl
  counted :=
    (congrArg (· + install.counts) represents.counted).trans
      (Table.total_insert_add registry.files install.file.components install.counts).symm

/-- Without the counts of a file, those of the other installs are left. -/
theorem Represents.unload (represents : Represents registry installs) (file : Path) :
    Represents (registry.afterUnload file)
      (installs.filter fun install => !install.isAt file.components) where
  loaded := by
    -- The file's record is a part of the counts, so nothing is cut off at zero.
    have parted := represents.loaded.trans (sum_counts_eq_add installs file.components)
    rw [← represents.fileInfo_eq] at parted
    change registry.loaded.subtract (registry.fileInfo file) = _
    rw [parted, ScriptInfo.subtract_add]
  files key := by
    rw [recordAt?_filter, ← represents.files]
    exact Table.find?_erase _ _ _
  dispatch eventType := by
    rw [← filter_flatMap_installs Install.mem_of_bindings,
      ← filter_boundTo eventType fun trigger => !trigger.isFrom file]
    refine (Table.find?_update _ _ _).trans ?_
    rw [represents.dispatch]
    exact nonempty?_bind_filter _ _
  selfManaged := by
    rw [← filter_flatMap_installs Install.mem_of_hooked, ← represents.selfManaged]
    rfl
  counted := by
    have parted := represents.counted.trans (registry.files.total_eq_add_erase file.components)
    change registry.loaded.subtract (registry.fileInfo file) = (registry.files.erase file.components).total
    rw [parted]
    exact ScriptInfo.subtract_add _ _

theorem unload_eq_afterUnload (registry : Registry) (file : Path) (commands : Commands σ)
    (state : σ) : (registry.unload file commands state).value.2.1 = registry.afterUnload file := by
  -- Neither of the two notices that may be written has a part in the value.
  rw [Registry.unload]
  split <;> simp only [Recorded.value_bind] <;> split <;> rfl

theorem Represents.subscribe (represents : Represents registry installs) (host : Host) :
    Represents (registry.subscribe host).value.2 installs :=
  ⟨represents.loaded, represents.files, represents.dispatch, represents.selfManaged,
    represents.counted⟩

/-- Nothing is ever taken away that had not been counted. -/
theorem Represents.covers (represents : Represents registry installs) (file : Path) :
    registry.loaded.covers (registry.fileInfo file) = true := by
  rw [represents.loaded, sum_counts_eq_add installs file.components, ← represents.fileInfo_eq]
  exact ScriptInfo.covers_add _ _

end Steps

/-- The installs that are live after an operation. -/
def Operation.apply (installs : List Install) : Operation σ Install → List Install
  | .install added => installs ++ [added]
  | .unload file _ _ => installs.filter fun install => !install.isAt file.components
  | .subscribe _ => installs

theorem Represents.perform {registry : Registry} {installs : List Install}
    (represents : Represents registry installs) (operation : Operation σ Install) :
    Represents (registry.perform (operation.map Install.toDelivery)).value (operation.apply installs) := by
  cases operation with
  | install install => exact represents.install install
  | unload file commands state =>
    rw [Operation.map, Registry.perform, Recorded.value_map, unload_eq_afterUnload]
    exact represents.unload file
  | subscribe host => exact represents.subscribe host

/-! ## Whole runs -/

/-- The installs that some operations do not undo. -/
def surviving (operations : List (Operation σ Install)) (installs : List Install) : List Install :=
  installs.filter fun install => !operations.any (Operation.undoes install)

theorem surviving_cons (operation : Operation σ Install) (later : List (Operation σ Install))
    (installs : List Install) :
    surviving (operation :: later) installs ++ liveInstalls (operation :: later) =
      surviving later (operation.apply installs) ++ liveInstalls later := by
  cases operation with
  | install install =>
    cases undone : later.any (Operation.undoes install) <;>
      simp [surviving, liveInstalls, Operation.apply, Operation.undoes, undone]
  | unload file commands state =>
    simp [surviving, liveInstalls, Operation.apply, Operation.undoes, List.filter_filter,
      Bool.and_comm]
  | subscribe host => simp [surviving, liveInstalls, Operation.apply, Operation.undoes]

/-- A run leaves the installs that it does not undo, those before it and its own. -/
theorem Represents.after {registry : Registry} {installs : List Install}
    (represents : Represents registry installs) (operations : List (Operation σ Install)) :
    Represents (registry.after operations) (surviving operations installs ++ liveInstalls operations) := by
  -- The registry in front of the run is general: every step moves it on, with what is live in it.
  induction operations generalizing registry installs with
  | nil => simpa [Registry.after, run, surviving, liveInstalls] using represents
  | cons operation later inductionHypothesis =>
    rw [surviving_cons]
    exact inductionHypothesis (represents.perform operation)

theorem liveInstalls_map_install (installs : List Install) :
    liveInstalls (installs.map (.install : Install → Operation σ Install)) = installs := by
  induction installs with
  | nil => rfl
  | cons install rest inductionHypothesis =>
    have kept : (rest.map (.install : Install → Operation σ Install)).any (Operation.undoes install) = false := by
      simp [Operation.undoes]
    rw [List.map_cons, liveInstalls, kept, inductionHypothesis]
    rfl

/-- Two registries hold the same, up to the order of the keys in their tables. -/
structure Agrees (left right : Registry) : Prop where
  loaded : left.loaded = right.loaded
  files : ∀ key, left.files.find? key = right.files.find? key
  dispatch : ∀ eventType, left.dispatch.find? eventType = right.dispatch.find? eventType
  selfManaged : left.selfManaged = right.selfManaged

theorem Represents.agrees {left right : Registry} {installs : List Install}
    (leftRepresents : Represents left installs) (rightRepresents : Represents right installs) :
    left.Agrees right where
  loaded := leftRepresents.loaded.trans rightRepresents.loaded.symm
  files key := (leftRepresents.files key).trans (rightRepresents.files key).symm
  dispatch eventType := (leftRepresents.dispatch eventType).trans (rightRepresents.dispatch eventType).symm
  selfManaged := leftRepresents.selfManaged.trans rightRepresents.selfManaged.symm

/--
After every run the registry holds what its live installs leave, and agrees with the registry in which
only these are installed. Then no event type has an empty list, the counts are the sum of the files'
counts, and those of any file can be taken away.
-/
theorem run_agrees_with_replay (operations : List (Operation σ Install)) :
    let final := ({} : Registry).after operations
    let replayed := ({} : Registry).after ((liveInstalls operations).map (.install : Install → Operation σ Install))
    Represents final (liveInstalls operations) ∧
      final.Agrees replayed ∧
      (∀ eventType, final.dispatch.find? eventType ≠ some []) ∧
      final.loaded = final.files.total ∧
      ∀ file, final.loaded.covers (final.fileInfo file) = true := by
  intro final replayed
  have represents : Represents final (liveInstalls operations) := represents_empty.after operations
  have again : Represents replayed (liveInstalls operations) := by
    have represented :=
      represents_empty.after ((liveInstalls operations).map (.install : Install → Operation σ Install))
    rwa [liveInstalls_map_install] at represented
  refine ⟨represents, represents.agrees again, ?_, represents.counted, represents.covers⟩
  intro eventType
  rw [represents.dispatch]
  exact nonempty?_ne_some_nil _

end TriggerScript.Registry
