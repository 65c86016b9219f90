import TriggerScript.Proofs.Preparations
import TriggerScript.Proofs.RegistryReplay

/-!
# The balance of the hooks

A trigger of a kind that looks after itself is left to hooks. The registry tells them of the trigger when it is
installed and again when it goes away, and keeps a list of all that they hold. The calls are made apart from the list,
over any number of files, some of which share a trigger. `Balanced` holds a list against the calls that changed it:
nothing is ever taken from the hooks that they have not been given, and what they still have is the list.
-/

namespace TriggerScript

/-! ## Calls of hooks -/

namespace Activity

/-- What hooks are given, if the activity is such an order. -/
def registration? : Activity → Option (Hooks × Trigger)
  | .consulted (.register hooks trigger) => some (hooks, trigger)
  | _ => none

/-- What is taken from hooks, if the activity is such an order. -/
def withdrawal? : Activity → Option (Hooks × Trigger)
  | .consulted (.unregister hooks trigger) => some (hooks, trigger)
  | _ => none

end Activity

/-- What hooks are given in the course of some activity. -/
def registrations (activity : List Activity) : List (Hooks × Trigger) :=
  activity.filterMap Activity.registration?

/-- What is taken from hooks in the course of some activity. -/
def withdrawals (activity : List Activity) : List (Hooks × Trigger) :=
  activity.filterMap Activity.withdrawal?

@[simp] theorem registrations_append (first second : List Activity) :
    registrations (first ++ second) = registrations first ++ registrations second := List.filterMap_append

@[simp] theorem withdrawals_append (first second : List Activity) :
    withdrawals (first ++ second) = withdrawals first ++ withdrawals second := List.filterMap_append

/-- The orders to give hooks some triggers. -/
def givings (given : List (Hooks × Trigger)) : List Activity :=
  given.map fun entry => .consulted (.register entry.1 entry.2)

/-- The orders to take some triggers from hooks. -/
def takings (taken : List (Hooks × Trigger)) : List Activity :=
  taken.map fun entry => .consulted (.unregister entry.1 entry.2)

theorem registrations_givings (given : List (Hooks × Trigger)) : registrations (givings given) = given := by
  simp [registrations, givings, List.filterMap_map, Function.comp_def, Activity.registration?]

theorem withdrawals_givings (given : List (Hooks × Trigger)) : withdrawals (givings given) = [] := by
  simp [withdrawals, givings, List.filterMap_map, Function.comp_def, Activity.withdrawal?]

theorem registrations_takings (taken : List (Hooks × Trigger)) : registrations (takings taken) = [] := by
  simp [registrations, takings, List.filterMap_map, Function.comp_def, Activity.registration?]

theorem withdrawals_takings (taken : List (Hooks × Trigger)) : withdrawals (takings taken) = taken := by
  simp [withdrawals, takings, List.filterMap_map, Function.comp_def, Activity.withdrawal?]

theorem registrations_of_spares {activity : List Activity} (spares : activity.all Activity.sparesHooks = true) :
    registrations activity = [] := by
  refine List.filterMap_eq_nil_iff.mpr fun act member => ?_
  have spared := List.all_eq_true.mp spares act member
  unfold Activity.registration?
  split
  · cases spared
  · rfl

theorem withdrawals_of_spares {activity : List Activity} (spares : activity.all Activity.sparesHooks = true) :
    withdrawals activity = [] := by
  refine List.filterMap_eq_nil_iff.mpr fun act member => ?_
  have spared := List.all_eq_true.mp spares act member
  unfold Activity.withdrawal?
  split
  · cases spared
  · rfl

theorem activity_forM_consult {β : Type} (entries : List β) (order : β → Consultation) :
    (entries.forM fun entry => consult (order entry)).activity =
      entries.map fun entry => .consulted (order entry) := by
  induction entries with
  | nil => rfl
  | cons entry rest inductionHypothesis =>
    rw [List.map_cons, ← inductionHypothesis]
    rfl

/-! ## Balance -/

/--
From a list of what hooks hold, some activity that gives them something leads to another list. What they held and were
given is what they still hold and what was taken from them; and whenever something is taken, they have it.
-/
structure Balanced (before added : List (Hooks × Trigger)) (activity : List Activity)
    (after : List (Hooks × Trigger)) : Prop where
  given : registrations activity = added
  kept : (before ++ added).Perm (after ++ withdrawals activity)
  backed : ∀ {earlier later : List Activity} {hooks : Hooks} {trigger : Trigger},
    activity = earlier ++ .consulted (.unregister hooks trigger) :: later →
      (withdrawals earlier).count (hooks, trigger) < (before ++ registrations earlier).count (hooks, trigger)

namespace Balanced

variable {before between after added addedNext : List (Hooks × Trigger)} {first second activity : List Activity}

theorem quiet (held : List (Hooks × Trigger)) (spares : activity.all Activity.sparesHooks = true) :
    Balanced held [] activity held where
  given := registrations_of_spares spares
  kept := by rw [withdrawals_of_spares spares]
  backed := by
    rintro earlier later hooks trigger rfl
    simp [Activity.sparesHooks] at spares

theorem ofGivings (held added : List (Hooks × Trigger)) : Balanced held added (givings added) (held ++ added) where
  given := registrations_givings added
  kept := by rw [withdrawals_givings, List.append_nil]
  backed := by
    intro earlier later hooks trigger split
    have none := withdrawals_givings added
    rw [split, withdrawals_append] at none
    exact absurd (List.append_eq_nil_iff.mp none).2 (List.cons_ne_nil _ _)

theorem ofTakings {gone : List (Hooks × Trigger)} (parted : before.Perm (after ++ gone)) :
    Balanced before [] (takings gone) after where
  given := registrations_takings gone
  kept := by rwa [withdrawals_takings, List.append_nil]
  backed := by
    intro earlier later hooks trigger split
    -- What has been taken so far and what is taken now are both among what is gone.
    have withdrawn := withdrawals_takings gone
    rw [split, withdrawals_append] at withdrawn
    have counted := parted.count_eq (hooks, trigger)
    rw [List.count_append, ← withdrawn, List.count_append] at counted
    have present : 0 < (withdrawals (.consulted (.unregister hooks trigger) :: later)).count (hooks, trigger) :=
      List.count_pos_iff.mpr List.mem_cons_self
    rw [List.count_append]
    omega

theorem trans (earlier : Balanced before added first between) (later : Balanced between addedNext second after) :
    Balanced before (added ++ addedNext) (first ++ second) after where
  given := by rw [registrations_append, earlier.given, later.given]
  kept := by
    refine List.perm_iff_count.mpr fun entry => ?_
    have atFirst := earlier.kept.count_eq entry
    have inTheEnd := later.kept.count_eq entry
    simp only [withdrawals_append, List.count_append] at atFirst inTheEnd ⊢
    omega
  backed := by
    intro front back hooks trigger split
    have within : (∃ middle, front = first ++ middle ∧
        second = middle ++ .consulted (.unregister hooks trigger) :: back) ∨
        ∃ rest, first = front ++ .consulted (.unregister hooks trigger) :: rest := by
      rcases List.append_eq_append_iff.mp split with inSecond | ⟨_ | ⟨head, rest⟩, same, behind⟩
      · exact .inl inSecond
      · exact .inl ⟨[], by rw [same, List.append_nil, List.append_nil], behind.symm⟩
      · cases behind
        exact .inr ⟨rest, same⟩
    rcases within with ⟨middle, rfl, inSecond⟩ | ⟨rest, inFirst⟩
    · -- What was given and not taken at first is still held when the second part begins.
      have counted := earlier.kept.count_eq (hooks, trigger)
      have enough := later.backed inSecond
      simp only [registrations_append, withdrawals_append, earlier.given, List.count_append] at counted enough ⊢
      omega
    · exact earlier.backed inFirst

/-- Nothing is heard of what comes after. -/
theorem andThen (earlier : Balanced before added first after) (spares : second.all Activity.sparesHooks = true) :
    Balanced before added (first ++ second) after := by
  have both := earlier.trans (quiet after spares)
  rwa [List.append_nil] at both

end Balanced

/-! ## The registry -/

namespace Registry

variable {σ : Type}

/-- What hooks are given when triggers with these catalog entries are installed. -/
def hooked (pairs : List (Trigger × EventInfo)) : List (Hooks × Trigger) :=
  pairs.flatMap fun (trigger, info) => hooksOf trigger info

theorem install_balanced (registry : Registry) (file : Path) (unit : CompiledUnit) (infos : List EventInfo) :
    Balanced registry.selfManaged (hooked (bound unit.triggers infos)) (registry.install file unit infos).activity
      (registry.install file unit infos).value.2.selfManaged := by
  let given := hooked (bound unit.triggers infos)
  have orders : (given.forM fun pair => consult (.register pair.1 pair.2)).activity = givings given :=
    activity_forM_consult given _
  have balanced := Balanced.ofGivings registry.selfManaged given
  rw [← orders] at balanced
  exact balanced.andThen rfl

/-- What an unloaded file leaves behind was there, and so was what is taken from the hooks. -/
theorem unload_balanced (registry : Registry) (file : Path) (commands : Commands σ) (state : σ) :
    Balanced registry.selfManaged [] (registry.unload file commands state).activity
      (registry.afterUnload file).selfManaged := by
  let gone := registry.selfManaged.filter fun pair => pair.2.isFrom file
  have parted : registry.selfManaged.Perm ((registry.afterUnload file).selfManaged ++ gone) :=
    (List.filter_append_perm _ registry.selfManaged).symm.trans List.perm_append_comm
  have orders : (gone.forM fun pair => consult (.unregister pair.1 pair.2)).activity = takings gone :=
    activity_forM_consult gone _
  have balanced := Balanced.ofTakings parted
  rw [← orders] at balanced
  -- Behind the hooks the commands are withdrawn, and a notice may be written in front and at the end.
  have behind : (commands.withdraw file state >>= fun withdrawn => do
      if withdrawn.1 ≠ (registry.fileInfo file).commands then
        note (.commandMismatch file (registry.fileInfo file).commands withdrawn.1)
      pure (registry.fileInfo file, registry.afterUnload file, withdrawn.2)).Only Activity.sparesHooks := by
    refine .bind rfl ?_
    dsimp only
    split <;> rfl
  unfold unload
  dsimp only
  split
  · exact (Balanced.quiet _ rfl).trans (balanced.andThen behind)
  · exact balanced.andThen behind

theorem subscribe_balanced (registry : Registry) (host : Host) :
    Balanced registry.selfManaged [] (registry.subscribe host).activity registry.selfManaged := by
  have spares : (registry.subscribe host).Only Activity.sparesHooks :=
    .bind (.forM fun _ => .bind rfl (.bind rfl (.forM fun _ => rfl))) rfl
  exact .quiet _ spares

/-! ## The dispatch table -/

theorem triggersFor_foldl_enlist (dispatch : Table EventType (List Trigger)) (eventType : EventType)
    (bindings : List (EventType × Trigger)) :
    ((bindings.foldl enlist dispatch).find? eventType).getD [] =
      (dispatch.find? eventType).getD [] ++ boundTo eventType bindings := by
  induction bindings generalizing dispatch with
  | nil => exact (List.append_nil _).symm
  | cons binding rest inductionHypothesis =>
    have parts : boundTo eventType (binding :: rest) = boundTo eventType [binding] ++ boundTo eventType rest :=
      boundTo_append eventType [binding] rest
    rw [List.foldl_cons, inductionHypothesis, enlist, Table.find?_insert, parts, ← List.append_assoc]
    by_cases same : eventType = binding.1
    · subst same
      simp [boundTo]
    · simp [boundTo, same, Ne.symm same]

theorem triggersFor_afterInstall (registry : Registry) (file : Path) (unit : CompiledUnit) (infos : List EventInfo)
    (eventType : EventType) :
    (registry.afterInstall file unit infos).triggersFor eventType =
      registry.triggersFor eventType ++ boundTo eventType
        ((bound unit.triggers infos).flatMap fun (trigger, info) => bindingsOf trigger info) :=
  triggersFor_foldl_enlist _ _ _

theorem triggersFor_afterUnload (registry : Registry) (file : Path) (eventType : EventType) :
    (registry.afterUnload file).triggersFor eventType =
      (registry.triggersFor eventType).filter fun trigger => !trigger.isFrom file := by
  unfold triggersFor
  rw [afterUnload, Table.find?_update]
  cases registry.dispatch.find? eventType with
  | none => rfl
  | some listed => exact getD_nonempty? _

/-- Only an entry that dispatches binds its trigger, and to its own event types. -/
theorem mem_boundTo_bindings {pairs : List (Trigger × EventInfo)} {eventType : EventType} {trigger : Trigger}
    (member : trigger ∈ boundTo eventType (pairs.flatMap fun (trigger, info) => bindingsOf trigger info)) :
    ∃ info types, (trigger, info) ∈ pairs ∧ info.delivery = .dispatched types ∧ eventType ∈ types := by
  obtain ⟨binding, kept, rfl⟩ := List.mem_map.mp member
  obtain ⟨listed, same⟩ := List.mem_filter.mp kept
  obtain ⟨⟨source, info⟩, paired, made⟩ := List.mem_flatMap.mp listed
  change binding ∈ bindingsOf source info at made
  unfold bindingsOf at made
  split at made
  · next types delivered =>
    obtain ⟨own, among, rfl⟩ := List.mem_map.mp made
    exact ⟨info, types, paired, delivered, of_decide_eq_true same ▸ among⟩
  · cases made

/-! ## Whole runs -/

/-- The triggers that an operation installs, with their catalog entries. -/
def Operation.installs : Operation σ Delivery → List (Trigger × EventInfo)
  | .install delivery => bound delivery.unit.triggers delivery.infos
  | .unload .. | .subscribe _ => []

theorem perform_balanced (registry : Registry) (operation : Operation σ Delivery) :
    Balanced registry.selfManaged (hooked operation.installs) (registry.perform operation).activity
      (registry.perform operation).value.selfManaged := by
  cases operation with
  | install delivery =>
    rw [perform, Recorded.activity_map]
    exact registry.install_balanced delivery.file delivery.unit delivery.infos
  | unload file commands state =>
    rw [perform, Recorded.activity_map, Recorded.value_map, unload_eq_afterUnload]
    exact registry.unload_balanced file commands state
  | subscribe host =>
    rw [perform, Recorded.activity_map]
    exact registry.subscribe_balanced host

theorem run_balanced (registry : Registry) (operations : List (Operation σ Delivery)) :
    Balanced registry.selfManaged (hooked (operations.flatMap Operation.installs)) (registry.run operations).activity
      (registry.run operations).value.selfManaged := by
  induction operations generalizing registry with
  | nil => exact .quiet _ rfl
  | cons operation later inductionHypothesis =>
    have parts : hooked ((operation :: later).flatMap Operation.installs) =
        hooked operation.installs ++ hooked (later.flatMap Operation.installs) := List.flatMap_append
    rw [parts]
    exact (registry.perform_balanced operation).trans (inductionHypothesis _)

/-- What stands in the dispatch table was there before, or the operation has bound it to an event type of its entry. -/
theorem mem_triggersFor_perform {registry : Registry} {operation : Operation σ Delivery} {eventType : EventType}
    {trigger : Trigger}
    (member : trigger ∈ (registry.perform operation).value.triggersFor eventType) :
    trigger ∈ registry.triggersFor eventType ∨
      ∃ info types, (trigger, info) ∈ operation.installs ∧ info.delivery = .dispatched types ∧ eventType ∈ types := by
  cases operation with
  | install delivery =>
    change trigger ∈ (registry.afterInstall delivery.file delivery.unit delivery.infos).triggersFor eventType at member
    rw [triggersFor_afterInstall] at member
    exact (List.mem_append.mp member).imp_right mem_boundTo_bindings
  | unload file commands state =>
    rw [perform, Recorded.value_map, unload_eq_afterUnload, triggersFor_afterUnload] at member
    exact .inl (List.mem_filter.mp member).1
  | subscribe host => exact .inl member

theorem mem_triggersFor_run {registry : Registry} {operations : List (Operation σ Delivery)} {eventType : EventType}
    {trigger : Trigger} (member : trigger ∈ (registry.run operations).value.triggersFor eventType) :
    trigger ∈ registry.triggersFor eventType ∨ ∃ info types, (trigger, info) ∈ operations.flatMap Operation.installs ∧
      info.delivery = .dispatched types ∧ eventType ∈ types := by
  induction operations generalizing registry with
  | nil => exact .inl member
  | cons operation later inductionHypothesis =>
    rw [List.flatMap_cons]
    rcases inductionHypothesis member with earlier | ⟨info, types, installed, rest⟩
    · exact (mem_triggersFor_perform earlier).imp_right fun ⟨info, types, installed, rest⟩ =>
        ⟨info, types, List.mem_append_left _ installed, rest⟩
    · exact .inr ⟨info, types, List.mem_append_right _ installed, rest⟩

/--
After any run of a new registry the hooks have been given exactly the triggers that were installed with an entry of
a kind that looks after itself. Those that they were given are those on the registry's list and those that were
taken from them again. Whenever a trigger is taken from some hooks, they have been given it more often than it was
taken from them before. What stands in the dispatch table was installed with an entry that dispatches it to that
event type; so a trigger whose kind always looks after itself never gets there.
-/
theorem hooks_balanced (operations : List (Operation σ Delivery)) :
    let run := ({} : Registry).run operations
    let installed := operations.flatMap Operation.installs
    registrations run.activity = hooked installed ∧
      (registrations run.activity).Perm (run.value.selfManaged ++ withdrawals run.activity) ∧
      (∀ earlier hooks trigger later,
        run.activity = earlier ++ .consulted (.unregister hooks trigger) :: later →
          (withdrawals earlier).count (hooks, trigger) < (registrations earlier).count (hooks, trigger)) ∧
      (∀ eventType trigger, trigger ∈ run.value.triggersFor eventType →
        ∃ info types, (trigger, info) ∈ installed ∧ info.delivery = .dispatched types ∧ eventType ∈ types) ∧
      ∀ kind,
        (∀ trigger info, (trigger, info) ∈ installed → trigger.event.kind = kind → info.isSelfManaging = true) →
          ∀ eventType trigger, trigger ∈ run.value.triggersFor eventType → trigger.event.kind ≠ kind := by
  intro run installed
  have balanced : Balanced [] (hooked installed) run.activity run.value.selfManaged := run_balanced {} operations
  have dispatched (eventType : EventType) (trigger : Trigger) (member : trigger ∈ run.value.triggersFor eventType) :
      ∃ info types, (trigger, info) ∈ installed ∧ info.delivery = .dispatched types ∧ eventType ∈ types :=
    -- Nothing stands in the table of a new registry.
    (mem_triggersFor_run member).resolve_left (List.not_mem_nil)
  refine ⟨balanced.given, balanced.given ▸ balanced.kept, ?_, dispatched, ?_⟩
  · intro earlier hooks trigger later split
    exact balanced.backed split
  · intro kind managed eventType trigger member same
    obtain ⟨info, types, paired, delivery, -⟩ := dispatched eventType trigger member
    have self := managed trigger info paired same
    rw [EventInfo.isSelfManaging, delivery] at self
    cases self

/-- One trigger of a file is installed twice, with another file's in between, and the file is unloaded. -/
example :
    let timers : Hooks := ⟨"timers"⟩
    let first : Trigger := ⟨some ⟨"a.sk"⟩, "every", ⟨"every", "", .none⟩, []⟩
    let second : Trigger := { first with file := some ⟨"b.sk"⟩ }
    let entries : List EventInfo := [⟨"every", .selfManaged timers [⟨"Tick"⟩]⟩]
    let run := ({} : Registry).run
      [.install ⟨⟨"a.sk"⟩, ⟨[first], []⟩, entries⟩, .install ⟨⟨"b.sk"⟩, ⟨[second], []⟩, entries⟩,
        .install ⟨⟨"./b.sk"⟩, ⟨[first], []⟩, entries⟩, .unload ⟨"a.sk"⟩ .unsupported ()]
    registrations run.activity = [(timers, first), (timers, second), (timers, first)] ∧
      withdrawals run.activity = [(timers, first), (timers, first)] ∧
      run.value.selfManaged = [(timers, second)] ∧ run.value.triggersFor ⟨"Tick"⟩ = [] := by
  decide +kernel

end Registry

end TriggerScript
