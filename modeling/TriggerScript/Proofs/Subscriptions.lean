import TriggerScript.Proofs.ByteOrder
import TriggerScript.Proofs.HostSilence
import TriggerScript.Proofs.OwnTriggers

/-!
# Asking the host for event types

During its life a loader asks the host for many event types, but for none of them twice. What it has asked
for it keeps on record, and after every batch and every reload nothing is missing there. One round of
questions comes in the order of the names' bytes, in whatever order the dispatch table lists them.
-/

namespace TriggerScript

namespace Registry

/-- The host has been asked for every event type that has triggers. -/
def AllSubscribed (registry : Registry) : Prop :=
  ∀ eventType, registry.triggersFor eventType ≠ [] → registry.isSubscribed eventType = true

theorem isSubscribed_iff {registry : Registry} {eventType : EventType} :
    registry.isSubscribed eventType = true ↔ eventType ∈ registry.subscribed := by
  rw [isSubscribed, List.contains_iff_mem]

/-! ## One round of questions -/

theorem mem_unsubscribed {registry : Registry} {eventType : EventType} :
    eventType ∈ registry.unsubscribed ↔
      eventType ∈ registry.dispatch.keys ∧ eventType ∉ registry.subscribed := by
  rw [unsubscribed, (List.mergeSort_perm _ _).mem_iff, List.mem_filter, Bool.not_eq_true', ← Bool.not_eq_true,
    isSubscribed_iff]

theorem nodup_unsubscribed (registry : Registry) : registry.unsubscribed.Nodup :=
  (List.mergeSort_perm _ _).nodup_iff.mpr (registry.dispatch.distinct.sublist List.filter_sublist)

theorem pairwise_unsubscribed (registry : Registry) :
    registry.unsubscribed.Pairwise fun first second => first.atMost second = true :=
  List.pairwise_mergeSort EventType.atMost_trans EventType.atMost_total _

/-- A round comes in the order of the names' bytes. -/
theorem unsubscribed_bytesPrecede (registry : Registry) :
    registry.unsubscribed.Pairwise fun first second =>
      Text.BytesPrecede (Text.toBytes first.name) (Text.toBytes second.name) :=
  registry.pairwise_unsubscribed.imp₂ (fun _ _ lower different => EventType.bytesPrecede_of_atMost lower different)
    registry.nodup_unsubscribed

/-- A round does not depend on the order of the table. -/
theorem unsubscribed_of_perm {registry other : Registry}
    (reordered : other.dispatch.entries.Perm registry.dispatch.entries)
    (same : other.subscribed = registry.subscribed) : other.unsubscribed = registry.unsubscribed := by
  refine List.Perm.eq_of_pairwise (fun _ _ _ _ => EventType.eq_of_atMost) other.pairwise_unsubscribed
    registry.pairwise_unsubscribed ?_
  refine (List.mergeSort_perm _ _).trans (.trans ?_ (List.mergeSort_perm _ _).symm)
  unfold isSubscribed
  rw [same]
  exact (reordered.map Prod.fst).filter _

theorem subscriptions_host (host : Host) (eventType : EventType) :
    subscriptions (host.subscribe eventType).activity = [eventType] := by
  have spared : ((host.noticesOn eventType).forM note).SparesHost := .forM fun _ => rfl
  rw [Host.subscribe, Recorded.activity_bind, subscriptions_append, spared.silent]
  rfl

theorem subscriptions_subscribe (registry : Registry) (host : Host) :
    subscriptions (registry.subscribe host).activity = registry.unsubscribed := by
  rw [subscribe, Recorded.activity_bind, subscriptions_append]
  -- A note is made before each question, and nothing is done behind the last one.
  refine (List.append_nil _).trans ?_
  generalize registry.unsubscribed = fresh
  induction fresh with
  | nil => rfl
  | cons eventType rest inductionHypothesis =>
    refine (subscriptions_append _ _).trans ?_
    rw [inductionHypothesis, Recorded.activity_bind, subscriptions_append, subscriptions_host]
    rfl

/-- After a round nothing is missing. -/
theorem subscribe_allSubscribed (registry : Registry) (host : Host) :
    (registry.subscribe host).value.2.AllSubscribed := by
  intro eventType filled
  rw [isSubscribed_iff]
  show eventType ∈ registry.subscribed ++ registry.unsubscribed
  rw [List.mem_append, mem_unsubscribed]
  by_cases known : eventType ∈ registry.subscribed
  · exact .inl known
  · refine .inr ⟨?_, known⟩
    -- A type without an entry has no triggers.
    apply Decidable.byContradiction
    intro absent
    apply filled
    show (registry.dispatch.find? eventType).getD [] = []
    rw [Table.find?, Table.lookup_eq_none_of_not_mem absent]
    rfl

end Registry

namespace Loader

variable {σ : Type} {services : Services σ}

/-! ## What the loader asks for -/

/-- What the host is asked for goes on record, and only what is not there yet. -/
structure Asks (before after : Loader σ) (activity : List Activity) : Prop where
  recorded : after.registry.subscribed = before.registry.subscribed ++ subscriptions activity
  distinct : before.registry.subscribed.Nodup → after.registry.subscribed.Nodup

namespace Asks

variable {before between after : Loader σ} {first second : List Activity}

theorem ofSilent (silent : subscriptions first = [])
    (same : after.registry.subscribed = before.registry.subscribed) : Asks before after first where
  recorded := by rw [silent, List.append_nil, same]
  distinct := by rw [same]; exact id

theorem trans (earlier : Asks before between first) (later : Asks between after second) :
    Asks before after (first ++ second) where
  recorded := by rw [later.recorded, earlier.recorded, subscriptions_append, List.append_assoc]
  distinct distinct := later.distinct (earlier.distinct distinct)

theorem subscribe (services : Services σ) (loader : Loader σ) :
    Asks loader (loader.subscribe services).value (loader.subscribe services).activity where
  recorded := by
    rw [Loader.subscribe, Recorded.activity_bind, subscriptions_append, Registry.subscriptions_subscribe]
    exact congrArg (loader.registry.subscribed ++ ·) (List.append_nil _).symm
  distinct distinct := by
    -- A round holds nothing twice, and nothing that is on record.
    refine List.nodup_append.mpr ⟨distinct, loader.registry.nodup_unsubscribed, fun known old new fresh => ?_⟩
    rintro rfl
    exact (Registry.mem_unsubscribed.mp fresh).2 old

end Asks

theorem Arrives.subscribed_eq {path : Path} {before after : Registry} {result : Except LoadError ScriptInfo}
    (arrives : Arrives path before result after) : after.subscribed = before.subscribed := by
  cases arrives <;> rfl

theorem subscribed_loadScript (services : Services σ) (path : Path) (loader : Loader σ) :
    (loader.loadScript services path).value.2.registry.subscribed = loader.registry.subscribed := by
  refine (loadScript_arrives services path loader).subscribed_eq.trans ?_
  obtain ⟨registry, state, unloaded, rfl⟩ := unloadOld_spec services path loader
  rw [unloaded]
  dsimp only
  split <;> rfl

theorem subscriptions_of_notices {activity : List Activity} (noted : activity.all Activity.isNotice = true) :
    subscriptions activity = [] := by
  refine List.filterMap_eq_nil_iff.mpr fun entry member => ?_
  have notice := List.all_eq_true.mp noted entry member
  cases entry with
  | noted => rfl
  | consulted => cases notice

/-- In every step, the loader asks as it should. -/
theorem Step.asks {loader after : Loader σ} {deed : Deed} {activity : List Activity}
    (step : Step services loader deed activity after) (proper : services.commands.SpareHost) :
    Asks loader after activity := by
  cases step with
  | load path =>
    exact .ofSilent (loadScript_sparesHost proper path loader).silent (subscribed_loadScript services path loader)
  | unload path =>
    refine .ofSilent (unload_sparesHost services path loader).silent ?_
    rw [unload_value]
    rfl
  | subscribe => exact .subscribe services loader
  | report log noted => exact .ofSilent (subscriptions_of_notices noted) rfl
  | makeDirectory path => exact .ofSilent rfl rfl
  | edit disk values state => exact .ofSilent rfl rfl

variable {allowed : Loader σ → Deed → Prop} {start loader : Loader σ} {deeds : List Deed} {journal : List Activity}

theorem Life.asks (life : Life services allowed start deeds journal loader) (proper : services.commands.SpareHost) :
    Asks start loader journal := by
  induction life with
  | born => exact .ofSilent rfl rfl
  | step _ step _ earlier => exact earlier.trans (step.asks proper)

/-! ## Completeness -/

theorem finishBatch_allSubscribed (services : Services σ) (loaded : ScriptInfo) (errorsBefore : Nat)
    (loader : Loader σ) : (loader.finishBatch services loaded errorsBefore).value.2.registry.AllSubscribed := by
  rw [finishBatch_value]
  exact loader.registry.subscribe_allSubscribed services.host

theorem loadFiles_allSubscribed (services : Services σ) (paths : List Path) (loader : Loader σ) :
    (loader.loadFiles services paths).value.2.registry.AllSubscribed := finishBatch_allSubscribed services _ _ _

theorem loadConcurrently_allSubscribed (services : Services σ) (paths : List Path) (loader : Loader σ) :
    (loader.loadConcurrently services paths).value.2.registry.AllSubscribed :=
  finishBatch_allSubscribed services _ _ _

theorem loadDirectory_allSubscribed (services : Services σ) (loader : Loader σ) :
    (loader.loadDirectory services).value.2.registry.AllSubscribed := by
  obtain ⟨log, activity, -, course⟩ := loadDirectory_eq services loader
  simp only [course, Recorded.value_bind]
  exact loadFiles_allSubscribed services _ _

theorem reload_allSubscribed {path : Path} {info : ScriptInfo} {after : Loader σ}
    (reloaded : (loader.reload services path).value = (.ok info, after)) : after.registry.AllSubscribed := by
  unfold reload at reloaded
  rw [Recorded.value_bind] at reloaded
  generalize (loader.loadScript services path).value = outcome at reloaded
  obtain ⟨error | info, loaded⟩ := outcome
  · cases reloaded
  · cases reloaded
    exact loaded.registry.subscribe_allSubscribed services.host

/--
The loader starts out having asked the host for nothing. Whatever happens then, it asks for no event type
twice, what it has asked for is on record, and nothing is ever struck from it. After every batch and every
reload that succeeds the host has been asked for all event types with triggers. One round of questions comes
in the order of the names' bytes, in whatever order the dispatch table lists them.
-/
theorem host_asked_once (proper : services.commands.SpareHost) (new : start.registry.subscribed = [])
    (life : Life services Unrestricted start deeds journal loader) :
    (subscriptions journal).Nodup ∧
    (∀ eventType, loader.registry.isSubscribed eventType = true ↔ eventType ∈ subscriptions journal) ∧
    (∀ laterDeeds laterJournal later, Life services Unrestricted loader laterDeeds laterJournal later →
      ∀ eventType, loader.registry.isSubscribed eventType = true → later.registry.isSubscribed eventType = true) ∧
    (∀ paths, (loader.loadFiles services paths).value.2.registry.AllSubscribed) ∧
    (∀ paths, (loader.loadConcurrently services paths).value.2.registry.AllSubscribed) ∧
    (loader.loadDirectory services).value.2.registry.AllSubscribed ∧
    (∀ path info after, (loader.reload services path).value = (.ok info, after) → after.registry.AllSubscribed) ∧
    ∀ (registry : Registry) (host : Host),
      let asked := subscriptions (registry.subscribe host).activity
      (asked.Pairwise fun first second =>
        Text.BytesPrecede (Text.toBytes first.name) (Text.toBytes second.name)) ∧
      ∀ dispatch, dispatch.entries.Perm registry.dispatch.entries →
        subscriptions ({ registry with dispatch }.subscribe host).activity = asked := by
  have asks := life.asks proper
  have record : loader.registry.subscribed = subscriptions journal := by
    rw [asks.recorded, new, List.nil_append]
  refine ⟨?_, ?_, ?_, ?_, ?_, ?_, ?_, ?_⟩
  · rw [← record]
    exact asks.distinct (new ▸ List.nodup_nil)
  · intro eventType
    rw [Registry.isSubscribed_iff, record]
  · intro laterDeeds laterJournal later further eventType subscribed
    rw [Registry.isSubscribed_iff] at subscribed ⊢
    rw [(further.asks proper).recorded]
    exact List.mem_append_left _ subscribed
  · exact fun paths => loadFiles_allSubscribed services paths loader
  · exact fun paths => loadConcurrently_allSubscribed services paths loader
  · exact loadDirectory_allSubscribed services loader
  · exact fun path info after => reload_allSubscribed
  · intro registry host
    simp only [Registry.subscriptions_subscribe]
    exact ⟨registry.unsubscribed_bytesPrecede, fun dispatch reordered => Registry.unsubscribed_of_perm reordered rfl⟩

section Rehearsed

open Rehearsal

/-- The scene was loaded and unloaded, and then its file was put back as it was. -/
def sceneWithdrawn : Loader Desk :=
  let loaded := (sceneLoader.loadFiles sceneServices [scenePath]).value.2
  { (loaded.unload sceneServices scenePath).value.2 with disk := sceneLoader.disk }

/-- What was done until the scene was withdrawn and loaded again. -/
def sceneJournal : List Activity :=
  let loaded := sceneLoader.loadFiles sceneServices [scenePath]
  loaded.activity ++ (loaded.value.2.unload sceneServices scenePath).activity ++ [] ++
    (sceneWithdrawn.reload sceneServices scenePath).activity

theorem sceneWithdrawn_life :
    ∃ deeds, Life sceneServices Unrestricted sceneLoader deeds sceneJournal
      (sceneWithdrawn.reload sceneServices scenePath).value.2 := by
  obtain ⟨_, loaded, -⟩ := loadFiles_lives sceneServices [scenePath] sceneLoader
  obtain ⟨_, again, -⟩ := reload_lives sceneServices scenePath sceneWithdrawn
  have unloaded := loaded.unrestricted.step (.unload scenePath) trivial
  exact ⟨_, (unloaded.step (.edit sceneLoader.disk _ _) trivial).trans again.unrestricted⟩

theorem scene_asked_once :
    sceneWithdrawn.registry.triggersFor ⟨"PlayerJoin"⟩ = [] ∧ subscriptions sceneJournal = [⟨"PlayerJoin"⟩] ∧
      (∃ deeds, Life sceneServices Unrestricted sceneLoader deeds sceneJournal
        (sceneWithdrawn.reload sceneServices scenePath).value.2) ∧
      (sceneWithdrawn.reload sceneServices scenePath).value.2.registry.isSubscribed ⟨"PlayerJoin"⟩ = true := by
  have withdrawn : sceneWithdrawn.registry.triggersFor ⟨"PlayerJoin"⟩ = [] := by decide +kernel
  have asked : subscriptions sceneJournal = [⟨"PlayerJoin"⟩] := by decide +kernel
  obtain ⟨deeds, life⟩ := sceneWithdrawn_life
  have once := @host_asked_once Desk sceneServices sceneLoader _ deeds sceneJournal (commands_spareHost _ _) rfl life
  exact ⟨withdrawn, asked, ⟨deeds, life⟩, (once.2.1 _).mpr (asked ▸ List.mem_cons_self)⟩

end Rehearsed

end Loader

end TriggerScript
