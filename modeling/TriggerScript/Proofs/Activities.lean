import TriggerScript.Journal

/-!
# Kinds of activity

Often all that matters about what a step does on the way is what it does not do: whom it leaves alone, and what it
never reports. So a step is limited to some kinds of activity, and steps that keep to the same kinds can be put
together.
-/

namespace TriggerScript

/-- All activity is of a kind that is allowed. -/
def Recorded.Only {α : Type} (allowed : Activity → Bool) (recorded : Recorded α) : Prop :=
  recorded.activity.all allowed = true

namespace Recorded.Only

variable {α β : Type} {allowed : Activity → Bool} {recorded : Recorded α}

theorem mono {wider : Activity → Bool} (only : recorded.Only allowed)
    (widens : ∀ {activity : Activity}, allowed activity = true → wider activity = true) : recorded.Only wider :=
  List.all_eq_true.mpr fun activity member => widens (List.all_eq_true.mp only activity member)

theorem not_mem {activity : Activity} (only : recorded.Only allowed) (banned : allowed activity = false) :
    activity ∉ recorded.activity := by
  intro member
  exact Bool.false_ne_true (banned.symm.trans (List.all_eq_true.mp only activity member))

theorem bind {first : Recorded α} {next : α → Recorded β} (firstOnly : first.Only allowed)
    (nextOnly : (next first.value).Only allowed) : (first >>= next).Only allowed := by
  rw [Only, activity_bind, List.all_append, firstOnly, nextOnly, Bool.and_self]

theorem forM {list : List β} {act : β → Recorded Unit} (each : ∀ entry, (act entry).Only allowed) :
    (list.forM act).Only allowed := by
  induction list with
  | nil => rfl
  | cons entry rest inductionHypothesis => exact bind (each entry) inductionHypothesis

/-- A listener that passes over what is allowed has nothing to tell about it. -/
theorem filterMap_eq_nil {select : Activity → Option β} (only : recorded.Only allowed)
    (passesOver : ∀ activity, allowed activity = true → select activity = none) :
    recorded.activity.filterMap select = [] :=
  List.filterMap_eq_nil_iff.mpr fun activity member => passesOver activity (List.all_eq_true.mp only activity member)

end Recorded.Only

/-! ## Calls of hooks -/

/-- An order to hooks, if the activity is one. -/
def Activity.hookCall? : Activity → Option Consultation
  | .consulted (.register hooks trigger) => some (.register hooks trigger)
  | .consulted (.unregister hooks trigger) => some (.unregister hooks trigger)
  | _ => none

/-- The orders to hooks among some activity. -/
def hookCalls (activity : List Activity) : List Consultation := activity.filterMap Activity.hookCall?

@[simp] theorem hookCalls_nil : hookCalls [] = [] := rfl

@[simp] theorem hookCalls_append (first second : List Activity) :
    hookCalls (first ++ second) = hookCalls first ++ hookCalls second := List.filterMap_append

@[simp] theorem hookCalls_noted (notice : Notice) (rest : List Activity) :
    hookCalls (.noted notice :: rest) = hookCalls rest := rfl

theorem quiet_append {first second : List Activity} (firstQuiet : hookCalls first = [])
    (secondQuiet : hookCalls second = []) : hookCalls (first ++ second) = [] := by
  rw [hookCalls_append, firstQuiet, secondQuiet, List.append_nil]

/-- Nothing that hooks hear of. -/
def Activity.sparesHooks : Activity → Bool
  | .consulted (.register ..) | .consulted (.unregister ..) => false
  | _ => true

theorem hookCalls_eq_nil {α : Type} {recorded : Recorded α} (only : recorded.Only Activity.sparesHooks) :
    hookCalls recorded.activity = [] := by
  refine only.filterMap_eq_nil fun activity spares => ?_
  unfold Activity.hookCall?
  split
  · cases spares
  · cases spares
  · rfl

end TriggerScript
