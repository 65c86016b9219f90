import Mathlib.Algebra.BigOperators.Group.List.Basic
import TriggerScript.CompiledUnit
import TriggerScript.Table

/-!
# Counting scripts

Counts are added up component by component. They form a commutative monoid, in which a part that was
added can be taken away again, and the counts of a table are the sum over its keys.
-/

namespace TriggerScript

namespace ScriptInfo

instance : Zero ScriptInfo := ⟨{}⟩

instance : AddCommMonoid ScriptInfo where
  add_assoc first second third := by
    change add (add first second) third = add first (add second third)
    simp only [add, Nat.add_assoc]
  zero_add info := by
    change add {} info = info
    simp only [add, Nat.zero_add]
  add_zero info := by
    change add info {} = info
    simp only [add, Nat.add_zero]
  add_comm first second := by
    change add first second = add second first
    simp only [add, Nat.add_comm]
  nsmul := nsmulRec

theorem covers_add (part rest : ScriptInfo) : (part + rest).covers part = true := by
  change (add part rest).covers part = true
  simp [add, covers]

/-- A part that was added can be taken away again. -/
theorem subtract_add (part rest : ScriptInfo) : (part + rest).subtract part = rest := by
  change (add part rest).subtract part = rest
  simp only [add, subtract, Nat.add_sub_cancel_left]

end ScriptInfo

namespace Table

variable {κ ν : Type} [AddCommMonoid ν]

/-- All values of a table, added up. -/
def total (table : Table κ ν) : ν := (table.entries.map Prod.snd).sum

variable [DecidableEq κ]

theorem sum_insertEntry (key : κ) (extra : ν) (entries : List (κ × ν)) :
    ((insertEntry key ((entries.lookup key).getD 0 + extra) entries).map Prod.snd).sum =
      (entries.map Prod.snd).sum + extra := by
  induction entries with
  | nil => simp [insertEntry]
  | cons head rest inductionHypothesis =>
    obtain ⟨headKey, value⟩ := head
    by_cases atHead : key = headKey
    · subst atHead
      simp [insertEntry, add_right_comm]
    · simp [insertEntry, Ne.symm atHead, lookup_cons_ne, atHead, inductionHypothesis, add_assoc]

/-- What is added to the value of a key is added to the total. -/
theorem total_insert_add (table : Table κ ν) (key : κ) (extra : ν) :
    (table.insert key ((table.find? key).getD 0 + extra)).total = table.total + extra :=
  sum_insertEntry key extra table.entries

omit [AddCommMonoid ν] in
theorem filter_ne_of_not_mem {key : κ} {entries : List (κ × ν)} (absent : key ∉ entries.map Prod.fst) :
    (entries.filter fun entry => entry.1 ≠ key) = entries := by
  refine List.filter_eq_self.mpr fun entry member => decide_eq_true ?_
  rintro rfl
  exact absent (List.mem_map_of_mem member)

theorem sum_erase (key : κ) {entries : List (κ × ν)} (distinct : (entries.map Prod.fst).Nodup) :
    (entries.map Prod.snd).sum =
      (entries.lookup key).getD 0 + ((entries.filter fun entry => entry.1 ≠ key).map Prod.snd).sum := by
  induction entries with
  | nil => simp
  | cons head rest inductionHypothesis =>
    obtain ⟨headKey, value⟩ := head
    obtain ⟨headNew, restDistinct⟩ := List.nodup_cons.mp distinct
    by_cases atHead : key = headKey
    · subst atHead
      rw [List.filter_cons_of_neg (by simp), filter_ne_of_not_mem headNew]
      simp
    · rw [List.filter_cons_of_pos (by simpa using Ne.symm atHead), lookup_cons_ne _ _ atHead]
      simp only [List.map_cons, List.sum_cons, inductionHypothesis restDistinct, add_left_comm]

/-- The total is the value of a key and the total without the key. -/
theorem total_eq_add_erase (table : Table κ ν) (key : κ) :
    table.total = (table.find? key).getD 0 + (table.erase key).total :=
  sum_erase key table.distinct

end Table

end TriggerScript
