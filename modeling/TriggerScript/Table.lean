/-!
# Tables

A table maps keys to values. It lists its keys in the order in which they were first entered; a new
value for an old key takes the place of the old one.
-/

namespace TriggerScript

structure Table (κ ν : Type) where
  entries : List (κ × ν)
  /-- No key is listed twice. -/
  distinct : (entries.map Prod.fst).Nodup
deriving DecidableEq, Repr

namespace Table

variable {κ ν : Type}

def empty : Table κ ν := ⟨[], List.nodup_nil⟩

instance : EmptyCollection (Table κ ν) := ⟨empty⟩

instance : Inhabited (Table κ ν) := ⟨empty⟩

variable [DecidableEq κ]

def find? (table : Table κ ν) (key : κ) : Option ν := table.entries.lookup key

def contains (table : Table κ ν) (key : κ) : Bool := (table.find? key).isSome

def keys (table : Table κ ν) : List κ := table.entries.map (·.1)

def size (table : Table κ ν) : Nat := table.entries.length

/-! ## Changes -/

def insertEntry (key : κ) (value : ν) : List (κ × ν) → List (κ × ν)
  | [] => [(key, value)]
  | (other, old) :: rest =>
    if other = key then (key, value) :: rest else (other, old) :: insertEntry key value rest

theorem mem_keys_insertEntry (key other : κ) (value : ν) (entries : List (κ × ν)) :
    other ∈ (insertEntry key value entries).map Prod.fst ↔
      other = key ∨ other ∈ entries.map Prod.fst := by
  induction entries with
  | nil => simp [insertEntry]
  | cons head rest inductionHypothesis =>
    rw [insertEntry]
    split
    · next same => simp [same]
    · rw [List.map_cons, List.mem_cons, inductionHypothesis, List.map_cons, List.mem_cons, or_left_comm]

theorem nodup_insertEntry (key : κ) (value : ν) {entries : List (κ × ν)}
    (distinct : (entries.map Prod.fst).Nodup) :
    ((insertEntry key value entries).map Prod.fst).Nodup := by
  induction entries with
  | nil => simp [insertEntry]
  | cons head rest inductionHypothesis =>
    obtain ⟨headNew, restDistinct⟩ := List.nodup_cons.mp distinct
    rw [insertEntry]
    split
    · next same => exact List.nodup_cons.mpr ⟨same ▸ headNew, restDistinct⟩
    · next different =>
      refine List.nodup_cons.mpr ⟨?_, inductionHypothesis restDistinct⟩
      rw [mem_keys_insertEntry]
      exact not_or.mpr ⟨different, headNew⟩

def insert (table : Table κ ν) (key : κ) (value : ν) : Table κ ν :=
  ⟨insertEntry key value table.entries, nodup_insertEntry key value table.distinct⟩

def erase (table : Table κ ν) (key : κ) : Table κ ν where
  entries := table.entries.filter fun entry => entry.1 ≠ key
  distinct := table.distinct.sublist (List.filter_sublist.map Prod.fst)

/-- The entry with a new value, or nothing if there is none. -/
def updated? (change : ν → Option ν) (entry : κ × ν) : Option (κ × ν) :=
  (change entry.2).map (entry.1, ·)

omit [DecidableEq κ] in
theorem keys_updated_sublist (change : ν → Option ν) (entries : List (κ × ν)) :
    ((entries.filterMap (updated? change)).map Prod.fst).Sublist (entries.map Prod.fst) := by
  induction entries with
  | nil => exact .slnil
  | cons head rest inductionHypothesis =>
    cases changed : change head.2 with
    | none =>
      rw [List.filterMap_cons_none (by rw [updated?, changed]; rfl)]
      exact inductionHypothesis.cons _
    | some value =>
      rw [List.filterMap_cons_some (by rw [updated?, changed]; rfl)]
      exact inductionHypothesis.cons_cons _

/-- Gives every value a new one, or drops its key. -/
def update (change : ν → Option ν) (table : Table κ ν) : Table κ ν where
  entries := table.entries.filterMap (updated? change)
  distinct := table.distinct.sublist (keys_updated_sublist change table.entries)

/-! ## What a key leads to after a change -/

theorem lookup_cons_ne {key other : κ} (value : ν) (rest : List (κ × ν)) (different : other ≠ key) :
    ((key, value) :: rest).lookup other = rest.lookup other := by
  have test : (other == key) = false := beq_eq_false_iff_ne.mpr different
  rw [List.lookup_cons, test]

theorem lookup_insertEntry (key other : κ) (value : ν) (entries : List (κ × ν)) :
    (insertEntry key value entries).lookup other =
      if other = key then some value else entries.lookup other := by
  induction entries with
  | nil =>
    by_cases same : other = key
    · simp [insertEntry, same]
    · simp [insertEntry, same, lookup_cons_ne]
  | cons head rest inductionHypothesis =>
    obtain ⟨headKey, headValue⟩ := head
    by_cases headSame : headKey = key
    · subst headSame
      by_cases same : other = headKey
      · simp [insertEntry, same]
      · simp [insertEntry, same, lookup_cons_ne]
    · by_cases atHead : other = headKey
      · subst atHead
        simp [insertEntry, headSame]
      · simp [insertEntry, headSame, lookup_cons_ne, atHead, inductionHypothesis]

@[simp] theorem find?_insert (table : Table κ ν) (key other : κ) (value : ν) :
    (table.insert key value).find? other = if other = key then some value else table.find? other :=
  lookup_insertEntry key other value table.entries

theorem lookup_filter_ne (key other : κ) (entries : List (κ × ν)) :
    (entries.filter fun entry => entry.1 ≠ key).lookup other =
      if other = key then none else entries.lookup other := by
  induction entries with
  | nil => simp
  | cons head rest inductionHypothesis =>
    obtain ⟨headKey, headValue⟩ := head
    by_cases headSame : headKey = key
    · rw [List.filter_cons_of_neg (by simpa using headSame), inductionHypothesis]
      by_cases same : other = key
      · simp [same]
      · simp [same, lookup_cons_ne, headSame]
    · rw [List.filter_cons_of_pos (by simpa using headSame)]
      by_cases atHead : other = headKey
      · subst atHead
        simp [headSame]
      · rw [lookup_cons_ne _ _ atHead, lookup_cons_ne _ _ atHead, inductionHypothesis]

@[simp] theorem find?_erase (table : Table κ ν) (key other : κ) :
    (table.erase key).find? other = if other = key then none else table.find? other :=
  lookup_filter_ne key other table.entries

theorem lookup_eq_none_of_not_mem {key : κ} {entries : List (κ × ν)}
    (absent : key ∉ entries.map Prod.fst) : entries.lookup key = none := by
  refine List.lookup_eq_none_iff.mpr fun entry member => bne_iff_ne.mpr ?_
  rintro rfl
  exact absent (List.mem_map_of_mem member)

theorem lookup_updated (change : ν → Option ν) (key : κ) {entries : List (κ × ν)}
    (distinct : (entries.map Prod.fst).Nodup) :
    (entries.filterMap (updated? change)).lookup key = (entries.lookup key).bind change := by
  induction entries with
  | nil => rfl
  | cons head rest inductionHypothesis =>
    obtain ⟨headKey, value⟩ := head
    obtain ⟨headNew, restDistinct⟩ := List.nodup_cons.mp distinct
    have restLookup := inductionHypothesis restDistinct
    by_cases atHead : key = headKey
    · subst atHead
      -- If the entry is dropped, no later one has its key.
      have restNone := lookup_eq_none_of_not_mem headNew
      cases changed : change value <;> simp [updated?, changed, restLookup, restNone]
    · cases changed : change value <;>
        simp [updated?, changed, restLookup, lookup_cons_ne, atHead]

@[simp] theorem find?_update (change : ν → Option ν) (table : Table κ ν) (key : κ) :
    (table.update change).find? key = (table.find? key).bind change :=
  lookup_updated change key table.distinct

@[simp] theorem find?_empty (key : κ) : ({} : Table κ ν).find? key = none := rfl

end Table

end TriggerScript
