/-!
# TOML tables

A table holds values, further tables, and arrays of tables under its keys. A table comes into being by
a header of its own, or unasked: as a part of a longer header, or as a part of a dotted key. What was
defined once cannot be defined again, and a table that has a header is closed to dotted keys.
-/

namespace TriggerScript.Toml

inductive Value where
  | text (content : String)
  | truth (value : Bool)
  | integer (value : Int)
  /-- A floating-point number. -/
  | float
  /-- A date, a time, or both. -/
  | moment
  | array
  | inlineTable
deriving DecidableEq, Repr

mutual

inductive Entry where
  | value (value : Value)
  | table (table : Table)
  /-- An array of tables, the newest first. -/
  | tables (newestFirst : List Table)

inductive Table where
  /-- A table is `implicit` until a header names it, and `dotted` if a dotted key made it. -/
  | mk (implicit dotted : Bool) (entries : List (String × Entry))

end

namespace Table

def empty : Table := ⟨false, false, []⟩

def implicit : Table → Bool
  | ⟨implicit, _, _⟩ => implicit

def dotted : Table → Bool
  | ⟨_, dotted, _⟩ => dotted

def entries : Table → List (String × Entry)
  | ⟨_, _, entries⟩ => entries

def find? (table : Table) (key : String) : Option Entry := table.entries.lookup key

def withEntries (table : Table) (entries : List (String × Entry)) : Table :=
  ⟨table.implicit, table.dotted, entries⟩

/-- Puts an entry under a key, in place of the one there. -/
def put (table : Table) (key : String) (entry : Entry) : Table :=
  table.withEntries ((table.entries.filter fun other => other.1 ≠ key) ++ [(key, entry)])

def erase (table : Table) (key : String) : Table :=
  table.withEntries (table.entries.filter fun other => other.1 ≠ key)

/-- Adds an entry under a new key. -/
def add? (table : Table) (key : String) (entry : Entry) : Option Table :=
  match table.find? key with
  | none => some (table.put key entry)
  | some _ => none

/--
Changes the table that some keys lead to. Missing tables on the way come into being, and the way
through an array of tables leads to its newest one.
-/
def change? (byDottedKey : Bool) : List String → (Table → Option Table) → Table → Option Table
  | [], edit, table => edit table
  | key :: keys, edit, table =>
    match table.find? key with
    | none => do
      let inner ← change? byDottedKey keys edit ⟨true, byDottedKey, []⟩
      some (table.put key (.table inner))
    | some (.value _) => none
    | some (.tables []) => none
    | some (.tables (newest :: older)) => do
      let newest ← change? byDottedKey keys edit newest
      some (table.put key (.tables (newest :: older)))
    | some (.table inner) =>
      if byDottedKey && !inner.implicit then none
      else do
        let inner ← change? byDottedKey keys edit inner
        some (table.put key (.table inner))

/-- Gives a value to a key, which may be dotted. -/
def define? (table : Table) (keys : List String) (key : String) (value : Value) : Option Table :=
  table.change? true keys fun inner =>
    if inner.dotted = keys.isEmpty then none else inner.add? key (.value value)

end Table

/-- A document in the making: all that is finished, and the table under the last header. -/
structure Draft where
  finished : Table := .empty
  current : Table := .empty
  path : List String := []
  inArray : Bool := false

namespace Draft

def define? (draft : Draft) (keys : List String) (key : String) (value : Value) : Option Draft := do
  let current ← draft.current.define? keys key value
  some { draft with current }

/-- Puts the table under the last header to its place. -/
def close? (draft : Draft) : Option Table :=
  match draft.path.getLast? with
  | none => some draft.current
  | some key =>
    draft.finished.change? false draft.path.dropLast fun parent =>
      if draft.inArray then
        match parent.find? key with
        | none => some (parent.put key (.tables [draft.current]))
        | some (.tables older) => some (parent.put key (.tables (draft.current :: older)))
        | some _ => none
      else
        match parent.find? key with
        | none => some (parent.put key (.table draft.current))
        | some (.table inner) =>
          if inner.implicit then some (parent.put key (.table draft.current)) else none
        | some _ => none

/-- The table that keys lead to, as a header may continue it: a new one, or one made unasked. -/
def reopen? (root : Table) : List String → String → Option Table
  | [], key =>
    match root.find? key with
    | none => some .empty
    | some (.table inner) =>
      if inner.implicit && !inner.dotted then some ⟨false, false, inner.entries⟩ else none
    | some _ => none
  | first :: rest, key =>
    match root.find? first with
    | none => some .empty
    | some (.value _) => none
    | some (.tables []) => none
    | some (.tables (newest :: _)) => reopen? newest rest key
    | some (.table inner) => reopen? inner rest key

/-- Starts the table of a header. -/
def startTable? (draft : Draft) (path : List String) (key : String) : Option Draft := do
  let root ← draft.close?
  let current ← reopen? root path key
  let finished ← root.change? false path fun parent => some (parent.erase key)
  some { finished, current, path := path ++ [key], inArray := false }

/-- Starts a new table of an array of tables. -/
def startArrayTable? (draft : Draft) (path : List String) (key : String) : Option Draft := do
  let root ← draft.close?
  let finished ← root.change? false path fun parent =>
    match parent.find? key with
    | none => some (parent.put key (.tables []))
    | some (.tables _) => some parent
    | some _ => none
  some { finished, current := .empty, path := path ++ [key], inArray := true }

end Draft

end TriggerScript.Toml
