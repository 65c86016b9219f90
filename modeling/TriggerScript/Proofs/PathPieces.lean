import TriggerScript.Path

/-!
# Pieces of paths

A path is read piece by piece, from slash to slash. The pieces of a joined path are those of its two
parts, and a name is a piece of its own.
-/

namespace TriggerScript

namespace Text

variable {α : Type} [DecidableEq α] {separator : α}

theorem splitOn_ne_nil (separator : α) (text : List α) : splitOn separator text ≠ [] := by
  cases text with
  | nil => simp [splitOn]
  | cons c rest =>
    rw [splitOn]
    split
    · simp
    · split <;> simp

theorem splitOn_append (left right : List α) :
    splitOn separator (left ++ separator :: right) =
      splitOn separator left ++ splitOn separator right := by
  induction left with
  | nil => simp [splitOn]
  | cons c rest inductionHypothesis =>
    rw [List.cons_append, splitOn, splitOn, inductionHypothesis]
    by_cases same : c = separator
    · simp [same]
    · obtain ⟨first, others, split⟩ := List.exists_cons_of_ne_nil (splitOn_ne_nil separator rest)
      simp [same, split]

theorem partsBetween_append (left right : List α) :
    partsBetween separator (left ++ separator :: right) =
      partsBetween separator left ++ partsBetween separator right := by
  simp only [partsBetween, splitOn_append, List.filter_append]

theorem splitOn_of_not_mem {text : List α} (absent : separator ∉ text) :
    splitOn separator text = [text] := by
  induction text with
  | nil => rfl
  | cons c rest inductionHypothesis =>
    obtain ⟨different, absent⟩ := not_or.mp (mt List.mem_cons.mpr absent)
    rw [splitOn, if_neg (Ne.symm different), inductionHypothesis absent]

theorem not_mem_of_mem_splitOn {text part : List α} (member : part ∈ splitOn separator text) :
    separator ∉ part := by
  induction text generalizing part with
  | nil => simp_all [splitOn]
  | cons c rest inductionHypothesis =>
    rw [splitOn] at member
    by_cases same : c = separator
    · rw [if_pos same] at member
      rcases List.mem_cons.mp member with rfl | member
      · simp
      · exact inductionHypothesis member
    · rw [if_neg same] at member
      obtain ⟨first, others, split⟩ := List.exists_cons_of_ne_nil (splitOn_ne_nil separator rest)
      rw [split] at member inductionHypothesis
      rcases List.mem_cons.mp member with rfl | member
      · exact List.not_mem_cons_of_ne_of_not_mem (Ne.symm same) (inductionHypothesis List.mem_cons_self)
      · exact inductionHypothesis (List.mem_cons_of_mem _ member)

theorem partsBetween_of_not_mem {text : List α} (absent : separator ∉ text) (filled : text ≠ []) :
    partsBetween separator text = [text] := by
  simp [partsBetween, splitOn_of_not_mem absent, filled]

end Text

namespace Path

theorem not_mem_of_mem_pieces {path : Path} {piece : Bytes} (member : piece ∈ path.pieces) : slash ∉ piece :=
  Text.not_mem_of_mem_splitOn (List.mem_filter.mp member).1

theorem pieces_of_name {name : Bytes} (absent : slash ∉ name) (filled : name ≠ []) : pieces ⟨name⟩ = [name] :=
  Text.partsBetween_of_not_mem absent filled

/-- The pieces of a joined path are those of its parts. -/
theorem pieces_join {base below : Path} (relative : below.isAbsolute = false) :
    (base.join below).pieces = base.pieces ++ below.pieces := by
  unfold join
  rw [if_neg (by simp [relative])]
  split
  · next apart =>
    rcases apart with empty | ends
    · simp [pieces, empty, Text.partsBetween, Text.splitOn]
    · obtain ⟨before, whole⟩ := List.getLast?_eq_some_iff.mp ends
      simp only [pieces, whole, List.append_assoc, List.singleton_append]
      rw [Text.partsBetween_append, Text.partsBetween_append]
      simp [Text.partsBetween, Text.splitOn]
  · exact Text.partsBetween_append _ _

theorem isAbsolute_join {base below : Path} (filled : base.bytes ≠ [])
    (relative : below.isAbsolute = false) : (base.join below).isAbsolute = base.isAbsolute := by
  obtain ⟨first, rest, whole⟩ := List.exists_cons_of_ne_nil filled
  unfold join
  rw [if_neg (by simp [relative])]
  split <;> simp [isAbsolute, whole]

/-! ## Names -/

/-- A piece that names an entry of a directory. -/
def IsName (piece : Bytes) : Prop := slash ∉ piece ∧ piece ≠ [] ∧ piece ≠ [dot] ∧ piece ≠ [dot, dot]

theorem fileName?_of_pieces {path : Path} {before : List Bytes} {piece : Bytes}
    (ends : path.pieces = before ++ [piece]) (isName : IsName piece) : path.fileName? = some piece := by
  obtain ⟨-, -, notHere, notUp⟩ := isName
  simp [fileName?, components, componentsOfPieces, ends, notHere, Component.ofPiece, notUp]

theorem name_not_mem_startOf (name : Bytes) (bytes : Bytes) : .name name ∉ startOf bytes := by
  fun_cases startOf bytes <;> simp

/-- What a path ends in, if it ends in a name. -/
theorem isName_of_fileName? {path : Path} {name : Bytes} (named : path.fileName? = some name) : IsName name := by
  unfold fileName? at named
  split at named
  · next last =>
    cases named
    rcases List.mem_append.mp (List.mem_of_getLast? last) with atStart | behind
    · exact absurd atStart (name_not_mem_startOf name _)
    · obtain ⟨piece, member, component⟩ := List.mem_map.mp behind
      obtain ⟨member, notHere⟩ := List.mem_filter.mp member
      unfold Component.ofPiece at component
      split at component
      · cases component
      · next notUp =>
        cases component
        have filled : name ≠ [] := by simpa using (List.mem_filter.mp member).2
        exact ⟨not_mem_of_mem_pieces member, filled, by simpa using notHere, notUp⟩
  · cases named

theorem not_mem_of_fileName? {path : Path} {name : Bytes} (named : path.fileName? = some name) : slash ∉ name :=
  (isName_of_fileName? named).1

theorem isAbsolute_of_name {name : Bytes} (absent : slash ∉ name) : isAbsolute ⟨name⟩ = false := by
  unfold isAbsolute
  cases name with
  | nil => rfl
  | cons first rest =>
    have different : first ≠ slash := fun same => absent (by simp [same])
    simpa using different

/-- A name that is joined to a path is its last piece, and the end of what the path is written as. -/
theorem pieces_join_name (base : Path) {name : Bytes} (isName : IsName name) :
    (base.join ⟨name⟩).pieces = base.pieces ++ [name] := by
  rw [pieces_join (isAbsolute_of_name isName.1), pieces_of_name isName.1 isName.2.1]

theorem getLast?_join_name (base : Path) {name : Bytes} (isName : IsName name) :
    (base.join ⟨name⟩).bytes.getLast? = name.getLast? := by
  have relative := isAbsolute_of_name isName.1
  obtain ⟨first, rest, rfl⟩ := List.exists_cons_of_ne_nil isName.2.1
  unfold join
  rw [if_neg (by simp [relative])]
  split <;> simp [List.getLast?_cons]

end Path

end TriggerScript
