import TriggerScript.Options

/-!
# Where the option references of a text are

A text is read once, character by character, and at every place the reader decides whether a reference
starts there. `Splits` says without a reader where the references of a text are: each is the first to start
in what is left of the text, and the shortest of those that start there. Every text splits in one way, and
this is the way in which it is read. So a text is expanded as it should be, or the first reference without a
value is reported.
-/

namespace TriggerScript.Options

/-- A name that a reference may hold is not empty and stands on one line. -/
structure IsName (name : List Char) : Prop where
  nonempty : name ≠ []
  oneLine : '\n' ∉ name

/-- The text of a reference. -/
def referenceTo (name : List Char) : List Char := '\x7b' :: '@' :: (name ++ ['\x7d'])

/-- A text begins with a reference to a name. -/
structure Begins (name text : List Char) : Prop where
  isName : IsName name
  atStart : referenceTo name <+: text

/-- Of all references that a text begins with, the one to this name is the shortest. -/
structure BeginsShortest (name text : List Char) : Prop where
  begins : Begins name text
  shortest : ∀ other, Begins other text → name.length ≤ other.length

/-- No reference starts at one of the first characters of a text. -/
def NoneStarts (count : Nat) (text : List Char) : Prop :=
  ∀ place < count, ∀ name, ¬ Begins name (text.drop place)

/-- A text is split at its references, which are the leftmost and shortest ones and do not overlap. -/
inductive Splits : List Char → List Piece → Prop where
  | plain (absent : NoneStarts text.length text) : Splits text (text.map .plain)
  | reference (leftmost : NoneStarts before.length (before ++ (referenceTo name ++ rest)))
      (shortest : BeginsShortest name (referenceTo name ++ rest)) (later : Splits rest split) :
      Splits (before ++ (referenceTo name ++ rest)) (before.map .plain ++ .reference name :: split)

/-- All options that some pieces refer to have a value. -/
def Defined (options : Table String String) (pieces : List Piece) : Prop :=
  ∀ name, .reference name ∈ pieces → options.contains (String.ofList name) = true

/-- The text of a piece, with the value of its option in the place of a reference. -/
def Piece.filled (options : Table String String) : Piece → List Char
  | .plain character => [character]
  | .reference name => ((options.find? (String.ofList name)).getD "").toList

/-- The report of a reference without a value. -/
def undefinedReport (context : Context) (name : List Char) : Diagnostic :=
  ⟨.error, "undefined option \x7b@" ++ String.ofList name ++ "\x7d", context.file, context.line⟩

/-! ## The reference at a place -/

theorem beforeClosing?_eq_some {text name : List Char} (found : beforeClosing? text = some name) :
    '\n' ∉ name ∧ '\x7d' ∉ name ∧ name ++ ['\x7d'] <+: text := by
  induction text generalizing name with
  | nil => cases found
  | cons c rest inductionHypothesis =>
    rw [beforeClosing?] at found
    split at found
    · next closing =>
      cases found
      exact ⟨List.not_mem_nil, List.not_mem_nil, by simp [closing]⟩
    · next notClosing =>
      split at found
      · cases found
      · next notBreak =>
        obtain ⟨inner, foundInner, rfl⟩ := Option.map_eq_some_iff.mp found
        obtain ⟨oneLine, noClosing, atStart⟩ := inductionHypothesis foundInner
        refine ⟨?_, ?_, List.cons_prefix_cons.mpr ⟨rfl, atStart⟩⟩
        · exact List.not_mem_cons_of_ne_of_not_mem (Ne.symm notBreak) oneLine
        · exact List.not_mem_cons_of_ne_of_not_mem (Ne.symm notClosing) noClosing

/-- Where some closing brace is on the same line, the first one is found. -/
theorem beforeClosing?_of_closed {text other : List Char} (oneLine : '\n' ∉ other)
    (closed : other ++ ['\x7d'] <+: text) :
    ∃ name, beforeClosing? text = some name ∧ name.length ≤ other.length := by
  induction text generalizing other with
  | nil => simp at closed
  | cons c rest inductionHypothesis =>
    rw [beforeClosing?]
    by_cases closing : c = '\x7d'
    · exact ⟨[], if_pos closing, Nat.zero_le _⟩
    · rw [if_neg closing]
      cases other with
      | nil => exact absurd (List.cons_prefix_cons.mp closed).1.symm closing
      | cons first others =>
        obtain ⟨rfl, closedInner⟩ := List.cons_prefix_cons.mp closed
        obtain ⟨noBreak, oneLineInner⟩ := List.ne_and_not_mem_of_not_mem_cons oneLine
        obtain ⟨name, found, shorter⟩ := inductionHypothesis oneLineInner closedInner
        refine ⟨first :: name, ?_, Nat.succ_le_succ shorter⟩
        rw [if_neg (Ne.symm noBreak), found]
        rfl

theorem referenceAt?_eq_some {text name : List Char} (found : referenceAt? text = some name) :
    Begins name text ∧ '\x7d' ∉ name.tail := by
  unfold referenceAt? at found
  split at found
  · next first rest =>
    split at found
    · cases found
    · next notBreak =>
      obtain ⟨inner, foundInner, rfl⟩ := Option.map_eq_some_iff.mp found
      obtain ⟨oneLine, noClosing, atStart⟩ := beforeClosing?_eq_some foundInner
      have isName : IsName (first :: inner) :=
        ⟨List.cons_ne_nil _ _, List.not_mem_cons_of_ne_of_not_mem (Ne.symm notBreak) oneLine⟩
      exact ⟨⟨isName, by simpa [referenceTo] using atStart⟩, noClosing⟩
  · cases found

/-- Where a text begins with some reference, one that is no longer is found. -/
theorem referenceAt?_of_begins {text other : List Char} (begins : Begins other text) :
    ∃ name, referenceAt? text = some name ∧ name.length ≤ other.length := by
  obtain ⟨⟨nonempty, oneLine⟩, rest, rfl⟩ := begins
  obtain ⟨first, others, rfl⟩ := List.exists_cons_of_ne_nil nonempty
  obtain ⟨noBreak, oneLineInner⟩ := List.ne_and_not_mem_of_not_mem_cons oneLine
  obtain ⟨name, found, shorter⟩ := beforeClosing?_of_closed oneLineInner (List.prefix_append _ rest)
  refine ⟨first :: name, ?_, Nat.succ_le_succ shorter⟩
  rw [referenceTo, List.cons_append, List.cons_append, List.cons_append, List.cons_append, referenceAt?,
    if_neg (Ne.symm noBreak), found]
  rfl

theorem referenceAt?_eq_none_iff {text : List Char} :
    referenceAt? text = none ↔ ∀ name, ¬ Begins name text := by
  constructor
  · intro missing name begins
    obtain ⟨found, same, -⟩ := referenceAt?_of_begins begins
    cases missing.symm.trans same
  · intro absent
    cases found : referenceAt? text with
    | none => rfl
    | some name => exact absurd (referenceAt?_eq_some found).1 (absent name)

theorem Begins.eq_of_length {text name other : List Char} (begins : Begins name text) (also : Begins other text)
    (sameLength : name.length = other.length) : name = other := by
  have same : referenceTo name = referenceTo other := by
    have atMost := List.prefix_of_prefix_length_le begins.atStart also.atStart (by simp [referenceTo, sameLength])
    exact atMost.eq_of_length (by simp [referenceTo, sameLength])
  simpa [referenceTo] using same

theorem referenceAt?_eq_some_iff {text name : List Char} :
    referenceAt? text = some name ↔ BeginsShortest name text := by
  constructor
  · intro found
    refine ⟨(referenceAt?_eq_some found).1, fun other begins => ?_⟩
    obtain ⟨shortest, foundShortest, shorter⟩ := referenceAt?_of_begins begins
    cases found.symm.trans foundShortest
    exact shorter
  · rintro ⟨begins, shortest⟩
    -- The reference that is found is no longer, and at one place there is only one of each length.
    obtain ⟨other, found, shorter⟩ := referenceAt?_of_begins begins
    have alsoBegins := (referenceAt?_eq_some found).1
    rw [found, alsoBegins.eq_of_length begins (Nat.le_antisymm shorter (shortest other alsoBegins))]

/-! ## The pieces of a text -/

theorem piecesFrom_eq_drop (skipped : Nat) (text : List Char) :
    piecesFrom skipped text = pieces (text.drop skipped) := by
  induction text generalizing skipped with
  | nil => cases skipped <;> rfl
  | cons c rest inductionHypothesis =>
    cases skipped with
    | zero => rfl
    | succ skipped => exact inductionHypothesis skipped

theorem pieces_plain {c : Char} {rest : List Char} (absent : ∀ name, ¬ Begins name (c :: rest)) :
    pieces (c :: rest) = .plain c :: pieces rest := by
  rw [pieces, piecesFrom, referenceAt?_eq_none_iff.mpr absent]
  rfl

theorem pieces_reference {name rest : List Char} (shortest : BeginsShortest name (referenceTo name ++ rest)) :
    pieces (referenceTo name ++ rest) = .reference name :: pieces rest := by
  have found := referenceAt?_eq_some_iff.mpr shortest
  rw [referenceTo, List.cons_append] at found ⊢
  rw [pieces, piecesFrom, found]
  refine congrArg (Piece.reference name :: ·) ?_
  rw [piecesFrom_eq_drop]
  -- Behind the first brace stand the at sign, the name and the other brace.
  refine congrArg pieces ?_
  exact List.drop_left' (by simp)

theorem noneStarts_cons {count : Nat} {c : Char} {text : List Char} :
    NoneStarts (count + 1) (c :: text) ↔ (∀ name, ¬ Begins name (c :: text)) ∧ NoneStarts count text := by
  constructor
  · intro absent
    exact ⟨absent 0 (Nat.succ_pos _), fun place inside => absent (place + 1) (Nat.succ_lt_succ inside)⟩
  · rintro ⟨absent, later⟩ place inside
    cases place with
    | zero => exact absent
    | succ place => exact later place (Nat.lt_of_succ_lt_succ inside)

theorem pieces_append {before rest : List Char} (absent : NoneStarts before.length (before ++ rest)) :
    pieces (before ++ rest) = before.map .plain ++ pieces rest := by
  induction before with
  | nil => rfl
  | cons c before inductionHypothesis =>
    obtain ⟨absentHere, absentLater⟩ := noneStarts_cons.mp absent
    exact (pieces_plain absentHere).trans (congrArg (Piece.plain c :: ·) (inductionHypothesis absentLater))

/-- A text is read as it is split. -/
theorem Splits.eq_pieces {text : List Char} {split : List Piece} (splits : Splits text split) :
    split = pieces text := by
  induction splits with
  | @plain text absent =>
    -- A text without references is read as what stands before an empty rest.
    rw [← List.append_nil text] at absent ⊢
    rw [pieces_append (by simpa using absent), List.append_nil]
    exact (List.append_nil _).symm
  | reference leftmost shortest _ later => rw [pieces_append leftmost, pieces_reference shortest, later]

theorem Splits.cons {c : Char} {rest : List Char} {split : List Piece} (absent : ∀ name, ¬ Begins name (c :: rest))
    (splits : Splits rest split) : Splits (c :: rest) (.plain c :: split) := by
  cases splits with
  | plain absentLater => exact .plain (noneStarts_cons.mpr ⟨absent, absentLater⟩)
  | @reference before name behind later leftmost shortest splits =>
    exact @Splits.reference (c :: before) name behind later (noneStarts_cons.mpr ⟨absent, leftmost⟩) shortest splits

/-- The pieces that are read split the text. -/
theorem splits_pieces (text : List Char) : Splits text (pieces text) := by
  -- Behind a reference the text goes on further right than one character.
  induction length : text.length using Nat.strongRecOn generalizing text with
  | ind count inductionHypothesis =>
    cases text with
    | nil => exact .plain nofun
    | cons c rest =>
      cases found : referenceAt? (c :: rest) with
      | none =>
        have absent := referenceAt?_eq_none_iff.mp found
        rw [pieces_plain absent]
        exact .cons absent (inductionHypothesis rest.length (by simp [← length]) rest rfl)
      | some name =>
        have shortest := referenceAt?_eq_some_iff.mp found
        obtain ⟨behind, whole⟩ := shortest.begins.atStart
        have shorter : behind.length < count := by
          rw [← length, ← whole]
          simp only [referenceTo, List.length_append, List.length_cons]
          omega
        rw [← whole] at shortest ⊢
        rw [pieces_reference shortest]
        exact @Splits.reference [] name behind _ nofun shortest (inductionHypothesis _ shorter behind rfl)

theorem splits_iff {text : List Char} {split : List Piece} : Splits text split ↔ split = pieces text := by
  constructor
  · exact Splits.eq_pieces
  · rintro rfl
    exact splits_pieces text

/-- Only the first character of a name may be a closing brace. -/
theorem Splits.closing_not_mem_tail {text : List Char} {split : List Piece} (splits : Splits text split)
    {name : List Char} (member : .reference name ∈ split) : '\x7d' ∉ name.tail := by
  induction splits with
  | plain absent => simp at member
  | reference leftmost shortest _ later =>
    simp only [List.mem_append, List.mem_map, reduceCtorEq, and_false, exists_false, List.mem_cons,
      Piece.reference.injEq, false_or] at member
    rcases member with rfl | member
    · exact (referenceAt?_eq_some (referenceAt?_eq_some_iff.mpr shortest)).2
    · exact later member

/-! ## Expanding the pieces -/

/-- All references have values, which take their places, or the first one without a value stops the expansion. -/
theorem expand_cases (options : Table String String) (pieces : List Piece) :
    Defined options pieces ∧ expand options pieces = .ok (pieces.flatMap (·.filled options)) ∨
      ∃ before name after, pieces = before ++ .reference name :: after ∧ Defined options before ∧
        options.contains (String.ofList name) = false ∧ expand options pieces = .error (String.ofList name) := by
  induction pieces with
  | nil => exact .inl ⟨nofun, rfl⟩
  | cons piece rest inductionHypothesis =>
    cases piece with
    | plain c =>
      rcases inductionHypothesis with ⟨defined, expanded⟩ | ⟨before, name, after, rfl, defined, undefined, failed⟩
      · refine .inl ⟨fun name member => defined name (by simpa using member), ?_⟩
        rw [expand, expanded]
        rfl
      · refine .inr ⟨.plain c :: before, name, after, rfl, ?_, undefined, by rw [expand, failed]; rfl⟩
        exact fun other member => defined other (by simpa using member)
    | reference first =>
      cases found : options.find? (String.ofList first) with
      | none => exact .inr ⟨[], first, rest, rfl, nofun, by simp [Table.contains, found], by rw [expand, found]⟩
      | some value =>
        have isDefined : options.contains (String.ofList first) = true := by simp [Table.contains, found]
        have cons {pieces : List Piece} (defined : Defined options pieces) :
            Defined options (.reference first :: pieces) := by
          intro name member
          rcases List.mem_cons.mp member with same | later
          · cases same
            exact isDefined
          · exact defined name later
        rcases inductionHypothesis with ⟨defined, expanded⟩ | ⟨before, name, after, rfl, defined, undefined, failed⟩
        · refine .inl ⟨cons defined, ?_⟩
          rw [expand, found, expanded, List.flatMap_cons, Piece.filled, found]
          rfl
        · exact .inr ⟨.reference first :: before, name, after, rfl, cons defined, undefined,
            by rw [expand, found, failed]; rfl⟩

theorem noneStarts_of_no_opening {text : List Char} (without : ¬ ['\x7b', '@'] <:+: text) (count : Nat) :
    NoneStarts count text := by
  intro place _ name begins
  have opening : ['\x7b', '@'] <+: text.drop place :=
    List.IsPrefix.trans (List.prefix_append ['\x7b', '@'] (name ++ ['\x7d'])) begins.atStart
  exact without (opening.isInfix.trans (List.drop_suffix place text).isInfix)

theorem filled_map_plain (options : Table String String) (text : List Char) :
    (text.map Piece.plain).flatMap (·.filled options) = text := by
  rw [List.flatMap_map]
  exact List.flatMap_singleton' text

/--
A text splits in one way at its leftmost and shortest references. If all of them have a value, the text comes
back with the values in their places, and the context stays. Otherwise nothing comes back, and the first
reference without a value is reported in the context. A text in which no reference is opened comes back as it is.
-/
theorem substitute_fills_references (text : String) (context : Context) :
    let split := pieces text.toList
    (∀ other, Splits text.toList other ↔ other = split) ∧
      (∀ name, .reference name ∈ split → '\x7d' ∉ name.tail) ∧
      (substitute text context =
          pure (some (String.ofList (split.flatMap (·.filled context.options))), context) ↔
        Defined context.options split) ∧
      (¬ Defined context.options split →
        ∃ before name after, split = before ++ .reference name :: after ∧ Defined context.options before ∧
          context.options.contains (String.ofList name) = false ∧
          substitute text context = ⟨(none, context.addDiagnostic (undefinedReport context name)),
            [.noted (.reported (undefinedReport context name))]⟩) ∧
      (¬ ['\x7b', '@'] <:+: text.toList → substitute text context = pure (some text, context)) := by
  intro split
  refine ⟨fun other => splits_iff, fun name => (splits_pieces text.toList).closing_not_mem_tail, ?_⟩
  have plain (without : ¬ ['\x7b', '@'] <:+: text.toList) : split = text.toList.map .plain :=
    (splits_iff.mp (.plain (noneStarts_of_no_opening without _))).symm
  rcases expand_cases context.options split with
    ⟨defined, expanded⟩ | ⟨before, name, after, whole, defined, undefined, failed⟩
  · have filled : substitute text context =
        pure (some (String.ofList (split.flatMap (·.filled context.options))), context) := by
      rw [substitute, expanded]
    refine ⟨iff_of_true filled defined, absurd defined, fun without => ?_⟩
    rw [filled, plain without, filled_map_plain, String.ofList_toList]
  · have reported : substitute text context = ⟨(none, context.addDiagnostic (undefinedReport context name)),
        [.noted (.reported (undefinedReport context name))]⟩ := by
      rw [substitute, failed]
      rfl
    have notDefined : ¬ Defined context.options split := by
      intro all
      have isDefined := all name (by simp [whole])
      cases undefined.symm.trans isDefined
    refine ⟨iff_of_false (by simp [reported, Recorded.ext_iff]) notDefined, fun _ => ?_, fun without => ?_⟩
    · exact ⟨before, name, after, whole, defined, undefined, reported⟩
    · have member : Piece.reference name ∈ text.toList.map Piece.plain := by
        rw [← plain without, whole]
        simp
      simp at member

/-- An opening inside a name belongs to it, a brace may come first, and a line break leaves an opening as it is. -/
example : pieces "\x7b@a\x7b@b\x7d\x7b@\x7d\x7d\x7b@\n\x7d".toList =
    [.reference ['a', '\x7b', '@', 'b'], .reference ['\x7d'],
      .plain '\x7b', .plain '@', .plain '\n', .plain '\x7d'] := by
  decide

end TriggerScript.Options
