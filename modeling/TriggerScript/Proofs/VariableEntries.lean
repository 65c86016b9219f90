import Mathlib.Logic.ExistsUnique
import TriggerScript.Proofs.RepeatedReports
import TriggerScript.Rehearsal.Classes

/-!
# The entries of a variables section

An entry names a variable. The name may stand in braces; it has no percent sign in it, or a type between
two of them. Then the entry ends in one of three ways: its variable has a value already, it is given one,
or the entry is refused with an error at its line. What is written with a percent sign in any other way
names no variable, and the entry is passed over without a word.
-/

namespace TriggerScript.Compile

/-! ## Names -/

/-- A text and what stands inside the braces around it, or the text itself where there are none. -/
inductive Inside : (text inner : List Char) → Prop where
  | braces (inner : List Char) : Inside ('\x7b' :: (inner ++ ['\x7d'])) inner
  | bare (unclosed : ∀ inner, text ≠ '\x7b' :: (inner ++ ['\x7d'])) : Inside text text

/-- How percent signs stand in a name, and the type between them. -/
inductive Marked : List Char → Option TypedName → Prop where
  | plain (free : '%' ∉ name) : Marked name none
  | single (freeBefore : '%' ∉ before) (freeAfter : '%' ∉ after) : Marked (before ++ '%' :: after) none
  | adjacent (freeBefore : '%' ∉ before) (freeAfter : '%' ∉ after) :
      Marked (before ++ '%' :: '%' :: after) none
  | typed (typed : TypedName) (freeBefore : '%' ∉ typed.before) (freeAfter : '%' ∉ typed.after)
      (filled : typed.type ≠ []) :
      Marked (typed.before ++ '%' :: (typed.type ++ '%' :: typed.after)) (some typed)

/-- The name with the code name of a class in the place of its type. -/
def TypedName.coded (typed : TypedName) (info : ClassInfo) : List Char :=
  typed.before ++ '<' :: info.codeName.toList ++ '>' :: typed.after

/-- A name has a type of a known class between its percent signs. -/
structure TypedName.Known (classes : Classes) (typed : TypedName) (info : ClassInfo) : Prop where
  unreserved : typed.type.any isReserved = false
  found : classes.classInfo? (String.ofList typed.type) = some info

/-- The key of an entry names a variable. -/
inductive Names (classes : Classes) : (key name : String) → Prop where
  | plain (inside : Inside (String.toList key) name) (free : '%' ∉ name) :
      Names classes key (String.ofList name)
  | typed (inside : Inside (String.toList key) written) (marked : Marked written (some typed))
      (known : typed.Known classes info) (free : '%' ∉ typed.coded info) :
      Names classes key (String.ofList (typed.coded info))

/-- A percent sign in the key of an entry is none of the two around a type, or comes in with the type. -/
inductive Strays (classes : Classes) : (key : String) → Prop where
  | untyped (inside : Inside (String.toList key) written) (marked : Marked written none) (percent : '%' ∈ written) :
      Strays classes key
  | coded (inside : Inside (String.toList key) written) (marked : Marked written (some typed))
      (known : typed.Known classes info) (percent : '%' ∈ typed.coded info) : Strays classes key

/-! ## Names and how they are read -/

theorem insideBraces_of_inside {text inner : List Char} (inside : Inside text inner) :
    insideBraces text = inner := by
  cases inside with
  | braces inner => simp [insideBraces]
  | bare unclosed =>
    unfold insideBraces
    split
    · next rest =>
      split
      · next backwards reversed =>
        have closed : rest = backwards.reverse ++ ['\x7d'] := by
          simpa using congrArg List.reverse reversed
        exact absurd (congrArg ('\x7b' :: ·) closed) (unclosed _)
      · rfl
    · rfl

theorem inside_insideBraces (text : List Char) : Inside text (insideBraces text) := by
  by_cases closed : ∃ inner, text = '\x7b' :: (inner ++ ['\x7d'])
  · obtain ⟨inner, rfl⟩ := closed
    rw [insideBraces_of_inside (.braces inner)]
    exact .braces inner
  · have bare := Inside.bare (not_exists.mp closed)
    rw [insideBraces_of_inside bare]
    exact bare

theorem dropWhile_percent {before : List Char} (free : '%' ∉ before) (rest : List Char) :
    (before ++ '%' :: rest).dropWhile (· ≠ '%') = '%' :: rest := by
  rw [List.dropWhile_append_of_pos (by grind), List.dropWhile_cons_of_neg (by simp)]

theorem takeWhile_percent {before : List Char} (free : '%' ∉ before) (rest : List Char) :
    (before ++ '%' :: rest).takeWhile (· ≠ '%') = before := by
  rw [List.takeWhile_append_of_pos (by grind), List.takeWhile_cons_of_neg (by simp), List.append_nil]

theorem dropWhile_free {text : List Char} (free : '%' ∉ text) : text.dropWhile (· ≠ '%') = [] := by
  rw [← List.append_nil text, List.dropWhile_append_of_pos (by grind), List.dropWhile_nil]

theorem of?_of_marked {name : List Char} {typed : Option TypedName} (marked : Marked name typed) :
    TypedName.of? name = typed := by
  unfold TypedName.of?
  cases marked with
  | plain free => rw [dropWhile_free free]
  | single freeBefore freeAfter =>
    have freeBehind := mt List.mem_reverse.mp freeAfter
    rw [dropWhile_percent freeBefore]
    simp only [dropWhile_free freeBehind]
  | adjacent freeBefore freeAfter =>
    -- Seen from the end, nothing stands between the last percent sign and the first.
    have freeBehind := mt List.mem_reverse.mp freeAfter
    rw [dropWhile_percent freeBefore]
    simp only [List.reverse_cons, dropWhile_percent freeBehind]
  | typed typed freeBefore freeAfter filled =>
    have freeBehind := mt List.mem_reverse.mp freeAfter
    have backwards : (typed.type ++ '%' :: typed.after).reverse =
        typed.after.reverse ++ '%' :: typed.type.reverse := by simp
    obtain ⟨last, rest, reversed⟩ := List.exists_cons_of_ne_nil (List.reverse_ne_nil_iff.mpr filled)
    rw [dropWhile_percent freeBefore, takeWhile_percent freeBefore]
    simp only [backwards, dropWhile_percent freeBehind, takeWhile_percent freeBehind, reversed]
    rw [← reversed, List.reverse_reverse, List.reverse_reverse]

/-- Any name is marked in one of the four ways: it is split at its first percent sign and at its last. -/
theorem exists_marked (name : List Char) : ∃ typed, Marked name typed := by
  by_cases free : '%' ∈ name
  · obtain ⟨before, rest, rfl, freeBefore⟩ := List.eq_append_cons_of_mem free
    by_cases more : '%' ∈ rest
    -- The last percent sign is the first one of the reversed rest.
    · obtain ⟨backwards, inside, split, freeAfter⟩ := List.eq_append_cons_of_mem (List.mem_reverse.mpr more)
      have restEq : rest = inside.reverse ++ '%' :: backwards.reverse := by
        simpa using congrArg List.reverse split
      subst restEq
      rw [← List.mem_reverse] at freeAfter
      cases inside with
      | nil => exact ⟨none, .adjacent freeBefore freeAfter⟩
      | cons last others =>
        exact ⟨_, .typed ⟨before, (last :: others).reverse, backwards.reverse⟩ freeBefore freeAfter (by simp)⟩
    · exact ⟨none, .single freeBefore more⟩
  · exact ⟨none, .plain free⟩

theorem marked_of? (name : List Char) : Marked name (TypedName.of? name) := by
  obtain ⟨typed, marked⟩ := exists_marked name
  rw [of?_of_marked marked]
  exact marked

section

variable {classes : Classes} {inner : List Char} {typed : TypedName}

theorem storedName_untyped (marked : Marked inner none) : (storedName classes inner).value = .ok inner := by
  rw [storedName, of?_of_marked marked]
  rfl

theorem storedName_typed {info : ClassInfo} (marked : Marked inner (some typed)) (known : typed.Known classes info) :
    (storedName classes inner).value = .ok (typed.coded info) := by
  simp [storedName, of?_of_marked marked, known.unreserved, Classes.lookUp, known.found, TypedName.coded]

/-- A typed name that is read is one of a known class. -/
theorem known_of_storedName {name : List Char} (marked : Marked inner (some typed))
    (stored : (storedName classes inner).value = .ok name) :
    ∃ info, typed.Known classes info ∧ name = typed.coded info := by
  rw [storedName, of?_of_marked marked] at stored
  dsimp only at stored
  split at stored
  · cases stored
  · next unreserved =>
    simp only [Classes.lookUp, Recorded.value_bind, Recorded.value_pure] at stored
    cases found : classes.classInfo? (String.ofList typed.type) with
    | none =>
      rw [found] at stored
      cases stored
    | some info =>
      rw [found] at stored
      cases stored
      exact ⟨info, ⟨Bool.eq_false_iff.mpr unreserved, found⟩, rfl⟩

end

/-! ## Entries -/

/-- An entry names a variable. -/
def NamesVariable (classes : Classes) (node : Node) (name : String) : Prop :=
  ∃ key text, node.asEntry? "=" = some (key, text) ∧ Names classes key name

/-- An entry whose key has a stray percent sign in it. -/
def HasStray (classes : Classes) (node : Node) : Prop :=
  ∃ key text, node.asEntry? "=" = some (key, text) ∧ Strays classes key

section

variable {classes : Classes} {node : Node} {key text name : String}

theorem of_eq_offers (entry : node.asEntry? "=" = some (key, text)) (names : Names classes key name) :
    Entry.of classes node = .offers name (storedValue classes text).value := by
  unfold Entry.of
  rw [entry]
  dsimp only
  cases names with
  | plain inside free =>
    rw [insideBraces_of_inside inside, storedName_untyped (.plain free)]
    simp [free]
  | typed inside marked known free =>
    rw [insideBraces_of_inside inside, storedName_typed marked known]
    simp [free]

theorem of_eq_passed (stray : HasStray classes node) : Entry.of classes node = .passed := by
  obtain ⟨key, text, entry, strays⟩ := stray
  unfold Entry.of
  rw [entry]
  dsimp only
  cases strays with
  | untyped inside marked percent =>
    rw [insideBraces_of_inside inside, storedName_untyped marked]
    simp [percent]
  | coded inside marked known percent =>
    rw [insideBraces_of_inside inside, storedName_typed marked known]
    simp [percent]

/-- An entry whose key is read names a variable, or has a stray percent sign. -/
theorem names_or_strays {chars : List Char}
    (stored : (storedName classes (insideBraces key.toList)).value = .ok chars) :
    ('%' ∉ chars ∧ Names classes key (String.ofList chars)) ∨ ('%' ∈ chars ∧ Strays classes key) := by
  have inside := inside_insideBraces key.toList
  have marked := marked_of? (insideBraces key.toList)
  cases split : TypedName.of? (insideBraces key.toList) with
  | none =>
    rw [split] at marked
    cases (storedName_untyped marked).symm.trans stored
    by_cases percent : '%' ∈ insideBraces key.toList
    · exact .inr ⟨percent, .untyped inside marked percent⟩
    · exact .inl ⟨percent, .plain inside percent⟩
  | some typed =>
    rw [split] at marked
    obtain ⟨info, known, rfl⟩ := known_of_storedName marked stored
    by_cases percent : '%' ∈ typed.coded info
    · exact .inr ⟨percent, .coded inside marked known percent⟩
    · exact .inl ⟨percent, .typed inside marked known percent⟩

/-- What an entry says, by what it names. -/
theorem of_cases (classes : Classes) (node : Node) :
    (∃ problem, Entry.of classes node = .refused problem) ∨ HasStray classes node ∨
      ∃ key text name, node.asEntry? "=" = some (key, text) ∧ Names classes key name := by
  cases entry : node.asEntry? "=" with
  | none => exact .inl ⟨.variableLine, by rw [Entry.of, entry]⟩
  | some pair =>
    obtain ⟨key, text⟩ := pair
    cases stored : (storedName classes (insideBraces key.toList)).value with
    | error problem => exact .inl ⟨problem, by simp only [Entry.of, entry, stored]⟩
    | ok chars =>
      rcases names_or_strays stored with ⟨-, names⟩ | ⟨-, strays⟩
      · exact .inr (.inr ⟨key, text, _, rfl, names⟩)
      · exact .inr (.inl ⟨key, text, entry, strays⟩)

end

/-! ## How an entry ends -/

/-- A way in which an entry of a variables section ends. -/
inductive Way where
  /-- Its variable has a value already. -/
  | kept
  /-- Its variable is given a value. -/
  | entered
  | refused
deriving DecidableEq, Repr

/-- An entry ends in a way, between the contexts and variables before it and behind it. -/
def Ends (classes : Classes) (node : Node) (before after : Context × Variables) : Way → Prop
  | .kept =>
    ∃ name, NamesVariable classes node name ∧ (before.2.find? name).isSome ∧ after.2 = before.2 ∧
      after.1.diagnostics = before.1.diagnostics
  | .entered =>
    ∃ key text name value, node.asEntry? "=" = some (key, text) ∧ Names classes key name ∧
      before.2.find? name = none ∧ (storedValue classes text).value = .ok value ∧
      after.2 = before.2.insert name value ∧ after.1.diagnostics = before.1.diagnostics
  | .refused =>
    ∃ problem : Problem, after.2 = before.2 ∧ after.1.diagnostics =
      before.1.diagnostics ++ [⟨.error, problem.message, before.1.file, node.lineNumber⟩]

/-- An entry names the variable that it offers a value for. -/
theorem namesVariable_iff {classes : Classes} {node : Node} {name : String} :
    NamesVariable classes node name ↔ (Entry.of classes node).name? = some name := by
  constructor
  · rintro ⟨key, text, entry, names⟩
    rw [of_eq_offers entry names, Entry.name?]
  · intro offers
    rcases of_cases classes node with ⟨problem, refused⟩ | stray | ⟨key, text, other, entry, names⟩
    · rw [refused] at offers
      cases offers
    · rw [of_eq_passed stray] at offers
      cases offers
    · rw [of_eq_offers entry names] at offers
      cases offers
      exact ⟨key, text, entry, names⟩

theorem NamesVariable.unique {classes : Classes} {node : Node} {name other : String}
    (names : NamesVariable classes node name) (namesOther : NamesVariable classes node other) : name = other :=
  Option.some.inj ((namesVariable_iff.mp names).symm.trans (namesVariable_iff.mp namesOther))

section

variable {classes : Classes} {node : Node} {before after : Context × Variables}

/-- A variable that is given a value had none, and a refusal is reported; so no two ways meet. -/
theorem Ends.unique {way other : Way} (ends : Ends classes node before after way)
    (endsOther : Ends classes node before after other) : way = other := by
  have reported {problem : Problem} (same : after.1.diagnostics = before.1.diagnostics)
      (more : after.1.diagnostics =
        before.1.diagnostics ++ [⟨.error, problem.message, before.1.file, node.lineNumber⟩]) : False := by
    simp [same] at more
  have found {key text name known : String} (entry : node.asEntry? "=" = some (key, text))
      (names : Names classes key name) (new : before.2.find? name = none)
      (namesKnown : NamesVariable classes node known) (given : (before.2.find? known).isSome) : False := by
    rw [namesKnown.unique ⟨key, text, entry, names⟩, new] at given
    cases given
  -- Of two different ways one is a refusal, or else one finds the value that the other finds missing.
  cases way <;> cases other
  case kept.kept | entered.entered | refused.refused => rfl
  case kept.entered =>
    obtain ⟨known, namesKnown, given, -⟩ := ends
    obtain ⟨key, text, name, value, entry, names, new, -⟩ := endsOther
    exact (found entry names new namesKnown given).elim
  case entered.kept =>
    obtain ⟨key, text, name, value, entry, names, new, -⟩ := ends
    obtain ⟨known, namesKnown, given, -⟩ := endsOther
    exact (found entry names new namesKnown given).elim
  case kept.refused =>
    obtain ⟨_, -, -, -, same⟩ := ends
    obtain ⟨problem, -, more⟩ := endsOther
    exact (reported same more).elim
  case refused.kept =>
    obtain ⟨problem, -, more⟩ := ends
    obtain ⟨_, -, -, -, same⟩ := endsOther
    exact (reported same more).elim
  case entered.refused =>
    obtain ⟨_, _, _, _, -, -, -, -, -, same⟩ := ends
    obtain ⟨problem, -, more⟩ := endsOther
    exact (reported same more).elim
  case refused.entered =>
    obtain ⟨problem, -, more⟩ := ends
    obtain ⟨_, _, _, _, -, -, -, -, -, same⟩ := endsOther
    exact (reported same more).elim

end

theorem compileVariable_of_stray {classes : Classes} {node : Node} (stray : HasStray classes node)
    (context : Context) (values : Variables) :
    (compileVariable classes node context values).value = (context.atLine node.lineNumber, values) := by
  rw [compileVariable_value, of_eq_passed stray]

theorem compileVariable_ends {classes : Classes} {node : Node} (ordinary : ¬ HasStray classes node)
    (context : Context) (values : Variables) :
    ∃ way, Ends classes node (context, values) (compileVariable classes node context values).value way := by
  rw [compileVariable_value]
  rcases of_cases classes node with ⟨problem, refused⟩ | stray | ⟨key, text, name, entry, names⟩
  · rw [refused]
    exact ⟨.refused, problem, rfl, rfl⟩
  · exact absurd stray ordinary
  · rw [of_eq_offers entry names]
    dsimp only
    split
    · next known => exact ⟨.kept, name, ⟨key, text, entry, names⟩, known, rfl, rfl⟩
    · next unknown =>
      have new : values.find? name = none := by simpa using unknown
      cases stored : (storedValue classes text).value with
      | error problem => exact ⟨.refused, problem, rfl, rfl⟩
      | ok value => exact ⟨.entered, key, text, name, value, entry, names, new, stored, rfl, rfl⟩

/-! ## Sections -/

theorem compileVariables_append (classes : Classes) (earlier later : List Node) (context : Context)
    (values : Variables) :
    (compileVariables classes (earlier ++ later) context values).value =
      let between := (compileVariables classes earlier context values).value
      (compileVariables classes later between.1 between.2).value := by
  induction earlier generalizing context values with
  | nil => rfl
  | cons node rest inductionHypothesis =>
    simp only [List.cons_append, compileVariables, Recorded.value_bind, inductionHypothesis]

/--
A variables section is compiled, and `node` is one of its children. If there is no stray percent sign in its
key, it ends in exactly one of the three ways: its variable had a value, it is given one, or one error is
reported at its line. With a stray percent sign nothing is given a value and nothing is reported. Whatever is
reported stays, and so does every value.
-/
theorem entry_ends_in_one_way (classes : Classes) (earlier later : List Node) (node : Node) (context : Context)
    (values : Variables) :
    let before := (compileVariables classes earlier context values).value
    let after := (compileVariables classes (earlier ++ [node]) context values).value
    let final := (compileVariables classes (earlier ++ node :: later) context values).value
    (¬ HasStray classes node → ∃! way, Ends classes node before after way) ∧
      (HasStray classes node → after.2 = before.2 ∧ after.1.diagnostics = before.1.diagnostics) ∧
      after.1.diagnostics <+: final.1.diagnostics ∧
      ∀ name, (after.2.find? name).isSome → final.2.find? name = after.2.find? name := by
  intro before after final
  have step : after = (compileVariable classes node before.1 before.2).value :=
    compileVariables_append classes earlier [node] context values
  have rest : final = (compileVariables classes later after.1 after.2).value := by
    have split := compileVariables_append classes (earlier ++ [node]) later context values
    rw [List.append_assoc, List.singleton_append] at split
    exact split
  -- The entry itself is one step; those behind it only add reports and values.
  refine ⟨fun ordinary => ?_, fun stray => ?_, ?_, fun name given => ?_⟩
  · rw [step]
    obtain ⟨way, ends⟩ := compileVariable_ends ordinary before.1 before.2
    exact ⟨way, ends, fun other endsOther => endsOther.unique ends⟩
  · rw [step, compileVariable_of_stray stray]
    exact ⟨rfl, rfl⟩
  · rw [rest]
    exact (compileVariables_advances classes later after.1 after.2).kept
  · rw [rest]
    rw [compileVariables_entered]
    exact foldl_entered_addsOnly classes later after.2 name (.inr given)

/-- With one percent sign in its key an entry ends in none of the three ways. -/
theorem lone_percent_passed_over :
    let node : Node := .line "a%b = 1" 2
    let after := (compileVariables Rehearsal.classes [node] {} {}).value
    after.2 = {} ∧ after.1.diagnostics = [] ∧ ¬ ∃ way, Ends Rehearsal.classes node ({}, {}) after way := by
  intro node after
  have unchanged : after.2 = {} ∧ after.1.diagnostics = [] := by decide +kernel
  refine ⟨unchanged.1, unchanged.2, ?_⟩
  rintro ⟨_ | _ | _, ends⟩
  · obtain ⟨name, -, given, -⟩ := ends
    cases given
  · obtain ⟨_, _, name, value, -, -, -, -, set, -⟩ := ends
    have stored : after.2.find? name = some value := by simp [set]
    rw [unchanged.1] at stored
    cases stored
  · obtain ⟨problem, -, reported⟩ := ends
    simp [unchanged.2] at reported

end TriggerScript.Compile
