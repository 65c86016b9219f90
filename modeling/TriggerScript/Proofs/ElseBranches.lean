import Mathlib.Data.List.Basic
import TriggerScript.Proofs.BlockDelay
import TriggerScript.Proofs.BlockFrame

/-!
# Which conditional another branch belongs to

The compiler carries the open conditional apart from the items that it has already given. What this
comes to is told here from the children and the items alone: a conditional is open exactly if the last
child is the section that it was compiled from. So a branch joins the conditional of the child just
before it, and without such a child it is reported and left out with all that is in it.
-/

namespace TriggerScript

/-- A section that stands for the other branch of a conditional. -/
def Node.isElse : Node → Bool
  | .section name _ _ => Text.isKeyword "else" (Text.trim name)
  | _ => false

namespace Compile

/-- The items so far, the open conditional among them. -/
def Progress.emitted (progress : Progress) : Block :=
  progress.items ++ (settle progress.pending progress.context).1

/-- Compiles the first children of a section, as part of its block. -/
def reached (grammar : Grammar) (children : List Node) (context : Context) : Recorded Progress :=
  compileNodes grammar children none context.enterBlock

/-- The last of some children is a section, no other branch, and its item is a conditional. -/
def EndsInConditional (grammar : Grammar) (context : Context) (children : List Node) : Prop :=
  ∃ front last condition body, children = front ++ [last] ∧ last.isSection = true ∧ last.isElse = false ∧
    (reached grammar children context).value.emitted =
      (reached grammar front context).value.emitted ++ [.conditional condition body]

/--
A branch joins the last item so far, which is a conditional. Its children are compiled from the delay
in front of that conditional.
-/
def JoinsLast (grammar : Grammar) (context : Context) (branch : Node) (before behind : Progress) : Prop :=
  ∃ items condition body, before.emitted = items ++ [.conditional condition body] ∧
    behind.emitted = items ++ [.choice condition body (compileBlock grammar branch
      ((before.context.atLine branch.lineNumber).withDelay (Block.delayAfter items context.delay))).value.1]

/-- The error for a branch that no conditional stands before. -/
def strayReport (context : Context) (branch : Node) : Diagnostic :=
  ⟨.error, Problem.strayElse.message, context.file, branch.lineNumber⟩

/-- A branch is reported at its line, and nothing of it is compiled. -/
structure StaysOut (context : Context) (branch : Node) (before behind : Recorded Progress) : Prop where
  emitted : behind.value.emitted = before.value.emitted
  reported : behind.value.context =
    (before.value.context.atLine branch.lineNumber).addDiagnostic (strayReport context branch)
  silent : behind.activity = before.activity ++ [.noted (.reported (strayReport context branch))]

theorem Header.of_eq_otherwise_iff (name : String) :
    Header.of name = .otherwise ↔ Text.isKeyword "else" (Text.trim name) = true := by
  unfold Header.of
  split
  · simp [*]
  · split
    · simp [*]
    · split <;> simp [*]

theorem isElse_section (name : String) (children : List Node) (line : Nat) :
    (Node.section name children line).isElse = true ↔ Header.of name = .otherwise :=
  (Header.of_eq_otherwise_iff name).symm

theorem exists_section_of_isElse {node : Node} (isElse : node.isElse = true) :
    ∃ name children line, node = .section name children line ∧ Header.of name = .otherwise := by
  cases node with
  | line _ _ | entry _ _ _ => cases isElse
  | «section» name children line =>
    exact ⟨name, children, line, rfl, (isElse_section name children line).mp isElse⟩

theorem isElse_of_condition {name text : String} {children : List Node} {line : Nat}
    (header : Header.of name = .condition text) : (Node.section name children line).isElse = false := by
  rw [← Bool.not_eq_true, isElse_section, header]
  nofun

variable {grammar : Grammar}

/-! ## When a conditional is open -/

@[simp] theorem settle_none (context : Context) : settle none context = ([], context) := rfl

@[simp] theorem closed_settle_some (conditional : OpenConditional) (context : Context) :
    (settle (some conditional) context).1 = [conditional.item] := rfl

theorem closed_of_atLine {pending : Option OpenConditional} {context before : Context} {closed : Block} {line : Nat}
    (closing : settle pending (context.atLine line) = (closed, before)) : (settle pending context).1 = closed := by
  rw [settle_atLine] at closing
  exact congrArg Prod.fst closing

theorem OpensLoop.ne_conditional {header : Header} {context after : Context} {asked : List Activity} {notice : Notice}
    {loop : Block → Item} (opens : OpensLoop grammar header context after asked notice loop) (body other : Block)
    (condition : Condition) : loop body ≠ .conditional condition other := by
  cases opens <;> nofun

/-- A child leaves a conditional open exactly if it is compiled into one. -/
theorem Walk.opens_iff {node : Node} {pending last : Option OpenConditional} {context final : Context}
    {items : Block} {activity : List Activity}
    (walk : Walk grammar [node] pending context items last final activity) :
    last.isSome = true ↔ node.isSection = true ∧ node.isElse = false ∧
      ∃ condition body, items ++ (settle last final).1 =
        (settle pending context).1 ++ [.conditional condition body] := by
  cases walk with
  | statement source closing reading later =>
    cases later
    cases node with
    | line _ _ | entry _ _ _ => simp [Node.isSection]
    | «section» _ _ _ => cases source
  | refused closing reading later =>
    cases later
    simp [closed_of_atLine closing]
  | loop closing reading inside innerClosing later =>
    cases later
    simp [closed_of_atLine closing, reading.ne_conditional]
  | condition header closing reading inside innerClosing later =>
    cases later
    simp [closed_of_atLine closing, Node.isSection, isElse_of_condition header, OpenConditional.item]
  | other conditional context header inside innerClosing later =>
    cases later
    simp [(isElse_section _ _ _).mpr header]
  | stray header reading later =>
    cases later
    simp [(isElse_section _ _ _).mpr header]

theorem compileNodes_singleton (node : Node) (pending : Option OpenConditional) (context : Context) :
    compileNodes grammar [node] pending context = compileNode grammar node pending context := by
  have nothing (pending : Option OpenConditional) (context : Context) :
      compileNodes grammar [] pending context = ⟨⟨[], pending, context⟩, []⟩ := rfl
  simp only [compileNodes_cons, nothing, List.append_nil]

theorem reached_concat (children : List Node) (node : Node) (context : Context) :
    reached grammar (children ++ [node]) context =
      let first := reached grammar children context
      let next := compileNode grammar node first.value.pending first.value.context
      ⟨⟨first.value.items ++ next.value.items, next.value.pending, next.value.context⟩,
        first.activity ++ next.activity⟩ := by
  simp only [reached, compileNodes_append, compileNodes_singleton]

theorem emitted_concat (children : List Node) (node : Node) (context : Context) :
    let first := (reached grammar children context).value
    (reached grammar (children ++ [node]) context).value.emitted =
      first.items ++ (compileNode grammar node first.pending first.context).value.emitted := by
  simp only [reached_concat, Progress.emitted, List.append_assoc]

theorem endsInConditional_concat (front : List Node) (last : Node) (context : Context) :
    let first := (reached grammar front context).value
    EndsInConditional grammar context (front ++ [last]) ↔ last.isSection = true ∧ last.isElse = false ∧
      ∃ condition body, (compileNode grammar last first.pending first.context).value.emitted =
        (settle first.pending first.context).1 ++ [.conditional condition body] := by
  constructor
  · rintro ⟨front', last', condition, body, same, isSection, notElse, emitted⟩
    obtain ⟨rfl, sameLast⟩ := List.append_inj' same rfl
    cases sameLast
    rw [emitted_concat, Progress.emitted.eq_def (reached _ _ _).value, List.append_assoc] at emitted
    exact ⟨isSection, notElse, condition, body, List.append_cancel_left emitted⟩
  · rintro ⟨isSection, notElse, condition, body, emitted⟩
    refine ⟨front, last, condition, body, rfl, isSection, notElse, ?_⟩
    rw [emitted_concat, emitted, Progress.emitted, List.append_assoc]

/-- A conditional is open exactly if the last child was compiled into it. -/
theorem reached_open_iff (grammar : Grammar) (context : Context) (children : List Node) :
    (reached grammar children context).value.pending.isSome = true ↔ EndsInConditional grammar context children := by
  rcases List.eq_nil_or_concat' children with rfl | ⟨front, last, rfl⟩
  · constructor
    · nofun
    · rintro ⟨front, last, condition, body, nothing, -⟩
      simp at nothing
  · let first := (reached grammar front context).value
    have walk : Walk grammar [last] first.pending first.context _ _ _ _ := compileNode_walk grammar last .done
    have opens := walk.opens_iff
    rw [List.append_nil] at opens
    rw [reached_concat]
    exact opens.trans (endsInConditional_concat front last context).symm

/-- Nothing is open behind a branch. -/
theorem reached_closed_of_isElse (earlier : List Node) {branch : Node} (context : Context)
    (isElse : branch.isElse = true) : (reached grammar (earlier ++ [branch]) context).value.pending = none := by
  by_contra opened
  have ends := (reached_open_iff grammar context _).mp (Option.isSome_iff_ne_none.mpr opened)
  have notElse := ((endsInConditional_concat earlier branch context).mp ends).2.1
  cases isElse.symm.trans notElse

/-- Where nothing is open, the items so far are the first of all that come. -/
theorem reached_extends {children : List Node} {context : Context}
    (closed : (reached grammar children context).value.pending = none) (later : List Node) :
    let whole := reached grammar (children ++ later) context
    (reached grammar children context).value.emitted <+: whole.value.emitted ∧
      (reached grammar children context).activity <+: whole.activity := by
  simp only [reached, compileNodes_append, Progress.emitted, List.append_assoc] at closed ⊢
  rw [closed, settle_none, List.append_nil]
  exact ⟨List.prefix_append _ _, List.prefix_append _ _⟩

/-! ## What becomes of a branch -/

/-- The other branch of an open conditional is compiled as a block of its own. -/
theorem compileNode_other {name : String} {children : List Node} {line : Nat} {conditional : OpenConditional}
    {context : Context} (header : Header.of name = .otherwise) :
    compileNode grammar (.section name children line) (some conditional) context =
      let other := compileBlock grammar (.section name children line)
        ((context.atLine line).withDelay conditional.before)
      ⟨⟨[.choice conditional.condition conditional.body other.value.1], none,
          other.value.2.withDelay (.mergeBranches conditional.before context.delay other.value.2.delay)⟩,
        [.noted (.elseHeader context.depth)] ++ other.activity⟩ := by
  simp only [compileNode, header, compileBlock, Node.lineNumber, Node.children, Recorded.ext_iff,
    Recorded.value_bind, Recorded.value_pure, Recorded.activity_bind, Recorded.activity_pure, activity_note,
    List.append_nil, and_self]

theorem Stage.delay_before {entry : Delay} {items : Block} {conditional : OpenConditional} {context : Context}
    {activity : List Activity} (stage : Stage grammar entry items (some conditional) context activity) :
    conditional.before = Block.delayAfter items entry := by
  cases stage with
  | opened compiled inside => exact compiled.delay_eq

theorem reached_delay_before {children : List Node} {context : Context} {conditional : OpenConditional}
    (opened : (reached grammar children context).value.pending = some conditional) :
    conditional.before = Block.delayAfter (reached grammar children context).value.items context.delay := by
  have stage := (compileNodes_walk grammar children none context.enterBlock).stage (Stage.start grammar context)
  change Stage _ _ _ (reached grammar children context).value.pending _ _ at stage
  rw [opened] at stage
  exact stage.delay_before

theorem reached_file (children : List Node) (context : Context) :
    (reached grammar children context).value.context.file = context.file :=
  congrArg Surroundings.file (compileNodes_walk grammar children none context.enterBlock).surroundings_eq

/-- Behind an open conditional a branch joins it. -/
theorem joinsLast_of_open {earlier : List Node} {branch : Node} {context : Context} (isElse : branch.isElse = true)
    (opened : (reached grammar earlier context).value.pending.isSome = true) :
    JoinsLast grammar context branch (reached grammar earlier context).value
      (reached grammar (earlier ++ [branch]) context).value := by
  obtain ⟨conditional, opened⟩ := Option.isSome_iff_exists.mp opened
  obtain ⟨name, children, line, rfl, header⟩ := exists_section_of_isElse isElse
  refine ⟨(reached grammar earlier context).value.items, conditional.condition, conditional.body, ?_, ?_⟩
  · rw [Progress.emitted, opened]
    rfl
  · rw [emitted_concat, opened, compileNode_other header, ← reached_delay_before opened]
    rfl

/-- A branch stays out if no conditional is open. -/
theorem staysOut_of_closed {earlier : List Node} {branch : Node} {context : Context} (isElse : branch.isElse = true)
    (closed : (reached grammar earlier context).value.pending = none) :
    StaysOut context branch (reached grammar earlier context) (reached grammar (earlier ++ [branch]) context) := by
  obtain ⟨name, children, line, rfl, header⟩ := exists_section_of_isElse isElse
  have report : ((reached grammar earlier context).value.context.atLine line).diagnosticOf .error
      Problem.strayElse.message = strayReport context (.section name children line) := by
    simp only [Context.diagnosticOf, Context.atLine, reached_file, strayReport, Node.lineNumber]
  refine ⟨?_, ?_, ?_⟩
  · rw [emitted_concat, Progress.emitted.eq_def (reached _ _ _).value, closed, compileNode_stray header]
    rfl
  · simp only [reached_concat, closed, compileNode_stray header, ← report]
    rfl
  · simp only [reached_concat, closed, compileNode_stray header, ← report]
    rfl

/--
A branch joins the conditional of the child just before it, and only that: without such a child it is
reported and left out. A conditional is open only while the last item so far is one without another
branch, which the last child was compiled into.
-/
theorem else_joins_only_conditional_before_it (grammar : Grammar) (node : Node) (context : Context)
    {earlier later : List Node} {branch : Node} (split : node.children = earlier ++ branch :: later)
    (isElse : branch.isElse = true) :
    let before := reached grammar earlier context
    let behind := reached grammar (earlier ++ [branch]) context
    let whole := compileBlock grammar node context
    (JoinsLast grammar context branch before.value behind.value ↔ EndsInConditional grammar context earlier) ∧
      (¬ EndsInConditional grammar context earlier → StaysOut context branch before behind) ∧
      (behind.value.emitted <+: whole.value.1 ∧ behind.activity <+: whole.activity) ∧
      ∀ children, (reached grammar children context).value.pending.isSome = true ↔
        EndsInConditional grammar context children := by
  intro before behind whole
  have staysOut (apart : ¬ EndsInConditional grammar context earlier) : StaysOut context branch before behind := by
    rw [← reached_open_iff, Option.not_isSome_iff_eq_none] at apart
    exact staysOut_of_closed isElse apart
  refine ⟨⟨?_, ?_⟩, staysOut, ?_, reached_open_iff grammar context⟩
  · rintro ⟨items, condition, body, last, joined⟩
    by_contra apart
    have same := (staysOut apart).emitted
    rw [last, joined] at same
    simp at same
  · intro ends
    exact joinsLast_of_open isElse ((reached_open_iff grammar context earlier).mpr ends)
  · have closed : behind.value.pending = none := reached_closed_of_isElse earlier context isElse
    have further := reached_extends closed later
    rw [List.append_assoc, List.singleton_append, ← split] at further
    refine ⟨further.1, ?_⟩
    change _ <+: (within _ _ _).activity
    rw [activity_within]
    exact further.2

/-- A conditional that two branches follow. -/
def twoBranches : List Node :=
  [.line "a" 2, .section "if x" [.line "delay 1" 4] 3, .section " ELSE " [.line "b" 6] 5,
    .section "else" [.line "c" 8] 7]

theorem second_else_stays_out :
    let grammar := Rehearsal.grammar []
    JoinsLast grammar {} (.section " ELSE " [.line "b" 6] 5) (reached grammar (twoBranches.take 2) {}).value
        (reached grammar (twoBranches.take 3) {}).value ∧
      StaysOut {} (.section "else" [.line "c" 8] 7) (reached grammar (twoBranches.take 3) {})
        (reached grammar twoBranches {}) := by
  intro grammar
  have first := @else_joins_only_conditional_before_it grammar (.section "on test" twoBranches 1) {}
    (twoBranches.take 2) (twoBranches.drop 3) (.section " ELSE " [.line "b" 6] 5) rfl (by decide +kernel)
  have second := @else_joins_only_conditional_before_it grammar (.section "on test" twoBranches 1) {}
    (twoBranches.take 3) [] (.section "else" [.line "c" 8] 7) rfl (by decide +kernel)
  have opened := first.2.2.2
  refine ⟨first.1.mpr ((opened _).mp (by decide +kernel)), second.2.1 fun ends => ?_⟩
  have closed : (reached grammar (twoBranches.take 3) {}).value.pending.isSome = false := by decide +kernel
  cases closed.symm.trans ((opened _).mpr ends)

end Compile

end TriggerScript
