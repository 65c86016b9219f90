import TriggerScript.Proofs.Arrival
import TriggerScript.Proofs.Reading
import TriggerScript.Proofs.Walk
import TriggerScript.Rehearsal.Grammar

/-!
# The delay of compiled code

The compiler carries the delay along while it builds a block, and shows it to the grammar with every
statement. Here this is tied to the block that comes out: the state at the end is the fold over the
block's flow, and the states shown are those that the fold has in front of the statements. Lines that
are left out, headers that are refused and branches without a conditional have no part in it.
-/

namespace TriggerScript

/-- The statement that an activity brought in, with the delay that the grammar was shown for it. -/
def Grammar.accepted? (grammar : Grammar) : Activity → Option (Statement × Delay)
  | .consulted (.statement text context) =>
    match grammar.parseStatement text context with
    | .ok statement => some (statement, context.delay)
    | .error _ => none
  | _ => none

/-- All statements that some activity brought in, in order, each with the delay that was shown. -/
def Grammar.accepted (grammar : Grammar) (activity : List Activity) : List (Statement × Delay) :=
  activity.filterMap grammar.accepted?

@[simp] theorem Grammar.accepted_append (grammar : Grammar) (first second : List Activity) :
    grammar.accepted (first ++ second) = grammar.accepted first ++ grammar.accepted second :=
  List.filterMap_append

@[simp] theorem Grammar.accepted_noted (grammar : Grammar) (notice : Notice) :
    grammar.accepted [.noted notice] = [] := rfl

namespace Compile

/-- A block compiled from the state `entry`, up to the state `exit`, by some activity. -/
structure Compiled (grammar : Grammar) (entry : Delay) (block : Block) (exit : Delay)
    (activity : List Activity) : Prop where
  delay : exit = (Block.flow block).delayAfter Statement.suspends entry
  shown : ((Block.flow block).annotate Statement.suspends entry).steps = grammar.accepted activity

section Blocks

variable {grammar : Grammar} {entry middle exit : Delay} {first second body other : Block}
  {activity later : List Activity}

theorem Compiled.nothing (silent : grammar.accepted activity = []) :
    Compiled grammar entry [] entry activity :=
  ⟨rfl, silent.symm⟩

theorem Compiled.append (compiled : Compiled grammar entry first middle activity)
    (next : Compiled grammar middle second exit later) :
    Compiled grammar entry (first ++ second) exit (activity ++ later) where
  delay := by
    rw [Block.flow_append, Flow.delayAfter_append, ← compiled.delay]
    exact next.delay
  shown := by
    rw [Block.flow_append, Flow.annotate_append, Flow.steps_append, ← compiled.delay,
      compiled.shown, next.shown, Grammar.accepted_append]

/-- Activity that brings in no statement may come first. -/
theorem Compiled.preceded (compiled : Compiled grammar entry first exit later)
    (silent : grammar.accepted activity = []) : Compiled grammar entry first exit (activity ++ later) :=
  (Compiled.nothing silent).append compiled

theorem Compiled.conditional (compiled : Compiled grammar entry body exit activity)
    (condition : Condition) :
    Compiled grammar entry [.conditional condition body] (.mergeOptional entry exit) activity where
  delay := by rw [compiled.delay]; rfl
  shown := (List.append_nil _).trans compiled.shown

theorem Compiled.loop (compiled : Compiled grammar entry body exit activity) (iterable : Expression) :
    Compiled grammar entry [.loop iterable body] (.mergeOptional entry exit) activity where
  delay := by rw [compiled.delay]; rfl
  shown := (List.append_nil _).trans compiled.shown

theorem Compiled.while (compiled : Compiled grammar entry body exit activity) (condition : Condition) :
    Compiled grammar entry [.while condition body] (.mergeOptional entry exit) activity where
  delay := by rw [compiled.delay]; rfl
  shown := (List.append_nil _).trans compiled.shown

theorem Compiled.choice (compiled : Compiled grammar entry body middle activity)
    (otherwise : Compiled grammar entry other exit later) (condition : Condition) :
    Compiled grammar entry [.choice condition body other] (.mergeBranches entry middle exit)
      (activity ++ later) where
  delay := by rw [compiled.delay, otherwise.delay]; rfl
  shown := by
    rw [Grammar.accepted_append, ← compiled.shown, ← otherwise.shown]
    exact List.append_nil _

end Blocks

/-! ## Readings -/

theorem Reads.delay_eq {α : Type} {asks : String → Consultation} {parses : String → α → Prop}
    {context after : Context} {value : Option α} {asked : List Activity}
    (reads : Reads asks parses context value after asked) : after.delay = context.delay := by
  cases reads <;> rfl

/-- A reading brings in no statement if no question of it does. -/
theorem Reads.accepted_eq_nil {α : Type} {grammar : Grammar} {asks : String → Consultation}
    {parses : String → α → Prop} {context after : Context} {value : Option α} {asked : List Activity}
    (reads : Reads asks parses context value after asked)
    (silent : ∀ text, grammar.accepted? (.consulted (asks text)) = none) :
    grammar.accepted asked = [] := by
  cases reads with
  | understood _ => exact List.filterMap_cons_none (silent _)
  | refused text _ _ => exact List.filterMap_cons_none (silent text)
  | undefined _ => rfl

theorem readCondition_silent {grammar : Grammar} {text : String} {context after : Context}
    {condition : Option Condition} {asked : List Activity}
    (reading : readCondition grammar text context = ⟨(condition, after), asked⟩) :
    after.delay = context.delay ∧ grammar.accepted asked = [] := by
  have reads := readCondition_reads grammar text context
  rw [reading] at reads
  exact ⟨reads.delay_eq, reads.accepted_eq_nil fun _ => rfl⟩

theorem readLoop_silent {grammar : Grammar} {text : String} {context after : Context}
    {iterable : Option Expression} {asked : List Activity}
    (reading : readLoop grammar text context = ⟨(iterable, after), asked⟩) :
    after.delay = context.delay ∧ grammar.accepted asked = [] := by
  have reads := readLoop_reads grammar text context
  rw [reading] at reads
  exact ⟨reads.delay_eq, reads.accepted_eq_nil fun _ => rfl⟩

theorem fail_silent {grammar : Grammar} {problem : Problem} {context after : Context}
    {asked : List Activity} (reading : context.fail problem = ⟨after, asked⟩) :
    after.delay = context.delay ∧ grammar.accepted asked = [] := by
  cases reading
  exact ⟨rfl, rfl⟩

theorem Refused.silent {grammar : Grammar} {header : Header} {context after : Context}
    {asked : List Activity} (refused : Refused grammar header context after asked) :
    after.delay = context.delay ∧ grammar.accepted asked = [] := by
  cases refused with
  | loop reading => exact readLoop_silent reading
  | «while» reading | condition reading => exact readCondition_silent reading

theorem OpensLoop.compiled {grammar : Grammar} {header : Header} {context after : Context}
    {asked activity : List Activity} {notice : Notice} {loop : Block → Item} {body : Block}
    {exit : Delay} (opens : OpensLoop grammar header context after asked notice loop)
    (compiled : Compiled grammar after.delay body exit activity) :
    Compiled grammar context.delay [loop body] (.mergeOptional after.delay exit)
      (asked ++ ([.noted notice] ++ activity)) := by
  cases opens with
  | loop reading =>
    obtain ⟨sameDelay, silent⟩ := readLoop_silent reading
    rw [← sameDelay]
    exact ((compiled.loop _).preceded rfl).preceded silent
  | «while» reading =>
    obtain ⟨sameDelay, silent⟩ := readCondition_silent reading
    rw [← sameDelay]
    exact ((compiled.while _).preceded rfl).preceded silent

theorem compileStatement_compiled {grammar : Grammar} {text : String} {context after : Context}
    {item : Option Item} {asked : List Activity}
    (reading : compileStatement grammar text context = ⟨(item, after), asked⟩) :
    Compiled grammar context.delay item.toList after.delay asked := by
  have reads := compileStatement_reads grammar text context
  rw [reading] at reads
  cases reads with
  | understood parsed =>
    refine ⟨rfl, ?_⟩
    simp only [Grammar.accepted, Grammar.accepted?, parsed, List.filterMap_cons, List.filterMap_nil]
    rfl
  | missing reads =>
    rw [reads.delay_eq]
    apply Compiled.nothing
    cases reads with
    | refused text fails problem =>
      apply List.filterMap_cons_none
      cases parsed : grammar.parseStatement text context with
      | ok statement => exact absurd parsed (fails statement)
      | error reason => simp only [Grammar.accepted?, parsed]
    | undefined name => rfl

/-! ## Along a walk -/

/--
How far a block has come from the state `entry`: its items so far, and the conditional that is still
open. The body of an open conditional is compiled, but its item is still to come.
-/
inductive Stage (grammar : Grammar) (entry : Delay) :
    Block → Option OpenConditional → Context → List Activity → Prop where
  | closed (compiled : Compiled grammar entry items (Context.delay context) activity) :
      Stage grammar entry items none context activity
  | opened (compiled : Compiled grammar entry items (OpenConditional.before conditional) earlier)
      (inside : Compiled grammar conditional.before conditional.body (Context.delay context) nested) :
      Stage grammar entry items (some conditional) context (earlier ++ nested)

section Stages

variable {grammar : Grammar} {entry : Delay} {items closed : Block}
  {pending : Option OpenConditional} {context before after : Context} {line : Nat}
  {activity asked : List Activity}

theorem Stage.settled (stage : Stage grammar entry items pending context activity)
    (closing : settle pending context = (closed, after)) :
    Compiled grammar entry (items ++ closed) after.delay activity := by
  cases stage with
  | closed compiled =>
    cases closing
    rwa [List.append_nil]
  | opened compiled inside =>
    cases closing
    exact compiled.append (inside.conditional _)

theorem Stage.atLine (stage : Stage grammar entry items pending context activity) (line : Nat) :
    Stage grammar entry items pending (context.atLine line) activity := by
  cases stage with
  | closed compiled => exact .closed compiled
  | opened compiled inside => exact .opened compiled inside

/-- Whatever is open is closed at the next line, where reading brings in no statement. -/
theorem Stage.passed (stage : Stage grammar entry items pending context activity)
    (closing : settle pending (context.atLine line) = (closed, before))
    (silent : after.delay = before.delay ∧ grammar.accepted asked = []) :
    Compiled grammar entry (items ++ closed) after.delay (activity ++ asked) := by
  rw [silent.1]
  simpa using ((stage.atLine line).settled closing).append (.nothing silent.2)

theorem Stage.start (grammar : Grammar) (context : Context) :
    Stage grammar context.delay [] none context.enterBlock [] :=
  .closed (.nothing rfl)

end Stages

/-- A walk takes a block from one stage to another. -/
theorem Walk.stage {grammar : Grammar} {nodes : List Node} {pending last : Option OpenConditional}
    {context final : Context} {items : Block} {activity : List Activity}
    (walk : Walk grammar nodes pending context items last final activity) {entry : Delay}
    {past : Block} {done : List Activity} (stage : Stage grammar entry past pending context done) :
    Stage grammar entry (past ++ items) last final (done ++ activity) := by
  -- What was compiled before the walk is general: each rule adds its own part and hands it on.
  induction walk generalizing entry past done with
  | done => simpa using stage
  | statement source closing reading _ laterStage =>
    have compiled := ((stage.atLine _).settled closing).append (compileStatement_compiled reading)
    simpa using laterStage (.closed compiled)
  | refused closing reading _ laterStage =>
    simpa using laterStage (.closed (stage.passed closing reading.silent))
  | loop closing reading _ innerClosing _ insideStage laterStage =>
    have body := (insideStage (Stage.start grammar _)).settled innerClosing
    have compiled := ((stage.atLine _).settled closing).append (reading.compiled body)
    simpa using laterStage (.closed compiled)
  | condition header closing reading _ innerClosing _ insideStage laterStage =>
    have body := (insideStage (Stage.start grammar _)).settled innerClosing
    have before := stage.passed closing (readCondition_silent reading)
    -- The item is still to come: only its body has been compiled.
    simpa using laterStage (.opened before (body.preceded (Grammar.accepted_noted grammar _)))
  | other conditional context header _ innerClosing _ insideStage laterStage =>
    have body := (insideStage (Stage.start grammar _)).settled innerClosing
    have noted := Grammar.accepted_noted grammar (.elseHeader context.depth)
    cases stage with
    | opened before inside =>
      have compiled := before.append (inside.choice (body.preceded noted) conditional.condition)
      simpa using laterStage (.closed compiled)
  | stray header reading _ laterStage =>
    simpa using laterStage (.closed (stage.passed rfl (fail_silent reading)))

/-- The delay and the shown states of a compiled block are those of its flow. -/
theorem compileBlock_compiled (grammar : Grammar) (node : Node) (context : Context) :
    Compiled grammar context.delay (compileBlock grammar node context).value.1
      (compileBlock grammar node context).value.2.delay
      (compileBlock grammar node context).activity := by
  have walk := compileNodes_walk grammar node.children none context.enterBlock
  have compiled := (walk.stage (Stage.start grammar context)).settled rfl
  rw [compileBlock, value_within, activity_within]
  exact compiled

/-! ## What the delay tells -/

/--
The flow of a compiled block, with each statement shown the delay that the grammar saw when it
accepted the statement. The statements of the block are those that the grammar accepted, in order.
-/
structure Shows (grammar : Grammar) (compiled : Recorded (Block × Context))
    (shown : Flow (Statement × Delay)) : Prop where
  statements : shown.map Prod.fst = Block.flow compiled.value.1
  delays : shown.steps = grammar.accepted compiled.activity

theorem compileBlock_shows (grammar : Grammar) (node : Node) (context : Context) :
    Shows grammar (compileBlock grammar node context)
      ((Block.flow (compileBlock grammar node context).value.1).annotate Statement.suspends
        context.delay) :=
  ⟨Flow.map_annotate _ _ _, (compileBlock_compiled grammar node context).shown⟩

/-- A block leaves `yes` behind exactly if it was compiled from `yes` or every path is suspended. -/
theorem delay_eq_yes_iff_every_path_suspended (grammar : Grammar) (node : Node) (context : Context) :
    (compileBlock grammar node context).value.2.delay = .yes ↔
      context.delay = .yes ∨
        ∀ path, Flow.Runs (Block.flow (compileBlock grammar node context).value.1) path →
          ∃ statement ∈ path, statement.suspends = true := by
  rw [(compileBlock_compiled grammar node context).delay]
  exact Flow.delayAfter_eq_yes_iff _ _

/--
A statement is shown `yes` only where every path to it is suspended before, unless the block was
compiled from `yes`; shown anything else, it is reached by a path that is not.
-/
theorem shown_yes_only_behind_suspension (grammar : Grammar) (node : Node) (context : Context) :
    ∃ shown, Shows grammar (compileBlock grammar node context) shown ∧
      (∀ before statement after, shown.Runs (before ++ (statement, .yes) :: after) →
        context.delay = .yes ∨ ∃ earlier ∈ before, earlier.1.suspends = true) ∧
      ∀ statement delay, (statement, delay) ∈ shown.steps → delay ≠ .yes →
        ∃ before after, shown.Runs (before ++ (statement, delay) :: after) ∧
          ∀ earlier ∈ before, earlier.1.suspends = false := by
  refine ⟨_, compileBlock_shows grammar node context, ?_, ?_⟩
  · intro before statement after runs
    obtain ⟨remarks, arrives, rfl⟩ := runs.arrives rfl
    refine (arrives.suspended_of_yes rfl).imp_right ?_
    rintro ⟨earlier, member, suspended⟩
    exact ⟨earlier.1, List.mem_map_of_mem member, suspended⟩
  · intro statement delay member unsure
    exact Flow.reachedQuietly_of_ne_yes member unsure

/--
A statement is shown `no` only if every suspension behind it is excused: it belongs to an earlier round
of a loop that is still running, or to one of two branches of which the other gets around a suspension.
-/
theorem shown_no_only_behind_excused (grammar : Grammar) (node : Node) (context : Context) :
    ∃ shown, Shows grammar (compileBlock grammar node context) shown ∧
      (∀ before target after, shown.Runs (before ++ target :: after) →
        ∃ remarks, shown.Arrives (Statement.suspends ∘ Prod.fst) remarks target ∧
          remarks.map Prod.fst = before) ∧
      ∀ remarks statement, shown.Arrives (Statement.suspends ∘ Prod.fst) remarks (statement, .no) →
        context.delay = .no ∧
          ∀ earlier ∈ remarks, earlier.1.1.suspends = true → earlier.2 := by
  refine ⟨_, compileBlock_shows grammar node context, ?_, ?_⟩
  · intro before target after runs
    exact runs.arrives rfl
  · intro remarks statement arrives
    exact arrives.excused_of_no rfl

/-- A loop with two branches, of which the first is suspended, between two statements. -/
def suspendedRound : Node :=
  .section "on test"
    [.section "loop all players"
      [.line "a" 3, .section "if x" [.line "delay 1" 5] 4, .section "else" [.line "b" 7] 6,
        .line "c" 8] 2] 1

/-- A statement of the rehearsed language that is shown `no`. -/
def shownNo (source : String) : Statement × Delay :=
  (⟨source, Rehearsal.startsWith source "delay", .none⟩, .no)

/-- One round of the loop, with what its statements are shown. -/
def shownRound : Flow (Statement × Delay) :=
  .step (shownNo "a") (.either (.step (shownNo "delay 1") .done) (.step (shownNo "b") .done)
    (.step (shownNo "c") .done))

/--
Behind a suspension `no` is shown to the statement after the branches, and in the next round to the
statement before them.
-/
theorem shown_no_behind_suspension :
    ∃ shown, Shows (Rehearsal.grammar [])
        (compileBlock (Rehearsal.grammar []) suspendedRound {}) shown ∧
      ∀ target ∈ [shownNo "a", shownNo "c"],
        ∃ before after, shown.Runs (before ++ target :: after) ∧
          ∃ earlier ∈ before, earlier.1.suspends = true := by
  have flow : (Block.flow (compileBlock (Rehearsal.grammar []) suspendedRound {}).value.1).annotate
      Statement.suspends .no = .repeated shownRound .done := by
    decide +kernel
  have round : shownRound.Runs [shownNo "a", shownNo "delay 1", shownNo "c"] :=
    .step (.first (.step .done) (.step .done))
  have rounds := Flow.Runs.again round (.again round (.leave .done))
  refine ⟨_, compileBlock_shows _ _ _, ?_⟩
  rw [flow]
  refine List.forall_mem_cons.mpr ⟨?_, List.forall_mem_singleton.mpr ?_⟩
  · exact ⟨[shownNo "a", shownNo "delay 1", shownNo "c"], _, rounds, shownNo "delay 1", by simp, rfl⟩
  · exact ⟨[shownNo "a", shownNo "delay 1"], _, rounds, shownNo "delay 1", by simp, rfl⟩

end Compile

end TriggerScript
