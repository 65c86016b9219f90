import TriggerScript.Compile.Script

/-!
# What was reported before

A context carries the diagnostics that were reported so far. To a grammar that does not look at them
they make no difference: whatever is compiled behind some earlier diagnostics comes out the same, and its
own diagnostics stand behind the earlier ones.
-/

namespace TriggerScript

/-! ## Contexts -/

namespace Context

/-- The context with some diagnostics reported before its own. -/
def behind (context : Context) (earlier : List Diagnostic) : Context :=
  { context with diagnostics := earlier ++ context.diagnostics }

section

variable (context : Context) (earlier : List Diagnostic)

@[simp] theorem options_behind : (context.behind earlier).options = context.options := rfl

@[simp] theorem delay_behind : (context.behind earlier).delay = context.delay := rfl

@[simp] theorem file_behind : (context.behind earlier).file = context.file := rfl

@[simp] theorem atLine_behind (line : Nat) :
    (context.behind earlier).atLine line = (context.atLine line).behind earlier := rfl

@[simp] theorem withDelay_behind (delay : Delay) :
    (context.behind earlier).withDelay delay = (context.withDelay delay).behind earlier := rfl

@[simp] theorem withEvent_behind (event : Option ActiveEvent) :
    (context.behind earlier).withEvent event = (context.withEvent event).behind earlier := rfl

@[simp] theorem enterBlock_behind :
    (context.behind earlier).enterBlock = context.enterBlock.behind earlier := rfl

@[simp] theorem leaveBlock_behind :
    (context.behind earlier).leaveBlock = context.leaveBlock.behind earlier := rfl

@[simp] theorem report_behind (severity : Severity) (message : String) :
    ((context.behind earlier).report severity message).value =
      (context.report severity message).value.behind earlier := by
  simp [report, behind, addDiagnostic, diagnosticOf]

@[simp] theorem fail_behind (problem : Problem) :
    ((context.behind earlier).fail problem).value = (context.fail problem).value.behind earlier :=
  report_behind context earlier .error problem.message

end

end Context

/-- The answers of the grammar do not depend on what was reported. -/
structure Grammar.IgnoresReports (grammar : Grammar) : Prop where
  event : ∀ text context earlier,
    grammar.parseEvent text (Context.behind context earlier) = grammar.parseEvent text context
  condition : ∀ text context earlier,
    grammar.parseCondition text (Context.behind context earlier) = grammar.parseCondition text context
  expression : ∀ text expected context earlier,
    grammar.parseExpression text expected (Context.behind context earlier) =
      grammar.parseExpression text expected context
  statement : ∀ text context earlier,
    grammar.parseStatement text (Context.behind context earlier) = grammar.parseStatement text context

/-- What the compiler of commands does not depend on what was reported; it reports behind that. -/
def Commands.IgnoresReports {σ : Type} (commands : Commands σ) : Prop :=
  ∀ node context earlier state,
    (commands.compile node (Context.behind context earlier) state).value =
      ((commands.compile node context state).value.1,
        (commands.compile node context state).value.2.1.behind earlier,
        (commands.compile node context state).value.2.2)

namespace Compile

/-! ## Blocks -/

variable {σ : Type} {grammar : Grammar}

theorem substitute_behind (text : String) (context : Context) (earlier : List Diagnostic) :
    (Options.substitute text (context.behind earlier)).value =
      ((Options.substitute text context).value.1, (Options.substitute text context).value.2.behind earlier) := by
  unfold Options.substitute
  rw [Context.options_behind]
  cases Options.expand context.options (Options.pieces text.toList) with
  | ok expanded => rfl
  | error name => simp

theorem readLoop_behind (ignores : grammar.IgnoresReports) (header : String) (context : Context)
    (earlier : List Diagnostic) :
    (readLoop grammar header (context.behind earlier)).value =
      ((readLoop grammar header context).value.1, (readLoop grammar header context).value.2.behind earlier) := by
  unfold readLoop
  simp only [Recorded.value_bind, substitute_behind]
  rcases (Options.substitute header context).value with ⟨_ | text, context⟩
  · rfl
  · simp only [Grammar.readExpression, Recorded.value_bind, Recorded.value_pure, ignores.expression]
    cases grammar.parseExpression text loopable context with
    | error reason => simp
    | ok iterable => cases single : iterable.single <;> simp [single]

theorem readCondition_behind (ignores : grammar.IgnoresReports) (header : String) (context : Context)
    (earlier : List Diagnostic) :
    (readCondition grammar header (context.behind earlier)).value =
      ((readCondition grammar header context).value.1,
        (readCondition grammar header context).value.2.behind earlier) := by
  unfold readCondition
  simp only [Recorded.value_bind, substitute_behind]
  rcases (Options.substitute header context).value with ⟨_ | text, context⟩
  · rfl
  · simp only [Grammar.readCondition, Recorded.value_bind, Recorded.value_pure, ignores.condition]
    cases grammar.parseCondition text context <;> simp

theorem compileStatement_behind (ignores : grammar.IgnoresReports) (source : String) (context : Context)
    (earlier : List Diagnostic) :
    (compileStatement grammar source (context.behind earlier)).value =
      ((compileStatement grammar source context).value.1,
        (compileStatement grammar source context).value.2.behind earlier) := by
  unfold compileStatement
  simp only [Recorded.value_bind, substitute_behind]
  rcases (Options.substitute source context).value with ⟨_ | text, context⟩
  · rfl
  · simp only [Grammar.readStatement, Recorded.value_bind, Recorded.value_pure, ignores.statement]
    cases grammar.parseStatement text context <;> simp

@[simp] theorem settle_behind (pending : Option OpenConditional) (context : Context)
    (earlier : List Diagnostic) :
    settle pending (context.behind earlier) =
      ((settle pending context).1, (settle pending context).2.behind earlier) := by
  cases pending <;> rfl

/-- The progress with some diagnostics reported before. -/
def Progress.behind (progress : Progress) (earlier : List Diagnostic) : Progress :=
  { progress with context := progress.context.behind earlier }

/-- A nested section is run through as its children are. -/
theorem within_behind {walk : Context → Recorded Progress}
    (same : ∀ context earlier, (walk (context.behind earlier)).value = (walk context).value.behind earlier)
    (line : Nat) (context : Context) (earlier : List Diagnostic) :
    (within line walk (context.behind earlier)).value =
      ((within line walk context).value.1, (within line walk context).value.2.behind earlier) := by
  simp [within, same, Progress.behind]

mutual

theorem compileNode_behind (ignores : grammar.IgnoresReports) : ∀ (node : Node)
    (pending : Option OpenConditional) (context : Context) (earlier : List Diagnostic),
    (compileNode grammar node pending (context.behind earlier)).value =
      (compileNode grammar node pending context).value.behind earlier
  | .line text line, pending, context, earlier => by
    simp [compileNode, compileStatement_behind ignores, Progress.behind]
  | .entry key value line, pending, context, earlier => by
    simp [compileNode, compileStatement_behind ignores, Progress.behind]
  | .section name children line, pending, context, earlier => by
    -- Whatever the header says, the children start with no conditional open.
    have inside := within_behind (compileNodes_behind ignores children none)
    cases header : Header.of name with
    | otherwise => cases pending <;> simp [compileNode, header, inside, Progress.behind]
    | loop text =>
      simp only [compileNode, header, Context.atLine_behind, settle_behind, Recorded.value_bind,
        readLoop_behind ignores]
      rcases (readLoop grammar text (settle pending (context.atLine line)).2).value with
        ⟨_ | iterable, after⟩ <;> simp [inside, Progress.behind]
    | «while» text =>
      simp only [compileNode, header, Context.atLine_behind, settle_behind, Recorded.value_bind,
        readCondition_behind ignores]
      rcases (readCondition grammar text (settle pending (context.atLine line)).2).value with
        ⟨_ | condition, after⟩ <;> simp [inside, Progress.behind]
    | condition text =>
      simp only [compileNode, header, Context.atLine_behind, settle_behind, Recorded.value_bind,
        readCondition_behind ignores]
      rcases (readCondition grammar text (settle pending (context.atLine line)).2).value with
        ⟨_ | condition, after⟩ <;> simp [inside, Progress.behind]

theorem compileNodes_behind (ignores : grammar.IgnoresReports) : ∀ (nodes : List Node)
    (pending : Option OpenConditional) (context : Context) (earlier : List Diagnostic),
    (compileNodes grammar nodes pending (context.behind earlier)).value =
      (compileNodes grammar nodes pending context).value.behind earlier
  | [], _, _, _ => rfl
  | node :: rest, pending, context, earlier => by
    simp [compileNodes, compileNode_behind ignores node, compileNodes_behind ignores rest, Progress.behind]

end

theorem compileBlock_behind (ignores : grammar.IgnoresReports) (node : Node) (context : Context)
    (earlier : List Diagnostic) :
    (compileBlock grammar node (context.behind earlier)).value =
      ((compileBlock grammar node context).value.1, (compileBlock grammar node context).value.2.behind earlier) :=
  within_behind (compileNodes_behind ignores node.children none) _ _ _

/-! ## Sections -/

theorem compileAlias_behind (classes : Classes) (node : Node) (context : Context)
    (earlier : List Diagnostic) :
    (compileAlias classes node (context.behind earlier)).value =
      (compileAlias classes node context).value.behind earlier := by
  unfold compileAlias
  cases node.asEntry? "=" with
  | none => simp
  | some entry =>
    simp only [Classes.readAlias, Recorded.value_bind, Recorded.value_pure]
    cases classes.resolveAlias entry.2 with
    | error reason => simp
    | ok itemType => rfl

theorem compileAliases_behind (classes : Classes) (nodes : List Node) (context : Context)
    (earlier : List Diagnostic) :
    (compileAliases classes nodes (context.behind earlier)).value =
      (compileAliases classes nodes context).value.behind earlier := by
  induction nodes generalizing context with
  | nil => rfl
  | cons node rest inductionHypothesis => simp [compileAliases, compileAlias_behind, inductionHypothesis]

theorem compileOption_behind (node : Node) (context : Context) (earlier : List Diagnostic) :
    (compileOption node (context.behind earlier)).value =
      (compileOption node context).value.behind earlier := by
  unfold compileOption
  cases node.asEntry? ":" with
  | none => simp
  | some entry => rfl

theorem compileOptions_behind (nodes : List Node) (context : Context) (earlier : List Diagnostic) :
    (compileOptions nodes (context.behind earlier)).value =
      (compileOptions nodes context).value.behind earlier := by
  induction nodes generalizing context with
  | nil => rfl
  | cons node rest inductionHypothesis => simp [compileOptions, compileOption_behind, inductionHypothesis]

theorem compileEvent_behind (ignores : grammar.IgnoresReports) (node : Node) (context : Context)
    (earlier : List Diagnostic) :
    (compileEvent grammar node (context.behind earlier)).value =
      ((compileEvent grammar node context).value.1, (compileEvent grammar node context).value.2.behind earlier) := by
  unfold compileEvent
  simp only [Recorded.value_bind, substitute_behind]
  rcases (Options.substitute _ context).value with ⟨_ | text, context⟩
  · rfl
  · simp only [Grammar.readEvent, Recorded.value_bind, Recorded.value_pure, ignores.event]
    cases grammar.parseEvent text context with
    | error reason => simp
    | ok understood => simp [compileBlock_behind ignores]

theorem compileVariable_behind (classes : Classes) (node : Node) (context : Context) (earlier : List Diagnostic)
    (values : Variables) :
    (compileVariable classes node (context.behind earlier) values).value =
      ((compileVariable classes node context values).value.1.behind earlier,
        (compileVariable classes node context values).value.2) := by
  unfold compileVariable
  cases node.asEntry? "=" with
  | none => simp
  | some entry =>
    simp only [Recorded.value_bind]
    rcases (defaultVariable classes entry.1 entry.2 values).value with problem | _ | added <;> simp

theorem compileVariables_behind (classes : Classes) (nodes : List Node) (context : Context)
    (earlier : List Diagnostic) (values : Variables) :
    (compileVariables classes nodes (context.behind earlier) values).value =
      ((compileVariables classes nodes context values).value.1.behind earlier,
        (compileVariables classes nodes context values).value.2) := by
  induction nodes generalizing context values with
  | nil => rfl
  | cons node rest inductionHypothesis => simp [compileVariables, compileVariable_behind, inductionHypothesis]

/-! ## Scripts -/

/-- The session with some diagnostics reported before its own. -/
def Session.behind (session : Session σ) (earlier : List Diagnostic) : Session σ :=
  session.withContext (session.context.behind earlier)

theorem compileCommand_session_behind {commands : Commands σ} (ignores : commands.IgnoresReports) (node : Node)
    (session : Session σ) (earlier : List Diagnostic) :
    (compileCommand commands node (session.behind earlier)).value =
      ((compileCommand commands node session).value.1,
        (compileCommand commands node session).value.2.behind earlier) := by
  have asked := ignores node (session.context.withEvent (some .command)) earlier session.state
  unfold compileCommand Commands.compileSection
  simp only [Session.behind, Session.withContext, Context.withEvent_behind, Recorded.value_bind, asked]
  generalize (commands.compile node _ session.state).value = compiled
  obtain ⟨reason | command, after, state⟩ := compiled <;> simp

section

variable {services : Services σ} (reads : services.grammar.IgnoresReports) (commands : services.commands.IgnoresReports)
include reads commands

theorem compileSection_behind (node : Node) (session : Session σ) (earlier : List Diagnostic) :
    (compileSection services node (session.behind earlier)).value =
      ((compileSection services node session).value.1,
        (compileSection services node session).value.2.behind earlier) := by
  unfold compileSection
  cases SectionKind.of (Text.trim node.name)
  case command => simp [compileCommand_session_behind commands]
  all_goals
    simp [Session.behind, Session.withContext, compileAliases_behind, compileOptions_behind, compileVariables_behind,
      compileEvent_behind reads]

theorem compileTopLevel_behind (node : Node) (session : Session σ) (earlier : List Diagnostic) :
    (compileTopLevel services node (session.behind earlier)).value =
      ((compileTopLevel services node session).value.1,
        (compileTopLevel services node session).value.2.behind earlier) := by
  unfold compileTopLevel
  dsimp only
  split
  · exact compileSection_behind reads commands node
      (session.withContext (session.context.atLine node.lineNumber)) earlier
  · simp [Session.behind, Session.withContext]

theorem compileAll_behind (nodes : List Node) (session : Session σ) (earlier : List Diagnostic) :
    (compileAll services nodes (session.behind earlier)).value =
      ((compileAll services nodes session).value.1, (compileAll services nodes session).value.2.behind earlier) := by
  induction nodes generalizing session with
  | nil => rfl
  | cons node rest inductionHypothesis =>
    simp [compileAll, compileTopLevel_behind reads commands, inductionHypothesis]

end

end Compile

end TriggerScript
