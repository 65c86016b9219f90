import TriggerScript.Proofs.Reading
import TriggerScript.Proofs.TableWork
import TriggerScript.Proofs.Walk

/-!
# What the compiler asks

A script is compiled by parsing its lines, working on its tables and handing its commands to the compiler of commands.
Nothing else is asked or ordered on the way. So a script is compiled within limits that leave room for this much, if
the compiler of commands keeps to them.
-/

namespace TriggerScript

/-- A line is parsed, a command is handed over, or a table is worked on. -/
def Activity.isCompilation : Activity → Bool
  | .consulted (.event ..) | .consulted (.condition ..) | .consulted (.expression ..) | .consulted (.statement ..)
  | .consulted (.command ..) => true
  | activity => activity.isTableWork

theorem Recorded.Only.compilation {α : Type} {recorded : Recorded α} (work : recorded.TableWork) :
    recorded.Only Activity.isCompilation := by
  refine Only.mono work fun {activity} entry => ?_
  unfold Activity.isCompilation
  split
  all_goals first | rfl | exact entry

/-- The compiler of commands keeps to some kinds of activity. -/
def Commands.Keep {σ : Type} (commands : Commands σ) (allowed : Activity → Bool) : Prop :=
  ∀ node context state, (commands.compile node context state).Only allowed

namespace Compile

theorem fail_compilation (context : Context) (problem : Problem) :
    (context.fail problem).Only Activity.isCompilation := rfl

/-! ## Blocks -/

section

variable {grammar : Grammar}

/-- All that was done was done to compile something. -/
abbrev Compilation (activity : List Activity) : Prop := activity.all Activity.isCompilation = true

theorem compilation_append {first second : List Activity} (earlier : Compilation first) (later : Compilation second) :
    Compilation (first ++ second) := by
  rw [Compilation, List.all_append, earlier, later, Bool.and_self]

theorem Reads.compilation {α : Type} {asks : String → Consultation} {parses : String → α → Prop}
    {context after : Context} {value : Option α} {asked : List Activity}
    (reads : Reads asks parses context value after asked)
    (parsing : ∀ text, Compilation [.consulted (asks text)]) : Compilation asked := by
  cases reads with
  | understood _ => exact parsing _
  | refused text _ problem => exact compilation_append (parsing text) rfl
  | undefined name => rfl

theorem compileStatement_compilation {text : String} {context after : Context} {item : Option Item}
    {asked : List Activity} (reading : compileStatement grammar text context = ⟨(item, after), asked⟩) :
    Compilation asked := by
  have reads := compileStatement_reads grammar text context
  rw [reading] at reads
  cases reads with
  | understood _ => rfl
  | missing reads => exact reads.compilation fun _ => rfl

theorem readLoop_compilation {text : String} {context after : Context} {iterable : Option Expression}
    {asked : List Activity} (reading : readLoop grammar text context = ⟨(iterable, after), asked⟩) :
    Compilation asked := by
  have reads := readLoop_reads grammar text context
  rw [reading] at reads
  exact reads.compilation fun _ => rfl

theorem readCondition_compilation {text : String} {context after : Context} {condition : Option Condition}
    {asked : List Activity} (reading : readCondition grammar text context = ⟨(condition, after), asked⟩) :
    Compilation asked := by
  have reads := readCondition_reads grammar text context
  rw [reading] at reads
  exact reads.compilation fun _ => rfl

theorem Refused.compilation {header : Header} {context after : Context} {asked : List Activity}
    (refused : Refused grammar header context after asked) : Compilation asked := by
  cases refused with
  | loop reading => exact readLoop_compilation reading
  | «while» reading | condition reading => exact readCondition_compilation reading

theorem OpensLoop.compilation {header : Header} {context after : Context} {asked : List Activity}
    {notice : Notice} {loop : Block → Item} (opens : OpensLoop grammar header context after asked notice loop) :
    Compilation asked := by
  cases opens with
  | loop reading => exact readLoop_compilation reading
  | «while» reading => exact readCondition_compilation reading

theorem Walk.compilation {nodes : List Node} {pending last : Option OpenConditional}
    {context final : Context} {items : Block} {activity : List Activity}
    (walk : Walk grammar nodes pending context items last final activity) : Compilation activity := by
  -- A step reads its own line, compiles what is inside and goes on.
  induction walk with
  | done => rfl
  | statement _ _ reading _ later => exact compilation_append (compileStatement_compilation reading) later
  | refused _ reading _ later => exact compilation_append reading.compilation later
  | loop _ reading _ _ _ inside later =>
    exact compilation_append (compilation_append reading.compilation (compilation_append rfl inside)) later
  | condition _ _ reading _ _ _ inside later =>
    have read := readCondition_compilation reading
    exact compilation_append (compilation_append read (compilation_append rfl inside)) later
  | other _ _ _ _ _ _ inside later => exact compilation_append (compilation_append rfl inside) later
  | stray _ reading _ later =>
    have failed := congrArg Recorded.activity reading
    subst failed
    exact compilation_append rfl later

end

theorem compileBlock_compilation (grammar : Grammar) (node : Node) (context : Context) :
    (compileBlock grammar node context).Only Activity.isCompilation := by
  have walked := compileNodes_walk grammar node.children none context.enterBlock
  rw [Recorded.Only, compileBlock, activity_within]
  exact walked.compilation

/-! ## Scripts -/

theorem substitute_compilation (text : String) (context : Context) :
    (Options.substitute text context).Only Activity.isCompilation := by
  rcases substitute_cases text context with ⟨expanded, substituted⟩ | ⟨name, substituted⟩ <;>
    rw [substituted] <;> rfl

theorem compileEvent_compilation (grammar : Grammar) (node : Node) (context : Context) :
    (compileEvent grammar node context).Only Activity.isCompilation := by
  unfold compileEvent
  refine .bind (substitute_compilation _ context) ?_
  dsimp only
  split
  · rfl
  · refine .bind rfl ?_
    split
    · rfl
    · exact .bind rfl (.bind (compileBlock_compilation grammar node _) rfl)

section

variable {σ : Type} {services : Services σ} {allowed : Activity → Bool}
  (room : ∀ {activity : Activity}, activity.isCompilation = true → allowed activity = true)

include room

theorem compileCommand_only {commands : Commands σ} (proper : commands.Keep allowed) (node : Node)
    (session : Session σ) : (compileCommand commands node session).Only allowed := by
  have handed (context : Context) : (consult (.command node context)).Only Activity.isCompilation := rfl
  unfold compileCommand
  -- Only the call and, at most, a report are added to what the compiler of commands does.
  refine .bind (.bind ((handed _).mono room) (proper node _ _)) ?_
  dsimp only
  split
  · rfl
  · exact .bind ((fail_compilation _ _).mono room) rfl

theorem compileSection_only (proper : services.commands.Keep allowed) (node : Node) (session : Session σ) :
    (compileSection services node session).Only allowed := by
  unfold compileSection
  dsimp only
  split
  case h_1 => exact .bind ((Recorded.Only.compilation (compileAliases_tableWork ..)).mono room) rfl
  case h_2 => exact .bind ((Recorded.Only.compilation (compileOptions_tableWork ..)).mono room) rfl
  case h_3 => exact .bind ((Recorded.Only.compilation (compileVariables_tableWork ..)).mono room) rfl
  case h_4 => exact .bind ((fail_compilation _ _).mono room) rfl
  case h_5 => exact .bind (compileCommand_only room proper ..) rfl
  case h_6 => exact .bind ((compileEvent_compilation ..).mono room) rfl

theorem compileTopLevel_only (proper : services.commands.Keep allowed) (node : Node) (session : Session σ) :
    (compileTopLevel services node session).Only allowed := by
  unfold compileTopLevel
  dsimp only
  split
  · exact compileSection_only room proper node _
  · exact .bind ((fail_compilation _ _).mono room) rfl

theorem compileAll_only (proper : services.commands.Keep allowed) (nodes : List Node) (session : Session σ) :
    (compileAll services nodes session).Only allowed := by
  induction nodes generalizing session with
  | nil => rfl
  | cons node rest inductionHypothesis =>
    exact .bind (compileTopLevel_only room proper node session) (.bind (inductionHypothesis _) rfl)

/-- A script is compiled within limits that leave room for it, if the compiler of commands keeps to them. -/
theorem compileFile_only (proper : services.commands.Keep allowed) (file : Path) (root : Node) (values : Variables)
    (state : σ) : (compileFile services file root values state).Only allowed := by
  have noted (notice : Notice) : (note notice).Only Activity.isCompilation := rfl
  exact .bind (compileAll_only room proper root.children _) (.bind ((noted _).mono room) rfl)

end

end Compile

end TriggerScript
