import TriggerScript.Proofs.DefaultVariables
import TriggerScript.Proofs.ScriptUnits

/-!
# Compiling the same script again

A script that is compiled a second time finds the default variables that the first time left. It gives no
variable another value and compiles to the same unit. What was reported is reported again, but for the
entries that were overtaken: the value of such an entry was refused when its variable had none, and then a
later entry gave it one, so that the second time it is passed over.
-/

namespace TriggerScript

/-! ## Reports that are left out -/

/-- A value that was refused to the variable of an entry. -/
structure Refusal where
  line : Nat
  problem : Problem

/-- A diagnostic reports a refusal. -/
structure Refusal.ReportedBy (refusal : Refusal) (diagnostic : Diagnostic) : Prop where
  severity : diagnostic.severity = .error
  message : diagnostic.message = refusal.problem.message
  line : diagnostic.line = refusal.line

/-- The second diagnostics are the first ones, in order, without the reports of some refusals. -/
inductive LeavesOut : List Refusal → List Diagnostic → List Diagnostic → Prop where
  | done : LeavesOut [] [] []
  | kept (diagnostic : Diagnostic) (rest : LeavesOut refusals reported again) :
      LeavesOut refusals (diagnostic :: reported) (diagnostic :: again)
  | dropped (report : refusal.ReportedBy diagnostic) (rest : LeavesOut refusals reported again) :
      LeavesOut (refusal :: refusals) (diagnostic :: reported) again

namespace LeavesOut

variable {refusals refusals' : List Refusal} {reported reported' again again' : List Diagnostic}

theorem refl (reported : List Diagnostic) : LeavesOut [] reported reported := by
  induction reported with
  | nil => exact .done
  | cons diagnostic rest inductionHypothesis => exact .kept diagnostic inductionHypothesis

theorem append (first : LeavesOut refusals reported again) (second : LeavesOut refusals' reported' again') :
    LeavesOut (refusals ++ refusals') (reported ++ reported') (again ++ again') := by
  induction first with
  | done => exact second
  | kept diagnostic _ inductionHypothesis => exact .kept diagnostic inductionHypothesis
  | dropped report _ inductionHypothesis => exact .dropped report inductionHypothesis

/-- What is reported both times stands behind. -/
theorem both (leaves : LeavesOut refusals reported again) (more : List Diagnostic) :
    LeavesOut refusals (reported ++ more) (again ++ more) := by
  have appended := leaves.append (refl more)
  rw [List.append_nil] at appended
  exact appended

theorem eq_of_nil (leaves : LeavesOut [] reported again) : again = reported := by
  generalize none : ([] : List Refusal) = refusals at leaves
  induction leaves with
  | done => rfl
  | kept diagnostic _ inductionHypothesis => rw [inductionHypothesis none]
  | dropped => cases none

end LeavesOut

/-! ## Contexts of the first and the second time -/

/-- The contexts of the first and the second time differ in their reports only, as far as some are left out. -/
structure Context.Trails (refusals : List Refusal) (first again : Context) : Prop where
  alike : first.Alike again
  reports : LeavesOut refusals first.diagnostics again.diagnostics

namespace Context.Trails

variable {refusals : List Refusal} {first again : Context}

theorem refl (context : Context) : Trails [] context context := ⟨rfl, .refl _⟩

theorem eq_of_nil (trails : Trails [] first again) : again = first := by
  rw [← first.behind_unreported, ← again.behind_unreported, trails.alike, trails.reports.eq_of_nil]

/-- What does not depend on earlier reports, if there are any to leave out, comes out the same. -/
theorem run {α : Type} (trails : Trails refusals first again) (run : Context → α × Context)
    (ignores : refusals = [] ∨ ∀ context earlier,
      run (Context.behind context earlier) = ((run context).1, (run context).2.behind earlier)) :
    (run again).1 = (run first).1 ∧ Trails refusals (run first).2 (run again).2 := by
  rcases ignores with rfl | ignores
  · rw [trails.eq_of_nil]
    exact ⟨rfl, .refl _⟩
  · have shared := trails.alike
    rw [← first.behind_unreported, ← again.behind_unreported, ← shared, ignores, ignores]
    exact ⟨rfl, rfl, trails.reports.both _⟩

theorem atLine (trails : Trails refusals first again) (line : Nat) :
    Trails refusals (first.atLine line) (again.atLine line) :=
  ⟨trails.alike.change (·.atLine line) fun _ _ => rfl, trails.reports⟩

theorem fail (trails : Trails refusals first again) (problem : Problem) :
    Trails refusals (first.fail problem).value (again.fail problem).value :=
  (trails.run (fun context => ((), (context.fail problem).value)) (.inr fun _ _ => by simp)).2

/-- A refusal is reported the first time only. -/
theorem refuse (trails : Trails refusals first again) (line : Nat) (problem : Problem) :
    Trails (refusals ++ [⟨line, problem⟩]) ((first.atLine line).fail problem).value (again.atLine line) := by
  have moved := trails.atLine line
  refine ⟨moved.alike, ?_⟩
  have dropped : LeavesOut [⟨line, problem⟩] [(first.atLine line).diagnosticOf .error problem.message] [] :=
    .dropped ⟨rfl, rfl, rfl⟩ .done
  have appended := moved.reports.append dropped
  rw [List.append_nil] at appended
  exact appended

end Context.Trails

namespace Compile

open Context (Trails)

variable {σ : Type} {services : Services σ} {classes : Classes} {refusals : List Refusal} {first again : Context}

/-! ## Entries -/

/-- The refusal that an entry meets, if its variable has no value then, but has one in the end. -/
def overtaken? (classes : Classes) (final values : Variables) (node : Node) : Option Refusal :=
  match Entry.of classes node with
  | .offers name (.error problem) =>
    if (values.find? name).isNone ∧ (final.find? name).isSome then some ⟨node.lineNumber, problem⟩ else none
  | _ => none

/-- The second time an entry gives no variable a value, and is reported again unless it was overtaken. -/
theorem compileVariable_again (trails : Trails refusals first again) (node : Node) {values final : Variables}
    (defined : ∀ name, ((entered classes values node).find? name).isSome → (final.find? name).isSome) :
    (compileVariable classes node again final).value.2 = final ∧
      Trails (refusals ++ (overtaken? classes final values node).toList)
        (compileVariable classes node first values).value.1 (compileVariable classes node again final).value.1 := by
  have moved := trails.atLine node.lineNumber
  have kept (name : String) (before : (values.find? name).isSome) : (final.find? name).isSome :=
    defined name ((entered_addsOnly classes values node).keeps before)
  rw [compileVariable_value, compileVariable_value, overtaken?]
  unfold entered at defined
  generalize Entry.of classes node = entry at defined ⊢
  rcases entry with problem | _ | ⟨name, problem | value⟩
  · simpa using moved.fail problem
  · simpa using moved
  · cases before : values.find? name with
    | some value => simpa [before, kept name (by simp [before])] using moved
    | none =>
      cases after : final.find? name with
      | some value =>
        -- The variable has got a value meanwhile, so the entry is passed over.
        simpa [before, after] using trails.refuse node.lineNumber problem
      | none => simpa [before, after] using moved.fail problem
  · cases before : values.find? name with
    | some value => simpa [before, kept name (by simp [before])] using moved
    | none => simpa [before, defined name (by simp [before])] using moved

/-! ## Sections -/

/-- The refusals that entries meet whose variables have values in the end, although they had none then. -/
def overtaken (classes : Classes) (final : Variables) : List Node → Variables → List Refusal
  | [], _ => []
  | node :: rest, values =>
    (overtaken? classes final values node).toList ++ overtaken classes final rest (entered classes values node)

theorem overtaken_append (classes : Classes) (final : Variables) (nodes others : List Node) (values : Variables) :
    overtaken classes final (nodes ++ others) values =
      overtaken classes final nodes values ++
        overtaken classes final others (nodes.foldl (entered classes) values) := by
  induction nodes generalizing values with
  | nil => rfl
  | cons node rest inductionHypothesis =>
    rw [List.cons_append, overtaken, inductionHypothesis, overtaken, List.append_assoc]
    rfl

theorem compileVariables_again (trails : Trails refusals first again) (nodes : List Node) {values final : Variables}
    (defined : ∀ name, ((nodes.foldl (entered classes) values).find? name).isSome → (final.find? name).isSome) :
    (compileVariables classes nodes again final).value.2 = final ∧
      Trails (refusals ++ overtaken classes final nodes values)
        (compileVariables classes nodes first values).value.1 (compileVariables classes nodes again final).value.1 := by
  induction nodes generalizing refusals first again values with
  | nil =>
    rw [overtaken, List.append_nil]
    exact ⟨rfl, trails⟩
  | cons node rest inductionHypothesis =>
    obtain ⟨same, entryTrails⟩ := compileVariable_again trails node fun name known =>
      defined name ((foldl_entered_addsOnly classes rest _).keeps known)
    have restTrails := inductionHypothesis entryTrails defined
    simp only [compileVariables, Recorded.value_bind, same, compileVariable_entered, overtaken, ← List.append_assoc]
    exact restTrails

/-- What a command section comes to, by what the compiler of commands made of it. -/
def commandOutcome (node : Node) (compiled : Except String Command × Context) : Option Command × Context :=
  let context := compiled.2.withEvent none
  match compiled.1 with
  | .ok command => (some { command with file := command.file <|> context.file }, context)
  | .error reason => (none, ((context.atLine node.lineNumber).fail (.refused reason)).value)

theorem compileCommand_outcome (commands : Commands σ) (node : Node) (session : Session σ) :
    let asked := (commands.compile node (session.context.withEvent (some .command)) session.state).value
    let compiled := (compileCommand commands node session).value
    (compiled.1, compiled.2.context) = commandOutcome node (asked.1, asked.2.1) := by
  unfold compileCommand Commands.compileSection
  dsimp only [Recorded.value_bind]
  generalize (commands.compile node _ session.state).value = asked
  obtain ⟨reason | command, after, state⟩ := asked <;> rfl

/-- The second time a command section comes to the same. -/
theorem compileCommand_again {commands : Commands σ} (steady : commands.IgnoresState) (node : Node)
    {left right : Session σ} (trails : Trails refusals left.context right.context)
    (ignores : refusals = [] ∨ commands.IgnoresReports) :
    (compileCommand commands node right).value.1 = (compileCommand commands node left).value.1 ∧
      Trails refusals (compileCommand commands node left).value.2.context
        (compileCommand commands node right).value.2.context := by
  let run (context : Context) : Option Command × Context :=
    let asked := (commands.compile node (context.withEvent (some .command)) left.state).value
    commandOutcome node (asked.1, asked.2.1)
  have leftRun : ((compileCommand commands node left).value.1,
      (compileCommand commands node left).value.2.context) = run left.context :=
    compileCommand_outcome commands node left
  have rightRun : ((compileCommand commands node right).value.1,
      (compileCommand commands node right).value.2.context) = run right.context := by
    -- The commands are in another state then, which makes no difference.
    obtain ⟨sameResult, sameContext⟩ :=
      steady node (right.context.withEvent (some .command)) right.state left.state
    have outcome := compileCommand_outcome commands node right
    dsimp only at outcome
    rw [sameResult, sameContext] at outcome
    exact outcome
  have same := trails.run run (ignores.imp_right fun ignores context earlier => ?_)
  · rw [← leftRun, ← rightRun] at same
    exact same
  · have asked := ignores node (context.withEvent (some .command)) earlier left.state
    simp only [run, Context.withEvent_behind, asked]
    generalize (commands.compile node _ left.state).value = compiled
    obtain ⟨reason | command, after, state⟩ := compiled <;> simp [commandOutcome]

theorem compileTopLevel_trails (steady : services.commands.IgnoresState) {node : Node}
    (other : ¬ (node.isSection = true ∧ SectionKind.of (Text.trim node.name) = .defaults)) {left right : Session σ}
    (trails : Trails refusals left.context right.context)
    (ignores : refusals = [] ∨ services.grammar.IgnoresReports ∧ services.commands.IgnoresReports) :
    (compileTopLevel services node right).value.1 = (compileTopLevel services node left).value.1 ∧
      Trails refusals (compileTopLevel services node left).value.2.context
        (compileTopLevel services node right).value.2.context := by
  have moved := trails.atLine node.lineNumber
  unfold compileTopLevel
  dsimp only
  split
  · next isSection =>
    unfold compileSection
    cases kind : SectionKind.of (Text.trim node.name) <;>
      simp only [Recorded.value_bind, Recorded.value_pure, Session.withContext, true_and]
    case aliases =>
      have tables := moved.run (fun context => ((), (compileAliases services.classes node.children context).value))
        (.inr fun context earlier => by rw [compileAliases_behind])
      exact tables.2
    case options =>
      have tables := moved.run (fun context => ((), (compileOptions node.children context).value))
        (.inr fun context earlier => by rw [compileOptions_behind])
      exact tables.2
    -- Only here the variables would matter.
    case defaults => exact absurd ⟨isSection, kind⟩ other
    case unbalanced => exact moved.fail .unbalancedQuotes
    case command =>
      let inside (session : Session σ) : Session σ := session.withContext (session.context.atLine node.lineNumber)
      have insideTrails : Trails refusals (inside left).context (inside right).context := moved
      have same := compileCommand_again steady node insideTrails (ignores.imp_right (·.2))
      exact ⟨congrArg CompiledUnit.ofCommand? same.1, same.2⟩
    case event =>
      have same := moved.run (fun context => (compileEvent services.grammar node context).value)
        (ignores.imp_right fun ignores => compileEvent_behind ignores.1 node)
      exact ⟨congrArg CompiledUnit.ofTrigger? same.1, same.2⟩
  · exact ⟨rfl, moved.fail .codeOutsideTrigger⟩

/-! ## Scripts -/

section

variable {left right : Session σ} {final : Variables}

/-- The second time a top-level node gives no variable a value, and comes to the same. -/
theorem compileTopLevel_again (steady : services.commands.IgnoresState) (node : Node)
    (trails : Trails refusals left.context right.context) (there : right.values = final)
    (defined : ∀ name, (((sectionEntries node).foldl (entered services.classes) left.values).find? name).isSome →
      (final.find? name).isSome)
    (ignores : refusals = [] ∨ services.grammar.IgnoresReports ∧ services.commands.IgnoresReports) :
    (compileTopLevel services node right).value.1 = (compileTopLevel services node left).value.1 ∧
      (compileTopLevel services node right).value.2.values = final ∧
      Trails (refusals ++ overtaken services.classes final (sectionEntries node) left.values)
        (compileTopLevel services node left).value.2.context
        (compileTopLevel services node right).value.2.context := by
  subst there
  by_cases defaults : node.isSection = true ∧ SectionKind.of (Text.trim node.name) = .defaults
  · have noUnit (session : Session σ) : (compileTopLevel services node session).value.1 = {} := by
      simp [compileTopLevel, compileSection, defaults.1, defaults.2]
    rw [sectionEntries, if_pos defaults] at defined ⊢
    rw [noUnit, noUnit, compileTopLevel_defaults defaults, compileTopLevel_defaults defaults]
    exact ⟨rfl, compileVariables_again (trails.atLine node.lineNumber) node.children defined⟩
  · obtain ⟨sameUnit, nodeTrails⟩ := compileTopLevel_trails steady defaults trails ignores
    rw [sectionEntries, if_neg defaults, overtaken, List.append_nil]
    exact ⟨sameUnit, compileTopLevel_values defaults services right, nodeTrails⟩

/--
Left and right are the first and the second time. By then the variables have all values that the first time
is going to give them. The refusals are those that were left out before.
-/
theorem compileAll_again (steady : services.commands.IgnoresState) (nodes : List Node)
    (trails : Trails refusals left.context right.context) (there : right.values = final)
    (defined : ∀ name, (((defaultEntries nodes).foldl (entered services.classes) left.values).find? name).isSome →
      (final.find? name).isSome)
    (ignores : refusals ++ overtaken services.classes final (defaultEntries nodes) left.values = [] ∨
      services.grammar.IgnoresReports ∧ services.commands.IgnoresReports) :
    (compileAll services nodes right).value.1 = (compileAll services nodes left).value.1 ∧
      (compileAll services nodes right).value.2.values = final ∧
      Trails (refusals ++ overtaken services.classes final (defaultEntries nodes) left.values)
        (compileAll services nodes left).value.2.context (compileAll services nodes right).value.2.context := by
  induction nodes generalizing refusals left right with
  | nil =>
    rw [defaultEntries, List.flatMap_nil, overtaken, List.append_nil]
    exact ⟨rfl, there, trails⟩
  | cons node rest inductionHypothesis =>
    simp only [defaultEntries, List.flatMap_cons, overtaken_append, List.foldl_append, ← List.append_assoc]
      at defined ignores ⊢
    have nodeDefined (name : String)
        (known : (((sectionEntries node).foldl (entered services.classes) left.values).find? name).isSome) :=
      defined name ((foldl_entered_addsOnly services.classes _ _).keeps known)
    have nodeIgnores := ignores.imp_left fun none => (List.append_eq_nil_iff.mp (List.append_eq_nil_iff.mp none).1).1
    obtain ⟨sameUnit, sameValues, nodeTrails⟩ := compileTopLevel_again steady node trails there nodeDefined nodeIgnores
    -- What the node leaves out is among the refusals when the rest is compiled.
    rw [← compileTopLevel_entered services node left] at defined ignores ⊢
    obtain ⟨restUnit, restValues, restTrails⟩ := inductionHypothesis nodeTrails sameValues defined ignores
    simp only [compileAll, Recorded.value_bind, Recorded.value_pure, sameUnit, restUnit, restValues, true_and]
    exact restTrails

end

/--
A script is compiled and then compiled again, with the variables that were left. The second time it leaves
them as they are, compiles to the same unit, and reports all but the refusals of overtaken entries. If there
are any, the collaborators must not look at the reports.
-/
theorem compileFile_again (steady : services.commands.IgnoresState) (path : Path) (root : Node) (values : Variables)
    (state state' : σ) :
    let compiled := (compileFile services path root values state).value
    let refusals := overtaken services.classes compiled.2.values (defaultEntries root.children) values
    let recompiled := (compileFile services path root compiled.2.values state').value
    refusals = [] ∨ services.grammar.IgnoresReports ∧ services.commands.IgnoresReports →
      recompiled.1 = compiled.1 ∧ recompiled.2.values = compiled.2.values ∧
        LeavesOut refusals compiled.2.context.diagnostics recompiled.2.context.diagnostics := by
  intro compiled refusals recompiled ignores
  let session (values : Variables) (state : σ) : Session σ := ⟨.ofFile (some path), values, state⟩
  have entered := compileAll_entered services root.children (session values state)
  have again := @compileAll_again σ services [] (session values state) (session compiled.2.values state')
    compiled.2.values steady root.children (.refl _) rfl (fun name known => by rw [← entered] at known; exact known)
    ignores
  exact ⟨again.1, again.2.1, again.2.2.reports⟩

end Compile

end TriggerScript
