import TriggerScript.Proofs.OptionReferences
import TriggerScript.Proofs.SectionDelay

/-!
# Faulty sections

Code outside of all sections, a header with unbalanced quotes, and the header of an event that is not
understood are faults of a single node. Such a node is reported and left out, and nothing else comes of it:
what stands behind it is compiled as if it were not there.
-/

namespace TriggerScript

/-- A section that is no code: a table of aliases, options or default variables. -/
def Node.isSpecial (node : Node) : Bool :=
  node.isOfKind .aliases || node.isOfKind .options || node.isOfKind .defaults

/-- A section of code: a command or the trigger of an event. -/
def Node.isCode (node : Node) : Bool := node.isOfKind .command || node.isOfKind .event

/-- A text with a reference to an option that has no value is not expanded. -/
theorem Options.expand_of_undefined {options : Table String String} {pieces : List Piece} {name : List Char}
    (reference : .reference name ∈ pieces) (undefined : options.find? (String.ofList name) = none) :
    ∃ first, expand options pieces = .error first := by
  rcases expand_cases options pieces with ⟨defined, _⟩ | ⟨_, first, _, _, _, _, failed⟩
  · have isDefined := defined name reference
    rw [Table.contains, undefined] at isDefined
    cases isDefined
  · exact ⟨String.ofList first, failed⟩

theorem Context.options_atLine (context : Context) (line : Nat) : (context.atLine line).options = context.options := rfl

namespace Compile

variable {σ : Type} {services : Services σ} {node : Node}

/-! ## One faulty node -/

/-- A node is at fault by itself, for a grammar and in the context in front of it. -/
inductive Faulty (grammar : Grammar) (context : Context) (node : Node) : Prop where
  | outside (loose : node.isSection = false)
  | unbalanced (isSection : node.isSection = true) (ordinary : node.isSpecial = false)
      (odd : (Text.trim node.name).toList.count '"' % 2 = 1)
  /-- The header of an event refers to an option without a value. -/
  | undefined (isEvent : node.isOfKind .event = true) (name : List Char)
      (reference : .reference name ∈ Options.pieces (eventText node).toList)
      (missing : context.options.find? (String.ofList name) = none)
  /-- The grammar refuses the header of an event. -/
  | refused (isEvent : node.isOfKind .event = true) (text : List Char) (reason : String)
      (expands : Options.expand context.options (Options.pieces (eventText node).toList) = .ok text)
      (refuses : grammar.parseEvent (String.ofList text) (context.atLine node.lineNumber) = .error reason)

theorem isOfKind_unbalanced (isSection : node.isSection = true) (ordinary : node.isSpecial = false)
    (odd : (Text.trim node.name).toList.count '"' % 2 = 1) : node.isOfKind .unbalanced = true := by
  simp only [Node.isSpecial, Node.isOfKind, isSection, Bool.true_and, Bool.or_eq_false_iff, decide_eq_false_iff_not,
    decide_eq_true_eq] at ordinary ⊢
  obtain ⟨⟨noAliases, noOptions⟩, noDefaults⟩ := ordinary
  unfold SectionKind.of at *
  grind

theorem compileTopLevel_outside (loose : node.isSection = false) (services : Services σ) (session : Session σ) :
    (compileTopLevel services node session).value =
      ({}, session.withContext ((session.context.atLine node.lineNumber).fail .codeOutsideTrigger).value) := by
  simp [compileTopLevel, loose, Session.withContext]

theorem compileTopLevel_unbalanced (unbalanced : node.isOfKind .unbalanced = true) (services : Services σ)
    (session : Session σ) :
    (compileTopLevel services node session).value =
      ({}, session.withContext ((session.context.atLine node.lineNumber).fail .unbalancedQuotes).value) := by
  obtain ⟨isSection, kind⟩ := Bool.and_eq_true_iff.mp unbalanced
  simp [compileTopLevel, compileSection, isSection, of_decide_eq_true kind, Session.withContext]

/-- Nothing but one report comes of a faulty node. -/
theorem compileTopLevel_of_faulty {session : Session σ} (faulty : Faulty services.grammar session.context node) :
    ∃ problem, (compileTopLevel services node session).value =
      ({}, session.withContext ((session.context.atLine node.lineNumber).fail problem).value) := by
  cases faulty with
  | outside loose => exact ⟨_, compileTopLevel_outside loose services session⟩
  | unbalanced isSection ordinary odd =>
    exact ⟨_, compileTopLevel_unbalanced (isOfKind_unbalanced isSection ordinary odd) services session⟩
  | undefined isEvent name reference missing =>
    obtain ⟨first, failed⟩ := Options.expand_of_undefined reference missing
    refine ⟨.undefinedOption first, ?_⟩
    rw [compileTopLevel_event isEvent, compileEvent_eq, Context.options_atLine, failed]
    rfl
  | refused isEvent text reason expands refuses =>
    refine ⟨.notUnderstood .event (Text.trim node.name) reason, ?_⟩
    rw [compileTopLevel_event isEvent, compileEvent_eq, Context.options_atLine, expands]
    simp only [refuses]
    rfl

/-! ## The nodes behind it -/

/-- The line that was reached is of no account to the nodes that follow. -/
theorem compileAll_atLine (services : Services σ) (nodes : List Node) (session : Session σ) (line : Nat) :
    ∃ last, (compileAll services nodes (session.withContext (session.context.atLine line))).value =
      ((compileAll services nodes session).value.1,
        (compileAll services nodes session).value.2.withContext
          ((compileAll services nodes session).value.2.context.atLine last)) := by
  cases nodes with
  | nil => exact ⟨line, rfl⟩
  | cons node rest => exact ⟨(compileAll services (node :: rest) session).value.2.context.line, rfl⟩

/-- A report in front of some nodes stays where it is, and the nodes come to the same. -/
theorem compileAll_of_report (reads : services.grammar.IgnoresReports) (commands : services.commands.IgnoresReports)
    (nodes : List Node) (session : Session σ) (line : Nat) (problem : Problem) :
    let without := (compileAll services nodes session).value
    ∃ last later, without.2.context.diagnostics = session.context.diagnostics ++ later ∧
      (compileAll services nodes (session.withContext ((session.context.atLine line).fail problem).value)).value =
        (without.1, without.2.withContext { without.2.context with
          line := last
          diagnostics :=
            session.context.diagnostics ++ ⟨.error, problem.message, session.context.file, line⟩ :: later }) := by
  let start := session.withContext session.context.unreported
  let report : Diagnostic := ⟨.error, problem.message, session.context.file, line⟩
  -- With the report or without it, the nodes start in one session, but for the line and what was reported.
  have without : session = start.behind session.context.diagnostics := by
    simp [start, Session.behind, Session.withContext, Context.behind_unreported]
  have reported : session.withContext ((session.context.atLine line).fail problem).value =
      (start.withContext (start.context.atLine line)).behind (session.context.diagnostics ++ [report]) := by
    simp [start, report, Session.behind, Session.withContext, Context.behind, Context.unreported, Context.atLine,
      Context.fail, Context.report, Context.addDiagnostic, Context.diagnosticOf]
  obtain ⟨last, moved⟩ := compileAll_atLine services nodes start line
  have plain := compileAll_behind reads commands nodes start session.context.diagnostics
  rw [← without] at plain
  rw [reported, compileAll_behind reads commands, moved, plain]
  refine ⟨last, (compileAll services nodes start).value.2.context.diagnostics, rfl, ?_⟩
  simp [Session.behind, Session.withContext, Context.behind, Context.atLine, report]

/-! ## Scripts -/

/--
In a script there is a faulty node. Without it the script compiles to the same unit, tables, variables and
state of the collaborators, provided that these do not look at what was reported. The reports are the same, too,
but for one error at the line of the faulty node, behind the reports of the nodes in front of it.
-/
theorem faulty_section_disturbs_no_other (services : Services σ) (reads : services.grammar.IgnoresReports)
    (commands : services.commands.IgnoresReports) (name : String) (line : Nat) (front back : List Node) (bad : Node)
    (session : Session σ)
    (faulty : Faulty services.grammar (compileScript services (.section name front line) session).value.2.context bad) :
    let reached := (compileScript services (.section name front line) session).value.2.context
    let without := (compileScript services (.section name (front ++ back) line) session).value
    let whole := (compileScript services (.section name (front ++ bad :: back) line) session).value
    whole.1 = without.1 ∧ whole.2.context.options = without.2.context.options ∧
      whole.2.context.aliases = without.2.context.aliases ∧ whole.2.values = without.2.values ∧
      whole.2.state = without.2.state ∧
      ∃ problem : Problem, ∃ later, without.2.context.diagnostics = reached.diagnostics ++ later ∧
        whole.2.context.diagnostics =
          reached.diagnostics ++ ⟨.error, problem.message, reached.file, bad.lineNumber⟩ :: later := by
  let start := session.withContext { session.context with aliases := {}, options := {} }
  have compiled (nodes : List Node) : (compileScript services (.section name nodes line) session).value =
      (compileAll services nodes start).value := rfl
  simp only [compiled, compileAll_append services front] at faulty ⊢
  generalize (compileAll services front start).value = passed at faulty ⊢
  obtain ⟨problem, reported⟩ := compileTopLevel_of_faulty faulty
  obtain ⟨last, later, others, othersBehind⟩ :=
    compileAll_of_report reads commands back passed.2 bad.lineNumber problem
  simp only [compileAll, Recorded.value_bind, Recorded.value_pure, reported, othersBehind]
  exact ⟨rfl, rfl, rfl, rfl, rfl, problem, later, others, rfl⟩

end Compile

namespace Rehearsal

open Compile

/-- An option, and a command that reports a fault of its own and is left delayed. -/
def faultyFront : List Node :=
  [.section "options" [.line "greeting: hi" 2] 1, .section "command /body one" [.line "bad" 4, .line "delay 1" 5] 3]

def faultyEvent : Node := .section "on \x7b@missing\x7d" [.line "a" 7] 6

/-- A trigger with a fault of its own, and a default variable. -/
def faultyBack : List Node :=
  [.section "on join" [.line "send \x7b@greeting\x7d" 9, .line "bad" 10] 8, .section "variables" [.line "x = 1" 12] 11]

def faultyStart : Session Desk := ⟨.ofFile (some scenePath), {}, {}⟩

theorem faultyEvent_faulty :
    Faulty sceneServices.grammar (compileScript sceneServices (.section "" faultyFront 0) faultyStart).value.2.context
      faultyEvent :=
  .undefined (by decide +kernel) ['m', 'i', 's', 's', 'i', 'n', 'g'] (by decide +kernel) (by decide +kernel)

/-- The command in front is left delayed, and there are reports on both sides of the fault. -/
theorem faulty_event_disturbs_no_other :
    let reached := (compileScript sceneServices (.section "" faultyFront 0) faultyStart).value.2.context
    let without := (compileScript sceneServices (.section "" (faultyFront ++ faultyBack) 0) faultyStart).value
    let whole :=
      (compileScript sceneServices (.section "" (faultyFront ++ faultyEvent :: faultyBack) 0) faultyStart).value
    (reached.delay = .yes ∧ reached.diagnostics.length = 1) ∧
      (without.1.triggers.length = 1 ∧ without.2.context.diagnostics.length = 2) ∧
      Faulty sceneServices.grammar reached faultyEvent ∧
      whole.1 = without.1 ∧ whole.2.context.options = without.2.context.options ∧
      whole.2.context.aliases = without.2.context.aliases ∧ whole.2.values = without.2.values ∧
      whole.2.state = without.2.state ∧
      ∃ problem : Problem, ∃ later, without.2.context.diagnostics = reached.diagnostics ++ later ∧
        whole.2.context.diagnostics =
          reached.diagnostics ++ ⟨.error, problem.message, reached.file, faultyEvent.lineNumber⟩ :: later :=
  ⟨by decide +kernel, by decide +kernel, faultyEvent_faulty,
    faulty_section_disturbs_no_other sceneServices (grammar_ignoresReports [])
      (commands_ignoresReports (grammar_ignoresReports []) []) "" 0 faultyFront faultyBack faultyEvent faultyStart
      faultyEvent_faulty⟩

end Rehearsal

end TriggerScript
