import TriggerScript.Proofs.ScriptUnits
import TriggerScript.Rehearsal.Desk

/-!
# Triggers without a script

A single section can be compiled with no script around it. It is then taken for an event at once, while a
script looks at the header first and forgets the tables of the script before. Where the header is that of an
event, both come to the same: the same trigger, the same reports, and the same questions to the grammar.
-/

namespace TriggerScript

/-! ## Keywords by their letters -/

namespace Text

/-- The characters of a text, with the ASCII letters in lower case. -/
def letters (text : String) : List Char := text.toList.map Char.toLower

theorem sameLetters_iff {left right : List Char} :
    sameLetters left right = true ↔ left.map Char.toLower = right.map Char.toLower := by
  induction left generalizing right with
  | nil => cases right <;> simp [sameLetters]
  | cons first rest inductionHypothesis =>
    cases right with
    | nil => simp [sameLetters]
    | cons other others => simp [sameLetters, sameLetter, inductionHypothesis]

theorem isKeyword_iff {keyword text : String} : isKeyword keyword text = true ↔ letters text = letters keyword :=
  sameLetters_iff.trans eq_comm

theorem isSome_afterKeywordChars? {keyword text : List Char} :
    (afterKeywordChars? keyword text).isSome = true ↔ keyword.map Char.toLower <+: text.map Char.toLower := by
  induction keyword generalizing text with
  | nil => simp [afterKeywordChars?]
  | cons first rest inductionHypothesis =>
    cases text with
    | nil => simp [afterKeywordChars?]
    | cons other others =>
      by_cases same : first.toLower = other.toLower
      · simp [afterKeywordChars?, sameLetter, same, inductionHypothesis, List.cons_prefix_cons]
      · simp [afterKeywordChars?, sameLetter, same, List.cons_prefix_cons]

theorem isSome_afterKeyword? {keyword text : String} :
    (afterKeyword? keyword text).isSome = true ↔ letters keyword <+: letters text := by
  rw [afterKeyword?, Option.isSome_map]
  exact isSome_afterKeywordChars?

end Text

/-- A section whose header names an event: it names no table, its quotes are balanced, and it begins no command. -/
structure Node.NamesEvent (node : Node) : Prop where
  isSection : node.isSection = true
  noTable : ∀ name ∈ ["aliases", "options", "variables"], Text.letters (Text.trim node.name) ≠ name.toList
  balanced : (Text.trim node.name).toList.count '"' % 2 = 0
  noCommand : ¬ "command ".toList <+: Text.letters (Text.trim node.name)

namespace Compile

variable {σ : Type} {services : Services σ} {node root : Node}

/-- None of the other kinds of section claims the header of an event. -/
theorem SectionKind.of_namesEvent (event : node.NamesEvent) : SectionKind.of (Text.trim node.name) = .event := by
  obtain ⟨-, noTable, balanced, noCommand⟩ := event
  generalize Text.trim node.name = header at *
  have other (name : String) (table : name ∈ ["aliases", "options", "variables"])
      (lower : Text.letters name = name.toList) : ¬ Text.isKeyword name header = true := by
    rw [Text.isKeyword_iff, lower]
    exact noTable name table
  have noAliases := other "aliases" (by simp) (by decide)
  have noOptions := other "options" (by simp) (by decide)
  have noDefaults := other "variables" (by simp) (by decide)
  have lower : Text.letters "command " = "command ".toList := by decide
  rw [← lower, ← Text.isSome_afterKeyword?] at noCommand
  rw [SectionKind.of, if_neg noAliases, if_neg noOptions, if_neg noDefaults, if_neg (not_not_intro balanced),
    if_neg noCommand]

/-- An event section makes of the context of a script what it makes of it when it stands alone. -/
theorem compileTopLevel_eq_event (services : Services σ) (event : node.NamesEvent) (session : Session σ) :
    compileTopLevel services node session =
      compileEvent services.grammar node (session.context.atLine node.lineNumber) >>= fun compiled =>
        pure (.ofTrigger? compiled.1, session.withContext compiled.2) := by
  rw [compileTopLevel, if_pos event.isSection, compileSection, SectionKind.of_namesEvent event]
  rfl

theorem compileTrigger_file (grammar : Grammar) (node : Node) : (compileTrigger grammar node).value.2.file = none := by
  have advanced := compileEvent_advances grammar node ((Context.ofFile none).atLine node.lineNumber)
  rw [compileTrigger]
  generalize compileEvent grammar node _ = compiled at advanced ⊢
  exact advanced.file

theorem compileAll_single (services : Services σ) (node : Node) (session : Session σ) :
    compileAll services [node] session = compileTopLevel services node session := by
  have nothing (unit : CompiledUnit) : unit ++ {} = unit :=
    (CompiledUnit.mk.injEq ..).mpr ⟨List.append_nil _, List.append_nil _⟩
  simp only [compileAll, pure_bind, nothing]
  exact bind_pure _

/-- A script of one event section, in a new context, is compiled as the section is on its own. -/
theorem compileScript_eq_compileTrigger (services : Services σ) (event : node.NamesEvent)
    (only : root.children = [node]) (values : Variables) (state : σ) :
    let alone := compileTrigger services.grammar node
    compileScript services root ⟨.ofFile none, values, state⟩ =
      ⟨(.ofTrigger? alone.value.1, ⟨alone.value.2, values, state⟩),
        alone.activity ++ [.noted (.compiled alone.value.1.toList.length 0 none)]⟩ := by
  have noFile := compileTrigger_file services.grammar node
  -- A new context has no tables to forget.
  change (compileAll services root.children ⟨.ofFile none, values, state⟩ >>= _) = _
  rw [only, compileAll_single, compileTopLevel_eq_event services event, bind_assoc]
  change (compileTrigger services.grammar node >>= _) = _
  generalize compileTrigger services.grammar node = alone at noFile ⊢
  rw [Recorded.ext_iff]
  simp [CompiledUnit.ofTrigger?, noFile, Session.withContext]

/--
A section whose header names an event is compiled on its own, and as the only section of a script without a
file. It gives a trigger and some reports on its own exactly if the script has this trigger, no other and no
commands, and gives these reports; and it gives no trigger exactly if the script has nothing. Such a trigger
belongs to no file. The script leaves the variables and the collaborators' state alone, ends in the context that
the section ends in, and asks the collaborators what the section asks, in the same order.
-/
theorem trigger_alone_as_in_script (services : Services σ) (event : node.NamesEvent) (only : root.children = [node])
    (values : Variables) (state : σ) :
    let alone := compileTrigger services.grammar node
    let script := compileScript services root ⟨.ofFile none, values, state⟩
    (∀ trigger reports, alone.value.1 = some trigger ∧ alone.value.2.diagnostics = reports ↔
        script.value.1 = ⟨[trigger], []⟩ ∧ script.value.2.context.diagnostics = reports) ∧
      (∀ reports, alone.value.1 = none ∧ alone.value.2.diagnostics = reports ↔
        script.value.1 = ⟨[], []⟩ ∧ script.value.2.context.diagnostics = reports) ∧
      (∀ trigger ∈ alone.value.1, trigger.file = none) ∧
      script.value.2 = ⟨alone.value.2, values, state⟩ ∧
      script.activity = alone.activity ++ [.noted (.compiled alone.value.1.toList.length 0 none)] := by
  have noFile := compileEvent_file services.grammar node ((Context.ofFile none).atLine node.lineNumber)
  have same := compileScript_eq_compileTrigger services event only values state
  dsimp only at same ⊢
  rw [same, compileTrigger]
  generalize compileEvent services.grammar node _ = alone at noFile ⊢
  obtain ⟨⟨found, context⟩, activity⟩ := alone
  have unitEq (triggers : List Trigger) :
      CompiledUnit.ofTrigger? found = ⟨triggers, []⟩ ↔ found.toList = triggers := by
    simp [CompiledUnit.ofTrigger?]
  refine ⟨fun trigger reports => ?_, fun reports => ?_, noFile, rfl, rfl⟩
  · rw [unitEq, Option.toList_eq_singleton_iff]
  · rw [unitEq, Option.toList_eq_nil_iff]

section Rehearsed

/-- A section with a nested body, a reference to an option that has no value, and a line that is not understood. -/
def tangled : Node :=
  .section " On join \"now\" " [
    .line "a" 2,
    .section "if x" [.line "delay 1" 4] 3,
    .section "else" [.line ("instant " ++ "\x7b@x\x7d") 6] 5,
    .line "bad" 7] 1

theorem tangled_namesEvent : tangled.NamesEvent := by
  refine ⟨rfl, ?_, ?_, ?_⟩ <;> decide +kernel

def tangledServices : Services Rehearsal.Desk := Rehearsal.services {} fun _ => .ok tangled

theorem tangled_alone_as_in_script :
    let alone := (compileTrigger tangledServices.grammar tangled).value
    let script := (compileScript tangledServices (.section "" [tangled] 0) ⟨.ofFile none, {}, {}⟩).value
    tangled.NamesEvent ∧ ∃ trigger, alone.1 = some trigger ∧ trigger.body.length = 2 ∧
      alone.2.diagnostics.map Diagnostic.line = [6, 7] ∧ script.1 = ⟨[trigger], []⟩ ∧
      script.2.context.diagnostics = alone.2.diagnostics := by
  have compiled : (compileTrigger tangledServices.grammar tangled).value.1.map (·.body.length) = some 2 ∧
      (compileTrigger tangledServices.grammar tangled).value.2.diagnostics.map Diagnostic.line = [6, 7] := by
    decide +kernel
  obtain ⟨trigger, found, items⟩ := Option.map_eq_some_iff.mp compiled.1
  obtain ⟨agrees, -⟩ := @trigger_alone_as_in_script Rehearsal.Desk tangled (.section "" [tangled] 0)
    tangledServices tangled_namesEvent rfl {} {}
  obtain ⟨unit, reports⟩ := (agrees trigger _).mp ⟨found, rfl⟩
  exact ⟨tangled_namesEvent, trigger, found, items, compiled.2, unit, reports⟩

end Rehearsed

end Compile

end TriggerScript
