import TriggerScript.Compile.Script

/-!
# Readings

The text of a line or a header has its option references replaced, is put to the grammar, and is
understood or refused. All readings of the block compiler take one of the three courses of `Reads`.
-/

namespace TriggerScript.Compile

/--
A text is read in a context: the grammar is asked about what `asks` makes of it, and understands what
`parses` relates to it. A text that is not understood is reported.
-/
inductive Reads {α : Type} (asks : String → Consultation) (parses : String → α → Prop)
    (context : Context) : Option α → Context → List Activity → Prop where
  | understood (parsed : parses text value) :
      Reads asks parses context (some value) context [.consulted (asks text)]
  | refused (text : String) (fails : ∀ value, ¬ parses text value) (problem : Problem) :
      Reads asks parses context none (context.fail problem).value
        (.consulted (asks text) :: (context.fail problem).activity)
  | undefined (name : String) :
      Reads asks parses context none (context.fail (.undefinedOption name)).value
        (context.fail (.undefinedOption name)).activity

/-- The references of a text are replaced, or one of them is undefined and that is reported. -/
theorem substitute_cases (text : String) (context : Context) :
    (∃ expanded, Options.substitute text context = pure (some expanded, context)) ∨
      ∃ name, Options.substitute text context =
        ⟨(none, (context.fail (.undefinedOption name)).value),
          (context.fail (.undefinedOption name)).activity⟩ := by
  unfold Options.substitute
  cases Options.expand context.options (Options.pieces text.toList) with
  | ok expanded => exact .inl ⟨_, rfl⟩
  | error name => exact .inr ⟨name, rfl⟩

theorem readCondition_reads (grammar : Grammar) (text : String) (context : Context) :
    Reads (.condition · context) (fun text condition => grammar.parseCondition text context = .ok condition)
      context (readCondition grammar text context).value.1 (readCondition grammar text context).value.2
      (readCondition grammar text context).activity := by
  unfold readCondition
  rcases substitute_cases text context with ⟨expanded, substituted⟩ | ⟨name, substituted⟩
  · cases parsed : grammar.parseCondition expanded context with
    | ok condition =>
      simp only [substituted, Grammar.readCondition, parsed, pure_bind, bind_assoc]
      exact .understood parsed
    | error reason =>
      simp only [substituted, Grammar.readCondition, parsed, pure_bind, bind_assoc]
      exact .refused expanded (by simp [parsed]) (.notUnderstood .condition expanded reason)
  · rw [substituted]
    exact .undefined name

theorem readLoop_reads (grammar : Grammar) (text : String) (context : Context) :
    Reads (.expression · loopable context)
      (fun text iterable =>
        grammar.parseExpression text loopable context = .ok iterable ∧ iterable.single = false)
      context (readLoop grammar text context).value.1 (readLoop grammar text context).value.2
      (readLoop grammar text context).activity := by
  unfold readLoop
  rcases substitute_cases text context with ⟨expanded, substituted⟩ | ⟨name, substituted⟩
  · cases parsed : grammar.parseExpression expanded loopable context with
    | ok iterable =>
      cases single : iterable.single with
      | false =>
        simp only [substituted, Grammar.readExpression, parsed, single, pure_bind, bind_assoc]
        exact .understood ⟨parsed, single⟩
      | true =>
        simp only [substituted, Grammar.readExpression, parsed, single, pure_bind, bind_assoc]
        exact .refused expanded (by simp [parsed, single]) (.notLoopable iterable.source)
    | error reason =>
      simp only [substituted, Grammar.readExpression, parsed, pure_bind, bind_assoc]
      exact .refused expanded (by simp [parsed]) (.notUnderstood .expression expanded reason)
  · rw [substituted]
    exact .undefined name

/-- A statement is read, and noted if it is understood. -/
inductive ReadsStatement (grammar : Grammar) (context : Context) :
    Option Item → Context → List Activity → Prop where
  | understood (parsed : grammar.parseStatement text context = .ok statement) :
      ReadsStatement grammar context (some (.statement statement))
        (context.withDelay (if statement.suspends then .yes else context.delay))
        [.consulted (.statement text context), .noted (.statement context.depth statement.source)]
  | missing (reads : Reads (.statement · context)
      (fun text statement => grammar.parseStatement text context = .ok statement) context none after asked) :
      ReadsStatement grammar context none after asked

theorem compileStatement_reads (grammar : Grammar) (text : String) (context : Context) :
    ReadsStatement grammar context (compileStatement grammar text context).value.1
      (compileStatement grammar text context).value.2
      (compileStatement grammar text context).activity := by
  unfold compileStatement
  rcases substitute_cases text context with ⟨expanded, substituted⟩ | ⟨name, substituted⟩
  · cases parsed : grammar.parseStatement expanded context with
    | ok statement =>
      simp only [substituted, Grammar.readStatement, parsed, pure_bind, bind_assoc]
      exact .understood parsed
    | error reason =>
      simp only [substituted, Grammar.readStatement, parsed, pure_bind, bind_assoc]
      exact .missing (.refused expanded (by simp [parsed]) (.notUnderstood .statement expanded reason))
  · rw [substituted]
    exact .missing (.undefined name)

/-! ## Event headers -/

/-- The header of an event section without the keyword in front of it. -/
def eventText (node : Node) : String :=
  let header := Text.trim node.name
  (Text.afterKeyword? "on " header).getD header

/-- The header of an event section is expanded and put to the grammar; only then is the body compiled. -/
theorem compileEvent_eq (grammar : Grammar) (node : Node) (context : Context) :
    compileEvent grammar node context =
      match Options.expand context.options (Options.pieces (eventText node).toList) with
      | .error name =>
        let failed := context.fail (.undefinedOption name)
        ⟨(none, failed.value), failed.activity⟩
      | .ok chars =>
        let text := String.ofList chars
        match grammar.parseEvent text context with
        | .error reason =>
          let failed := context.fail (.notUnderstood .event (Text.trim node.name) reason)
          ⟨(none, failed.value), .consulted (.event text context) :: failed.activity⟩
        | .ok (info, spec) =>
          let inside := (context.withEvent (some (.trigger spec info.eventTypes))).withDelay .no
          let block := compileBlock grammar node inside
          ⟨(some ⟨block.value.2.file, Text.trim node.name, spec, block.value.1⟩,
              (block.value.2.withEvent none).withDelay .no),
            .consulted (.event text context) :: .noted (.eventHeader text spec.kind) :: block.activity⟩ := by
  unfold compileEvent Options.substitute Grammar.readEvent eventText
  dsimp only
  cases Options.expand context.options _ with
  | error name => rfl
  | ok chars =>
    simp only [pure_bind, bind_assoc]
    cases grammar.parseEvent (String.ofList chars) context with
    | error reason => rfl
    | ok understood =>
      rw [Recorded.ext_iff]
      exact ⟨rfl, by simp⟩

end TriggerScript.Compile
