import TriggerScript.Proofs.ElseBranches

/-!
# What becomes of one child

A walk goes through a section and all that is inside. `Becomes` looks at one child only: a section inside it is
compiled as a block of its own. Where a text is understood the context stays as it is, and where it is not the
child comes to no more than one report.
-/

namespace TriggerScript.Compile

variable {grammar : Grammar}

/-! ## Readings -/

theorem Reads.eq_of_understood {α : Type} {asks : String → Consultation} {parses : String → α → Prop}
    {context after : Context} {value : α} {asked : List Activity}
    (reads : Reads asks parses context (some value) after asked) : after = context := by
  cases reads
  rfl

theorem Reads.fails {α : Type} {asks : String → Consultation} {parses : String → α → Prop}
    {context after : Context} {asked : List Activity} (reads : Reads asks parses context none after asked) :
    ∃ problem, after = (context.fail problem).value := by
  cases reads with
  | refused _ _ problem => exact ⟨problem, rfl⟩
  | undefined name => exact ⟨.undefinedOption name, rfl⟩

/-- A header is read: it is refused with a report, or it opens a loop or a conditional and leaves the context alone. -/
theorem header_cases (grammar : Grammar) {header : Header} (notElse : header ≠ .otherwise) (context : Context) :
    (∃ problem asked, Refused grammar header context (context.fail problem).value asked) ∨
      (∃ asked notice loop, OpensLoop grammar header context context asked notice loop) ∨
      ∃ text condition asked, header = .condition text ∧
        readCondition grammar text context = ⟨(some condition, context), asked⟩ := by
  cases header with
  | otherwise => exact absurd rfl notElse
  | loop text =>
    have reads := readLoop_reads grammar text context
    rcases reading : readLoop grammar text context with ⟨⟨_ | iterable, after⟩, asked⟩
    · rw [reading] at reads
      obtain ⟨problem, rfl⟩ := reads.fails
      exact .inl ⟨problem, asked, .loop reading⟩
    · rw [reading] at reads
      obtain rfl := reads.eq_of_understood
      exact .inr (.inl ⟨asked, _, _, .loop reading⟩)
  | «while» text =>
    have reads := readCondition_reads grammar text context
    rcases reading : readCondition grammar text context with ⟨⟨_ | condition, after⟩, asked⟩
    · rw [reading] at reads
      obtain ⟨problem, rfl⟩ := reads.fails
      exact .inl ⟨problem, asked, .while reading⟩
    · rw [reading] at reads
      obtain rfl := reads.eq_of_understood
      exact .inr (.inl ⟨asked, _, _, .while reading⟩)
  | condition text =>
    have reads := readCondition_reads grammar text context
    rcases reading : readCondition grammar text context with ⟨⟨_ | condition, after⟩, asked⟩
    · rw [reading] at reads
      obtain ⟨problem, rfl⟩ := reads.fails
      exact .inl ⟨problem, asked, .condition reading⟩
    · rw [reading] at reads
      obtain rfl := reads.eq_of_understood
      exact .inr (.inr ⟨text, condition, asked, rfl, reading⟩)

/-! ## Sections as blocks -/

theorem compileNode_loop {name : String} {children : List Node} {line : Nat} {pending : Option OpenConditional}
    {context before after : Context} {closed : Block} {asked : List Activity} {notice : Notice} {loop : Block → Item}
    (closing : settle pending (context.atLine line) = (closed, before))
    (opens : OpensLoop grammar (Header.of name) before after asked notice loop) :
    compileNode grammar (.section name children line) pending context =
      let body := compileBlock grammar (.section name children line) after
      ⟨⟨closed ++ [loop body.value.1], none, body.value.2.withDelay (.mergeOptional after.delay body.value.2.delay)⟩,
        asked ++ .noted notice :: body.activity⟩ := by
  generalize header : Header.of name = kind at opens
  cases opens with
  | loop reading | «while» reading =>
    simp only [compileNode, header, closing, reading, compileBlock, Node.lineNumber, Node.children, Recorded.ext_iff,
      Recorded.value_bind, Recorded.value_pure, Recorded.activity_bind, Recorded.activity_pure, activity_note,
      List.append_nil, List.singleton_append, and_self]

theorem compileNode_condition {name text : String} {children : List Node} {line : Nat}
    {pending : Option OpenConditional} {context before after : Context} {closed : Block} {condition : Condition}
    {asked : List Activity} (header : Header.of name = .condition text)
    (closing : settle pending (context.atLine line) = (closed, before))
    (reading : readCondition grammar text before = ⟨(some condition, after), asked⟩) :
    compileNode grammar (.section name children line) pending context =
      let body := compileBlock grammar (.section name children line) after
      ⟨⟨closed, some ⟨condition, body.value.1, after.delay⟩, body.value.2⟩,
        asked ++ .noted (.conditionHeader after.depth condition.source) :: body.activity⟩ := by
  simp only [compileNode, header, closing, reading, compileBlock, Node.lineNumber, Node.children, Recorded.ext_iff,
    Recorded.value_bind, Recorded.value_pure, Recorded.activity_bind, Recorded.activity_pure, activity_note,
    List.append_nil, List.singleton_append, and_self]

/-! ## All that can become of a child -/

/-- What a child comes to, from an open conditional and a context. -/
inductive Becomes (grammar : Grammar) : Node → Option OpenConditional → Context → Progress → Prop where
  | statement (source : Node.source? node = some text)
      (closing : settle pending (Context.atLine context (Node.lineNumber node)) = (closed, before))
      (parsed : grammar.parseStatement expanded before = .ok statement) :
      Becomes grammar node pending context
        ⟨closed ++ [.statement statement], none,
          before.withDelay (if statement.suspends then .yes else before.delay)⟩
  /-- A child that is left out, with all that is inside. -/
  | dropped (closing : settle pending (Context.atLine context (Node.lineNumber node)) = (closed, before))
      (problem : Problem) : Becomes grammar node pending context ⟨closed, none, (before.fail problem).value⟩
  | loop (notElse : Header.of name ≠ .otherwise)
      (closing : settle pending (Context.atLine context line) = (closed, before))
      (opens : OpensLoop grammar (Header.of name) before before asked notice loop)
      (inside : compileBlock grammar (.section name children line) before = ⟨(body, after), activity⟩) :
      Becomes grammar (.section name children line) pending context
        ⟨closed ++ [loop body], none, after.withDelay (.mergeOptional before.delay after.delay)⟩
  | condition (header : Header.of name = .condition text)
      (closing : settle pending (Context.atLine context line) = (closed, before))
      (reading : readCondition grammar text before = ⟨(some condition, before), asked⟩)
      (inside : compileBlock grammar (.section name children line) before = ⟨(body, after), activity⟩) :
      Becomes grammar (.section name children line) pending context
        ⟨closed, some ⟨condition, body, before.delay⟩, after⟩
  /-- The other branch of the open conditional. -/
  | other (header : Header.of name = .otherwise) (conditional : OpenConditional) (context : Context)
      (inside : compileBlock grammar (.section name children line)
        ((context.atLine line).withDelay conditional.before) = ⟨(body, after), activity⟩) :
      Becomes grammar (.section name children line) (some conditional) context
        ⟨[.choice conditional.condition conditional.body body], none,
          after.withDelay (.mergeBranches conditional.before context.delay after.delay)⟩

theorem becomes_of_source {node : Node} {text : String} (source : node.source? = some text)
    (pending : Option OpenConditional) (context : Context) :
    Becomes grammar node pending context (compileNode grammar node pending context).value := by
  rcases closing : settle pending (context.atLine node.lineNumber) with ⟨closed, before⟩
  rcases reading : compileStatement grammar text before with ⟨⟨item, after⟩, asked⟩
  have reads := compileStatement_reads grammar text before
  rw [reading] at reads
  rw [compileNode_source source closing reading]
  cases reads with
  | understood parsed => exact .statement source closing parsed
  | missing reads =>
    obtain ⟨problem, rfl⟩ := reads.fails
    rw [Option.toList_none, List.append_nil]
    exact .dropped closing problem

theorem becomes_of_section (name : String) (children : List Node) (line : Nat) (pending : Option OpenConditional)
    (context : Context) :
    Becomes grammar (.section name children line) pending context
      (compileNode grammar (.section name children line) pending context).value := by
  by_cases header : Header.of name = .otherwise
  · cases pending with
    | none =>
      rw [compileNode_stray header]
      exact .dropped rfl .strayElse
    | some conditional =>
      rw [compileNode_other header]
      exact .other header conditional context rfl
  · rcases closing : settle pending (context.atLine line) with ⟨closed, before⟩
    rcases header_cases grammar header before with
      ⟨problem, asked, refused⟩ | ⟨asked, notice, loop, opens⟩ | ⟨text, condition, asked, isCondition, reading⟩
    · rw [compileNode_refused closing refused]
      exact .dropped closing problem
    · rw [compileNode_loop closing opens]
      exact .loop header closing opens rfl
    · rw [compileNode_condition isCondition closing reading]
      exact .condition isCondition closing reading rfl

theorem compileNode_becomes (grammar : Grammar) (node : Node) (pending : Option OpenConditional) (context : Context) :
    Becomes grammar node pending context (compileNode grammar node pending context).value := by
  cases node with
  | line _ _ | entry _ _ _ => exact becomes_of_source rfl pending context
  | «section» name children line => exact becomes_of_section name children line pending context

end TriggerScript.Compile
