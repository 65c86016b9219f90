import TriggerScript.Compile.Block

/-!
# The walk through the children of a section

`Walk` lists all that can happen to the children of a section, one rule for each way in which a child
is compiled or left out. `compileNodes_walk` says that the compiler does nothing else; whatever holds
along every walk holds of the compiler.
-/

namespace TriggerScript

/-- The text of a line or an entry. -/
def Node.source? : Node → Option String
  | .line text _ => some text
  | .entry key value _ => some (key ++ ": " ++ value)
  | .section .. => none

namespace Compile

/-- A section's header is read and refused. -/
inductive Refused (grammar : Grammar) : Header → Context → Context → List Activity → Prop where
  | loop (reading : readLoop grammar text context = ⟨(none, after), activity⟩) :
      Refused grammar (.loop text) context after activity
  | while (reading : readCondition grammar text context = ⟨(none, after), activity⟩) :
      Refused grammar (.while text) context after activity
  | condition (reading : readCondition grammar text context = ⟨(none, after), activity⟩) :
      Refused grammar (.condition text) context after activity

/-- A section's header opens a loop, over values or on a condition, and that is noted. -/
inductive OpensLoop (grammar : Grammar) :
    Header → Context → Context → List Activity → Notice → (Block → Item) → Prop where
  | loop (reading : readLoop grammar text context = ⟨(some iterable, after), activity⟩) :
      OpensLoop grammar (.loop text) context after activity
        (.loopHeader after.depth iterable.source) (.loop iterable)
  | while (reading : readCondition grammar text context = ⟨(some condition, after), activity⟩) :
      OpensLoop grammar (.while text) context after activity
        (.whileHeader after.depth condition.source) (.while condition)

/--
The children of a section are walked through, from an open conditional and a context, to the items
they give, what is open then, the last context, and all activity on the way.
-/
inductive Walk (grammar : Grammar) : List Node → Option OpenConditional → Context →
    Block → Option OpenConditional → Context → List Activity → Prop where
  | done : Walk grammar [] pending context [] pending context []
  /-- A line or an entry; there is no item if it is left out. -/
  | statement (source : Node.source? node = some text)
      (closing : settle pending (Context.atLine context (Node.lineNumber node)) = (closed, before))
      (reading : compileStatement grammar text before = ⟨(item, after), asked⟩)
      (later : Walk grammar rest none after items last final activity) :
      Walk grammar (node :: rest) pending context (closed ++ item.toList ++ items) last final
        (asked ++ activity)
  /-- A section whose header is refused. -/
  | refused (closing : settle pending (Context.atLine context line) = (closed, before))
      (reading : Refused grammar (Header.of name) before after asked)
      (later : Walk grammar rest none after items last final activity) :
      Walk grammar (.section name children line :: rest) pending context (closed ++ items) last final
        (asked ++ activity)
  | loop (closing : settle pending (Context.atLine context line) = (closed, before))
      (reading : OpensLoop grammar (Header.of name) before after asked notice loop)
      (inside : Walk grammar children none after.enterBlock nested innerLast innerFinal innerActivity)
      (innerClosing : settle innerLast innerFinal = (innerClosed, innerEnd))
      (later : Walk grammar rest none
        ((innerEnd.atLine line).leaveBlock.withDelay (.mergeOptional after.delay innerEnd.delay))
        items last final activity) :
      Walk grammar (.section name children line :: rest) pending context
        (closed ++ [loop (nested ++ innerClosed)] ++ items) last final
        (asked ++ ([.noted notice] ++ innerActivity) ++ activity)
  /-- A conditional, which stays open. -/
  | condition (header : Header.of name = .condition text)
      (closing : settle pending (Context.atLine context line) = (closed, before))
      (reading : readCondition grammar text before = ⟨(some condition, after), asked⟩)
      (inside : Walk grammar children none after.enterBlock nested innerLast innerFinal innerActivity)
      (innerClosing : settle innerLast innerFinal = (innerClosed, innerEnd))
      (later : Walk grammar rest (some ⟨condition, nested ++ innerClosed, after.delay⟩)
        (innerEnd.atLine line).leaveBlock items last final activity) :
      Walk grammar (.section name children line :: rest) pending context (closed ++ items) last final
        (asked ++ ([.noted (.conditionHeader after.depth condition.source)] ++ innerActivity) ++
          activity)
  /-- The other branch of the open conditional. -/
  | other (conditional : OpenConditional) (context : Context) (header : Header.of name = .otherwise)
      (inside : Walk grammar children none
        ((context.atLine line).withDelay conditional.before).enterBlock
        nested innerLast innerFinal innerActivity)
      (innerClosing : settle innerLast innerFinal = (innerClosed, innerEnd))
      (later : Walk grammar rest none
        ((innerEnd.atLine line).leaveBlock.withDelay
          (.mergeBranches conditional.before context.delay innerEnd.delay))
        items last final activity) :
      Walk grammar (.section name children line :: rest) (some conditional) context
        ([.choice conditional.condition conditional.body (nested ++ innerClosed)] ++ items) last final
        ([.noted (.elseHeader context.depth)] ++ innerActivity ++ activity)
  /-- Another branch with no open conditional before it. -/
  | stray (header : Header.of name = .otherwise)
      (reading : Context.fail (Context.atLine context line) .strayElse = ⟨after, asked⟩)
      (later : Walk grammar rest none after items last final activity) :
      Walk grammar (.section name children line :: rest) none context items last final
        (asked ++ activity)

/-! ## The compiler walks -/

theorem compileNodes_cons (grammar : Grammar) (node : Node) (rest : List Node)
    (pending : Option OpenConditional) (context : Context) :
    compileNodes grammar (node :: rest) pending context =
      let first := compileNode grammar node pending context
      let others := compileNodes grammar rest first.value.pending first.value.context
      ⟨⟨first.value.items ++ others.value.items, others.value.pending, others.value.context⟩,
        first.activity ++ others.activity⟩ := by
  rw [compileNodes, Recorded.ext_iff]
  refine ⟨rfl, ?_⟩
  rw [Recorded.activity_bind, Recorded.activity_bind, Recorded.activity_pure, List.append_nil]

/-- Children behind others are compiled from where those have come. -/
theorem compileNodes_append (grammar : Grammar) (earlier later : List Node)
    (pending : Option OpenConditional) (context : Context) :
    compileNodes grammar (earlier ++ later) pending context =
      let first := compileNodes grammar earlier pending context
      let others := compileNodes grammar later first.value.pending first.value.context
      ⟨⟨first.value.items ++ others.value.items, others.value.pending, others.value.context⟩,
        first.activity ++ others.activity⟩ := by
  induction earlier generalizing pending context with
  | nil => rfl
  | cons node rest restAppend =>
    simp only [List.cons_append, compileNodes_cons, restAppend, List.append_assoc]

/-- A line or an entry is settled behind and read as a statement. -/
theorem compileNode_source {grammar : Grammar} {node : Node} {text : String}
    {pending : Option OpenConditional} {context before after : Context} {closed : Block}
    {item : Option Item} {asked : List Activity}
    (source : node.source? = some text)
    (closing : settle pending (context.atLine node.lineNumber) = (closed, before))
    (reading : compileStatement grammar text before = ⟨(item, after), asked⟩) :
    compileNode grammar node pending context = ⟨⟨closed ++ item.toList, none, after⟩, asked⟩ := by
  cases node with
  | line _ _ | entry _ _ _ =>
    cases source
    rw [Node.lineNumber] at closing
    simp only [compileNode, closing, reading, Recorded.ext_iff, Recorded.value_bind,
      Recorded.value_pure, Recorded.activity_bind, Recorded.activity_pure, List.append_nil, and_self]
  | «section» _ _ _ => cases source

theorem value_within (walk : Context → Recorded Progress) (line : Nat) (context : Context) :
    (within line walk context).value =
      let progress := (walk context.enterBlock).value
      let (closed, last) := settle progress.pending progress.context
      (progress.items ++ closed, (last.atLine line).leaveBlock) := rfl

theorem activity_within (walk : Context → Recorded Progress) (line : Nat) (context : Context) :
    (within line walk context).activity = (walk context.enterBlock).activity := by
  rw [within, Recorded.activity_bind, Recorded.activity_pure, List.append_nil]

mutual

/-- A walk that starts where the compiler leaves a node starts in front of the node, too. -/
theorem compileNode_walk (grammar : Grammar) : ∀ (node : Node) {rest : List Node}
    {pending last : Option OpenConditional} {context final : Context} {items : Block}
    {activity : List Activity},
    Walk grammar rest (compileNode grammar node pending context).value.pending
      (compileNode grammar node pending context).value.context items last final activity →
    Walk grammar (node :: rest) pending context
      ((compileNode grammar node pending context).value.items ++ items) last final
      ((compileNode grammar node pending context).activity ++ activity)
  | .line text line, rest, pending, last, context, final, items, activity, later => by
    rw [compileNode_source rfl rfl rfl] at later ⊢
    exact .statement rfl rfl rfl later
  | .entry key value line, rest, pending, last, context, final, items, activity, later => by
    rw [compileNode_source rfl rfl rfl] at later ⊢
    exact .statement rfl rfl rfl later
  | .section name children line, rest, pending, last, context, final, items, activity, later => by
    have inside := compileNodes_walk grammar children
    -- The header decides the rule, and whether it is understood decides between two of them.
    cases header : Header.of name with
    | otherwise =>
      cases pending with
      | none =>
        simp only [compileNode, header, Recorded.value_bind, Recorded.value_pure,
          Recorded.activity_bind, Recorded.activity_pure, List.append_nil, List.nil_append] at later ⊢
        exact .stray header rfl later
      | some conditional =>
        simp only [compileNode, header, value_within, activity_within, Recorded.value_bind,
          Recorded.value_pure, Recorded.activity_bind, Recorded.activity_pure, activity_note,
          List.append_nil] at later ⊢
        exact .other conditional context header (inside _ _) rfl later
    | loop text =>
      rcases closing : settle pending (context.atLine line) with ⟨closed, before⟩
      rcases reading : readLoop grammar text before with ⟨⟨_ | iterable, after⟩, asked⟩
      · simp only [compileNode, header, closing, reading, Recorded.value_bind, Recorded.value_pure,
          Recorded.activity_bind, Recorded.activity_pure, List.append_nil] at later ⊢
        exact .refused closing (header ▸ .loop reading) later
      · simp only [compileNode, header, closing, reading, value_within, activity_within,
          Recorded.value_bind, Recorded.value_pure, Recorded.activity_bind, Recorded.activity_pure,
          activity_note, List.append_nil] at later ⊢
        exact .loop closing (header ▸ .loop reading) (inside _ _) rfl later
    | «while» text =>
      rcases closing : settle pending (context.atLine line) with ⟨closed, before⟩
      rcases reading : readCondition grammar text before with ⟨⟨_ | condition, after⟩, asked⟩
      · simp only [compileNode, header, closing, reading, Recorded.value_bind, Recorded.value_pure,
          Recorded.activity_bind, Recorded.activity_pure, List.append_nil] at later ⊢
        exact .refused closing (header ▸ .while reading) later
      · simp only [compileNode, header, closing, reading, value_within, activity_within,
          Recorded.value_bind, Recorded.value_pure, Recorded.activity_bind, Recorded.activity_pure,
          activity_note, List.append_nil] at later ⊢
        exact .loop closing (header ▸ .while reading) (inside _ _) rfl later
    | condition text =>
      rcases closing : settle pending (context.atLine line) with ⟨closed, before⟩
      rcases reading : readCondition grammar text before with ⟨⟨_ | condition, after⟩, asked⟩
      · simp only [compileNode, header, closing, reading, Recorded.value_bind, Recorded.value_pure,
          Recorded.activity_bind, Recorded.activity_pure, List.append_nil] at later ⊢
        exact .refused closing (header ▸ .condition reading) later
      · simp only [compileNode, header, closing, reading, value_within, activity_within,
          Recorded.value_bind, Recorded.value_pure, Recorded.activity_bind, Recorded.activity_pure,
          activity_note, List.append_nil] at later ⊢
        exact .condition header closing reading (inside _ _) rfl later

theorem compileNodes_walk (grammar : Grammar) : ∀ (nodes : List Node)
    (pending : Option OpenConditional) (context : Context),
    Walk grammar nodes pending context (compileNodes grammar nodes pending context).value.items
      (compileNodes grammar nodes pending context).value.pending
      (compileNodes grammar nodes pending context).value.context
      (compileNodes grammar nodes pending context).activity
  | [], _, _ => .done
  | node :: rest, pending, context => by
    rw [compileNodes_cons]
    exact compileNode_walk grammar node (compileNodes_walk grammar rest _ _)

end

end Compile

end TriggerScript
