import TriggerScript.Proofs.BlockSteps
import TriggerScript.Proofs.RehearsalServices
import TriggerScript.Proofs.ScriptUnits

/-!
# Parts of a block

The children of a section are compiled in one pass, in a context that is never set back as a whole. Still its
parts can be told apart. A run of children may be cut wherever no other branch comes next, and compiled as two
sections, one behind the other. And the two branches of a conditional see nothing of each other: exchanged, they
come to the same in each other's places.
-/

namespace TriggerScript

theorem Delay.mergeBranches_comm (before first second : Delay) :
    mergeBranches before first second = mergeBranches before second first := by
  cases before <;> cases first <;> cases second <;> rfl

namespace Context

@[simp] theorem atLine_atLine (context : Context) (first second : Nat) :
    (context.atLine first).atLine second = context.atLine second := rfl

@[simp] theorem delay_atLine (context : Context) (line : Nat) : (context.atLine line).delay = context.delay := rfl

@[simp] theorem depth_atLine (context : Context) (line : Nat) : (context.atLine line).depth = context.depth := rfl

@[simp] theorem surroundings_atLine (context : Context) (line : Nat) :
    (context.atLine line).surroundings = context.surroundings := rfl

@[simp] theorem surroundings_behind (context : Context) (earlier : List Diagnostic) :
    (context.behind earlier).surroundings = context.surroundings := rfl

theorem enterBlock_leaveBlock {context : Context} (inside : 0 < context.depth) :
    context.leaveBlock.enterBlock = context := by
  have depth : context.depth - 1 + 1 = context.depth := Nat.sub_add_cancel inside
  simp only [enterBlock, leaveBlock, depth]

/-- Contexts with the same surroundings differ in the line, the delay and the reports only. -/
theorem eq_of_surroundings {context other : Context} (around : context.surroundings = other.surroundings) :
    context = { other with line := context.line, delay := context.delay, diagnostics := context.diagnostics } := by
  obtain ⟨sameFile, sameEvent, sameOptions, sameAliases, sameDepth⟩ := Surroundings.mk.inj around
  rw [← sameFile, ← sameEvent, ← sameOptions, ← sameAliases, ← sameDepth]

theorem eq_behind_of_surroundings {context other : Context} (around : context.surroundings = other.surroundings)
    (sameDelay : context.delay = other.delay) :
    context = (other.unreported.atLine context.line).behind context.diagnostics := by
  rw [behind, atLine, unreported, List.append_nil, ← sameDelay]
  exact eq_of_surroundings around

end Context

namespace Compile

variable {grammar : Grammar}

theorem compileBlock_section (grammar : Grammar) (name : String) (children : List Node) (line : Nat)
    (context : Context) :
    compileBlock grammar (.section name children line) context =
      let progress := compileNodes grammar children none context.enterBlock
      let last := (settle progress.value.pending progress.value.context).2
      ⟨(progress.value.emitted, (last.atLine line).leaveBlock), progress.activity⟩ :=
  Recorded.ext_iff.mpr ⟨rfl, activity_within ..⟩

/-- A child moves on to its own line at once. -/
theorem compileNode_atLine (grammar : Grammar) (node : Node) (pending : Option OpenConditional) (context : Context)
    (line : Nat) :
    compileNode grammar node pending (context.atLine line) = compileNode grammar node pending context := by
  cases node <;> simp only [compileNode, Context.atLine_atLine, Context.delay_atLine, Context.depth_atLine]

/-! ## One run of children behind another -/

/-- A child that is no other branch closes what is open, and is compiled as if nothing had been open. -/
theorem compileNode_apart {node : Node} (apart : node.isElse = false) (pending : Option OpenConditional)
    (context : Context) :
    compileNode grammar node pending context =
      let first := settle pending context
      let next := compileNode grammar node none first.2
      ⟨⟨first.1 ++ next.value.items, next.value.pending, next.value.context⟩, next.activity⟩ := by
  rcases closing : settle pending (context.atLine node.lineNumber) with ⟨closed, before⟩
  have nothing : settle none ((settle pending context).2.atLine node.lineNumber) = ([], before) := by
    rw [settle_atLine] at closing
    rw [settle_none, ← (Prod.mk.inj closing).2]
  dsimp only
  rw [closed_of_atLine closing]
  cases node with
  | line _ _ | entry _ _ _ =>
    rw [compileNode_source rfl closing rfl, compileNode_source rfl nothing rfl]
    rfl
  | «section» name children line =>
    have header : Header.of name ≠ .otherwise := by
      rw [Ne, ← isElse_section name children line, apart]
      nofun
    simp only [Node.lineNumber] at closing nothing
    -- The header is read in the same context on both sides, so that both go the same way.
    rcases header_cases grammar header before with
      ⟨problem, asked, refused⟩ | ⟨asked, notice, loop, opens⟩ | ⟨text, condition, asked, isCondition, reading⟩
    · rw [compileNode_refused closing refused, compileNode_refused nothing refused, List.append_nil]
    · rw [compileNode_loop closing opens, compileNode_loop nothing opens]
      rfl
    · rw [compileNode_condition isCondition closing reading, compileNode_condition isCondition nothing reading,
        List.append_nil]

/-- Some children, of which the first is no other branch, are compiled behind what is open as if it had been closed. -/
theorem compileNodes_apart {nodes : List Node} (apart : ∀ node ∈ nodes.head?, node.isElse = false)
    (pending : Option OpenConditional) (context : Context) (line : Nat) :
    let first := settle pending context
    let whole := compileNodes grammar nodes pending context
    let next := compileNodes grammar nodes none (first.2.atLine line)
    whole.value.emitted = first.1 ++ next.value.emitted ∧
      (settle whole.value.pending whole.value.context).2.atLine line =
        (settle next.value.pending next.value.context).2.atLine line ∧
      whole.activity = next.activity := by
  cases nodes with
  | nil => exact ⟨(List.append_nil _).symm, rfl, rfl⟩
  | cons node rest =>
    simp only [compileNodes_cons, compileNode_atLine, compileNode_apart (apart node rfl) pending context,
      Progress.emitted, List.append_assoc, and_self]

/--
A section is compiled as its first children are, and then the others in the context that those leave, unless the
others begin with another branch.
-/
theorem block_compiles_in_parts (grammar : Grammar) (name : String) (line : Nat) (earlier later : List Node)
    (context : Context) (apart : ∀ node ∈ later.head?, node.isElse = false) :
    let first := compileBlock grammar (.section name earlier line) context
    let second := compileBlock grammar (.section name later line) first.value.2
    compileBlock grammar (.section name (earlier ++ later) line) context =
      ⟨(first.value.1 ++ second.value.1, second.value.2), first.activity ++ second.activity⟩ := by
  intro first second
  let start := compileNodes grammar earlier none context.enterBlock
  let closed := settle start.value.pending start.value.context
  have depth : 0 < (closed.2.atLine line).depth := by
    have walked := (compileNodes_walk grammar earlier none context.enterBlock).surroundings_eq
    have settled : closed.2.surroundings = start.value.context.surroundings := settle_surroundings rfl
    have depthEq : (closed.2.atLine line).depth = context.depth + 1 :=
      congrArg Surroundings.depth (settled.trans walked)
    rw [depthEq]
    exact Nat.succ_pos context.depth
  -- A section that is entered where the other was left goes on at the same depth.
  have resumed : first.value.2.enterBlock = closed.2.atLine line := Context.enterBlock_leaveBlock depth
  let rest := compileNodes grammar later start.value.pending start.value.context
  let next := compileNodes grammar later none first.value.2.enterBlock
  obtain ⟨emitted, last, asked⟩ :=
    @compileNodes_apart grammar later apart start.value.pending start.value.context line
  rw [← resumed] at emitted last asked
  have block : (start.value.items ++ rest.value.items) ++ (settle rest.value.pending rest.value.context).1 =
      first.value.1 ++ second.value.1 :=
    calc (start.value.items ++ rest.value.items) ++ (settle rest.value.pending rest.value.context).1
        = start.value.items ++ rest.value.emitted := List.append_assoc ..
      _ = start.value.items ++ (closed.1 ++ next.value.emitted) := congrArg (start.value.items ++ ·) emitted
      _ = start.value.emitted ++ next.value.emitted := (List.append_assoc ..).symm
  have firstActivity : first.activity = start.activity := activity_within ..
  have secondActivity : second.activity = next.activity := activity_within ..
  rw [compileBlock_section, compileNodes_append, firstActivity, secondActivity]
  exact Recorded.ext_iff.mpr ⟨Prod.ext block (congrArg Context.leaveBlock last), congrArg (start.activity ++ ·) asked⟩

/-- Cut behind a conditional that is still open, with a stray branch further on. -/
theorem open_conditional_compiles_in_parts :
    let grammar := Rehearsal.grammar []
    let earlier := [Node.line "bad" 2, .section "if x" [.line "delay 1" 4] 3]
    let later := [Node.line "instant a" 5, .section "else" [.line "bad" 7] 6]
    let first := compileBlock grammar (.section "on test" earlier 1) {}
    let second := compileBlock grammar (.section "on test" later 1) first.value.2
    (∀ node ∈ later.head?, node.isElse = false) ∧ first.value.1 = [spoiledConditional.item] ∧
      first.value.2.delay = .maybe ∧
      compileBlock grammar (.section "on test" (earlier ++ later) 1) {} =
        ⟨(first.value.1 ++ second.value.1, second.value.2), first.activity ++ second.activity⟩ := by
  intro grammar earlier later first second
  have apart : ∀ node ∈ later.head?, node.isElse = false := by
    intro node head
    cases head
    rfl
  exact ⟨apart, by decide +kernel, by decide +kernel,
    block_compiles_in_parts grammar "on test" 1 earlier later {} apart⟩

-- Cut in front of its other branch, the conditional is closed too early.
example :
    let grammar := Rehearsal.grammar []
    let first := compileBlock grammar (.section "on test" [.section "if x" [] 2] 1) {}
    let second := compileBlock grammar (.section "on test" [.section "else" [] 3] 1) first.value.2
    (compileBlock grammar (.section "on test" [.section "if x" [] 2, .section "else" [] 3] 1) {}).value.1 ≠
      first.value.1 ++ second.value.1 := by
  decide +kernel

/-! ## Two branches of one conditional -/

/-- The children of a section as a block of their own, with the reports that they alone bring. -/
def alone (grammar : Grammar) (children : List Node) (context : Context) : Block × Context :=
  (compileBlock grammar (.section "" children 0) context.unreported).value

theorem compileBlock_atLine (grammar : Grammar) (name : String) (children : List Node) (line : Nat)
    (context : Context) (entry : Nat) :
    compileBlock grammar (.section name children line) (context.atLine entry) =
      compileBlock grammar (.section name children line) context := by
  have entered : (context.atLine entry).enterBlock = context.enterBlock.atLine entry := rfl
  cases children with
  | nil => rfl
  | cons node rest => simp only [compileBlock_section, compileNodes_cons, entered, compileNode_atLine]

/-- A section is compiled as its children alone are, if only the surroundings and the delay are the same. -/
theorem compileBlock_alone (ignores : grammar.IgnoresReports) (name : String) (children : List Node) (line : Nat)
    {context : Context} (base : Context) (around : context.surroundings = base.surroundings)
    (sameDelay : context.delay = base.delay) :
    (compileBlock grammar (.section name children line) context).value =
      let own := alone grammar children base
      (own.1, (own.2.atLine line).behind context.diagnostics) :=
  calc (compileBlock grammar (.section name children line) context).value
      = (compileBlock grammar (.section name children line)
          ((base.unreported.atLine context.line).behind context.diagnostics)).value := by
        rw [← Context.eq_behind_of_surroundings around sameDelay]
    _ = let own := (compileBlock grammar (.section name children line) base.unreported).value
        (own.1, own.2.behind context.diagnostics) := by
        rw [compileBlock_behind ignores, compileBlock_atLine]
    _ = _ := rfl

theorem alone_surroundings (grammar : Grammar) (children : List Node) (context : Context) :
    (alone grammar children context).2.surroundings = context.surroundings :=
  compileBlock_surroundings grammar _ context.unreported

theorem readCondition_of_value {text : String} {context : Context} {condition : Condition}
    (understood : (readCondition grammar text context).value.1 = some condition) :
    ∃ asked, readCondition grammar text context = ⟨(some condition, context), asked⟩ := by
  have reads := readCondition_reads grammar text context
  rcases reading : readCondition grammar text context with ⟨⟨found, after⟩, asked⟩
  rw [reading] at reads understood
  cases understood
  obtain rfl : after = context := reads.eq_of_understood
  exact ⟨asked, rfl⟩

/-- A section that opens a conditional keeps its body and the delay in front of it for another branch. -/
theorem compileNode_condition_alone (ignores : grammar.IgnoresReports) {name text : String} (children : List Node)
    {line : Nat} {context : Context} {condition : Condition} (header : Header.of name = .condition text)
    (understood : (readCondition grammar text (context.atLine line)).value.1 = some condition) :
    (compileNode grammar (.section name children line) none context).value =
      let own := alone grammar children context
      ⟨[], some ⟨condition, own.1, context.delay⟩, (own.2.atLine line).behind context.diagnostics⟩ := by
  obtain ⟨asked, reading⟩ := readCondition_of_value understood
  have inside := compileBlock_alone ignores name children line context (Context.surroundings_atLine context line)
    (Context.delay_atLine context line)
  rw [compileNode_condition header (settle_none _) reading]
  dsimp only at inside ⊢
  rw [inside]
  rfl

/-- The delay is set back by hand for the other branch, and all else that it sees is as the first branch found it. -/
theorem compileNode_other_alone (ignores : grammar.IgnoresReports) {name : String} (children : List Node) (line : Nat)
    {context : Context} (base : Context) (condition : Condition) (body : Block)
    (header : Header.of name = .otherwise) (around : context.surroundings = base.surroundings) :
    (compileNode grammar (.section name children line) (some ⟨condition, body, base.delay⟩) context).value =
      let own := alone grammar children base
      ⟨[.choice condition body own.1], none, ((own.2.atLine line).behind context.diagnostics).withDelay
        (.mergeBranches base.delay context.delay own.2.delay)⟩ := by
  have inside : (compileBlock grammar (.section name children line)
      ((context.atLine line).withDelay base.delay)).value = _ :=
    compileBlock_alone ignores name children line base around rfl
  rw [compileNode_other header]
  dsimp only at inside ⊢
  rw [inside]
  rfl

section

variable {title name otherName text : String} {line first second : Nat} {context : Context} {condition : Condition}

/-- Each branch is compiled as it is alone, in the context in front of both. -/
theorem compileBlock_choice (ignores : grammar.IgnoresReports) (header : Header.of name = .condition text)
    (otherHeader : Header.of otherName = .otherwise)
    (understood : (readCondition grammar text (context.enterBlock.atLine first)).value.1 = some condition)
    (body other : List Node) :
    let x := alone grammar body context.enterBlock
    let y := alone grammar other context.enterBlock
    (compileBlock grammar (.section title [.section name body first, .section otherName other second] line)
      context).value =
      ([.choice condition x.1 y.1],
        { context with
          line
          delay := .mergeBranches context.delay x.2.delay y.2.delay
          diagnostics := context.diagnostics ++ x.2.diagnostics ++ y.2.diagnostics }) := by
  intro x y
  let between := (x.2.atLine first).behind context.diagnostics
  let behind := ((y.2.atLine second).behind between.diagnostics).withDelay
    (.mergeBranches context.delay x.2.delay y.2.delay)
  have opened : (compileNode grammar (.section name body first) none context.enterBlock).value =
      ⟨[], some ⟨condition, x.1, context.delay⟩, between⟩ :=
    compileNode_condition_alone ignores body header understood
  have around : between.surroundings = context.enterBlock.surroundings := by
    rw [Context.surroundings_behind, Context.surroundings_atLine]
    exact alone_surroundings grammar body context.enterBlock
  have followed : (compileNode grammar (.section otherName other second) (some ⟨condition, x.1, context.delay⟩)
      between).value = ⟨[.choice condition x.1 y.1], none, behind⟩ :=
    compileNode_other_alone ignores other second context.enterBlock condition x.1 otherHeader around
  have value : (compileBlock grammar (.section title [.section name body first, .section otherName other second] line)
      context).value = ([.choice condition x.1 y.1], (behind.atLine line).leaveBlock) := by
    simp only [compileBlock_section, compileNodes_cons, opened, followed]
    rfl
  -- What no branch can change need not be followed through the two.
  have unchanged := compileBlock_surroundings grammar
    (.section title [.section name body first, .section otherName other second] line) context
  rw [value] at unchanged ⊢
  exact Prod.ext rfl (Context.eq_of_surroundings unchanged)

/--
The branches of a conditional exchanged: each comes to the same block in the other's place, the delay behind the two
is the same, and what they report is reported in exchanged order.
-/
theorem branches_may_be_exchanged (ignores : grammar.IgnoresReports) (header : Header.of name = .condition text)
    (otherHeader : Header.of otherName = .otherwise)
    (understood : (readCondition grammar text (context.enterBlock.atLine first)).value.1 = some condition)
    (body other : List Node) :
    let run := fun body other =>
      (compileBlock grammar (.section title [.section name body first, .section otherName other second] line)
        context).value
    let x := alone grammar body context.enterBlock
    let y := alone grammar other context.enterBlock
    (run body other).1 = [.choice condition x.1 y.1] ∧ (run other body).1 = [.choice condition y.1 x.1] ∧
      (run body other).2.delay = (run other body).2.delay ∧
      (run body other).2.diagnostics = context.diagnostics ++ x.2.diagnostics ++ y.2.diagnostics ∧
      (run other body).2.diagnostics = context.diagnostics ++ y.2.diagnostics ++ x.2.diagnostics := by
  intro run x y
  have there : run body other = _ := compileBlock_choice ignores header otherHeader understood body other
  have back : run other body = _ := compileBlock_choice ignores header otherHeader understood other body
  rw [there, back]
  exact ⟨rfl, rfl, Delay.mergeBranches_comm .., rfl, rfl⟩

end

/-- One branch is suspended and one is not, and each has a child that is left out. -/
theorem uneven_branches_exchanged :
    let grammar := Rehearsal.grammar []
    let run := fun body other =>
      (compileBlock grammar (.section "on test" [.section "if x" body 2, .section "else" other 5] 1) {}).value
    let body := [Node.line "delay 1" 3, .line "bad" 4]
    let other := [Node.section "loop one" [] 6, .line "instant a" 7]
    let x := alone grammar body ({} : Context).enterBlock
    let y := alone grammar other ({} : Context).enterBlock
    (x.2.delay = .yes ∧ y.2.delay = .no ∧ x.2.diagnostics.map Diagnostic.line = [4] ∧
        y.2.diagnostics.map Diagnostic.line = [6]) ∧
      (run body other).1 = [.choice ⟨"x", .none⟩ x.1 y.1] ∧ (run other body).1 = [.choice ⟨"x", .none⟩ y.1 x.1] ∧
      (run body other).2.delay = (run other body).2.delay ∧
      (run body other).2.diagnostics = x.2.diagnostics ++ y.2.diagnostics ∧
      (run other body).2.diagnostics = y.2.diagnostics ++ x.2.diagnostics := by
  intro grammar run body other x y
  have header : Header.of "if x" = .condition "x" := by decide +kernel
  have otherHeader : Header.of "else" = .otherwise := by decide +kernel
  have understood : (readCondition grammar "x" (({} : Context).enterBlock.atLine 2)).value.1 = some ⟨"x", .none⟩ := by
    decide +kernel
  exact ⟨by decide +kernel, branches_may_be_exchanged (Rehearsal.grammar_ignoresReports []) header otherHeader
    understood body other⟩

end Compile

end TriggerScript
