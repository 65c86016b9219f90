import TriggerScript.Proofs.Suspension

/-!
# Arriving at a step

A path comes to a step with some steps behind it. A suspension among them is *excused* when it
belongs to an earlier round of a loop that is still running, or to one of two bodies, passed by then,
of which the other gets around a suspension: the state in front of the step does not count it.

* `Arrives.suspended_of_yes`: a step that is shown `yes` has a suspension behind it.
* `Arrives.excused_of_no`: a step that is shown `no` has only excused suspensions behind it.
* `reachedQuietly_of_ne_yes`: a step that is not shown `yes` is reached without a suspension.
-/

namespace TriggerScript.Flow

variable {α : Type}

/-! ## What each step is shown -/

/-- The flow with each step shown the state in front of it. -/
def annotate (suspends : α → Bool) : Flow α → Delay → Flow (α × Delay)
  | .done, _ => .done
  | .step value rest, delay =>
    .step (value, delay) (rest.annotate suspends (delayAfterStep suspends value delay))
  | .optional body rest, delay =>
    .optional (body.annotate suspends delay)
      (rest.annotate suspends (.mergeOptional delay (body.delayAfter suspends delay)))
  | .either body other rest, delay =>
    .either (body.annotate suspends delay) (other.annotate suspends delay)
      (rest.annotate suspends
        (.mergeBranches delay (body.delayAfter suspends delay) (other.delayAfter suspends delay)))
  | .repeated body rest, delay =>
    .repeated (body.annotate suspends delay)
      (rest.annotate suspends (.mergeOptional delay (body.delayAfter suspends delay)))

theorem map_annotate (suspends : α → Bool) (flow : Flow α) (delay : Delay) :
    (flow.annotate suspends delay).map Prod.fst = flow := by
  induction flow generalizing delay with
  | done => rfl
  | step _ _ restMap => simp only [annotate, map, restMap]
  | optional _ _ bodyMap restMap => simp only [annotate, map, bodyMap, restMap]
  | either _ _ _ bodyMap otherMap restMap => simp only [annotate, map, bodyMap, otherMap, restMap]
  | repeated _ _ bodyMap restMap => simp only [annotate, map, bodyMap, restMap]

theorem annotate_append (suspends : α → Bool) (first second : Flow α) (delay : Delay) :
    (first.append second).annotate suspends delay =
      (first.annotate suspends delay).append
        (second.annotate suspends (first.delayAfter suspends delay)) := by
  induction first generalizing delay with
  | done => rfl
  | step _ _ restAppend => simp only [append, annotate, delayAfter, restAppend]
  | optional _ _ _ restAppend => simp only [append, annotate, delayAfter, restAppend]
  | either _ _ _ _ _ restAppend => simp only [append, annotate, delayAfter, restAppend]
  | repeated _ _ _ restAppend => simp only [append, annotate, delayAfter, restAppend]

/-! ## Excuses -/

/--
The flow with the remark at each step whether a suspension there is excused once the flow is passed,
where all of them are if `excused`.
-/
def marked (suspends : α → Bool) : Flow α → (excused : Prop) → Flow (α × Prop)
  | .done, _ => .done
  | .step value rest, excused => .step (value, excused) (rest.marked suspends excused)
  | .optional body rest, excused =>
    .optional (body.marked suspends excused) (rest.marked suspends excused)
  | .either body other rest, excused =>
    .either (body.marked suspends (excused ∨ other.Avoidable suspends))
      (other.marked suspends (excused ∨ body.Avoidable suspends)) (rest.marked suspends excused)
  | .repeated body rest, excused =>
    .repeated (body.marked suspends excused) (rest.marked suspends excused)

theorem map_marked (suspends : α → Bool) (flow : Flow α) (excused : Prop) :
    (flow.marked suspends excused).map Prod.fst = flow := by
  induction flow generalizing excused with
  | done => rfl
  | step _ _ restMap => simp only [marked, map, restMap]
  | optional _ _ bodyMap restMap => simp only [marked, map, bodyMap, restMap]
  | either _ _ _ bodyMap otherMap restMap => simp only [marked, map, bodyMap, otherMap, restMap]
  | repeated _ _ bodyMap restMap => simp only [marked, map, bodyMap, restMap]

/-- A path comes to the step `target`, with the steps of `before` behind it and their excuses. -/
inductive Arrives (suspends : α → Bool) : Flow α → (before : List (α × Prop)) → (target : α) → Prop where
  | here : Arrives suspends (.step target rest) [] target
  | behind {first rest : Flow α} (passed : Runs (first.marked suspends False) nested)
      (later : Arrives suspends rest before target) :
      Arrives suspends (first.append rest) (nested ++ before) target
  | within (inside : Arrives suspends body before target) :
      Arrives suspends (.optional body rest) before target
  | withinFirst (inside : Arrives suspends body before target) :
      Arrives suspends (.either body other rest) before target
  | withinSecond (inside : Arrives suspends other before target) :
      Arrives suspends (.either body other rest) before target
  /-- The rounds before the current one are excused. -/
  | withinRound (rounds : Runs ((Flow.repeated body .done).marked suspends True) nested)
      (inside : Arrives suspends body before target) :
      Arrives suspends (.repeated body rest) (nested ++ before) target

variable {suspends : α → Bool}

/-! ## Every path arrives -/

theorem Runs.marked {flow : Flow α} {path : List α} (runs : Runs flow path) (suspends : α → Bool)
    (excused : Prop) :
    ∃ remarks, Runs (flow.marked suspends excused) remarks ∧ remarks.map Prod.fst = path := by
  rw [← map_marked suspends flow excused] at runs
  exact runs.of_map

theorem Runs.unmarked {flow : Flow α} {excused : Prop} {remarks : List (α × Prop)}
    (runs : Runs (flow.marked suspends excused) remarks) : Runs flow (remarks.map Prod.fst) := by
  simpa only [map_marked] using runs.map Prod.fst

/-- A step on a path of two parts lies in the second or in the first. -/
theorem split_append {inner path before after : List α} {target : α}
    (split : inner ++ path = before ++ target :: after) :
    (∃ later, before = inner ++ later ∧ path = later ++ target :: after) ∨
      ∃ later, inner = before ++ target :: later := by
  rcases List.append_eq_append_iff.mp split with ⟨later, rfl, rfl⟩ | ⟨later, rfl, behind⟩
  · exact .inl ⟨later, rfl, rfl⟩
  · cases later with
    | nil => exact .inl ⟨[], by simp, by simpa using behind.symm⟩
    | cons head later =>
      cases behind
      exact .inr ⟨later, rfl⟩

/-- Whoever arrives behind a flow arrives from its start, too. -/
theorem Runs.arrives_behind {first rest : Flow α} {passed : List α} {target : α}
    (runs : Runs first passed) {before : List α}
    (later : ∃ remarks, Arrives suspends rest remarks target ∧ remarks.map Prod.fst = before) :
    ∃ remarks, Arrives suspends (first.append rest) remarks target ∧
      remarks.map Prod.fst = passed ++ before := by
  obtain ⟨inner, innerRuns, rfl⟩ := runs.marked suspends False
  obtain ⟨remarks, arrives, rfl⟩ := later
  exact ⟨inner ++ remarks, .behind innerRuns arrives, List.map_append⟩

/-- A loop makes one more round before it arrives. -/
theorem Arrives.again {body rest : Flow α} {inner : List α} {before : List (α × Prop)} {target : α}
    (arrives : Arrives suspends (.repeated body rest) before target) (round : Runs body inner) :
    ∃ remarks, Arrives suspends (.repeated body rest) remarks target ∧
      remarks.map Prod.fst = inner ++ before.map Prod.fst := by
  generalize loop : Flow.repeated body rest = flow at arrives
  -- The loop is passed or entered; either way the round goes in front of the rounds made so far.
  induction arrives with
  | @behind passedSteps _ _ first later passed arrives again =>
    cases first with
    | done =>
      cases passed
      exact again loop
    | repeated _ _ =>
      cases loop
      obtain ⟨roundRemarks, roundRuns, rfl⟩ := round.marked suspends False
      exact ⟨_, .behind (.again roundRuns passed) arrives, by simp⟩
    | step _ _ | optional _ _ | either _ _ _ => cases loop
  | withinRound rounds inside _ =>
    cases loop
    obtain ⟨roundRemarks, roundRuns, rfl⟩ := round.marked suspends True
    exact ⟨_, .withinRound (.again roundRuns rounds) inside, by simp⟩
  | here | within _ _ | withinFirst _ _ | withinSecond _ _ => cases loop

/-- Every path comes to each of its steps. -/
theorem Runs.arrives {flow : Flow α} {path : List α} (runs : Runs flow path)
    {before after : List α} {target : α} (split : path = before ++ target :: after) :
    ∃ remarks, Arrives suspends flow remarks target ∧ remarks.map Prod.fst = before := by
  -- The step lies behind the first part of the flow, which is passed then, or inside that part.
  induction runs generalizing before after target with
  | done => simp at split
  | @step _ _ value later laterArrives =>
    cases before with
    | nil =>
      cases split
      exact ⟨[], .here, rfl⟩
    | cons head before =>
      cases split
      exact (Runs.step .done : Runs (.step value .done) [value]).arrives_behind (laterArrives rfl)
  | @skip _ _ body later laterArrives =>
    exact (Runs.skip .done : Runs (.optional body .done) []).arrives_behind (laterArrives split)
  | @enter body _ _ _ inside later insideArrives laterArrives =>
    rcases split_append split with ⟨behind, rfl, laterSplit⟩ | ⟨ahead, insideSplit⟩
    · have passed : Runs (.optional body .done) _ := .enter inside .done
      rw [List.append_nil] at passed
      exact passed.arrives_behind (laterArrives laterSplit)
    · obtain ⟨remarks, arrives, rfl⟩ := insideArrives insideSplit
      exact ⟨remarks, .within arrives, rfl⟩
  | @first body _ _ _ other inside later insideArrives laterArrives =>
    rcases split_append split with ⟨behind, rfl, laterSplit⟩ | ⟨ahead, insideSplit⟩
    · have passed : Runs (.either body other .done) _ := .first inside .done
      rw [List.append_nil] at passed
      exact passed.arrives_behind (laterArrives laterSplit)
    · obtain ⟨remarks, arrives, rfl⟩ := insideArrives insideSplit
      exact ⟨remarks, .withinFirst arrives, rfl⟩
  | @second other _ _ _ body inside later insideArrives laterArrives =>
    rcases split_append split with ⟨behind, rfl, laterSplit⟩ | ⟨ahead, insideSplit⟩
    · have passed : Runs (.either body other .done) _ := .second inside .done
      rw [List.append_nil] at passed
      exact passed.arrives_behind (laterArrives laterSplit)
    · obtain ⟨remarks, arrives, rfl⟩ := insideArrives insideSplit
      exact ⟨remarks, .withinSecond arrives, rfl⟩
  | @leave _ _ body later laterArrives =>
    exact (Runs.leave .done : Runs (.repeated body .done) []).arrives_behind (laterArrives split)
  | again inside later insideArrives laterArrives =>
    rcases split_append split with ⟨behind, rfl, laterSplit⟩ | ⟨ahead, insideSplit⟩
    · obtain ⟨remarks, arrives, rfl⟩ := laterArrives laterSplit
      exact arrives.again inside
    · obtain ⟨remarks, arrives, rfl⟩ := insideArrives insideSplit
      exact ⟨remarks, .withinRound (.leave .done) arrives, rfl⟩

/-! ## What `yes` and `no` say at a step -/

/-- Where a shown flow divides, so does the flow itself. -/
theorem annotate_eq_append {flow : Flow α} {delay : Delay} {first rest : Flow (α × Delay)}
    (divided : flow.annotate suspends delay = first.append rest) :
    ∃ passed later : Flow α, flow = passed.append later ∧ first = passed.annotate suspends delay ∧
      rest = later.annotate suspends (passed.delayAfter suspends delay) := by
  induction first generalizing flow delay with
  | done => exact ⟨.done, flow, rfl, rfl, divided.symm⟩
  | step _ _ restDivided =>
    cases flow <;> simp only [annotate, append, step.injEq, reduceCtorEq] at divided
    obtain ⟨rfl, divided⟩ := divided
    obtain ⟨passed, later, rfl, rfl, rfl⟩ := restDivided divided
    exact ⟨.step _ passed, later, rfl, rfl, rfl⟩
  | optional _ _ _ restDivided =>
    cases flow <;> simp only [annotate, append, optional.injEq, reduceCtorEq] at divided
    obtain ⟨rfl, divided⟩ := divided
    obtain ⟨passed, later, rfl, rfl, rfl⟩ := restDivided divided
    exact ⟨.optional _ passed, later, rfl, rfl, rfl⟩
  | either _ _ _ _ _ restDivided =>
    cases flow <;> simp only [annotate, append, either.injEq, reduceCtorEq] at divided
    obtain ⟨rfl, rfl, divided⟩ := divided
    obtain ⟨passed, later, rfl, rfl, rfl⟩ := restDivided divided
    exact ⟨.either _ _ passed, later, rfl, rfl, rfl⟩
  | repeated _ _ _ restDivided =>
    cases flow <;> simp only [annotate, append, repeated.injEq, reduceCtorEq] at divided
    obtain ⟨rfl, divided⟩ := divided
    obtain ⟨passed, later, rfl, rfl, rfl⟩ := restDivided divided
    exact ⟨.repeated _ passed, later, rfl, rfl, rfl⟩

theorem Runs.suspended {flow : Flow α} {delay : Delay} {excused : Prop}
    {remarks : List ((α × Delay) × Prop)}
    (runs : Runs ((flow.annotate suspends delay).marked (suspends ∘ Prod.fst) excused) remarks)
    (unavoidable : flow.Unavoidable suspends) :
    ∃ earlier ∈ remarks, suspends earlier.1.1 = true := by
  have plain := runs.unmarked.map Prod.fst
  rw [map_annotate, List.map_map] at plain
  obtain ⟨_, member, suspended⟩ := unavoidable _ plain
  obtain ⟨earlier, earlierMember, rfl⟩ := List.mem_map.mp member
  exact ⟨earlier, earlierMember, suspended⟩

/-- A step that is shown `yes` has a suspension behind it, unless the flow started with `yes`. -/
theorem Arrives.suspended_of_yes {flow : Flow α} {delay : Delay}
    {before : List ((α × Delay) × Prop)} {target : α × Delay}
    (arrives : Arrives (suspends ∘ Prod.fst) (flow.annotate suspends delay) before target)
    (shown : target.2 = .yes) :
    delay = .yes ∨ ∃ earlier ∈ before, suspends earlier.1.1 = true := by
  generalize annotated : flow.annotate suspends delay = labelled at arrives
  induction arrives generalizing flow delay with
  | here =>
    cases flow <;> cases annotated
    exact .inl shown
  | behind passed _ laterSuspended =>
    obtain ⟨first, rest, rfl, rfl, rfl⟩ := annotate_eq_append annotated
    rcases laterSuspended shown rfl with afterFirst | ⟨earlier, member, suspended⟩
    · refine ((delayAfter_eq_yes_iff _ _).mp afterFirst).imp_right fun unavoidable => ?_
      obtain ⟨earlier, member, suspended⟩ := passed.suspended unavoidable
      exact ⟨earlier, List.mem_append_left _ member, suspended⟩
    · exact .inr ⟨earlier, List.mem_append_right _ member, suspended⟩
  | within _ insideSuspended | withinFirst _ insideSuspended | withinSecond _ insideSuspended =>
    cases flow <;> cases annotated
    exact insideSuspended shown rfl
  | withinRound _ _ insideSuspended =>
    cases flow <;> cases annotated
    refine (insideSuspended shown rfl).imp_right ?_
    rintro ⟨earlier, member, suspended⟩
    exact ⟨earlier, List.mem_append_right _ member, suspended⟩

theorem eq_no_of_delayAfter {flow : Flow α} {delay : Delay}
    (quiet : flow.delayAfter suspends delay = .no) : delay = .no := by
  induction flow generalizing delay with
  | done => exact quiet
  | step _ _ restStart => exact ((delayAfterStep_eq_no_iff _ _ _).mp (restStart quiet)).2
  | optional _ _ _ restStart => exact ((Delay.mergeOptional_eq_no_iff _ _).mp (restStart quiet)).1
  | either _ _ _ _ _ restStart =>
    exact ((Delay.mergeBranches_eq_no_iff _ _ _).mp (restStart quiet)).1
  | repeated _ _ _ restStart => exact ((Delay.mergeOptional_eq_no_iff _ _).mp (restStart quiet)).1

theorem Runs.all_excused {flow : Flow α} {excused : Prop} {remarks : List (α × Prop)}
    (runs : Runs (flow.marked suspends excused) remarks) (holds : excused) :
    ∀ earlier ∈ remarks, earlier.2 := by
  generalize remarked : flow.marked suspends excused = labelled at runs
  induction runs generalizing flow excused with
  | done => simp
  | step _ laterExcused =>
    cases flow <;> cases remarked
    exact List.forall_mem_cons.mpr ⟨holds, laterExcused holds rfl⟩
  | skip _ laterExcused | leave _ laterExcused =>
    cases flow <;> cases remarked
    exact laterExcused holds rfl
  | enter _ _ insideExcused laterExcused =>
    cases flow <;> cases remarked
    exact List.forall_mem_append.mpr ⟨insideExcused holds rfl, laterExcused holds rfl⟩
  | first _ _ insideExcused laterExcused | second _ _ insideExcused laterExcused =>
    cases flow <;> cases remarked
    exact List.forall_mem_append.mpr ⟨insideExcused (.inl holds) rfl, laterExcused holds rfl⟩
  | again _ _ insideExcused laterExcused =>
    cases flow with
    | repeated body rest =>
      cases remarked
      exact List.forall_mem_append.mpr
        ⟨insideExcused holds rfl, @laterExcused (.repeated body rest) _ holds rfl⟩
    | done | step _ _ | optional _ _ | either _ _ _ => cases remarked

/-- A flow that does not end with `yes` has a path around every suspension. -/
theorem avoidable_annotate {flow : Flow α} {delay : Delay}
    (unsure : flow.delayAfter suspends delay ≠ .yes) :
    (flow.annotate suspends delay).Avoidable (suspends ∘ Prod.fst) := by
  have avoidable : flow.Avoidable suspends :=
    (avoidable_iff suspends flow).mpr fun unavoidable =>
      unsure ((delayAfter_eq_yes_iff flow delay).mpr (.inr unavoidable))
  obtain ⟨path, runs, quietPath⟩ := avoidable
  rw [← map_annotate suspends flow delay] at runs
  obtain ⟨shown, shownRuns, rfl⟩ := runs.of_map
  exact ⟨shown, shownRuns, fun value member => quietPath value.1 (List.mem_map_of_mem member)⟩

/-- On a flow that ends with `no`, every suspension is excused. -/
theorem Runs.excused_of_quiet {flow : Flow α} {delay : Delay} {excused : Prop}
    {remarks : List ((α × Delay) × Prop)}
    (runs : Runs ((flow.annotate suspends delay).marked (suspends ∘ Prod.fst) excused) remarks)
    (quiet : flow.delayAfter suspends delay = .no) :
    ∀ earlier ∈ remarks, suspends earlier.1.1 = true → earlier.2 := by
  generalize remarked :
    (flow.annotate suspends delay).marked (suspends ∘ Prod.fst) excused = labelled at runs
  induction runs generalizing flow delay excused with
  | done => simp
  | step _ laterExcused =>
    cases flow <;> cases remarked
    rw [delayAfter] at quiet
    have atStep := (delayAfterStep_eq_no_iff _ _ _).mp (eq_no_of_delayAfter quiet)
    refine List.forall_mem_cons.mpr ⟨fun suspended => ?_, laterExcused quiet rfl⟩
    rw [atStep.1] at suspended
    cases suspended
  | skip _ laterExcused | leave _ laterExcused =>
    cases flow <;> cases remarked
    rw [delayAfter] at quiet
    exact laterExcused quiet rfl
  | enter _ _ insideExcused laterExcused =>
    cases flow <;> cases remarked
    rw [delayAfter] at quiet
    have atBody := (Delay.mergeOptional_eq_no_iff _ _).mp (eq_no_of_delayAfter quiet)
    exact List.forall_mem_append.mpr ⟨insideExcused atBody.2 rfl, laterExcused quiet rfl⟩
  | first inside _ insideExcused laterExcused =>
    cases flow <;> cases remarked
    rw [delayAfter] at quiet
    refine List.forall_mem_append.mpr ⟨?_, laterExcused quiet rfl⟩
    -- Either this branch ends with `no` itself, or the other one does and excuses all of this one.
    rcases ((Delay.mergeBranches_eq_no_iff _ _ _).mp (eq_no_of_delayAfter quiet)).2 with
      atBody | atOther
    · exact insideExcused atBody rfl
    · exact fun earlier member _ =>
        inside.all_excused (.inr (avoidable_annotate (by simp [atOther]))) earlier member
  | second inside _ insideExcused laterExcused =>
    cases flow <;> cases remarked
    rw [delayAfter] at quiet
    refine List.forall_mem_append.mpr ⟨?_, laterExcused quiet rfl⟩
    rcases ((Delay.mergeBranches_eq_no_iff _ _ _).mp (eq_no_of_delayAfter quiet)).2 with
      atBody | atOther
    · exact fun earlier member _ =>
        inside.all_excused (.inr (avoidable_annotate (by simp [atBody]))) earlier member
    · exact insideExcused atOther rfl
  | again _ _ insideExcused laterExcused =>
    cases flow with
    | repeated body rest =>
      cases remarked
      have atBody := (Delay.mergeOptional_eq_no_iff _ _).mp (eq_no_of_delayAfter quiet)
      exact List.forall_mem_append.mpr
        ⟨insideExcused atBody.2 rfl, @laterExcused (.repeated body rest) _ _ quiet rfl⟩
    | done | step _ _ | optional _ _ | either _ _ _ => cases remarked

/-- A step that is shown `no` has only excused suspensions behind it. -/
theorem Arrives.excused_of_no {flow : Flow α} {delay : Delay}
    {before : List ((α × Delay) × Prop)} {target : α × Delay}
    (arrives : Arrives (suspends ∘ Prod.fst) (flow.annotate suspends delay) before target)
    (shown : target.2 = .no) :
    delay = .no ∧ ∀ earlier ∈ before, suspends earlier.1.1 = true → earlier.2 := by
  generalize annotated : flow.annotate suspends delay = labelled at arrives
  induction arrives generalizing flow delay with
  | here =>
    cases flow <;> cases annotated
    exact ⟨shown, by simp⟩
  | behind passed _ laterExcused =>
    obtain ⟨first, rest, rfl, rfl, rfl⟩ := annotate_eq_append annotated
    obtain ⟨afterFirst, behindExcused⟩ := laterExcused shown rfl
    exact ⟨eq_no_of_delayAfter afterFirst,
      List.forall_mem_append.mpr ⟨passed.excused_of_quiet afterFirst, behindExcused⟩⟩
  | within _ insideExcused | withinFirst _ insideExcused | withinSecond _ insideExcused =>
    cases flow <;> cases annotated
    exact insideExcused shown rfl
  | withinRound rounds _ insideExcused =>
    cases flow <;> cases annotated
    -- The body was shown the state in front of the loop, whatever its earlier rounds did.
    obtain ⟨atStart, roundExcused⟩ := insideExcused shown rfl
    exact ⟨atStart, List.forall_mem_append.mpr
      ⟨fun earlier member _ => rounds.all_excused trivial earlier member, roundExcused⟩⟩

/-! ## Where `yes` is not shown -/

theorem exists_runs (flow : Flow α) : ∃ path, Runs flow path := by
  induction flow with
  | done => exact ⟨[], .done⟩
  | step value _ restRuns =>
    obtain ⟨path, runs⟩ := restRuns
    exact ⟨value :: path, .step runs⟩
  | optional _ _ _ restRuns =>
    obtain ⟨path, runs⟩ := restRuns
    exact ⟨path, .skip runs⟩
  | either _ _ _ bodyRuns _ restRuns =>
    obtain ⟨inner, inside⟩ := bodyRuns
    obtain ⟨path, runs⟩ := restRuns
    exact ⟨inner ++ path, .first inside runs⟩
  | repeated _ _ _ restRuns =>
    obtain ⟨path, runs⟩ := restRuns
    exact ⟨path, .leave runs⟩

/-- A flow that starts with `yes` shows `yes` throughout. -/
theorem start_ne_yes {flow : Flow α} {delay : Delay} {target : α × Delay}
    (member : target ∈ (flow.annotate suspends delay).steps) (unsure : target.2 ≠ .yes) :
    delay ≠ .yes := by
  induction flow generalizing delay with
  | done => cases member
  | step value rest restStart =>
    rcases List.mem_cons.mp member with rfl | later
    · exact unsure
    · exact fun start => restStart later ((delayAfterStep_eq_yes_iff _ _ _).mpr (.inr start))
  | optional body rest bodyStart restStart | repeated body rest bodyStart restStart =>
    rcases List.mem_append.mp member with inside | later
    · exact bodyStart inside
    · exact fun start => restStart later ((Delay.mergeOptional_eq_yes_iff _ _).mpr start)
  | either body other rest bodyStart otherStart restStart =>
    rcases List.mem_append.mp member with branches | later
    · exact (List.mem_append.mp branches).elim bodyStart otherStart
    · exact fun start => restStart later ((Delay.mergeBranches_eq_yes_iff _ _ _).mpr (.inl start))

/-- A path comes to the step `target` before any suspension. -/
def ReachedQuietly (suspends : α → Bool) (flow : Flow (α × Delay)) (target : α × Delay) : Prop :=
  ∃ before after, Runs flow (before ++ target :: after) ∧ ∀ earlier ∈ before, suspends earlier.1 = false

theorem ReachedQuietly.within {body flow : Flow (α × Delay)} {target : α × Delay}
    {later : List (α × Delay)} (reached : ReachedQuietly suspends body target)
    (whole : ∀ path, Runs body path → Runs flow (path ++ later)) :
    ReachedQuietly suspends flow target := by
  obtain ⟨before, after, runs, quiet⟩ := reached
  exact ⟨before, after ++ later, by simpa using whole _ runs, quiet⟩

theorem ReachedQuietly.behind {rest flow : Flow (α × Delay)} {target : α × Delay}
    (reached : ReachedQuietly suspends rest target) (inner : List (α × Delay))
    (quiet : ∀ earlier ∈ inner, suspends earlier.1 = false)
    (whole : ∀ path, Runs rest path → Runs flow (inner ++ path)) :
    ReachedQuietly suspends flow target := by
  obtain ⟨before, after, runs, quietBefore⟩ := reached
  exact ⟨inner ++ before, after, by simpa using whole _ runs,
    List.forall_mem_append.mpr ⟨quiet, quietBefore⟩⟩

/-- A step that is shown anything but `yes` is reached by some path before any suspension. -/
theorem reachedQuietly_of_ne_yes {flow : Flow α} {delay : Delay} {target : α × Delay}
    (member : target ∈ (flow.annotate suspends delay).steps) (unsure : target.2 ≠ .yes) :
    ReachedQuietly suspends (flow.annotate suspends delay) target := by
  induction flow generalizing delay with
  | done => cases member
  | step value rest restReached =>
    rcases List.mem_cons.mp member with rfl | later
    · obtain ⟨path, runs⟩ := exists_runs (rest.annotate suspends (delayAfterStep suspends value delay))
      exact ⟨[], path, .step runs, by simp⟩
    · have unsureStep := mt (delayAfterStep_eq_yes_iff _ _ _).mpr (start_ne_yes later unsure)
      refine (restReached later).behind [(value, delay)] ?_ fun _ runs => .step runs
      simpa using fun suspended => unsureStep (.inl suspended)
  | optional body rest bodyReached restReached =>
    rcases List.mem_append.mp member with inside | later
    · obtain ⟨_, restRuns⟩ := exists_runs _
      exact (bodyReached inside).within fun _ runs => .enter runs restRuns
    · exact (restReached later).behind [] (by simp) fun _ runs => .skip runs
  | either body other rest bodyReached otherReached restReached =>
    rcases List.mem_append.mp member with branches | later
    · obtain ⟨_, restRuns⟩ := exists_runs _
      rcases List.mem_append.mp branches with inside | inside
      · exact (bodyReached inside).within fun _ runs => .first runs restRuns
      · exact (otherReached inside).within fun _ runs => .second runs restRuns
    · -- One of the branches gets around a suspension, or `yes` would be shown behind them.
      have unsureBranch := mt (Delay.mergeBranches_eq_yes_iff _ _ _).mpr (start_ne_yes later unsure)
      by_cases bodySure : body.delayAfter suspends delay = .yes
      · obtain ⟨inner, inside, quiet⟩ := avoidable_annotate fun otherSure =>
          unsureBranch (.inr ⟨bodySure, otherSure⟩)
        exact (restReached later).behind inner quiet fun _ runs => .second inside runs
      · obtain ⟨inner, inside, quiet⟩ := avoidable_annotate bodySure
        exact (restReached later).behind inner quiet fun _ runs => .first inside runs
  | repeated body rest bodyReached restReached =>
    rcases List.mem_append.mp member with inside | later
    · obtain ⟨_, restRuns⟩ := exists_runs _
      exact (bodyReached inside).within fun _ runs => .again runs (.leave restRuns)
    · exact (restReached later).behind [] (by simp) fun _ runs => .leave runs

end TriggerScript.Flow
