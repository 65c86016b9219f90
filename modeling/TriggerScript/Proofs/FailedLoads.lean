import TriggerScript.Proofs.CachedLoad
import TriggerScript.Proofs.RepeatedReports

/-!
# Loads that report errors

All that is reported while a script is loaded goes to the log. If there is an error among it, no artifact is
written, and the next load compiles the script again. Then it reports the same, but for the default variables
that have got their values meanwhile.
-/

namespace TriggerScript

/-- The reports about triggers of kinds that are not listed. -/
def Grammar.unlisted (grammar : Grammar) (path : Path) (triggers : List Trigger) : List Diagnostic :=
  (triggers.filter fun trigger => (grammar.eventInfo? trigger.event.kind).isNone).map fun trigger =>
    .ofFile path ("trigger '" ++ trigger.name ++ "' uses unknown event kind '" ++ trigger.event.kind ++ "'")

section

variable {grammar : Grammar} {triggers : List Trigger}

theorem Grammar.unlisted_eq_nil_iff (path : Path) :
    grammar.unlisted path triggers = [] ↔ grammar.ListsAll triggers := by
  simp [unlisted, ListsAll, Option.isSome_iff_ne_none]

theorem Grammar.listsAll_iff_length :
    grammar.ListsAll triggers ↔ (grammar.listed triggers).length = triggers.length := by
  refine ⟨fun all => ?_, listsAll_of_length⟩
  rw [← List.length_map, all.map_fst]

end

theorem errorCount_append (first second : List Diagnostic) :
    errorCount (first ++ second) = errorCount first + errorCount second := List.countP_append

/-- Every trigger that is not listed is an error. -/
theorem Grammar.errorCount_unlisted (grammar : Grammar) (path : Path) (triggers : List Trigger) :
    errorCount (grammar.unlisted path triggers) = (grammar.unlisted path triggers).length := by
  rw [errorCount, List.countP_eq_length]
  intro diagnostic member
  obtain ⟨trigger, -, rfl⟩ := List.mem_map.mp member
  rfl

namespace Loader

open Disk

variable {σ : Type} {services : Services σ} {parse : Bytes → Except IoError Node} {path : Path} {root : Node}
  {loader : Loader σ} {content : Bytes} {time : Int}

/-! ## What a load reports -/

/-- All that is reported while a script is compiled and its triggers are bound. -/
def reports (services : Services σ) (path : Path) (root : Node) (values : Variables) (state : σ) :
    List Diagnostic :=
  let compiled := (Compile.compileFile services path root values state).value
  compiled.2.context.diagnostics ++ services.grammar.unlisted path compiled.1.triggers

theorem log_bindable (grammar : Grammar) (path : Path) (triggers : List Trigger) (loader : Loader σ) :
    (bindable grammar path triggers loader).value.2.log = loader.log ++ grammar.unlisted path triggers := by
  induction triggers generalizing loader with
  | nil => exact (List.append_nil _).symm
  | cons trigger rest inductionHypothesis =>
    unfold bindable Grammar.lookUpEvent Grammar.unlisted
    dsimp only [Recorded.value_bind, Recorded.value_pure]
    cases found : grammar.eventInfo? trigger.event.kind with
    | some info =>
      rw [List.filter_cons_of_neg (by simp [found])]
      exact inductionHypothesis loader
    | none =>
      rw [List.filter_cons_of_pos (by simp [found]), List.map_cons, List.append_cons]
      exact inductionHypothesis _

theorem log_installTree (services : Services σ) (path : Path) (root : Node) (loader : Loader σ) :
    (loader.installTree services path root).value.2.log =
      loader.log ++ reports services path root loader.values loader.state := by
  simp only [installTree, install, compileTree, Recorded.value_bind, Recorded.value_pure, log_bindable, reports,
    List.append_assoc]

/-- An artifact is due exactly if no error is reported. -/
theorem clean_iff (services : Services σ) (path : Path) (root : Node) (loader : Loader σ) :
    (loader.installTree services path root).value.1.clean = true ↔
      errorCount (reports services path root loader.values loader.state) = 0 := by
  obtain ⟨log, installed⟩ := installTree_value services path root loader
  rw [installed, reports, errorCount_append, Grammar.errorCount_unlisted, Nat.add_eq_zero_iff, List.length_eq_zero_iff,
    Grammar.unlisted_eq_nil_iff, Grammar.listsAll_iff_length]
  exact decide_eq_true_iff

/-- The second time, with the variables that were left, the same is reported but for overtaken entries. -/
theorem reports_again (steady : services.commands.IgnoresState) (path : Path) (root : Node)
    {values final : Variables} (state state' : σ)
    (left : (Compile.compileFile services path root values state).value.2.values = final)
    (ignores : Compile.overtaken services.classes final (Compile.defaultEntries root.children) values = [] ∨
      services.grammar.IgnoresReports ∧ services.commands.IgnoresReports) :
    LeavesOut (Compile.overtaken services.classes final (Compile.defaultEntries root.children) values)
      (reports services path root values state) (reports services path root final state') := by
  subst left
  obtain ⟨sameUnit, -, leavesOut⟩ := Compile.compileFile_again steady path root values state state' ignores
  -- The same unit is bound, so the same triggers are found not to be listed.
  rw [reports, reports, sameUnit]
  exact leavesOut.both _

/-- A load compiles a script with the commands in some state, and logs what is reported. -/
structure Reporting (services : Services σ) (path : Path) (root : Node) (state : σ) (loader : Loader σ)
    (load : Recorded (Except LoadError ScriptInfo × Loader σ)) : Prop where
  log : load.value.2.log = loader.log ++ reports services path root loader.values state
  values : load.value.2.values = (Compile.compileFile services path root loader.values state).value.2.values
  config : load.value.2.config = loader.config
  compiled : (Compile.compileFile services path root loader.values state).activity <:+: load.activity

theorem compileFile_infix_installTree (services : Services σ) (path : Path) (root : Node) (loader : Loader σ) :
    (Compile.compileFile services path root loader.values loader.state).activity <:+:
      (loader.installTree services path root).activity := by
  simp only [installTree, compileTree, Recorded.activity_bind, Recorded.activity_pure, List.append_nil]
  exact (List.prefix_append _ _).isInfix

theorem installTree_infix_loadFresh (reader : services.reader = .ofParser parse)
    (read : (loader.disk.read path >>= parse) = .ok root) :
    (loader.installTree services path root).activity <:+: (loader.loadFresh services path).activity := by
  simp only [loadFresh, Reader.readTree, reader, Reader.ofParser, Recorded.value_bind, Recorded.value_pure,
    Recorded.activity_bind, Recorded.activity_pure, read]
  exact (List.prefix_append _ _).isInfix.trans (List.suffix_append _ _).isInfix

/-- A script that can be read is compiled; only if no error is reported, the disk may change. -/
theorem loadFresh_reporting (reader : services.reader = .ofParser parse)
    (read : (loader.disk.read path >>= parse) = .ok root) :
    Reporting services path root loader.state loader (loader.loadFresh services path) ∧
      (errorCount (reports services path root loader.values loader.state) ≠ 0 →
        (loader.loadFresh services path).value.2.disk = loader.disk) := by
  have journal := (compileFile_infix_installTree services path root loader).trans
    (installTree_infix_loadFresh reader read)
  have log := log_installTree services path root loader
  have unclean (wrong : errorCount (reports services path root loader.values loader.state) ≠ 0) :
      (loader.installTree services path root).value.1.clean = false := by
    apply Bool.eq_false_iff.mpr
    exact fun clean => wrong ((clean_iff services path root loader).mp clean)
  obtain ⟨newLog, installed⟩ := installTree_value services path root loader
  have values : (loader.installTree services path root).value.2.values =
      (Compile.compileFile services path root loader.values loader.state).value.2.values := by rw [installed]
  have config : (loader.installTree services path root).value.2.config = loader.config := by rw [installed]
  have disk : (loader.installTree services path root).value.2.disk = loader.disk := by rw [installed]
  have value := congrArg Prod.snd (loadFresh_ok reader read).1
  dsimp only at value
  rw [finishLoad_value] at value
  refine ⟨⟨?_, ?_, ?_, journal⟩, fun wrong => ?_⟩
  · rw [value]
    exact log
  · rw [value]
    exact values
  · rw [value]
    exact config
  · rw [value]
    dsimp only
    rw [unclean wrong, Bool.and_false]
    split <;> exact disk

/-- Until the script is read, nothing changes but the registry, the commands and the artifact, which is dropped. -/
theorem loadScript_reporting (reader : services.reader = .ofParser parse)
    (caching : loader.config.enableCaching = true) (compiles : loader.Compiles services path) :
    ∃ state disk, ChangesOnly (· = loader.cache.place path loader.disk) loader.disk disk ∧
      (∀ bytes stored, ¬ disk.Holds (loader.cache.artifactOf path) bytes stored) ∧
      (∀ error, (disk.read path >>= parse) = .error error →
        (loader.loadScript services path).value.2.log = loader.log) ∧
      ∀ root, (disk.read path >>= parse) = .ok root →
        Reporting services path root state loader (loader.loadScript services path) ∧
          (errorCount (reports services path root loader.values state) ≠ 0 →
            (loader.loadScript services path).value.2.disk = disk) := by
  obtain ⟨registry, unloadedState, unloaded, -⟩ := unloadOld_spec services path loader
  obtain ⟨state, disk, value, -, changes, gone, ends⟩ := loadScript_of_compiles caching compiles
  let start : Loader σ := { (loader.unloadOld services path).value with state, disk }
  have sameLog : start.log = loader.log := by
    show (loader.unloadOld services path).value.log = loader.log
    rw [unloaded]
  have sameValues : start.values = loader.values := by
    show (loader.unloadOld services path).value.values = loader.values
    rw [unloaded]
  have sameConfig : start.config = loader.config := config_unloadOld services path loader
  refine ⟨state, disk, changes, gone, ?_, ?_⟩
  · intro error unread
    have stopped : (start.loadFresh services path).value = (.error (.io path error), start) :=
      (@loadFresh_error σ services path parse start reader error unread).1
    rw [value, stopped]
    exact sameLog
  · intro root read
    obtain ⟨reporting, sameDisk⟩ := @loadFresh_reporting σ services parse path root start reader read
    refine ⟨⟨?_, ?_, ?_, ?_⟩, fun wrong => ?_⟩
    · rw [value, ← sameLog, ← sameValues]
      exact reporting.log
    · rw [value, ← sameValues]
      exact reporting.values
    · rw [value, ← sameConfig]
      exact reporting.config
    · rw [← sameValues]
      exact reporting.compiled.trans ends.isInfix
    · rw [← sameValues] at wrong
      rw [value]
      exact sameDisk wrong

/-- A load whose log got an error has compiled its script. -/
theorem compiles_of_failed (caching : loader.config.enableCaching = true)
    (failed : errorCount loader.log < errorCount (loader.loadScript services path).value.2.log) :
    loader.Compiles services path := by
  apply Classical.byContradiction
  intro served
  obtain ⟨_, _, _, _, _, _, _, _, _, log, -⟩ := loadScript_of_not_compiles caching served
  rw [log] at failed
  exact Nat.lt_irrefl _ failed

/-- It could read the script, so the error is about what stands in it; and it leaves the script and no artifact. -/
theorem reporting_of_failed (reader : services.reader = .ofParser parse)
    (caching : loader.config.enableCaching = true)
    (failed : errorCount loader.log < errorCount (loader.loadScript services path).value.2.log) :
    ∃ content time root state, parse content = .ok root ∧
      Reporting services path root state loader (loader.loadScript services path) ∧
      errorCount (reports services path root loader.values state) ≠ 0 ∧
      (loader.loadScript services path).value.2.disk.Holds path content time ∧
      ∀ bytes stored,
        ¬ (loader.loadScript services path).value.2.disk.Holds (loader.cache.artifactOf path) bytes stored := by
  obtain ⟨state, disk, -, gone, unread, compiled⟩ :=
    loadScript_reporting reader caching (compiles_of_failed caching failed)
  cases read : disk.read path >>= parse with
  | error error =>
    rw [unread error read] at failed
    exact absurd failed (Nat.lt_irrefl _)
  | ok root =>
    obtain ⟨content, found, parsed⟩ := bind_eq_ok.mp read
    obtain ⟨time, script⟩ := exists_holds_of_read found
    obtain ⟨reporting, sameDisk⟩ := compiled root read
    have wrong : errorCount (reports services path root loader.values state) ≠ 0 := by
      rw [reporting.log, errorCount_append] at failed
      omega
    rw [sameDisk wrong]
    exact ⟨content, time, root, state, parsed, reporting, wrong, script, gone⟩

/--
A load has added an error to the log. Then its script could be read and is still there, there is no artifact,
and another load, with the same script and the same variables, runs through the whole compilation again. It
adds the same to the log and leaves no artifact, provided that no entry of the script was overtaken: had its
value refused to a variable that has got one from a later entry. What was reported about such entries is not
reported again; all else is, if the collaborators do not look at the reports, and if there is an error left,
there is still no artifact.
-/
theorem errors_reported_again (steady : services.commands.IgnoresState)
    (reader : services.reader = .ofParser parse) (caching : loader.config.enableCaching = true)
    (failed : errorCount loader.log < errorCount (loader.loadScript services path).value.2.log)
    (registry : Registry) (log : List Diagnostic) (state : σ) :
    let first := (loader.loadScript services path).value.2
    let second := ({ first with registry, log, state } : Loader σ).loadScript services path
    let artifact := loader.cache.artifactOf path
    ∃ content time root, first.disk.Holds path content time ∧ parse content = .ok root ∧
      let refusals := Compile.overtaken services.classes first.values (Compile.defaultEntries root.children)
        loader.values
      (∀ bytes stored, ¬ first.disk.Holds artifact bytes stored) ∧
      (∃ state, (Compile.compileFile services path root first.values state).activity <:+: second.activity) ∧
      ∃ reported again, first.log = loader.log ++ reported ∧ second.value.2.log = log ++ again ∧
        (refusals = [] → again = reported ∧ ∀ bytes stored, ¬ second.value.2.disk.Holds artifact bytes stored) ∧
        (services.grammar.IgnoresReports → services.commands.IgnoresReports →
          LeavesOut refusals reported again) ∧
        (errorCount again ≠ 0 → ∀ bytes stored, ¬ second.value.2.disk.Holds artifact bytes stored) := by
  intro first second artifact
  obtain ⟨content, time, root, compiledIn, parsed, reporting, wrong, script, gone⟩ :=
    reporting_of_failed reader caching failed
  let now : Loader σ := { first with registry, log, state }
  have sameCache : now.cache = loader.cache := congrArg (fun config => Cache.mk config.cacheDir) reporting.config
  have nowCaching : now.config.enableCaching = true := reporting.config ▸ caching
  have nowGone : ∀ bytes stored, ¬ now.disk.Holds (now.cache.artifactOf path) bytes stored := by
    rw [sameCache]
    exact gone
  -- There is nothing to restore, so the second load compiles as well, with the variables that the first one left.
  obtain ⟨recompiledIn, disk, changes, goneAgain, -, recompiled⟩ :=
    @loadScript_reporting σ services parse path now reader nowCaching (compiles_of_gone nowGone)
  have still : disk.Holds path content time := changes.holds (now.cache.place_ne_script path script) script
  obtain ⟨reportingAgain, sameDisk⟩ := recompiled root ((still.read_bind parse).trans parsed)
  have leavesAgain (error : errorCount (reports services path root now.values recompiledIn) ≠ 0) :
      ∀ bytes stored, ¬ second.value.2.disk.Holds artifact bytes stored := by
    rw [sameCache, ← sameDisk error] at goneAgain
    exact goneAgain
  have again := reports_again steady path root compiledIn recompiledIn reporting.values.symm
  refine ⟨content, time, root, script, parsed, gone, ⟨recompiledIn, reportingAgain.compiled⟩, _, _, reporting.log,
    reportingAgain.log, ?_, ?_, leavesAgain⟩
  · intro none
    have leavesOut := again (.inl none)
    rw [none] at leavesOut
    have same := leavesOut.eq_of_nil
    -- The error is there again, and keeps the artifact away.
    exact ⟨same, leavesAgain (same ▸ wrong)⟩
  · intro grammar commands
    exact again (.inr ⟨grammar, commands⟩)

section Rehearsed

open Rehearsal

/-- A script with an overtaken entry and three other errors, one of them about a kind that is not listed. -/
def faultyScene : Node :=
  .section "" [
    .section "variables" [.line "x = ?" 2, .line "x = 1" 3, .line "y = ?" 4] 1,
    .section "on join" [.line "bad" 6] 5,
    .section "on ghost" [.line "a" 8] 7] 0

def faultyServices : Services Desk := plainServices fun _ => .ok faultyScene

/-- The scene is loaded, and then loaded again by a loader that has only the variables and the disk in common. -/
theorem faulty_reported_again :
    let first := (sceneLoader.loadScript faultyServices scenePath).value.2
    let second := ({ first with registry := {}, log := [], state := {} } : Loader Desk).loadScript faultyServices
      scenePath
    let refusals := Compile.overtaken faultyServices.classes first.values
      (Compile.defaultEntries faultyScene.children) sceneLoader.values
    errorCount first.log = 4 ∧ refusals.map Refusal.line = [2] ∧
      (∀ bytes stored, ¬ first.disk.Holds (sceneLoader.cache.artifactOf scenePath) bytes stored) ∧
      ∃ reported again, first.log = sceneLoader.log ++ reported ∧ second.value.2.log = [] ++ again ∧
        LeavesOut refusals reported again := by
  have counted : errorCount (sceneLoader.loadScript faultyServices scenePath).value.2.log = 4 := by decide +kernel
  have lines : (Compile.overtaken faultyServices.classes
      (sceneLoader.loadScript faultyServices scenePath).value.2.values
      (Compile.defaultEntries faultyScene.children) sceneLoader.values).map Refusal.line = [2] := by decide +kernel
  have failed : errorCount sceneLoader.log <
      errorCount (sceneLoader.loadScript faultyServices scenePath).value.2.log := by
    rw [counted]
    decide
  obtain ⟨_, _, _, -, parsed, gone, -, reported, again, log, logAgain, -, leavesOut, -⟩ :=
    @errors_reported_again Desk faultyServices (fun _ => .ok faultyScene) scenePath sceneLoader
      (commands_ignoresState _ _) rfl rfl failed {} [] {}
  cases parsed
  exact ⟨counted, lines, gone, reported, again, log, logAgain,
    leavesOut (grammar_ignoresReports []) (commands_ignoresReports (grammar_ignoresReports []) [])⟩

/-- A script with nothing but an overtaken entry. -/
def overtakenScene : Node := .section "" [.section "variables" [.line "x = ?" 2, .line "x = 1" 3] 1] 0

def overtakenServices : Services Desk := plainServices fun _ => .ok overtakenScene

/-- The first load reports the refused value. The second one reports nothing, and leaves an artifact. -/
theorem overtaken_not_reported_again :
    let first := (sceneLoader.loadScript overtakenServices scenePath).value.2
    let second := (first.loadScript overtakenServices scenePath).value.2
    first.log = [⟨.error, "Can't understand the value '?'", some scenePath, 2⟩] ∧ second.log = first.log ∧
      first.disk.look (first.cache.artifactOf scenePath) = .error .notFound ∧
      (second.disk.read (second.cache.artifactOf scenePath)).toOption.isSome = true := by
  decide +kernel

end Rehearsed

end Loader

end TriggerScript
