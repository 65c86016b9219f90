import TriggerScript.Proofs.ArtifactFiles
import TriggerScript.Proofs.PathOrder

/-!
# Different scripts, different artifacts

The parent of a path is cut out of its bytes from the end: slashes and single dots are dropped, then the last
piece, then slashes and single dots again. In components, the parent is the path without its last one. So the
path of an artifact is that of its script with the cache directory in front of the last component and a letter
behind it, and the path of the script can be read off it.
-/

namespace TriggerScript

namespace Path

/-! ## Components behind the start -/

/-- The components of some bytes, their start left aside. -/
def partsOf (bytes : Bytes) : List Component := componentsOfPieces (Text.partsBetween slash bytes)

theorem components_eq (path : Path) : path.components = startOf path.bytes ++ partsOf path.bytes := rfl

@[simp] theorem partsOf_nil : partsOf [] = [] := rfl

@[simp] theorem partsOf_dot : partsOf [dot] = [] := rfl

theorem partsOf_append (left right : Bytes) : partsOf (left ++ slash :: right) = partsOf left ++ partsOf right := by
  rw [partsOf, Text.partsBetween_append, componentsOfPieces_append]
  rfl

@[simp] theorem partsOf_slash (bytes : Bytes) : partsOf (slash :: bytes) = partsOf bytes := partsOf_append [] bytes

theorem partsOf_piece {piece : Bytes} (noSlash : slash ∉ piece) (filled : piece ≠ []) (notHere : piece ≠ [dot]) :
    partsOf piece = [Component.ofPiece piece] := by
  rw [partsOf, Text.partsBetween_of_not_mem noSlash filled]
  simp [componentsOfPieces, notHere]

theorem endsPiece_iff {rest : Bytes} : endsPiece rest ↔ rest = [] ∨ ∃ more, rest = slash :: more := by
  cases rest with
  | nil => simp [endsPiece]
  | cons first more => simp [endsPiece]

theorem endsPiece_of_front {rest front : Bytes} (ends : endsPiece rest) (leads : front <+: rest) : endsPiece front := by
  obtain ⟨behind, rfl⟩ := leads
  cases front with
  | nil => rfl
  | cons first more => exact ends

/-! ## The end of a path -/

theorem partsOf_snoc_dot {rest : Bytes} (ends : endsPiece rest) :
    partsOf (rest.reverse ++ [dot]) = partsOf rest.reverse := by
  rcases endsPiece_iff.mp ends with rfl | ⟨more, rfl⟩
  · rfl
  · simp [partsOf_append]

/-- Slashes and single dots at the end are no components. -/
theorem partsOf_dropIdle (backwards : Bytes) : partsOf (dropIdle backwards).reverse = partsOf backwards.reverse := by
  fun_induction dropIdle backwards with
  | case1 => rfl
  | case2 last rest idle inductionHypothesis =>
    rw [inductionHypothesis, List.reverse_cons]
    rcases idle with rfl | ⟨rfl, ends⟩
    · rw [partsOf_append, partsOf_nil, List.append_nil]
    · rw [partsOf_snoc_dot ends]
  | case3 => rfl

theorem dropIdle_suffix (backwards : Bytes) : dropIdle backwards <:+ backwards := by
  fun_induction dropIdle backwards with
  | case1 => exact List.suffix_rfl
  | case2 last rest idle inductionHypothesis => exact inductionHypothesis.trans (List.suffix_cons _ _)
  | case3 => exact List.suffix_rfl

/-- Bytes that end, backwards, in neither a slash nor a single dot. -/
structure Trimmed (backwards : Bytes) : Prop where
  noSlash : ∀ rest, backwards ≠ slash :: rest
  noDot : ∀ rest, endsPiece rest → backwards ≠ dot :: rest

theorem trimmed_dropIdle (backwards : Bytes) : Trimmed (dropIdle backwards) := by
  fun_induction dropIdle backwards with
  | case1 => exact ⟨by simp, by simp⟩
  | case2 _ _ _ inductionHypothesis => exact inductionHypothesis
  | case3 last rest busy =>
    constructor
    · rintro _ ⟨⟩
      exact busy (.inl rfl)
    · rintro _ ends ⟨⟩
      exact busy (.inr ⟨rfl, ends⟩)

/-- Bytes are cut in front of their first slash. -/
theorem cut_at_slash (bytes : Bytes) :
    ∃ piece, bytes = piece ++ bytes.dropWhile (· ≠ slash) ∧ slash ∉ piece ∧
      endsPiece (bytes.dropWhile (· ≠ slash)) := by
  induction bytes with
  | nil => exact ⟨[], rfl, by simp, rfl⟩
  | cons first rest inductionHypothesis =>
    by_cases atSlash : first = slash
    · exact ⟨[], by simp [atSlash], by simp, by simp [atSlash, endsPiece]⟩
    · obtain ⟨piece, whole, noSlash, ends⟩ := inductionHypothesis
      have skipped : (first :: rest).dropWhile (· ≠ slash) = rest.dropWhile (· ≠ slash) := by simp [atSlash]
      rw [skipped]
      exact ⟨first :: piece, by rw [List.cons_append, ← whole], by simp [noSlash, Ne.symm atSlash], ends⟩

/-- The last piece of trimmed bytes is a component of its own. -/
theorem Trimmed.partsOf_last {bytes : Bytes} (trimmed : Trimmed bytes) (filled : bytes ≠ []) :
    ∃ last, partsOf bytes.reverse = partsOf (bytes.dropWhile (· ≠ slash)).reverse ++ [last] := by
  obtain ⟨piece, whole, noSlash, ends⟩ := cut_at_slash bytes
  generalize bytes.dropWhile (· ≠ slash) = before at *
  subst whole
  have pieceFilled : piece ≠ [] := by
    rintro rfl
    rcases endsPiece_iff.mp ends with rfl | ⟨rest, rfl⟩
    · exact filled rfl
    · exact trimmed.noSlash rest rfl
  have pieceCounts : piece ≠ [dot] := by
    rintro rfl
    exact trimmed.noDot before ends rfl
  have counts : partsOf piece.reverse = [Component.ofPiece piece.reverse] :=
    partsOf_piece (by simpa using noSlash) (by simpa using pieceFilled) (by simpa using pieceCounts)
  refine ⟨Component.ofPiece piece.reverse, ?_⟩
  rcases endsPiece_iff.mp ends with rfl | ⟨rest, rfl⟩
  · simpa using counts
  · simp [partsOf_append, counts]

/-! ## The start of a path -/

/-- A path begins at the root, with a single dot, or with neither. -/
theorem splitStart_cases (bytes : Bytes) :
    (∃ body, bytes = slash :: body ∧ splitStart bytes = ([slash], body)) ∨
      (∃ body, bytes = dot :: body ∧ splitStart bytes = ([dot], body) ∧ endsPiece body) ∨
      (startOf bytes = [] ∧ splitStart bytes = ([], bytes)) := by
  fun_cases splitStart bytes with
  | case1 => exact .inr (.inr ⟨rfl, rfl⟩)
  | case2 first rest starts =>
    rcases starts with rfl | ⟨rfl, ends⟩
    · exact .inl ⟨rest, rfl, rfl⟩
    · exact .inr (.inl ⟨rest, rfl, rfl, ends⟩)
  | case3 first rest plain =>
    obtain ⟨notSlash, notDot⟩ := not_or.mp plain
    exact .inr (.inr ⟨by rw [startOf, if_neg notSlash, if_neg notDot], rfl⟩)

theorem startOf_dot {body : Bytes} (ends : endsPiece body) : startOf (dot :: body) = [.here] := by
  rw [startOf, if_neg (by decide), if_pos ⟨rfl, ends⟩]

theorem partsOf_dot_cons {body : Bytes} (ends : endsPiece body) : partsOf (dot :: body) = partsOf body := by
  rcases endsPiece_iff.mp ends with rfl | ⟨rest, rfl⟩
  · rfl
  · exact (partsOf_append [dot] rest).trans (partsOf_slash rest).symm

/-- The start of a path is no component behind it. -/
theorem partsOf_splitStart (bytes : Bytes) : partsOf (splitStart bytes).2 = partsOf bytes := by
  rcases splitStart_cases bytes with ⟨body, rfl, split⟩ | ⟨body, rfl, split, ends⟩ | ⟨-, split⟩
  · rw [split, partsOf_slash]
  · rw [split, partsOf_dot_cons ends]
  · rw [split]

/-- A front of what starts with neither the root nor a single dot does not, either. -/
theorem startOf_of_front {bytes front : Bytes} (plain : startOf bytes = []) (leads : front <+: bytes)
    (notDot : front ≠ [dot]) : startOf front = [] := by
  obtain ⟨rest, rfl⟩ := leads
  match front with
  | [] => rfl
  | [first] =>
    have notSlash : first ≠ slash := by
      rintro rfl
      cases plain
    have other : first ≠ dot := fun same => notDot (by rw [same])
    rw [startOf, if_neg notSlash, if_neg (fun here => other here.1)]
  | first :: second :: more => exact plain

/-- A front of what stands behind the start of a path, put behind that start again. -/
theorem components_of_front {bytes front : Bytes} (leads : front <+: (splitStart bytes).2) (notDot : front ≠ [dot]) :
    components ⟨(splitStart bytes).1 ++ front⟩ = startOf bytes ++ partsOf front := by
  rw [components_eq]
  rcases splitStart_cases bytes with ⟨body, rfl, split⟩ | ⟨body, rfl, split, ends⟩ | ⟨plain, split⟩
  · rw [split, List.singleton_append, partsOf_slash]
    rfl
  · rw [split] at leads ⊢
    have frontEnds := endsPiece_of_front ends leads
    rw [List.singleton_append, startOf_dot frontEnds, startOf_dot ends, partsOf_dot_cons frontEnds]
  · rw [split] at leads ⊢
    rw [List.nil_append, startOf_of_front plain leads notDot, plain]

/-! ## Parents -/

section

variable {path : Path}

/-- The bytes of a path behind its start, backwards and without slashes and single dots at the end. -/
def trimmedBody (path : Path) : Bytes := dropIdle (splitStart path.bytes).2.reverse

theorem partsOf_trimmedBody (path : Path) : partsOf path.trimmedBody.reverse = partsOf path.bytes := by
  rw [trimmedBody, partsOf_dropIdle, List.reverse_reverse, partsOf_splitStart]

theorem components_of_trimmedBody_nil (idle : path.trimmedBody = []) :
    path.components = startOf path.bytes := by
  rw [components_eq, ← partsOf_trimmedBody, idle, List.reverse_nil, partsOf_nil, List.append_nil]

/-- What stands in front of the last piece, trimmed likewise. -/
def trimmedFront (path : Path) : Bytes := dropIdle (path.trimmedBody.dropWhile (· ≠ slash))

theorem trimmedFront_leads (path : Path) : path.trimmedFront.reverse <+: (splitStart path.bytes).2 := by
  have front : path.trimmedFront <:+ path.trimmedBody := (dropIdle_suffix _).trans (List.dropWhile_suffix _)
  have body : path.trimmedBody <:+ (splitStart path.bytes).2.reverse := dropIdle_suffix _
  exact List.reverse_suffix.mp (by simpa using front.trans body)

/-- Where a piece counts behind the start, the parent has all components but the last one. -/
theorem exists_parent?_of_trimmedBody (filled : path.trimmedBody ≠ []) :
    ∃ parent last, path.parent? = some parent ∧ path.components = parent.components ++ [last] := by
  have above :
      path.parent? = some ⟨(splitStart path.bytes).1 ++ path.trimmedFront.reverse⟩ := by
    unfold parent?
    dsimp only
    split
    · next idle => exact absurd idle filled
    · rfl
  have trimmed : Trimmed path.trimmedFront := trimmed_dropIdle _
  have notDot : path.trimmedFront.reverse ≠ [dot] := fun same => trimmed.noDot [] rfl (by simpa using same)
  obtain ⟨last, parts⟩ := (trimmed_dropIdle _).partsOf_last filled
  have front : partsOf path.trimmedFront.reverse = partsOf (path.trimmedBody.dropWhile (· ≠ slash)).reverse :=
    partsOf_dropIdle _
  refine ⟨_, last, above, ?_⟩
  rw [components_of_front path.trimmedFront_leads notDot, components_eq, ← partsOf_trimmedBody, front,
    List.append_assoc]
  exact congrArg _ parts

end

/-- A path that ends in a name consists of its parent and that name. -/
theorem components_of_fileName? {path : Path} {name : Bytes} (named : path.fileName? = some name) :
    ∃ parent, path.parent? = some parent ∧ path.components = parent.components ++ [.name name] := by
  have ends : path.components.getLast? = some (.name name) := by
    unfold fileName? at named
    split at named
    · next last =>
      rw [last, Option.some.inj named]
    · cases named
  have filled : path.trimmedBody ≠ [] := by
    intro idle
    rw [components_of_trimmedBody_nil idle] at ends
    exact name_not_mem_startOf name _ (List.mem_of_getLast? ends)
  obtain ⟨parent, last, above, whole⟩ := exists_parent?_of_trimmedBody filled
  have same : last = .name name := by simpa [whole] using ends
  exact ⟨parent, above, same ▸ whole⟩

/-! ## Paths made of names -/

def Component.isName : Component → Bool
  | .name _ => true
  | _ => false

/-- A path has no components but names, so that it leads down from wherever it is joined to. -/
def OnlyNames (path : Path) : Prop := ∀ component ∈ path.components, component.isName

instance (path : Path) : Decidable path.OnlyNames := inferInstanceAs (Decidable (∀ _ ∈ _, _))

theorem OnlyNames.startOf_eq_nil {path : Path} (names : path.OnlyNames) : startOf path.bytes = [] := by
  have atStart : ∀ component ∈ startOf path.bytes, component.isName :=
    fun component member => names component (List.mem_append_left _ member)
  unfold startOf at atStart ⊢
  split at atStart
  · rfl
  · split at atStart
    · simp [Component.isName] at atStart
    · split at atStart
      · simp [Component.isName] at atStart
      · simp_all

end Path

namespace Cache

/-- An artifact's path is that of its script with the cache directory in front of the name. -/
theorem components_artifactOf {cache : Cache} (names : cache.directory.OnlyNames) {script : Path} {name : Bytes}
    (named : script.fileName? = some name) :
    ∃ beside : List Path.Component, script.components = beside ++ [.name name] ∧
      (cache.artifactOf script).components =
        beside ++ (cache.directory.components ++ [.name (name ++ Text.toBytes "c")]) := by
  obtain ⟨parent, above, whole⟩ := Path.components_of_fileName? named
  have isName := artifactName_isName script
  have built : cache.artifactOf script = (parent.join cache.directory).join ⟨artifactName script⟩ := by
    rw [artifactOf, above]
    rfl
  have letter : artifactName script = name ++ Text.toBytes "c" := by rw [artifactName, named, Option.getD_some]
  refine ⟨parent.components, whole, ?_⟩
  rw [built, Path.components_join_name _ isName, Path.components_join _ names.startOf_eq_nil, letter,
    List.append_assoc]

/--
Two paths of scripts lead to the same artifact exactly if they are the same path, in whatever way the two are
written. The cache directory may be any path of names.
-/
theorem same_artifact_iff_same_script {cache : Cache} {left right : Path} (names : cache.directory.OnlyNames)
    (leftNamed : left.fileName? ≠ none) (rightNamed : right.fileName? ≠ none) :
    (cache.artifactOf left).same (cache.artifactOf right) ↔ left.same right := by
  obtain ⟨leftName, leftNamed⟩ := Option.ne_none_iff_exists'.mp leftNamed
  obtain ⟨rightName, rightNamed⟩ := Option.ne_none_iff_exists'.mp rightNamed
  obtain ⟨leftBeside, leftWhole, leftArtifact⟩ := components_artifactOf names leftNamed
  obtain ⟨rightBeside, rightWhole, rightArtifact⟩ := components_artifactOf names rightNamed
  simp only [Path.same, decide_eq_true_eq, leftWhole, rightWhole, leftArtifact, rightArtifact]
  constructor
  · intro artifacts
    obtain ⟨beside, behind⟩ := List.append_inj' artifacts (by simp)
    have name : leftName = rightName := by simpa using behind
    rw [beside, name]
  · intro scripts
    obtain ⟨beside, last⟩ := List.append_inj' scripts rfl
    have name : leftName = rightName := by simpa using last
    rw [beside, name]

/-- Spelled in another way a script keeps its artifact; with a single dot in front it is another script. -/
theorem same_artifact_of_respelled_script :
    let cache : Cache := ⟨⟨"build//./cache/"⟩⟩
    let plain : Path := ⟨"scripts/a.sk"⟩
    let respelled : Path := ⟨"scripts//./a.sk/."⟩
    let dotted : Path := ⟨"./scripts/a.sk"⟩
    (cache.directory.OnlyNames ∧ plain.fileName? ≠ none ∧ respelled.fileName? ≠ none ∧ dotted.fileName? ≠ none) ∧
      (cache.artifactOf respelled).same (cache.artifactOf plain) ∧
      ¬ (cache.artifactOf dotted).same (cache.artifactOf plain) := by
  intro cache plain respelled dotted
  have settled : cache.directory.OnlyNames ∧ plain.fileName? ≠ none ∧ respelled.fileName? ≠ none ∧
      dotted.fileName? ≠ none := by decide +kernel
  obtain ⟨names, plainNamed, respelledNamed, dottedNamed⟩ := settled
  have one : respelled.same plain := by decide +kernel
  have two : ¬ dotted.same plain := by decide +kernel
  exact ⟨⟨names, plainNamed, respelledNamed, dottedNamed⟩,
    (same_artifact_iff_same_script names respelledNamed plainNamed).mpr one,
    mt (same_artifact_iff_same_script names dottedNamed plainNamed).mp two⟩

end Cache

end TriggerScript
