import TriggerScript.Proofs.PathPieces

/-!
# The order of paths

Paths are compared component by component, so the order of two paths is the lexicographic one of their
components. A name that is joined to a path is one more component, and its extension is what stands
behind its last dot, provided that something stands in front of that dot.
-/

namespace TriggerScript.Path

instance (piece : Bytes) : Decidable (IsName piece) :=
  inferInstanceAs (Decidable (_ ∧ _ ∧ _ ∧ _))

/-! ## Names joined to a path -/

/-- The path that some names lead to from a directory, one below the other. -/
def below (base : Path) (names : List Bytes) : Path :=
  names.foldl (fun path name => path.join ⟨name⟩) base

@[simp] theorem below_nil (base : Path) : base.below [] = base := rfl

@[simp] theorem below_cons (base : Path) (name : Bytes) (names : List Bytes) :
    base.below (name :: names) = (base.join ⟨name⟩).below names := rfl

theorem below_append (base : Path) (above names : List Bytes) :
    base.below (above ++ names) = (base.below above).below names :=
  List.foldl_append

theorem endsPiece_append {bytes rest : Bytes} (ends : endsPiece rest) :
    endsPiece (bytes ++ rest) = endsPiece bytes := by
  cases bytes with
  | nil => simpa [endsPiece] using ends
  | cons first more => rfl

theorem startOf_append {bytes : Bytes} (filled : bytes ≠ []) (rest : Bytes) :
    startOf (bytes ++ slash :: rest) = startOf bytes := by
  obtain ⟨first, more, rfl⟩ := List.exists_cons_of_ne_nil filled
  have ends : endsPiece (slash :: rest) := rfl
  simp only [List.cons_append, startOf, endsPiece_append ends]

/-- A slash at the end of a path may be the one that a name stands behind. -/
theorem startOf_append_of_slash {bytes : Bytes} (ends : bytes.getLast? = some slash) (rest : Bytes) :
    startOf (bytes ++ rest) = startOf bytes := by
  match bytes with
  | [first] => cases ends; rfl
  | first :: second :: more => rfl

theorem isAbsolute_of_startOf {path : Path} (plain : startOf path.bytes = []) : path.isAbsolute = false := by
  unfold isAbsolute
  cases bytes : path.bytes with
  | nil => rfl
  | cons first rest =>
    have different : first ≠ slash := by
      rintro rfl
      simp [bytes, startOf] at plain
    simpa using different

theorem startOf_of_name {name : Bytes} (isName : IsName name) : startOf name = [] := by
  obtain ⟨noSlash, -, notHere, -⟩ := isName
  fun_cases startOf name with
  | case1 => rfl
  | case2 => simp at noSlash
  | case3 first rest _ dotted =>
    obtain ⟨rfl, ends⟩ := dotted
    cases rest <;> simp_all [endsPiece]
  | case4 => rfl

/-- A path that starts neither at the root nor with a single dot takes over the start of what it is joined to. -/
theorem startOf_join (base : Path) {below : Path} (plain : startOf below.bytes = []) :
    startOf (base.join below).bytes = startOf base.bytes := by
  unfold join
  rw [if_neg (by simp [isAbsolute_of_startOf plain])]
  split
  · next apart =>
    rcases apart with empty | ends
    · simpa [empty, startOf] using plain
    · simpa using startOf_append_of_slash ends below.bytes
  · next filled =>
    have nonempty : base.bytes ≠ [] := fun empty => filled (.inl empty)
    simpa using startOf_append nonempty below.bytes

theorem componentsOfPieces_append (first second : List Bytes) :
    componentsOfPieces (first ++ second) = componentsOfPieces first ++ componentsOfPieces second := by
  simp [componentsOfPieces]

/-- The components of a joined path are those of its parts. -/
theorem components_join (base : Path) {below : Path} (plain : startOf below.bytes = []) :
    (base.join below).components = base.components ++ below.components := by
  simp only [components, startOf_join base plain, pieces_join (isAbsolute_of_startOf plain), plain,
    componentsOfPieces_append, List.nil_append, List.append_assoc]

theorem components_join_name (base : Path) {name : Bytes} (isName : IsName name) :
    (base.join ⟨name⟩).components = base.components ++ [.name name] := by
  have plain := startOf_of_name isName
  have single : components ⟨name⟩ = [.name name] := by
    simp [components, plain, pieces_of_name isName.1 isName.2.1, componentsOfPieces,
      Component.ofPiece, isName.2.2.1, isName.2.2.2]
  rw [components_join base plain, single]

theorem fileName?_join_name (base : Path) {name : Bytes} (isName : IsName name) :
    (base.join ⟨name⟩).fileName? = some name := by
  simp [fileName?, components_join_name base isName]

/-! ## Extensions -/

/-- A name is made of a stem, a dot, and an extension without dots. -/
def HasExtension (name ext : Bytes) : Prop :=
  ∃ stem, stem ≠ [] ∧ name = stem ++ dot :: ext ∧ dot ∉ ext

theorem extensionOfName?_eq_some {name ext : Bytes} :
    extensionOfName? name = some ext ↔ HasExtension name ext := by
  constructor
  · intro found
    have whole := List.takeWhile_append_dropWhile (p := (· ≠ dot)) (l := name.reverse)
    have dotless : dot ∉ name.reverse.takeWhile (· ≠ dot) := fun member => by
      simpa using List.all_eq_true.mp List.all_takeWhile _ member
    unfold extensionOfName? at found
    dsimp only at found
    split at found
    · next start first more rest =>
      cases found
      have dotted : start = dot := by
        have skipped := List.head?_dropWhile_not (p := (· ≠ dot)) (l := name.reverse)
        rw [rest] at skipped
        simpa using skipped
      subst dotted
      rw [rest] at whole
      exact ⟨(first :: more).reverse, by simp, (List.reverse_eq_iff.mp whole.symm).trans (by simp),
        by simpa using dotless⟩
    · cases found
  · rintro ⟨stem, filled, rfl, dotless⟩
    have plain : ∀ byte ∈ ext.reverse, decide (byte ≠ dot) = true := by
      intro byte member
      simp only [decide_eq_true_eq]
      rintro rfl
      exact dotless (by simpa using member)
    obtain ⟨last, more, backwards⟩ := List.exists_cons_of_ne_nil (mt List.reverse_eq_nil_iff.mp filled)
    have turned : (stem ++ dot :: ext).reverse = ext.reverse ++ dot :: last :: more := by
      simp [backwards]
    simp only [extensionOfName?, turned]
    rw [List.takeWhile_append_of_pos plain, List.dropWhile_append_of_pos plain]
    simp

/-- A name has one extension at most. -/
theorem HasExtension.unique {name ext other : Bytes} (left : HasExtension name ext)
    (right : HasExtension name other) : ext = other :=
  Option.some.inj ((extensionOfName?_eq_some.mpr left).symm.trans (extensionOfName?_eq_some.mpr right))

theorem extension?_eq_some {path : Path} {ext : Bytes} :
    path.extension? = some ext ↔ ∃ name, path.fileName? = some name ∧ HasExtension name ext := by
  simp only [extension?, Option.bind_eq_some_iff, extensionOfName?_eq_some]

theorem extension?_join_name (base : Path) {name : Bytes} (isName : IsName name) (ext : Bytes) :
    (base.join ⟨name⟩).extension? = some ext ↔ HasExtension name ext := by
  simp [extension?_eq_some, fileName?_join_name base isName]

/-! ## The order -/

/-- The bytes of a component that is a name. -/
def Component.bytes : Component → Bytes
  | .name bytes => bytes
  | _ => []

theorem Component.order_eq :
    Component.order = compareLex (compareOn Component.rank) (compareOn Component.bytes) := by
  funext left right
  cases left <;> cases right <;> rfl

instance : Std.TransCmp Component.order := by
  rw [Component.order_eq]
  infer_instance

instance : Std.LawfulEqCmp Component.order where
  eq_of_compare {left right} same := by
    cases left <;> cases right <;> simp_all [Component.order, Component.rank]

theorem componentsOrder_eq : componentsOrder = List.compareLex Component.order := by
  funext lefts rights
  induction lefts generalizing rights with
  | nil => cases rights <;> rfl
  | cons left lefts inductionHypothesis =>
    cases rights with
    | nil => rfl
    | cons right rights =>
      rw [componentsOrder, inductionHypothesis, List.compareLex_cons_cons]

instance : Std.TransCmp componentsOrder := by
  rw [componentsOrder_eq]
  infer_instance

instance : Std.LawfulEqCmp componentsOrder := by
  rw [componentsOrder_eq]
  infer_instance

instance : Std.TransCmp order where
  eq_swap {left right} := @Std.OrientedCmp.eq_swap _ componentsOrder _ left.components right.components
  isLE_trans {first second third} :=
    @Std.TransCmp.isLE_trans _ componentsOrder _ first.components second.components third.components

theorem components_eq_of_order {left right : Path} (same : left.order right = .eq) :
    left.components = right.components :=
  @Std.LawfulEqCmp.eq_of_compare _ componentsOrder _ _ _ same

theorem atMost_trans (first second third : Path) (lower : first.atMost second = true)
    (upper : second.atMost third = true) : first.atMost third = true :=
  Std.TransCmp.isLE_trans lower upper

theorem atMost_total (left right : Path) : (left.atMost right || right.atMost left) = true := by
  have turned : right.order left = (left.order right).swap := Std.OrientedCmp.eq_swap
  rw [atMost, atMost, turned]
  cases left.order right <;> rfl

/-- Each path comes before all that follow. -/
def Increasing (paths : List Path) : Prop := paths.Pairwise fun earlier later => earlier.order later = .lt

theorem order_eq_lt_of_atMost {left right : Path} (lower : left.atMost right = true)
    (different : left.components ≠ right.components) : left.order right = .lt := by
  have apart : left.order right ≠ .eq := fun same => different (components_eq_of_order same)
  unfold atMost at lower
  cases ordered : left.order right with
  | lt => rfl
  | eq => exact absurd ordered apart
  | gt => simp [ordered] at lower

/-- Sorting puts paths with different components into increasing order. -/
theorem increasing_mergeSort {paths : List Path}
    (different : paths.Pairwise fun left right => left.components ≠ right.components) :
    Increasing (paths.mergeSort atMost) := by
  have sorted := List.pairwise_mergeSort atMost_trans atMost_total paths
  have distinct := different.perm (List.mergeSort_perm paths atMost).symm Ne.symm
  exact (sorted.and distinct).imp fun ⟨lower, apart⟩ => order_eq_lt_of_atMost lower apart

/-- Increasing lists with the same members are the same list. -/
theorem Increasing.eq_of_mem_iff {left right : List Path} (lefts : Increasing left)
    (rights : Increasing right) (members : ∀ path, path ∈ left ↔ path ∈ right) : left = right := by
  have irreflexive (path : Path) : path.order path ≠ .lt := by
    have same : path.order path = .eq := Std.ReflCmp.compare_self
    simp [same]
  have nodup {paths : List Path} (increasing : Increasing paths) : paths.Nodup :=
    increasing.imp fun {earlier later} ordered same => by
      subst same
      exact irreflexive earlier ordered
  have permutation : left.Perm right := (List.perm_ext_iff_of_nodup (nodup lefts) (nodup rights)).mpr members
  refine permutation.eq_of_pairwise (fun earlier later _ _ before after => ?_) lefts rights
  have : later.order earlier = .gt := Std.OrientedCmp.gt_of_lt before
  rw [this] at after
  cases after

end TriggerScript.Path
