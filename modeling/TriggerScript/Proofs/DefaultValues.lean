import TriggerScript.Proofs.VariableEntries

/-!
# The values of default variables

The entries of the variables sections offer values, each of them at most one. A variable that has a value
keeps it whatever is offered; one that has none takes the first value that is offered to it, in the order of
the script. So there is nothing left to take when the script is compiled again.
-/

namespace TriggerScript.Compile

/-! ## Offers -/

/-- A text gives a value to store: the one it is read as, or what that is converted to if its class is stored
as another one. -/
inductive Stores (classes : Classes) : (text : String) → Value → Prop where
  | plain (parsed : classes.parseValue? text = some value)
      (own : (classes.classOf? value).bind (·.serializeAs) = none) : Stores classes text value
  | converted (parsed : classes.parseValue? text = some value)
      (known : classes.classOf? value = some info) (foreign : info.serializeAs = some target)
      (found : classes.classInfo? target = some targetInfo)
      (converts : classes.convert? value targetInfo = some stored) : Stores classes text stored

/-- An entry offers a value to a variable. -/
def Offers (classes : Classes) (node : Node) (name : String) (value : Value) : Prop :=
  ∃ key text, node.asEntry? "=" = some (key, text) ∧ Names classes key name ∧ Stores classes text value

/-- The first of some entries that offers a variable anything offers it this value. -/
inductive FirstOffer (classes : Classes) (name : String) (value : Value) : List Node → Prop where
  | here (offers : Offers classes node name value) : FirstOffer classes name value (node :: rest)
  | later (silent : ∀ other, ¬ Offers classes node name other) (next : FirstOffer classes name value rest) :
      FirstOffer classes name value (node :: rest)

variable {σ : Type} {classes : Classes} {values : Variables} {node : Node} {text name : String} {value : Value}

theorem storedValue_of_stores (stores : Stores classes text value) : (storedValue classes text).value = .ok value := by
  unfold storedValue Classes.readValue Classes.lookUpValue Classes.lookUp Classes.turnInto
  cases stores with
  | plain parsed own => simp [parsed, own]
  | converted parsed known foreign found converts => simp [parsed, known, foreign, found, converts]

theorem stores_of_storedValue (stored : (storedValue classes text).value = .ok value) : Stores classes text value := by
  unfold storedValue Classes.readValue Classes.lookUpValue Classes.lookUp Classes.turnInto at stored
  simp only [Recorded.value_bind, Recorded.value_pure] at stored
  -- Each question to the classes has two answers, and only one of them leads on to a value.
  cases parsed : classes.parseValue? text with
  | none => simp [parsed] at stored
  | some original =>
    cases own : (classes.classOf? original).bind (·.serializeAs) with
    | none =>
      simp only [parsed, Recorded.value_bind, Recorded.value_pure, own, Except.ok.injEq] at stored
      subst stored
      exact .plain parsed own
    | some target =>
      obtain ⟨info, known, foreign⟩ := Option.bind_eq_some_iff.mp own
      simp only [parsed, Recorded.value_bind, Recorded.value_pure, own] at stored
      cases found : classes.classInfo? target with
      | none => simp [found] at stored
      | some targetInfo =>
        cases converts : classes.convert? original targetInfo with
        | none => simp [found, converts] at stored
        | some converted =>
          simp only [found, Recorded.value_bind, Recorded.value_pure, converts, Except.ok.injEq] at stored
          subst stored
          exact .converted parsed known foreign found converts

theorem offers_iff : Offers classes node name value ↔ Entry.of classes node = .offers name (.ok value) := by
  constructor
  · rintro ⟨key, text, entry, names, stores⟩
    rw [of_eq_offers entry names, storedValue_of_stores stores]
  · intro reading
    rcases of_cases classes node with ⟨problem, refused⟩ | stray | ⟨key, text, named, entry, names⟩
    · cases refused.symm.trans reading
    · cases (of_eq_passed stray).symm.trans reading
    · obtain ⟨rfl, stored⟩ := Entry.offers.inj ((of_eq_offers entry names).symm.trans reading)
      exact ⟨key, text, entry, names, stores_of_storedValue stored⟩

theorem Offers.unique {other : Value} (offers : Offers classes node name value)
    (offersOther : Offers classes node name other) : value = other := by
  have same := (offers_iff.mp offers).symm.trans (offers_iff.mp offersOther)
  exact Except.ok.inj (Entry.offers.inj same).2

/-! ## One entry -/

theorem find?_entered_of_known (node : Node) (known : values.find? name = some value) :
    (entered classes values node).find? name = some value :=
  (entered_addsOnly classes values node name (.inr (by simp [known]))).trans known

theorem find?_entered_of_offer (new : values.find? name = none) (offers : Offers classes node name value) :
    (entered classes values node).find? name = some value := by
  simp [entered, offers_iff.mp offers, new]

theorem find?_entered_of_silent (new : values.find? name = none)
    (silent : ∀ value, ¬ Offers classes node name value) : (entered classes values node).find? name = none := by
  unfold entered
  split
  · next offered value reading =>
    have different : name ≠ offered := by
      rintro rfl
      exact silent value (offers_iff.mpr reading)
    split
    · exact new
    · rw [Table.find?_insert, if_neg different, new]
  · exact new

/-- An entry changes nothing where the variable that it offers a value to has one. -/
theorem entered_eq_self (known : ∀ name value, Offers classes node name value → (values.find? name).isSome) :
    entered classes values node = values := by
  unfold entered
  split
  · next name value reading => rw [if_pos (known name value (offers_iff.mpr reading))]
  · rfl

/-! ## All entries -/

theorem find?_foldl_entered_of_known (nodes : List Node) (known : values.find? name = some value) :
    (nodes.foldl (entered classes) values).find? name = some value :=
  (foldl_entered_addsOnly classes nodes values name (.inr (by simp [known]))).trans known

theorem find?_foldl_entered_iff (nodes : List Node) (new : values.find? name = none) :
    (nodes.foldl (entered classes) values).find? name = some value ↔ FirstOffer classes name value nodes := by
  induction nodes generalizing values with
  | nil =>
    constructor
    · intro found
      cases new.symm.trans found
    · nofun
  | cons node rest inductionHypothesis =>
    rw [List.foldl_cons]
    by_cases offered : ∃ offer, Offers classes node name offer
    · obtain ⟨offer, offers⟩ := offered
      -- What this entry gives stays, whatever the others offer.
      rw [find?_foldl_entered_of_known rest (find?_entered_of_offer new offers), Option.some.injEq]
      constructor
      · rintro rfl
        exact .here offers
      · rintro (offersValue | ⟨silent, -⟩)
        · exact offers.unique offersValue
        · exact absurd offers (silent offer)
    · have silent := not_exists.mp offered
      rw [inductionHypothesis (find?_entered_of_silent new silent)]
      constructor
      · exact .later silent
      · rintro (offersValue | ⟨-, next⟩)
        · exact absurd offersValue (silent value)
        · exact next

theorem isSome_foldl_entered_of_offer {nodes : List Node} (member : node ∈ nodes)
    (offers : Offers classes node name value) : ((nodes.foldl (entered classes) values).find? name).isSome := by
  induction nodes generalizing values with
  | nil => cases member
  | cons first rest inductionHypothesis =>
    rw [List.foldl_cons]
    rcases List.mem_cons.mp member with rfl | later
    · apply (foldl_entered_addsOnly classes rest _).keeps
      cases known : values.find? name with
      | some old => rw [find?_entered_of_known node known, Option.isSome_some]
      | none => rw [find?_entered_of_offer known offers, Option.isSome_some]
    · exact inductionHypothesis later

theorem foldl_entered_eq_self (nodes : List Node)
    (known : ∀ node ∈ nodes, ∀ name value, Offers classes node name value → (values.find? name).isSome) :
    nodes.foldl (entered classes) values = values := by
  induction nodes with
  | nil => rfl
  | cons node rest inductionHypothesis =>
    rw [List.foldl_cons, entered_eq_self (known node List.mem_cons_self)]
    exact inductionHypothesis fun other member => known other (List.mem_cons_of_mem node member)

/-! ## Scripts -/

theorem compileScript_entered (services : Services σ) (root : Node) (session : Session σ) :
    (compileScript services root session).value.2.values =
      (defaultEntries root.children).foldl (entered services.classes) session.values :=
  compileAll_entered services root.children _

/--
A script is compiled. Every variable that had a value has it still. Any other variable has a value exactly if
one is offered to it by an entry of the variables sections, and then it is the first one in the order of the
script. If the script is compiled again with the variables that were left, they stay as they are.
-/
theorem defaults_fill_gaps_in_order (services : Services σ) (root : Node) (session : Session σ) :
    let after := (compileScript services root session).value.2.values
    (∀ name value, session.values.find? name = some value → after.find? name = some value) ∧
      (∀ name value, session.values.find? name = none →
        (after.find? name = some value ↔ FirstOffer services.classes name value (defaultEntries root.children))) ∧
      ∀ context state, (compileScript services root ⟨context, after, state⟩).value.2.values = after := by
  dsimp only
  simp only [compileScript_entered]
  refine ⟨fun name value known => ?_, fun name value new => ?_, fun context state => ?_⟩
  · exact find?_foldl_entered_of_known (defaultEntries root.children) known
  · exact find?_foldl_entered_iff (defaultEntries root.children) new
  · exact foldl_entered_eq_self (defaultEntries root.children) fun node member name value offers =>
      isSome_foldl_entered_of_offer member offers

/-- Three spellings of one variable: nothing can be stored for the first, and the third comes too late. -/
example :
    let entries : List Node :=
      [.line "score::%player% = ?" 2, .line "\x7bscore::%players%\x7d = obj location spawn" 3,
        .line "\x7bscore::%player%\x7d = 2" 4]
    (entries.foldl (entered Rehearsal.classes) {}).find? "score::<player>" = some (.text "spawn") := by
  decide +kernel

end TriggerScript.Compile
