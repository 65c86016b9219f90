import Mathlib.Logic.Basic
import TriggerScript.Artifact.Parts
import TriggerScript.Proofs.ArtifactRoundTrip

/-!
# Units that can be stored

A unit is stored together with all that is in it, at every depth. Whether that succeeds is settled by
its parts: a foreign object has no stored form, nor has a path that is no text, and a text or a list must not be
longer than eight bytes can say. The last never happens to a unit that fits into memory, so foreign objects and
such paths are all that keeps a unit from being stored.
-/

namespace TriggerScript

/-! ## Parts -/

namespace Part

/-- Eight bytes hold the length. -/
def Fits : Part → Prop
  | .text content => (Text.toBytes content).length < UInt64.size
  | .path file => file.bytes.length < UInt64.size
  | .count members => members < UInt64.size
  | .foreign _ => True

instance : DecidablePred Fits
  | .text content => inferInstanceAs (Decidable ((Text.toBytes content).length < UInt64.size))
  | .path file => inferInstanceAs (Decidable (file.bytes.length < UInt64.size))
  | .count members => inferInstanceAs (Decidable (members < UInt64.size))
  | .foreign _ => inferInstanceAs (Decidable True)

/-- The part can be stored. -/
def Storable (part : Part) : Prop := part.Fits ∧ part.obstacle? = none

end Part

namespace CompiledUnit

/-- A part of the unit has no stored form, for the given reason. -/
def Meets (unit : CompiledUnit) (obstacle : Obstacle) : Prop := ∃ part ∈ unit.parts, part.obstacle? = some obstacle

/-- The payload of an event, a command, a statement, a condition or an expression in the unit is foreign. -/
def HoldsForeign (unit : CompiledUnit) : Prop := unit.Meets .foreignObject

/-- The path of the file of a trigger or of a command is no text. -/
def HoldsBrokenPath (unit : CompiledUnit) : Prop := unit.Meets .brokenPath

instance : DecidablePred HoldsForeign := fun unit =>
  inferInstanceAs (Decidable (∃ part ∈ unit.parts, part.obstacle? = some .foreignObject))

instance : DecidablePred HoldsBrokenPath := fun unit =>
  inferInstanceAs (Decidable (∃ part ∈ unit.parts, part.obstacle? = some .brokenPath))

/-- Every text and every list in the unit has a length that eight bytes hold, as all have in memory. -/
def Fits (unit : CompiledUnit) : Prop := ∀ part ∈ unit.parts, part.Fits

instance : DecidablePred Fits := fun unit => inferInstanceAs (Decidable (∀ part ∈ unit.parts, part.Fits))

end CompiledUnit

/-! ## What can be written -/

namespace Artifact

/-- All of some parts can be stored. -/
def Storable (parts : List Part) : Prop := ∀ part ∈ parts, part.Storable

@[simp] theorem storable_nil : Storable [] := nofun

@[simp] theorem storable_cons (part : Part) (rest : List Part) :
    Storable (part :: rest) ↔ part.Storable ∧ Storable rest := List.forall_mem_cons

@[simp] theorem storable_append (first second : List Part) :
    Storable (first ++ second) ↔ Storable first ∧ Storable second := List.forall_mem_append

/-- Some steps succeed if each of them does. -/
theorem exists_bind_eq_some {α β : Type} {first : Option α} {next : α → Option β} :
    (∃ result, first.bind next = some result) ↔ ∃ value, first = some value ∧ ∃ result, next value = some result := by
  cases first <;> simp

theorem exists_mapM_eq_some {α : Type} (encode : α → Option Bytes) (members : List α) :
    (∃ encoded, members.mapM encode = some encoded) ↔ ∀ member ∈ members, ∃ bytes, encode member = some bytes := by
  induction members with
  | nil => simp
  | cons first others inductionHypothesis =>
    simp [List.mapM_cons, exists_bind_eq_some, inductionHypothesis]

theorem encodeLength?_iff (length : Nat) :
    (∃ bytes, encodeLength? length = some bytes) ↔ (Part.count length).Storable := by
  simp [encodeLength?, Part.Storable, Part.Fits, Part.obstacle?]

theorem encodeText?_iff (text : String) :
    (∃ bytes, encodeText? text = some bytes) ↔ (Part.text text).Storable := by
  simp [encodeText?, exists_bind_eq_some, encodeLength?_iff, Part.Storable, Part.Fits, Part.obstacle?]

theorem encodeFile?_iff (file : Option Path) :
    (∃ bytes, encodeFile? file = some bytes) ↔ Storable (fileParts file) := by
  cases file with
  | none => simp [encodeFile?, fileParts]
  | some path =>
    cases spelled : Text.ofBytes? path.bytes with
    | none => simp [encodeFile?, fileParts, spelled, Part.Storable, Part.obstacle?]
    | some text =>
      have same := Text.toBytes_of_ofBytes? spelled
      simp [encodeFile?, fileParts, spelled, exists_bind_eq_some, encodeText?_iff, Part.Storable, Part.Fits,
        Part.obstacle?, same]

theorem encodeSequence?_iff {α : Type} {encode : α → Option Bytes} {parts : α → List Part}
    (each : ∀ member, (∃ bytes, encode member = some bytes) ↔ Storable (parts member)) (members : List α) :
    (∃ bytes, encodeSequence? encode members = some bytes) ↔ Storable (Part.ofList parts members) := by
  have all : Storable (members.flatMap parts) ↔ ∀ member ∈ members, Storable (parts member) := by
    simp only [Storable, List.mem_flatMap]
    grind
  simp [encodeSequence?, exists_bind_eq_some, exists_mapM_eq_some, encodeLength?_iff, Part.ofList, all, each]

theorem encodePayload?_iff (payload : Payload) :
    (∃ bytes, encodePayload? payload = some bytes) ↔ Storable payload.parts := by
  cases payload with
  | none => simp [encodePayload?, Payload.parts]
  | text text => simp [encodePayload?, Payload.parts, exists_bind_eq_some, encodeText?_iff]
  | words words =>
    have each (word : String) : (∃ bytes, encodeText? word = some bytes) ↔ Storable [.text word] := by
      simp [encodeText?_iff]
    simp [encodePayload?, Payload.parts, exists_bind_eq_some, encodeSequence?_iff each]
  | foreign object => simp [encodePayload?, Payload.parts, Part.Storable, Part.obstacle?]

theorem encodeStatement?_iff (statement : Statement) :
    (∃ bytes, encodeStatement? statement = some bytes) ↔ Storable statement.parts := by
  simp [encodeStatement?, Statement.parts, exists_bind_eq_some, encodeText?_iff, encodePayload?_iff]

theorem encodeCondition?_iff (condition : Condition) :
    (∃ bytes, encodeCondition? condition = some bytes) ↔ Storable condition.parts := by
  simp [encodeCondition?, Condition.parts, exists_bind_eq_some, encodeText?_iff, encodePayload?_iff]

theorem encodeExpression?_iff (expression : Expression) :
    (∃ bytes, encodeExpression? expression = some bytes) ↔ Storable expression.parts := by
  simp [encodeExpression?, Expression.parts, exists_bind_eq_some, encodeText?_iff, encodePayload?_iff]

mutual

theorem encodeItem?_iff : ∀ item : Item, (∃ bytes, encodeItem? item = some bytes) ↔ Storable item.parts
  | .statement statement => by
    simp [encodeItem?, Item.parts, exists_bind_eq_some, encodeStatement?_iff]
  | .conditional condition body => by
    simp [encodeItem?, Item.parts, exists_bind_eq_some, encodeCondition?_iff, encodeLength?_iff,
      encodeItems?_iff body]
  | .choice condition body other => by
    simp [encodeItem?, Item.parts, exists_bind_eq_some, encodeCondition?_iff, encodeLength?_iff,
      encodeItems?_iff body, encodeItems?_iff other]
  | .loop iterable body => by
    simp [encodeItem?, Item.parts, exists_bind_eq_some, encodeExpression?_iff, encodeLength?_iff,
      encodeItems?_iff body]
  | .while condition body => by
    simp [encodeItem?, Item.parts, exists_bind_eq_some, encodeCondition?_iff, encodeLength?_iff,
      encodeItems?_iff body]

theorem encodeItems?_iff : ∀ block : Block,
    (∃ bytes, encodeItems? block = some bytes) ↔ Storable (Block.itemParts block)
  | [] => by simp [encodeItems?, Block.itemParts]
  | item :: rest => by
    simp [encodeItems?, Block.itemParts, exists_bind_eq_some, encodeItem?_iff item, encodeItems?_iff rest]

end

theorem encodeSpec?_iff (spec : EventSpec) :
    (∃ bytes, encodeSpec? spec = some bytes) ↔ Storable spec.parts := by
  simp [encodeSpec?, EventSpec.parts, exists_bind_eq_some, encodeText?_iff, encodePayload?_iff]

theorem encodeTrigger?_iff (trigger : Trigger) :
    (∃ bytes, encodeTrigger? trigger = some bytes) ↔ Storable trigger.parts := by
  simp [encodeTrigger?, Trigger.parts, encodeBlock?, exists_bind_eq_some, encodeFile?_iff, encodeText?_iff,
    encodeSpec?_iff, encodeLength?_iff, encodeItems?_iff]

theorem encodeCommand?_iff (command : Command) :
    (∃ bytes, encodeCommand? command = some bytes) ↔ Storable command.parts := by
  simp [encodeCommand?, Command.parts, exists_bind_eq_some, encodeFile?_iff, encodeText?_iff,
    encodePayload?_iff]

/-- A unit has an artifact if all its parts can be stored. -/
theorem encode?_iff (stamp : Int64) (unit : CompiledUnit) :
    (∃ bytes, encode? stamp unit = some bytes) ↔ Storable unit.parts := by
  simp [encode?, encodeUnit?, CompiledUnit.parts, exists_bind_eq_some, encodeSequence?_iff encodeTrigger?_iff,
    encodeSequence?_iff encodeCommand?_iff]

theorem storable_iff_of_fits {unit : CompiledUnit} (fits : unit.Fits) :
    Storable unit.parts ↔ ¬ unit.HoldsForeign ∧ ¬ unit.HoldsBrokenPath := by
  constructor
  · intro storable
    have unmet (obstacle : Obstacle) : ¬ unit.Meets obstacle := by
      rintro ⟨part, member, met⟩
      rw [(storable part member).2] at met
      cases met
    exact ⟨unmet _, unmet _⟩
  · rintro ⟨notForeign, notBroken⟩ part member
    refine ⟨fits part member, Option.eq_none_iff_forall_ne_some.mpr fun obstacle met => ?_⟩
    cases obstacle with
    | foreignObject => exact notForeign ⟨part, member, met⟩
    | brokenPath => exact notBroken ⟨part, member, met⟩

/--
A unit that fits into memory has an artifact unless something in it is foreign or the path of a file in it is no
text. Whatever follows the artifact, the unit is read back while the script has the time of the stamp; at any other
time the artifact is stale.
-/
theorem stored_unless_foreign (stamp : Int64) (unit : CompiledUnit) (fits : unit.Fits) :
    (encode? stamp unit = none ↔ unit.HoldsForeign ∨ unit.HoldsBrokenPath) ∧
      ∀ bytes, encode? stamp unit = some bytes → ∀ trailing current,
        decode (bytes ++ trailing) (.ok current) =
          if stamp = current then .ok unit else .error (.stale stamp current) := by
  constructor
  · -- What fits can be stored part by part, unless a part has no stored form.
    have written := (encode?_iff stamp unit).trans (storable_iff_of_fits fits)
    rw [← Option.ne_none_iff_exists', ← not_or] at written
    exact not_iff_not.mp written
  · intro bytes encoded trailing current
    exact decode_append_of_encode encoded trailing current

/-- A unit with blocks in blocks, and a payload at the bottom of them. -/
def nestedUnit (file : Path) (payload : Payload) : CompiledUnit where
  triggers := [{
    file := some file, name := "on join", event := ⟨"join", "join", .text "é"⟩
    body := [
      .choice ⟨"x", .none⟩
        [.loop ⟨"all players", false, "player", .words ["a", ""]⟩ [.while ⟨"y", .none⟩ []]]
        [.conditional ⟨"z", .none⟩ [.statement ⟨"delay 1", true, payload⟩]],
      .statement ⟨"b", false, .none⟩] }]
  commands := [⟨"/hi", none, .none⟩]

/-- One payload, however deep it lies, keeps the unit from being stored, and so does a path that is no text. -/
theorem nestedUnit_stored_unless_foreign :
    encode? (-1) (nestedUnit ⟨"a.sk"⟩ (.foreign ⟨0, 7⟩)) = none ∧ encode? (-1) (nestedUnit ⟨[0xff]⟩ .none) = none ∧
      encode? (-1) (nestedUnit ⟨"a.sk"⟩ .none) ≠ none ∧
      ∀ bytes, encode? (-1) (nestedUnit ⟨"a.sk"⟩ .none) = some bytes → ∀ trailing current,
        decode (bytes ++ trailing) (.ok current) =
          if -1 = current then .ok (nestedUnit ⟨"a.sk"⟩ .none) else .error (.stale (-1) current) := by
  have plain := stored_unless_foreign (-1) (nestedUnit ⟨"a.sk"⟩ .none) (by decide +kernel)
  refine ⟨?_, ?_, ?_, plain.2⟩
  · exact (stored_unless_foreign (-1) (nestedUnit ⟨"a.sk"⟩ (.foreign ⟨0, 7⟩)) (by decide +kernel)).1.mpr
      (.inl (by decide +kernel))
  · exact (stored_unless_foreign (-1) (nestedUnit ⟨[0xff]⟩ .none) (by decide +kernel)).1.mpr (.inr (by decide +kernel))
  · exact mt plain.1.mp (by decide +kernel)

end Artifact

end TriggerScript
