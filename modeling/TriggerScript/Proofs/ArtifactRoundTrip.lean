import Mathlib.Algebra.Group.Nat.Defs
import TriggerScript.Artifact.Decode
import TriggerScript.Artifact.Encode

/-!
# Artifacts hold what was stored

Whatever can be written is read back as it was. Each decoder takes exactly the bytes that its encoder
makes, whatever follows them; from there on the two sides go through a unit part by part. Only the
nesting of items needs care: the reader gets the number of bytes for a depth, and an item is never
nested deeper than it has bytes.
-/

namespace TriggerScript

theorem Text.ofBytes?_toBytes (text : String) : Text.ofBytes? (Text.toBytes text) = some text := by
  unfold Text.ofBytes? Text.toBytes String.fromUTF8?
  rw [Array.toArray_toList]
  exact dif_pos text.isValidUTF8

theorem Text.toBytes_of_ofBytes? {bytes : Bytes} {text : String} (spelled : Text.ofBytes? bytes = some text) :
    Text.toBytes text = bytes := by
  unfold Text.ofBytes? String.fromUTF8? at spelled
  split at spelled
  · cases spelled
    rfl
  · cases spelled

namespace Artifact

/-! ## Numbers -/

@[simp] theorem length_littleEndian (width value : Nat) : (littleEndian width value).length = width := by
  induction width generalizing value with
  | zero => rfl
  | succ width inductionHypothesis => simp [littleEndian, inductionHypothesis]

theorem ofLittleEndian_littleEndian {width value : Nat} (fits : value < 256 ^ width) :
    ofLittleEndian (littleEndian width value) = value := by
  induction width generalizing value with
  | zero =>
    have zero : value = 0 := by simpa using fits
    rw [zero]
    rfl
  | succ width inductionHypothesis =>
    have smaller : value / 256 < 256 ^ width :=
      Nat.div_lt_of_lt_mul (by rwa [Nat.mul_comm, ← Nat.pow_succ])
    rw [littleEndian, ofLittleEndian, inductionHypothesis smaller, UInt8.toNat_ofNat']
    exact Nat.mod_add_div value 256

theorem ofStampBytes_stampBytes (stamp : Int64) : ofStampBytes (stampBytes stamp) = stamp := by
  rw [stampBytes, ofStampBytes, List.reverse_reverse,
    ofLittleEndian_littleEndian stamp.toUInt64.toNat_lt_size, UInt64.ofNat_toNat]
  rfl

@[simp] theorem length_stampBytes (stamp : Int64) : (stampBytes stamp).length = 8 := by
  simp [stampBytes]

/-! ## Decoders that take what was written -/

/-- The decoder takes some bytes for a value, whatever follows them. -/
def Yields {α : Type} (decode : Decoder α) (bytes : Bytes) (value : α) : Prop :=
  ∀ rest, decode (bytes ++ rest) = .ok (value, rest)

theorem decodeNumber_yields {width value : Nat} (fits : value < 256 ^ width) :
    Yields (decodeNumber width) (littleEndian width value) value := by
  intro rest
  simp [decodeNumber, ofLittleEndian_littleEndian fits]

theorem decodeLength_yields {length : Nat} {bytes : Bytes} (encoded : encodeLength? length = some bytes) :
    Yields decodeLength bytes length := by
  obtain ⟨fits, rfl⟩ : length < UInt64.size ∧ littleEndian 8 length = bytes := by
    simpa [encodeLength?] using encoded
  exact decodeNumber_yields fits

@[simp] theorem ok_bind {ε α β : Type} (value : α) (next : α → Except ε β) :
    (.ok value >>= next) = next value := rfl

@[simp] theorem pure_eq_ok {ε α : Type} (value : α) : (pure value : Except ε α) = .ok value := rfl

@[simp] theorem mapError_ok {ε ε' α : Type} (value : α) (change : ε → ε') :
    (Except.ok value).mapError change = .ok value := rfl

/-- All variants are small. -/
theorem decodeVariant_yields (count index : Nat) (known : index < count) (fits : index < 256 ^ 4) :
    Yields (decodeVariant count) (encodeVariant index) index := by
  intro rest
  rw [decodeVariant, encodeVariant, decodeNumber_yields fits rest, ok_bind]
  exact if_pos known

theorem decodeTruth_yields (value : Bool) : Yields decodeTruth (encodeTruth value) value := by
  intro rest
  cases value <;> rfl

theorem decodeText_yields {text : String} {bytes : Bytes} (encoded : encodeText? text = some bytes) :
    Yields decodeText bytes text := by
  intro rest
  obtain ⟨length, lengthEq, rfl⟩ : ∃ length, encodeLength? (Text.toBytes text).length = some length ∧
      length ++ Text.toBytes text = bytes := by
    simpa [encodeText?, Option.bind_eq_some_iff] using encoded
  simp [decodeText, decodeLength_yields lengthEq (Text.toBytes text ++ rest), Text.ofBytes?_toBytes]

theorem decodeFile_yields {file : Option Path} {bytes : Bytes} (encoded : encodeFile? file = some bytes) :
    Yields (decodeOptional decodePath) bytes file := by
  intro rest
  cases file with
  | none =>
    cases encoded
    rfl
  | some file =>
    obtain ⟨spelled, spelledEq, text, textEq, rfl⟩ : ∃ spelled, Text.ofBytes? file.bytes = some spelled ∧
        ∃ text, encodeText? spelled = some text ∧ 1 :: text = bytes := by
      simpa [encodeFile?, Option.bind_eq_some_iff] using encoded
    have same : Path.ofBytes (Text.toBytes spelled) = file := congrArg Path.ofBytes (Text.toBytes_of_ofBytes? spelledEq)
    simp [decodeOptional, decodePath, decodeText_yields textEq rest, same]

theorem decodeMany_yields {α : Type} {encode : α → Option Bytes} {decode : Decoder α}
    (inverse : ∀ value bytes, encode value = some bytes → Yields decode bytes value)
    {members : List α} {encoded : List Bytes} (written : members.mapM encode = some encoded) :
    Yields (decodeMany decode members.length) encoded.flatten members := by
  induction members generalizing encoded with
  | nil =>
    cases written
    exact fun rest => rfl
  | cons first others inductionHypothesis =>
    intro rest
    obtain ⟨bytes, firstEq, more, othersEq, rfl⟩ : ∃ bytes, encode first = some bytes ∧
        ∃ more, others.mapM encode = some more ∧ bytes :: more = encoded := by
      simpa [List.mapM_cons, Option.bind_eq_some_iff] using written
    -- To the first member the bytes of the others are a part of the rest.
    simp [decodeMany, inverse first bytes firstEq (more.flatten ++ rest), inductionHypothesis othersEq rest]

theorem decodeSequence_yields {α : Type} {encode : α → Option Bytes} {decode : Decoder α}
    (inverse : ∀ value bytes, encode value = some bytes → Yields decode bytes value)
    {members : List α} {bytes : Bytes} (written : encodeSequence? encode members = some bytes) :
    Yields (decodeSequence decode) bytes members := by
  intro rest
  obtain ⟨length, lengthEq, encoded, encodedEq, rfl⟩ : ∃ length, encodeLength? members.length = some length ∧
      ∃ encoded, members.mapM encode = some encoded ∧ length ++ encoded.flatten = bytes := by
    simpa [encodeSequence?, Option.bind_eq_some_iff] using written
  simp [decodeSequence, decodeLength_yields lengthEq (encoded.flatten ++ rest),
    decodeMany_yields inverse encodedEq rest]

theorem decodePayload_yields {payload : Payload} {bytes : Bytes}
    (encoded : encodePayload? payload = some bytes) : Yields decodePayload bytes payload := by
  intro rest
  cases payload with
  | foreign object => cases encoded
  | none =>
    cases encoded
    simp [decodePayload, decodeVariant_yields 3 0 (by decide) (by decide) rest]
  | text text =>
    obtain ⟨content, contentEq, rfl⟩ : ∃ content, encodeText? text = some content ∧
        encodeVariant 1 ++ content = bytes := by
      simpa [encodePayload?, Option.bind_eq_some_iff] using encoded
    simp [decodePayload, decodeVariant_yields 3 1 (by decide) (by decide) (content ++ rest),
      decodeText_yields contentEq rest]
  | words words =>
    obtain ⟨content, contentEq, rfl⟩ : ∃ content, encodeSequence? encodeText? words = some content ∧
        encodeVariant 2 ++ content = bytes := by
      simpa [encodePayload?, Option.bind_eq_some_iff] using encoded
    simp [decodePayload, decodeVariant_yields 3 2 (by decide) (by decide) (content ++ rest),
      decodeSequence_yields (fun _ _ => decodeText_yields) contentEq rest]

/-! ## Items -/

theorem decodeStatement_yields {statement : Statement} {bytes : Bytes}
    (encoded : encodeStatement? statement = some bytes) : Yields decodeStatement bytes statement := by
  intro rest
  obtain ⟨source, sourceEq, payload, payloadEq, rfl⟩ :
      ∃ source, encodeText? statement.source = some source ∧
        ∃ payload, encodePayload? statement.payload = some payload ∧
          source ++ (encodeTruth statement.suspends ++ payload) = bytes := by
    simpa [encodeStatement?, Option.bind_eq_some_iff] using encoded
  simp [decodeStatement, decodeText_yields sourceEq _, decodeTruth_yields _ _,
    decodePayload_yields payloadEq rest]

theorem decodeCondition_yields {condition : Condition} {bytes : Bytes}
    (encoded : encodeCondition? condition = some bytes) : Yields decodeCondition bytes condition := by
  intro rest
  obtain ⟨source, sourceEq, payload, payloadEq, rfl⟩ :
      ∃ source, encodeText? condition.source = some source ∧
        ∃ payload, encodePayload? condition.payload = some payload ∧ source ++ payload = bytes := by
    simpa [encodeCondition?, Option.bind_eq_some_iff] using encoded
  simp [decodeCondition, decodeText_yields sourceEq _, decodePayload_yields payloadEq rest]

theorem decodeExpression_yields {expression : Expression} {bytes : Bytes}
    (encoded : encodeExpression? expression = some bytes) :
    Yields decodeExpression bytes expression := by
  intro rest
  obtain ⟨source, sourceEq, returnType, returnTypeEq, payload, payloadEq, rfl⟩ :
      ∃ source, encodeText? expression.source = some source ∧
        ∃ returnType, encodeText? expression.returnType = some returnType ∧
          ∃ payload, encodePayload? expression.payload = some payload ∧
            source ++ (encodeTruth expression.single ++ (returnType ++ payload)) = bytes := by
    simpa [encodeExpression?, Option.bind_eq_some_iff] using encoded
  simp [decodeExpression, decodeText_yields sourceEq _, decodeTruth_yields _ _,
    decodeText_yields returnTypeEq _, decodePayload_yields payloadEq rest]

@[simp] theorem length_encodeVariant (index : Nat) : (encodeVariant index).length = 4 := by
  simp [encodeVariant]

theorem decodeSequence_counted {α : Type} {decode : Decoder α} {members : List α} {length items : Bytes}
    (counted : encodeLength? members.length = some length)
    (taken : Yields (decodeMany decode members.length) items members) (rest : Bytes) :
    decodeSequence decode (length ++ (items ++ rest)) = .ok (members, rest) := by
  simp [decodeSequence, decodeLength_yields counted _, taken rest]

/-- The variant at its head leaves an item one level less for its blocks. -/
theorem exists_level {index depth : Nat} {content : Bytes}
    (deep : (encodeVariant index ++ content).length ≤ depth) :
    ∃ level, depth = level + 1 ∧ content.length ≤ level := by
  rw [List.length_append, length_encodeVariant] at deep
  exact ⟨depth - 1, by omega, by omega⟩

mutual

/-- An item is read back by a reader that goes as deep as the item has bytes. -/
theorem decodeItem_yields : ∀ (item : Item) (depth : Nat) {bytes : Bytes},
    encodeItem? item = some bytes → bytes.length ≤ depth → Yields (decodeItem depth) bytes item
  | .statement statement, depth, bytes, encoded, deep => by
    intro rest
    obtain ⟨content, contentEq, rfl⟩ : ∃ content, encodeStatement? statement = some content ∧
        encodeVariant 0 ++ content = bytes := by
      simpa [encodeItem?, Option.bind_eq_some_iff] using encoded
    obtain ⟨level, rfl, -⟩ := exists_level deep
    simp [decodeItem, decodeVariant_yields 4 0 (by decide) (by decide) _,
      decodeStatement_yields contentEq _]
  | .conditional condition body, depth, bytes, encoded, deep => by
    intro rest
    obtain ⟨head, headEq, length, lengthEq, items, itemsEq, rfl⟩ :
        ∃ head, encodeCondition? condition = some head ∧
          ∃ length, encodeLength? body.length = some length ∧
            ∃ items, encodeItems? body = some items ∧
              encodeVariant 1 ++ (head ++ (length ++ (items ++ [0]))) = bytes := by
      simpa [encodeItem?, Option.bind_eq_some_iff] using encoded
    obtain ⟨level, rfl, room⟩ := exists_level deep
    have bodyTaken := decodeSequence_counted lengthEq
      (decodeItems_yields body level itemsEq (by simp at room; omega))
    simp [decodeItem, decodeOptional, decodeVariant_yields 4 1 (by decide) (by decide) _,
      decodeCondition_yields headEq _, bodyTaken _]
  | .choice condition body other, depth, bytes, encoded, deep => by
    intro rest
    obtain ⟨head, headEq, length, lengthEq, items, itemsEq, otherLength, otherLengthEq, others,
        othersEq, rfl⟩ :
        ∃ head, encodeCondition? condition = some head ∧
          ∃ length, encodeLength? body.length = some length ∧
            ∃ items, encodeItems? body = some items ∧
              ∃ otherLength, encodeLength? other.length = some otherLength ∧
                ∃ others, encodeItems? other = some others ∧
                  encodeVariant 1 ++ (head ++ (length ++ (items ++ 1 :: (otherLength ++ others)))) = bytes := by
      simpa [encodeItem?, Option.bind_eq_some_iff] using encoded
    obtain ⟨level, rfl, room⟩ := exists_level deep
    have bodyTaken := decodeSequence_counted lengthEq
      (decodeItems_yields body level itemsEq (by simp at room; omega))
    -- Both branches lie one level down, so one depth is enough for them.
    have otherTaken := decodeSequence_counted otherLengthEq
      (decodeItems_yields other level othersEq (by simp at room; omega))
    simp [decodeItem, decodeOptional, decodeVariant_yields 4 1 (by decide) (by decide) _,
      decodeCondition_yields headEq _, bodyTaken _, otherTaken _]
  | .loop iterable body, depth, bytes, encoded, deep => by
    intro rest
    obtain ⟨head, headEq, length, lengthEq, items, itemsEq, rfl⟩ :
        ∃ head, encodeExpression? iterable = some head ∧
          ∃ length, encodeLength? body.length = some length ∧
            ∃ items, encodeItems? body = some items ∧
              encodeVariant 2 ++ (head ++ (length ++ items)) = bytes := by
      simpa [encodeItem?, Option.bind_eq_some_iff] using encoded
    obtain ⟨level, rfl, room⟩ := exists_level deep
    have bodyTaken := decodeSequence_counted lengthEq
      (decodeItems_yields body level itemsEq (by simp at room; omega))
    simp [decodeItem, decodeVariant_yields 4 2 (by decide) (by decide) _,
      decodeExpression_yields headEq _, bodyTaken _]
  | .while condition body, depth, bytes, encoded, deep => by
    intro rest
    obtain ⟨head, headEq, length, lengthEq, items, itemsEq, rfl⟩ :
        ∃ head, encodeCondition? condition = some head ∧
          ∃ length, encodeLength? body.length = some length ∧
            ∃ items, encodeItems? body = some items ∧
              encodeVariant 3 ++ (head ++ (length ++ items)) = bytes := by
      simpa [encodeItem?, Option.bind_eq_some_iff] using encoded
    obtain ⟨level, rfl, room⟩ := exists_level deep
    have bodyTaken := decodeSequence_counted lengthEq
      (decodeItems_yields body level itemsEq (by simp at room; omega))
    simp [decodeItem, decodeVariant_yields 4 3 (by decide) (by decide) _,
      decodeCondition_yields headEq _, bodyTaken _]

theorem decodeItems_yields : ∀ (block : Block) (depth : Nat) {bytes : Bytes},
    encodeItems? block = some bytes → bytes.length ≤ depth →
      Yields (decodeMany (decodeItem depth) block.length) bytes block
  | [], depth, bytes, encoded, _ => by
    cases encoded
    exact fun rest => rfl
  | item :: block, depth, bytes, encoded, deep => by
    intro rest
    obtain ⟨first, firstEq, others, othersEq, rfl⟩ : ∃ first, encodeItem? item = some first ∧
        ∃ others, encodeItems? block = some others ∧ first ++ others = bytes := by
      simpa [encodeItems?, Option.bind_eq_some_iff] using encoded
    rw [List.length_append] at deep
    have firstTaken := decodeItem_yields item depth firstEq (by omega)
    have othersTaken := decodeItems_yields block depth othersEq (by omega)
    simp [decodeMany, firstTaken _, othersTaken rest]

end

theorem decodeBlock_yields {block : Block} {bytes : Bytes} (encoded : encodeBlock? block = some bytes) :
    Yields decodeBlock bytes block := by
  intro rest
  obtain ⟨length, lengthEq, items, itemsEq, rfl⟩ : ∃ length, encodeLength? block.length = some length ∧
      ∃ items, encodeItems? block = some items ∧ length ++ items = bytes := by
    simpa [encodeBlock?, Option.bind_eq_some_iff] using encoded
  -- A block is never deeper than the input is long, so the reader does not run out of depth.
  have taken := decodeItems_yields block (length ++ items ++ rest).length itemsEq (by simp; omega)
  rw [decodeBlock, List.append_assoc] at *
  exact decodeSequence_counted lengthEq taken rest

/-! ## Units -/

theorem decodeSpec_yields {spec : EventSpec} {bytes : Bytes} (encoded : encodeSpec? spec = some bytes) :
    Yields decodeSpec bytes spec := by
  intro rest
  obtain ⟨kind, kindEq, text, textEq, payload, payloadEq, rfl⟩ :
      ∃ kind, encodeText? spec.kind = some kind ∧ ∃ text, encodeText? spec.text = some text ∧
        ∃ payload, encodePayload? spec.payload = some payload ∧ kind ++ (text ++ payload) = bytes := by
    simpa [encodeSpec?, Option.bind_eq_some_iff] using encoded
  simp [decodeSpec, decodeText_yields kindEq _, decodeText_yields textEq _,
    decodePayload_yields payloadEq _]

theorem decodeTrigger_yields {trigger : Trigger} {bytes : Bytes}
    (encoded : encodeTrigger? trigger = some bytes) : Yields decodeTrigger bytes trigger := by
  intro rest
  obtain ⟨file, fileEq, name, nameEq, spec, specEq, body, bodyEq, rfl⟩ :
      ∃ file, encodeFile? trigger.file = some file ∧ ∃ name, encodeText? trigger.name = some name ∧
        ∃ spec, encodeSpec? trigger.event = some spec ∧ ∃ body, encodeBlock? trigger.body = some body ∧
          file ++ (name ++ (spec ++ body)) = bytes := by
    simpa [encodeTrigger?, Option.bind_eq_some_iff] using encoded
  simp [decodeTrigger, decodeFile_yields fileEq _, decodeText_yields nameEq _,
    decodeSpec_yields specEq _, decodeBlock_yields bodyEq _]

theorem decodeCommand_yields {command : Command} {bytes : Bytes}
    (encoded : encodeCommand? command = some bytes) : Yields decodeCommand bytes command := by
  intro rest
  obtain ⟨name, nameEq, file, fileEq, payload, payloadEq, rfl⟩ :
      ∃ name, encodeText? command.name = some name ∧ ∃ file, encodeFile? command.file = some file ∧
        ∃ payload, encodePayload? command.payload = some payload ∧ name ++ (file ++ payload) = bytes := by
    simpa [encodeCommand?, Option.bind_eq_some_iff] using encoded
  simp [decodeCommand, decodeText_yields nameEq _, decodeFile_yields fileEq _,
    decodePayload_yields payloadEq _]

theorem decodeUnit_yields {unit : CompiledUnit} {bytes : Bytes}
    (encoded : encodeUnit? unit = some bytes) : Yields decodeUnit bytes unit := by
  intro rest
  obtain ⟨triggers, triggersEq, commands, commandsEq, rfl⟩ :
      ∃ triggers, encodeSequence? encodeTrigger? unit.triggers = some triggers ∧
        ∃ commands, encodeSequence? encodeCommand? unit.commands = some commands ∧
          triggers ++ commands = bytes := by
    simpa [encodeUnit?, Option.bind_eq_some_iff] using encoded
  simp [decodeUnit, decodeSequence_yields (fun _ _ => decodeTrigger_yields) triggersEq _,
    decodeSequence_yields (fun _ _ => decodeCommand_yields) commandsEq _]

/-! ## Artifacts -/

theorem decodeStamp_yields (stamp : Int64) : Yields decodeStamp (stampBytes stamp) stamp := by
  intro rest
  have taken : (stampBytes stamp ++ rest).take 8 = stampBytes stamp :=
    List.take_left' (length_stampBytes stamp)
  have left : (stampBytes stamp ++ rest).drop 8 = rest := List.drop_left' (length_stampBytes stamp)
  simp [decodeStamp, taken, left, ofStampBytes_stampBytes]

theorem encode?_eq_some_iff {stamp : Int64} {unit : CompiledUnit} {bytes : Bytes} :
    encode? stamp unit = some bytes ↔
      ∃ content, encodeUnit? unit = some content ∧ stampBytes stamp ++ content = bytes := by
  simp [encode?, Option.bind_eq_some_iff]

/-- What was stored is read back while the script still has the time of the stamp, and is stale at any
other time, whatever stands behind it. -/
theorem decode_append_of_encode {stamp : Int64} {unit : CompiledUnit} {bytes : Bytes}
    (encoded : encode? stamp unit = some bytes) (trailing : Bytes) (current : Int64) :
    decode (bytes ++ trailing) (.ok current) =
      if stamp = current then .ok unit else .error (.stale stamp current) := by
  obtain ⟨content, contentEq, rfl⟩ := encode?_eq_some_iff.mp encoded
  have whole : decodeUnit (content ++ trailing) = .ok (unit, trailing) := decodeUnit_yields contentEq trailing
  rw [List.append_assoc, decode, decodeStamp_yields stamp (content ++ trailing)]
  by_cases same : stamp = current
  · subst same
    simp [whole]
  · simp [same]
    rfl

theorem decode_of_encode {stamp : Int64} {unit : CompiledUnit} {bytes : Bytes}
    (encoded : encode? stamp unit = some bytes) (current : Int64) :
    decode bytes (.ok current) = if stamp = current then .ok unit else .error (.stale stamp current) := by
  have alone := decode_append_of_encode encoded [] current
  rwa [List.append_nil] at alone

end Artifact

end TriggerScript
