import TriggerScript.Proofs.DiskChanges
import TriggerScript.Proofs.StorableUnits

/-!
# Artifacts are nothing but what was stored

A decoder accepts no bytes but those that its encoder makes, and it takes all of them. So there is one
artifact for every unit and time; a part of it is no artifact, and neither is anything else.
-/

namespace TriggerScript

namespace Artifact

/-! ## Numbers -/

theorem ofLittleEndian_lt (bytes : Bytes) : ofLittleEndian bytes < 256 ^ bytes.length := by
  induction bytes with
  | nil => decide
  | cons byte rest inductionHypothesis =>
    have small := byte.toNat_lt
    rw [ofLittleEndian, List.length_cons, Nat.pow_succ]
    omega

theorem littleEndian_ofLittleEndian (bytes : Bytes) :
    littleEndian bytes.length (ofLittleEndian bytes) = bytes := by
  induction bytes with
  | nil => rfl
  | cons byte rest inductionHypothesis =>
    have small := byte.toNat_lt
    have low : UInt8.ofNat (byte.toNat + 256 * ofLittleEndian rest) = byte := by
      apply UInt8.toNat.inj
      rw [UInt8.toNat_ofNat']
      omega
    have high : (byte.toNat + 256 * ofLittleEndian rest) / 256 = ofLittleEndian rest := by omega
    rw [List.length_cons, ofLittleEndian, littleEndian, low, high, inductionHypothesis]

theorem stampBytes_ofStampBytes {bytes : Bytes} (whole : bytes.length = 8) :
    stampBytes (ofStampBytes bytes) = bytes := by
  have small := ofLittleEndian_lt bytes.reverse
  have written := littleEndian_ofLittleEndian bytes.reverse
  rw [List.length_reverse, whole] at small written
  have same : (ofStampBytes bytes).toUInt64.toNat = ofLittleEndian bytes.reverse := by
    rw [ofStampBytes]
    exact UInt64.toNat_ofNat_of_lt small
  rw [stampBytes, same, written, List.reverse_reverse]

/-! ## Decoders that accept what was written -/

/-- What the decoder takes for a value is what the encoder makes of it. -/
def Exact {α : Type} (decode : Decoder α) (encode : α → Option Bytes) : Prop :=
  ∀ {bytes rest value}, decode bytes = .ok (value, rest) →
    ∃ taken, encode value = some taken ∧ bytes = taken ++ rest

theorem decodeNumber_exact {width value : Nat} {bytes rest : Bytes}
    (read : decodeNumber width bytes = .ok (value, rest)) :
    value < 256 ^ width ∧ bytes = littleEndian width value ++ rest := by
  unfold decodeNumber at read
  dsimp only at read
  split at read
  · cases read
  · next long =>
    cases read
    have whole : (bytes.take width).length = width := by
      rw [List.length_take] at long ⊢
      omega
    have small := ofLittleEndian_lt (bytes.take width)
    have written := littleEndian_ofLittleEndian (bytes.take width)
    rw [whole] at small written
    exact ⟨small, by rw [written, List.take_append_drop]⟩

theorem decodeLength_exact : Exact decodeLength encodeLength? := by
  intro bytes rest length read
  obtain ⟨small, split⟩ := decodeNumber_exact read
  exact ⟨littleEndian 8 length, if_pos small, split⟩

theorem decodeVariant_exact {count index : Nat} {bytes rest : Bytes}
    (read : decodeVariant count bytes = .ok (index, rest)) :
    index < count ∧ bytes = encodeVariant index ++ rest := by
  obtain ⟨⟨found, after⟩, taken, checked⟩ := bind_eq_ok.mp read
  dsimp only at checked
  split at checked
  · next known =>
    cases checked
    exact ⟨known, (decodeNumber_exact taken).2⟩
  · cases checked

theorem decodeTruth_exact : Exact decodeTruth (fun value => some (encodeTruth value)) := by
  intro bytes rest value read
  unfold decodeTruth at read
  split at read
  · cases read
  · split at read
    · next zero =>
      cases read
      exact ⟨_, rfl, by rw [zero]; rfl⟩
    · split at read
      · next one =>
        cases read
        exact ⟨_, rfl, by rw [one]; rfl⟩
      · cases read

theorem decodeText_exact : Exact decodeText encodeText? := by
  intro bytes rest text read
  obtain ⟨⟨length, after⟩, counted, content⟩ := bind_eq_ok.mp read
  obtain ⟨lengthBytes, lengthEq, split⟩ := decodeLength_exact counted
  dsimp only at content
  split at content
  · cases content
  · next long =>
    have whole : (after.take length).length = length := by
      rw [List.length_take] at long ⊢
      omega
    split at content
    · next found decoded =>
      cases content
      have textEq := Text.toBytes_of_ofBytes? decoded
      refine ⟨lengthBytes ++ after.take length, ?_, ?_⟩
      · simp [encodeText?, textEq, whole, lengthEq]
      · rw [split, List.append_assoc, List.take_append_drop]
    · cases content

theorem decodePath_exact : Exact decodePath (fun path => (Text.ofBytes? path.bytes).bind encodeText?) := by
  intro bytes rest path read
  obtain ⟨⟨text, after⟩, taken, done⟩ := bind_eq_ok.mp read
  cases done
  obtain ⟨written, encoded, split⟩ := decodeText_exact taken
  exact ⟨written, by simp only [Text.ofBytes?_toBytes, Option.bind_some, encoded], split⟩

/-- What may be absent is announced by one byte. -/
theorem decodeOptional_cases {α : Type} {decode : Decoder α} {bytes rest : Bytes} {value : Option α}
    (read : decodeOptional decode bytes = .ok (value, rest)) :
    (value = none ∧ bytes = 0 :: rest) ∨
      ∃ present after, value = some present ∧ bytes = 1 :: after ∧ decode after = .ok (present, rest) := by
  unfold decodeOptional at read
  split at read
  · cases read
  · split at read
    · next zero =>
      cases read
      exact .inl ⟨rfl, by rw [zero]⟩
    · split at read
      · next one =>
        obtain ⟨⟨present, after⟩, taken, done⟩ := bind_eq_ok.mp read
        cases done
        exact .inr ⟨present, _, rfl, by rw [one], taken⟩
      · cases read

theorem decodeFile_exact : Exact (decodeOptional decodePath) encodeFile? := by
  intro bytes rest file read
  rcases decodeOptional_cases read with ⟨rfl, split⟩ | ⟨path, after, rfl, split, taken⟩
  · exact ⟨[0], rfl, split⟩
  · obtain ⟨text, pathEq, afterEq⟩ := decodePath_exact taken
    obtain ⟨spelled, spelledEq, textEq⟩ := Option.bind_eq_some_iff.mp pathEq
    refine ⟨1 :: text, ?_, by rw [split, afterEq]; rfl⟩
    simp [encodeFile?, spelledEq, textEq]

theorem decodeMany_exact {α : Type} {decode : Decoder α} {encode : α → Option Bytes} (exact : Exact decode encode)
    {count : Nat} {bytes rest : Bytes} {members : List α}
    (read : decodeMany decode count bytes = .ok (members, rest)) :
    members.length = count ∧
      ∃ encoded, members.mapM encode = some encoded ∧ bytes = encoded.flatten ++ rest := by
  induction count generalizing bytes members with
  | zero =>
    cases read
    exact ⟨rfl, [], rfl, rfl⟩
  | succ count inductionHypothesis =>
    obtain ⟨⟨first, after⟩, firstTaken, continued⟩ := bind_eq_ok.mp read
    obtain ⟨⟨others, left⟩, othersTaken, done⟩ := bind_eq_ok.mp continued
    cases done
    obtain ⟨taken, takenEq, split⟩ := exact firstTaken
    obtain ⟨counted, encoded, encodedEq, afterEq⟩ := inductionHypothesis othersTaken
    refine ⟨by rw [List.length_cons, counted], taken :: encoded, ?_, ?_⟩
    · simp [List.mapM_cons, takenEq, encodedEq]
    · rw [split, afterEq, List.flatten_cons, List.append_assoc]

theorem decodeSequence_exact {α : Type} {decode : Decoder α} {encode : α → Option Bytes}
    (exact : Exact decode encode) : Exact (decodeSequence decode) (encodeSequence? encode) := by
  intro bytes rest members read
  obtain ⟨⟨count, after⟩, counted, taken⟩ := bind_eq_ok.mp read
  obtain ⟨length, lengthEq, split⟩ := decodeLength_exact counted
  obtain ⟨rfl, encoded, encodedEq, afterEq⟩ := decodeMany_exact exact taken
  refine ⟨length ++ encoded.flatten, ?_, by rw [split, afterEq, List.append_assoc]⟩
  simp [encodeSequence?, lengthEq, encodedEq]

theorem decodePayload_exact : Exact decodePayload encodePayload? := by
  intro bytes rest payload read
  obtain ⟨⟨variant, after⟩, announced, continued⟩ := bind_eq_ok.mp read
  obtain ⟨known, split⟩ := decodeVariant_exact announced
  -- There is no variant for a foreign payload, so none is ever read.
  match variant, known with
  | 0, _ =>
    cases continued
    exact ⟨encodeVariant 0, rfl, split⟩
  | 1, _ =>
    obtain ⟨⟨text, left⟩, taken, done⟩ := bind_eq_ok.mp continued
    cases done
    obtain ⟨content, contentEq, afterEq⟩ := decodeText_exact taken
    refine ⟨encodeVariant 1 ++ content, ?_, by rw [split, afterEq, List.append_assoc]⟩
    simp [encodePayload?, contentEq]
  | 2, _ =>
    obtain ⟨⟨words, left⟩, taken, done⟩ := bind_eq_ok.mp continued
    cases done
    obtain ⟨content, contentEq, afterEq⟩ := decodeSequence_exact decodeText_exact taken
    refine ⟨encodeVariant 2 ++ content, ?_, by rw [split, afterEq, List.append_assoc]⟩
    simp [encodePayload?, contentEq]

/-! ## Items -/

theorem decodeStatement_exact : Exact decodeStatement encodeStatement? := by
  intro bytes rest statement read
  obtain ⟨⟨source, afterSource⟩, sourceTaken, continued⟩ := bind_eq_ok.mp read
  obtain ⟨⟨suspends, afterTruth⟩, truthTaken, continued⟩ := bind_eq_ok.mp continued
  obtain ⟨⟨payload, left⟩, payloadTaken, done⟩ := bind_eq_ok.mp continued
  cases done
  obtain ⟨sourceBytes, sourceEq, split⟩ := decodeText_exact sourceTaken
  obtain ⟨truthBytes, truthEq, afterSourceEq⟩ := decodeTruth_exact truthTaken
  obtain ⟨payloadBytes, payloadEq, afterTruthEq⟩ := decodePayload_exact payloadTaken
  cases truthEq
  refine ⟨sourceBytes ++ encodeTruth suspends ++ payloadBytes, ?_, ?_⟩
  · simp [encodeStatement?, sourceEq, payloadEq]
  · simp [split, afterSourceEq, afterTruthEq]

theorem decodeCondition_exact : Exact decodeCondition encodeCondition? := by
  intro bytes rest condition read
  obtain ⟨⟨source, afterSource⟩, sourceTaken, continued⟩ := bind_eq_ok.mp read
  obtain ⟨⟨payload, left⟩, payloadTaken, done⟩ := bind_eq_ok.mp continued
  cases done
  obtain ⟨sourceBytes, sourceEq, split⟩ := decodeText_exact sourceTaken
  obtain ⟨payloadBytes, payloadEq, afterSourceEq⟩ := decodePayload_exact payloadTaken
  refine ⟨sourceBytes ++ payloadBytes, ?_, ?_⟩
  · simp [encodeCondition?, sourceEq, payloadEq]
  · simp [split, afterSourceEq]

theorem decodeExpression_exact : Exact decodeExpression encodeExpression? := by
  intro bytes rest expression read
  obtain ⟨⟨source, afterSource⟩, sourceTaken, continued⟩ := bind_eq_ok.mp read
  obtain ⟨⟨single, afterTruth⟩, truthTaken, continued⟩ := bind_eq_ok.mp continued
  obtain ⟨⟨returnType, afterType⟩, typeTaken, continued⟩ := bind_eq_ok.mp continued
  obtain ⟨⟨payload, left⟩, payloadTaken, done⟩ := bind_eq_ok.mp continued
  cases done
  obtain ⟨sourceBytes, sourceEq, split⟩ := decodeText_exact sourceTaken
  obtain ⟨truthBytes, truthEq, afterSourceEq⟩ := decodeTruth_exact truthTaken
  obtain ⟨typeBytes, typeEq, afterTruthEq⟩ := decodeText_exact typeTaken
  obtain ⟨payloadBytes, payloadEq, afterTypeEq⟩ := decodePayload_exact payloadTaken
  cases truthEq
  refine ⟨sourceBytes ++ encodeTruth single ++ typeBytes ++ payloadBytes, ?_, ?_⟩
  · simp [encodeExpression?, sourceEq, typeEq, payloadEq]
  · simp [split, afterSourceEq, afterTruthEq, afterTypeEq]

/-- The items of a block are written like the members of any list. -/
theorem encodeItems?_eq (block : Block) : encodeItems? block = (block.mapM encodeItem?).map List.flatten := by
  induction block with
  | nil => rfl
  | cons item rest inductionHypothesis =>
    rw [encodeItems?, inductionHypothesis, List.mapM_cons]
    cases encodeItem? item <;> cases rest.mapM encodeItem? <;> rfl

theorem decodeItems_exact {depth : Nat} (exact : Exact (decodeItem depth) encodeItem?) {bytes rest : Bytes}
    {block : Block} (read : decodeSequence (decodeItem depth) bytes = .ok (block, rest)) :
    ∃ length items, encodeLength? block.length = some length ∧ encodeItems? block = some items ∧
      bytes = length ++ (items ++ rest) := by
  obtain ⟨⟨count, after⟩, counted, taken⟩ := bind_eq_ok.mp read
  obtain ⟨length, lengthEq, split⟩ := decodeLength_exact counted
  obtain ⟨rfl, encoded, encodedEq, afterEq⟩ := decodeMany_exact exact taken
  refine ⟨length, encoded.flatten, lengthEq, ?_, by rw [split, afterEq]⟩
  rw [encodeItems?_eq, encodedEq]
  rfl

/-- However deep a reader may go, it takes items as they are written. -/
theorem decodeItem_exact (depth : Nat) : Exact (decodeItem depth) encodeItem? := by
  -- By induction on the depth: the items of a body are read at the next lower one, and at the lowest there are none.
  induction depth with
  | zero => exact fun read => by cases read
  | succ depth inductionHypothesis =>
    intro bytes rest item read
    obtain ⟨⟨variant, after⟩, announced, continued⟩ := bind_eq_ok.mp read
    obtain ⟨known, split⟩ := decodeVariant_exact announced
    match variant, known with
    | 0, _ =>
      obtain ⟨⟨statement, left⟩, taken, done⟩ := bind_eq_ok.mp continued
      cases done
      obtain ⟨content, contentEq, afterEq⟩ := decodeStatement_exact taken
      refine ⟨encodeVariant 0 ++ content, ?_, by rw [split, afterEq, List.append_assoc]⟩
      simp [encodeItem?, contentEq]
    | 1, _ =>
      obtain ⟨⟨condition, afterHead⟩, headTaken, continued⟩ := bind_eq_ok.mp continued
      obtain ⟨⟨body, afterBody⟩, bodyTaken, continued⟩ := bind_eq_ok.mp continued
      obtain ⟨⟨other, left⟩, otherTaken, done⟩ := bind_eq_ok.mp continued
      obtain ⟨head, headEq, afterEq⟩ := decodeCondition_exact headTaken
      obtain ⟨length, items, lengthEq, itemsEq, afterHeadEq⟩ := decodeItems_exact inductionHypothesis bodyTaken
      -- The byte behind the body tells the two kinds of conditionals apart.
      rcases decodeOptional_cases otherTaken with ⟨rfl, afterBodyEq⟩ | ⟨block, afterMark, rfl, afterBodyEq, blockTaken⟩
      · cases done
        refine ⟨encodeVariant 1 ++ head ++ length ++ items ++ [0], ?_, ?_⟩
        · simp [encodeItem?, headEq, lengthEq, itemsEq]
        · simp [split, afterEq, afterHeadEq, afterBodyEq]
      · cases done
        obtain ⟨otherLength, others, otherLengthEq, othersEq, afterMarkEq⟩ :=
          decodeItems_exact inductionHypothesis blockTaken
        refine ⟨encodeVariant 1 ++ head ++ length ++ items ++ [1] ++ otherLength ++ others, ?_, ?_⟩
        · simp [encodeItem?, headEq, lengthEq, itemsEq, otherLengthEq, othersEq]
        · simp [split, afterEq, afterHeadEq, afterBodyEq, afterMarkEq]
    | 2, _ =>
      obtain ⟨⟨iterable, afterHead⟩, headTaken, continued⟩ := bind_eq_ok.mp continued
      obtain ⟨⟨body, left⟩, bodyTaken, done⟩ := bind_eq_ok.mp continued
      cases done
      obtain ⟨head, headEq, afterEq⟩ := decodeExpression_exact headTaken
      obtain ⟨length, items, lengthEq, itemsEq, afterHeadEq⟩ := decodeItems_exact inductionHypothesis bodyTaken
      refine ⟨encodeVariant 2 ++ head ++ length ++ items, ?_, ?_⟩
      · simp [encodeItem?, headEq, lengthEq, itemsEq]
      · simp [split, afterEq, afterHeadEq]
    | 3, _ =>
      obtain ⟨⟨condition, afterHead⟩, headTaken, continued⟩ := bind_eq_ok.mp continued
      obtain ⟨⟨body, left⟩, bodyTaken, done⟩ := bind_eq_ok.mp continued
      cases done
      obtain ⟨head, headEq, afterEq⟩ := decodeCondition_exact headTaken
      obtain ⟨length, items, lengthEq, itemsEq, afterHeadEq⟩ := decodeItems_exact inductionHypothesis bodyTaken
      refine ⟨encodeVariant 3 ++ head ++ length ++ items, ?_, ?_⟩
      · simp [encodeItem?, headEq, lengthEq, itemsEq]
      · simp [split, afterEq, afterHeadEq]

theorem decodeBlock_exact : Exact decodeBlock encodeBlock? := by
  intro bytes rest block read
  obtain ⟨length, items, lengthEq, itemsEq, split⟩ := decodeItems_exact (decodeItem_exact bytes.length) read
  refine ⟨length ++ items, ?_, by rw [split, List.append_assoc]⟩
  simp [encodeBlock?, lengthEq, itemsEq]

/-! ## Units -/

theorem decodeSpec_exact : Exact decodeSpec encodeSpec? := by
  intro bytes rest spec read
  obtain ⟨⟨kind, afterKind⟩, kindTaken, continued⟩ := bind_eq_ok.mp read
  obtain ⟨⟨text, afterText⟩, textTaken, continued⟩ := bind_eq_ok.mp continued
  obtain ⟨⟨payload, left⟩, payloadTaken, done⟩ := bind_eq_ok.mp continued
  cases done
  obtain ⟨kindBytes, kindEq, split⟩ := decodeText_exact kindTaken
  obtain ⟨textBytes, textEq, afterKindEq⟩ := decodeText_exact textTaken
  obtain ⟨payloadBytes, payloadEq, afterTextEq⟩ := decodePayload_exact payloadTaken
  refine ⟨kindBytes ++ textBytes ++ payloadBytes, ?_, ?_⟩
  · simp [encodeSpec?, kindEq, textEq, payloadEq]
  · simp [split, afterKindEq, afterTextEq]

theorem decodeTrigger_exact : Exact decodeTrigger encodeTrigger? := by
  intro bytes rest trigger read
  obtain ⟨⟨file, afterFile⟩, fileTaken, continued⟩ := bind_eq_ok.mp read
  obtain ⟨⟨name, afterName⟩, nameTaken, continued⟩ := bind_eq_ok.mp continued
  obtain ⟨⟨event, afterEvent⟩, eventTaken, continued⟩ := bind_eq_ok.mp continued
  obtain ⟨⟨body, left⟩, bodyTaken, done⟩ := bind_eq_ok.mp continued
  cases done
  obtain ⟨fileBytes, fileEq, split⟩ := decodeFile_exact fileTaken
  obtain ⟨nameBytes, nameEq, afterFileEq⟩ := decodeText_exact nameTaken
  obtain ⟨eventBytes, eventEq, afterNameEq⟩ := decodeSpec_exact eventTaken
  obtain ⟨bodyBytes, bodyEq, afterEventEq⟩ := decodeBlock_exact bodyTaken
  refine ⟨fileBytes ++ nameBytes ++ eventBytes ++ bodyBytes, ?_, ?_⟩
  · simp [encodeTrigger?, fileEq, nameEq, eventEq, bodyEq]
  · simp [split, afterFileEq, afterNameEq, afterEventEq]

theorem decodeCommand_exact : Exact decodeCommand encodeCommand? := by
  intro bytes rest command read
  obtain ⟨⟨name, afterName⟩, nameTaken, continued⟩ := bind_eq_ok.mp read
  obtain ⟨⟨file, afterFile⟩, fileTaken, continued⟩ := bind_eq_ok.mp continued
  obtain ⟨⟨payload, left⟩, payloadTaken, done⟩ := bind_eq_ok.mp continued
  cases done
  obtain ⟨nameBytes, nameEq, split⟩ := decodeText_exact nameTaken
  obtain ⟨fileBytes, fileEq, afterNameEq⟩ := decodeFile_exact fileTaken
  obtain ⟨payloadBytes, payloadEq, afterFileEq⟩ := decodePayload_exact payloadTaken
  refine ⟨nameBytes ++ fileBytes ++ payloadBytes, ?_, ?_⟩
  · simp [encodeCommand?, nameEq, fileEq, payloadEq]
  · simp [split, afterNameEq, afterFileEq]

theorem decodeUnit_exact : Exact decodeUnit encodeUnit? := by
  intro bytes rest unit read
  obtain ⟨⟨triggers, afterTriggers⟩, triggersTaken, continued⟩ := bind_eq_ok.mp read
  obtain ⟨⟨commands, left⟩, commandsTaken, done⟩ := bind_eq_ok.mp continued
  cases done
  obtain ⟨triggerBytes, triggersEq, split⟩ := decodeSequence_exact decodeTrigger_exact triggersTaken
  obtain ⟨commandBytes, commandsEq, afterTriggersEq⟩ := decodeSequence_exact decodeCommand_exact commandsTaken
  refine ⟨triggerBytes ++ commandBytes, ?_, ?_⟩
  · simp [encodeUnit?, triggersEq, commandsEq]
  · simp [split, afterTriggersEq]

/-! ## Artifacts -/

theorem decodeStamp_exact : Exact decodeStamp (fun stamp => some (stampBytes stamp)) := by
  intro bytes rest stamp read
  unfold decodeStamp at read
  dsimp only at read
  split at read
  · cases read
  · next long =>
    cases read
    have whole : (bytes.take 8).length = 8 := by
      rw [List.length_take] at long ⊢
      omega
    exact ⟨_, rfl, by rw [stampBytes_ofStampBytes whole, List.take_append_drop]⟩

/-- What is accepted at a time starts with the artifact of the unit at that time. -/
theorem encode_of_decode {bytes : Bytes} {current : Int64} {unit : CompiledUnit}
    (accepted : decode bytes (.ok current) = .ok unit) :
    ∃ content trailing, encodeUnit? unit = some content ∧ bytes = stampBytes current ++ content ++ trailing := by
  obtain ⟨⟨stored, after⟩, stampRead, continued⟩ := bind_eq_ok.mp accepted
  obtain ⟨_, stampEq, split⟩ := decodeStamp_exact (mapError_eq_ok.mp stampRead)
  cases stampEq
  obtain ⟨now, nowEq, compared⟩ := bind_eq_ok.mp continued
  cases nowEq
  dsimp only at compared
  split at compared
  · cases compared
  · next same =>
    obtain ⟨⟨found, trailing⟩, unitRead, done⟩ := bind_eq_ok.mp compared
    cases done
    obtain ⟨content, contentEq, afterEq⟩ := decodeUnit_exact (mapError_eq_ok.mp unitRead)
    refine ⟨content, trailing, contentEq, ?_⟩
    rw [split, afterEq, not_not.mp same, List.append_assoc]

theorem decode_eq_ok_iff {bytes : Bytes} {current : Int64} {unit : CompiledUnit} :
    decode bytes (.ok current) = .ok unit ↔
      ∃ content trailing, encodeUnit? unit = some content ∧ bytes = stampBytes current ++ content ++ trailing := by
  constructor
  · exact encode_of_decode
  · rintro ⟨content, trailing, contentEq, rfl⟩
    have encoded : encode? current unit = some (stampBytes current ++ content) :=
      encode?_eq_some_iff.mpr ⟨content, contentEq, rfl⟩
    rw [decode_append_of_encode encoded trailing current, if_pos rfl]

/-- The first bytes of an artifact are accepted only if they are all of it. -/
theorem eq_of_decode_beginning {bytes artifact : Bytes} {stamp current : Int64} {unit found : CompiledUnit}
    (encoded : encode? stamp unit = some artifact) (start : bytes <+: artifact)
    (accepted : decode bytes (.ok current) = .ok found) : bytes = artifact := by
  obtain ⟨missing, whole⟩ := start
  obtain ⟨content, trailing, contentEq, split⟩ := encode_of_decode accepted
  -- With the missing bytes behind it, what was accepted is the artifact, which holds the one unit only.
  have read : decode artifact (.ok current) = .ok found := by
    rw [← whole]
    exact decode_eq_ok_iff.mpr ⟨content, trailing ++ missing, contentEq, by rw [split, List.append_assoc]⟩
  rw [decode_of_encode encoded current] at read
  split at read
  · next same =>
    cases read
    subst same
    have artifactEq : artifact = stampBytes stamp ++ content := by
      rw [encode?, contentEq] at encoded
      exact (Option.some.inj encoded).symm
    have nothing : trailing ++ missing = [] := by
      rw [split, artifactEq, List.append_assoc] at whole
      exact List.append_cancel_left (whole.trans (List.append_nil _).symm)
    rw [← whole, (List.append_eq_nil_iff.mp nothing).2, List.append_nil]
  · cases read

theorem exists_error_of_not_accepted {bytes : Bytes} {current : Int64}
    (refused : ∀ unit, decode bytes (.ok current) ≠ .ok unit) : ∃ error, decode bytes (.ok current) = .error error := by
  cases outcome : decode bytes (.ok current) with
  | error error => exact ⟨error, rfl⟩
  | ok unit => exact absurd outcome (refused unit)

/--
At a time, exactly those bytes are accepted for a unit that start with the stamp of the time and the
unit as it is written. No artifact is accepted in part, and everything else is an error.
-/
theorem decode_accepts_only_artifacts (bytes : Bytes) (current : Int64) :
    (∀ unit, decode bytes (.ok current) = .ok unit ↔
      ∃ content trailing, encodeUnit? unit = some content ∧ bytes = stampBytes current ++ content ++ trailing) ∧
    (∀ stamp unit artifact, encode? stamp unit = some artifact → bytes <+: artifact → bytes ≠ artifact →
      ∃ error, decode bytes (.ok current) = .error error) ∧
    ((¬ ∃ unit content trailing, encodeUnit? unit = some content ∧
        bytes = stampBytes current ++ content ++ trailing) →
      ∃ error, decode bytes (.ok current) = .error error) := by
  refine ⟨fun unit => decode_eq_ok_iff, ?_, ?_⟩
  · intro stamp unit artifact encoded start torn
    apply exists_error_of_not_accepted
    intro found accepted
    exact torn (eq_of_decode_beginning encoded start accepted)
  · intro other
    apply exists_error_of_not_accepted
    intro found accepted
    exact other ⟨found, encode_of_decode accepted⟩

/-- An artifact without its last byte is refused, though its stamp is right. -/
theorem nestedUnit_torn :
    let artifact := (encode? (-1) (nestedUnit ⟨"a.sk"⟩ .none)).getD []
    encode? (-1) (nestedUnit ⟨"a.sk"⟩ .none) = some artifact ∧ artifact.dropLast ≠ artifact ∧
      ∃ error, decode artifact.dropLast (.ok (-1)) = .error error := by
  intro artifact
  have written : encode? (-1) (nestedUnit ⟨"a.sk"⟩ .none) = some artifact := by decide +kernel
  have torn : artifact.dropLast ≠ artifact := by decide +kernel
  exact ⟨written, torn,
    (decode_accepts_only_artifacts artifact.dropLast (-1)).2.1 (-1) (nestedUnit ⟨"a.sk"⟩ .none) artifact
    written ( List.dropLast_prefix artifact) torn⟩

end Artifact

end TriggerScript
