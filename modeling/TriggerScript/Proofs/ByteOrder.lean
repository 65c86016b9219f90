import TriggerScript.Event
import TriggerScript.Text.Utf8

/-!
# Texts and the order of their bytes

Texts are compared character by character. UTF-8 keeps that order: whichever of two texts comes first, its
bytes come first too. So the names of event types are in the order of their bytes.
-/

namespace TriggerScript

namespace Text

/-- Some bytes come before others in the dictionary's order. -/
def BytesPrecede : List UInt8 → List UInt8 → Prop := List.Lex fun first second => first.toNat < second.toNat

theorem bytesPrecede_cons {first second : UInt8} {left right : List UInt8} :
    BytesPrecede (first :: left) (second :: right) ↔
      first.toNat < second.toNat ∨ first.toNat = second.toNat ∧ BytesPrecede left right := by
  constructor
  · intro ordered
    cases ordered with
    | rel less => exact .inl less
    | cons rest => exact .inr ⟨rfl, rest⟩
  · rintro (less | ⟨same, rest⟩)
    · exact .rel less
    · obtain rfl := UInt8.toNat_inj.mp same
      exact .cons rest

theorem bytesPrecede_append_left (shared : List UInt8) {left right : List UInt8}
    (ordered : BytesPrecede left right) : BytesPrecede (shared ++ left) (shared ++ right) := by
  induction shared with
  | nil => exact ordered
  | cons head rest inductionHypothesis => exact .cons inductionHypothesis

/-- The bytes of a smaller character come first, whatever follows them. -/
theorem bytesPrecede_of_char_lt {first second : Char} (less : first < second) (left right : List UInt8) :
    BytesPrecede (String.utf8EncodeChar first ++ left) (String.utf8EncodeChar second ++ right) := by
  have codes : first.val.toNat < second.val.toNat := UInt32.lt_iff_toNat_lt.mp less
  have bound : second.val.toNat < 0x110000 := by
    have valid := second.valid
    simp only [UInt32.isValidChar, Nat.isValidChar] at valid
    omega
  unfold String.utf8EncodeChar
  dsimp only
  generalize first.val.toNat = code at *
  generalize second.val.toNat = other at *
  -- The bytes hold the code's digits in base 64, which are taken off one after the other.
  have thousands (number : Nat) : number / 4096 = number / 64 / 64 := (Nat.div_div_eq_div_mul number 64 64).symm
  have highest (number : Nat) : number / 262144 = number / 64 / 64 / 64 := by
    rw [Nat.div_div_eq_div_mul, Nat.div_div_eq_div_mul]
  simp only [thousands, highest]
  -- A longer form has a greater first byte; within one form the digits decide.
  repeat' split
  all_goals
    simp only [List.cons_append, List.nil_append, bytesPrecede_cons, UInt8.toNat_ofNat']
    omega

/-! ## Texts -/

theorem toBytes_eq_flatMap (text : String) : toBytes text = text.toList.flatMap String.utf8EncodeChar := by
  have spelled : text.toByteArray = text.toList.utf8Encode := by
    rw [← String.toByteArray_ofList, String.ofList_toList]
  rw [toBytes, String.toUTF8, spelled, List.utf8Encode, List.toList_data_toByteArray]

theorem bytesPrecede_flatMap {left right : List Char} (ordered : List.Lex (· < ·) left right) :
    BytesPrecede (left.flatMap String.utf8EncodeChar) (right.flatMap String.utf8EncodeChar) := by
  induction ordered with
  | nil =>
    rw [List.flatMap_nil, List.flatMap_cons]
    -- No character is without bytes.
    obtain ⟨byte, rest, spelled⟩ := List.exists_cons_of_ne_nil String.utf8EncodeChar_ne_nil
    rw [spelled]
    exact .nil
  | rel less => exact bytesPrecede_of_char_lt less _ _
  | cons _ inductionHypothesis => exact bytesPrecede_append_left _ inductionHypothesis

/-- The bytes of a smaller text come first. -/
theorem bytesPrecede_of_lt {left right : String} (less : left < right) :
    BytesPrecede (toBytes left) (toBytes right) := by
  rw [toBytes_eq_flatMap, toBytes_eq_flatMap]
  exact bytesPrecede_flatMap less

end Text

/-! ## Event types -/

namespace EventType

theorem eq_of_name_eq {first second : EventType} (same : first.name = second.name) : first = second := by
  cases first
  cases second
  exact congrArg EventType.mk same

theorem atMost_trans (first second third : EventType) (lower : first.atMost second = true)
    (upper : second.atMost third = true) : first.atMost third = true :=
  Std.TransCmp.isLE_trans lower upper

theorem atMost_total (first second : EventType) : (first.atMost second || second.atMost first) = true := by
  unfold atMost
  have swapped : compare second.name first.name = (compare first.name second.name).swap :=
    Std.OrientedCmp.eq_swap
  rw [swapped]
  cases compare first.name second.name <;> rfl

theorem eq_of_atMost {first second : EventType} (lower : first.atMost second = true)
    (upper : second.atMost first = true) : first = second := by
  apply eq_of_name_eq
  exact Std.LawfulEqCmp.eq_of_compare (Std.OrientedCmp.isLE_antisymm lower upper)

/-- Of two event types the smaller one has the name whose bytes come first. -/
theorem bytesPrecede_of_atMost {first second : EventType} (lower : first.atMost second = true)
    (different : first ≠ second) : Text.BytesPrecede (Text.toBytes first.name) (Text.toBytes second.name) := by
  apply Text.bytesPrecede_of_lt
  -- The comparison is not `eq`, for the names differ.
  change (compareOfLessAndEq first.name second.name).isLE = true at lower
  unfold compareOfLessAndEq at lower
  split at lower
  · assumption
  · split at lower
    · next same => exact absurd (eq_of_name_eq same) different
    · cases lower

end EventType

end TriggerScript
