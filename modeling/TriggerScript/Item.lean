import TriggerScript.Payload

/-!
# Items and blocks

A block is a sequence of items. An item is a statement, or it directs the flow and owns further
blocks: a conditional with or without another branch, a loop over values, or a loop on a condition.
-/

namespace TriggerScript

structure Statement where
  source : String
  /-- Whether running the statement suspends the trigger. -/
  suspends : Bool
  payload : Payload
deriving DecidableEq, Repr, Inhabited

structure Condition where
  source : String
  payload : Payload
deriving DecidableEq, Repr, Inhabited

structure Expression where
  source : String
  /-- Whether the expression yields one value at most, so that there is nothing to loop over. -/
  single : Bool
  returnType : String
  payload : Payload
deriving DecidableEq, Repr, Inhabited

inductive Item where
  | statement (statement : Statement)
  | conditional (condition : Condition) (body : List Item)
  | choice (condition : Condition) (body other : List Item)
  | loop (iterable : Expression) (body : List Item)
  | while (condition : Condition) (body : List Item)
deriving Inhabited

abbrev Block := List Item

/-! ## Equality -/

mutual

def Item.same : Item → Item → Bool
  | .statement left, .statement right => left = right
  | .conditional condition body, .conditional condition' body' =>
    condition = condition' && Block.same body body'
  | .choice condition body other, .choice condition' body' other' =>
    condition = condition' && Block.same body body' && Block.same other other'
  | .loop iterable body, .loop iterable' body' => iterable = iterable' && Block.same body body'
  | .while condition body, .while condition' body' =>
    condition = condition' && Block.same body body'
  | _, _ => false
termination_by structural item => item

def Block.same : Block → Block → Bool
  | [], [] => true
  | left :: lefts, right :: rights => left.same right && Block.same lefts rights
  | _, _ => false
termination_by structural block => block

end

mutual

theorem Item.same_iff : ∀ left right : Item, left.same right = true ↔ left = right
  | .statement _, right => by cases right <;> simp [Item.same]
  | .conditional _ body, right => by cases right <;> simp [Item.same, Block.same_iff body]
  | .choice _ body other, right => by
    cases right <;> simp [Item.same, Block.same_iff body, Block.same_iff other, and_assoc]
  | .loop _ body, right => by cases right <;> simp [Item.same, Block.same_iff body]
  | .while _ body, right => by cases right <;> simp [Item.same, Block.same_iff body]

theorem Block.same_iff : ∀ left right : Block, Block.same left right = true ↔ left = right
  | [], right => by cases right <;> simp [Block.same]
  | item :: rest, right => by
    cases right <;> simp [Block.same, Item.same_iff item, Block.same_iff rest]

end

instance : DecidableEq Item := fun left right =>
  decidable_of_iff (left.same right = true) (Item.same_iff left right)

end TriggerScript
