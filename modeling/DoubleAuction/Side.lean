/-! # The two sides of the book

Bids rest on the buy side and escrow the first currency; asks rest on the sell side and escrow
the second. Whatever comes once per side (heaps, currencies, ledgers) is a `Sided` pair, read and
replaced by side.
-/

namespace DoubleAuction

/-- Which side of the book an order rests on. -/
inductive Side where
  | buy
  | sell
  deriving DecidableEq, Repr

namespace Side

/-- The word an order is announced with. -/
def label : Side → String
  | buy => "BUY"
  | sell => "SELL"

end Side

/-- One value for each side of the book. -/
structure Sided (α : Type u) where
  buy : α
  sell : α
  deriving DecidableEq, Repr

namespace Sided

variable {α : Type u} {β : Type v}

/-- The value of one side. -/
def get (pair : Sided α) : Side → α
  | .buy => pair.buy
  | .sell => pair.sell

/-- Replaces the value of one side. -/
def set (pair : Sided α) (side : Side) (value : α) : Sided α :=
  match side with
  | .buy => { pair with buy := value }
  | .sell => { pair with sell := value }

/-- Computes the two values from the side. -/
def ofFn (f : Side → α) : Sided α := ⟨f .buy, f .sell⟩

/-- Applies a function to both values. -/
def map (f : α → β) (pair : Sided α) : Sided β := ⟨f pair.buy, f pair.sell⟩

@[simp] theorem get_ofFn (f : Side → α) (side : Side) : (ofFn f).get side = f side := by
  cases side <;> rfl

@[simp] theorem get_map (f : α → β) (pair : Sided α) (side : Side) :
    (pair.map f).get side = f (pair.get side) := by
  cases side <;> rfl

@[simp] theorem get_set_self (pair : Sided α) (side : Side) (value : α) :
    (pair.set side value).get side = value := by
  cases side <;> rfl

/-- Replacing one value leaves the other. -/
theorem get_set (pair : Sided α) (side other : Side) (value : α) :
    (pair.set side value).get other = if other = side then value else pair.get other := by
  cases side <;> cases other <;> rfl

/-- Two pairs are equal when they agree on both sides. -/
@[ext] theorem ext {left right : Sided α} (agree : ∀ side, left.get side = right.get side) :
    left = right := by
  cases left
  cases right
  have buy := agree .buy
  have sell := agree .sell
  simp only [get] at buy sell
  rw [buy, sell]

end Sided

end DoubleAuction
