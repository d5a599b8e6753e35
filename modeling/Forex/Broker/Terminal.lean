import Mathlib.Data.Rat.Defs

/-!
What the MT5 bridge answers. A read gives a value, `None` ("could not look"),
or raises; the three are kept apart because every poller collapses them in its
own way. Positions and deals carry the columns the bridge serialises and the
services read.
-/

namespace Forex

inductive Direction where
  | buy
  | sell
deriving DecidableEq, Repr

def Direction.sign : Direction → ℚ
  | .buy => 1
  | .sell => -1

structure Tick where
  bid : ℚ
  ask : ℚ
deriving DecidableEq, Repr

/-- The price at which a position of this direction would be closed. -/
def Tick.closePrice (tick : Tick) : Direction → ℚ
  | .buy => tick.bid
  | .sell => tick.ask

inductive Read (α : Type) where
  | value (a : α)
  | none
  | raised
deriving DecidableEq, Repr

namespace Read
variable {α : Type}

/-- `await read() or []`; an exception is not caught here. -/
def orEmpty : Read (List α) → Option (List α)
  | .value as => some as
  | .none => some []
  | .raised => Option.none

/-- The read inside `try … except: pass` over an empty default. -/
def orEmptyCaught (r : Read (List α)) : List α :=
  r.orEmpty.getD []

def Succeeded : Read α → Prop
  | .value _ => True
  | .none => False
  | .raised => False

instance decidableSucceeded : ∀ r : Read α, Decidable r.Succeeded
  | .value _ => isTrue trivial
  | .none => isFalse id
  | .raised => isFalse id

end Read

structure Position where
  ticket : ℤ
  direction : Direction
  volume : ℚ
  openPrice : ℚ
  currentPrice : ℚ
  sl : ℚ
  tp : ℚ
  profit : ℚ
  openTime : ℚ
  comment : String
deriving DecidableEq, Repr

/-- A deal; `entry` is 0 for an opening deal, 1 for a closing one, 2 for both. -/
structure Deal where
  ticket : ℤ
  order : ℤ
  positionId : ℤ
  entry : ℤ
  dealType : ℤ
  volume : ℚ
  price : ℚ
  profit : ℚ
  swap : ℚ
  fee : ℚ
  time : ℚ
  comment : String
deriving DecidableEq, Repr

def Deal.opening (d : Deal) : Bool := decide (d.entry = 0)

def Deal.closing (d : Deal) : Bool := decide (d.entry = 1 ∨ d.entry = 2)

def Deal.money (d : Deal) : ℚ := d.profit + d.swap + d.fee

end Forex
