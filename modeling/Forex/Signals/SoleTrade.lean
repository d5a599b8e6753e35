import Forex.Signals.Desk

/-!
One trade for one signal. Neither the claim nor the gate asks whether the
signal has already led to a trade or an order; the result is for runs in which
every open starts from a signal that has none, and in which only orders that
are alive fill, are withdrawn or are re-armed.
-/

namespace Forex
open Support

def OrderStatus.isAlive (status : OrderStatus) : Bool :=
  decide (status = .working ∨ status = .withdrawn)

/-- One signal, and orders that rest at the broker or may come back to it. -/
def Scope.ofSignal (signalId : String) : Scope where
  mine other := decide (other = signalId)
  live := OrderStatus.isAlive
  working := rfl
  filled := rfl
  cancelled := rfl
  expired := rfl

namespace Desk
variable (s : Desk) (signalId : String)

def openTradesOf : ℕ := s.db.trades.count fun t => t.isOpen && decide (t.signalId = signalId)

def workingOrdersOf : ℕ :=
  s.db.orders.count fun o => o.isWorking && decide (o.signalId = signalId)

def OneTrade : Prop :=
  s.openTradesOf signalId ≤ 1 ∧ (s.openTradesOf signalId = 0 ∨ s.workingOrdersOf signalId = 0)

instance : Decidable (s.OneTrade signalId) := inferInstanceAs (Decidable (_ ∧ _))

def unused : Bool := decide ((Scope.ofSignal signalId).load s = 0)

def orderAlive (tradeId : String) : Bool :=
  (s.db.orders.find tradeId).all fun o => o.status.isAlive

def soleStart : DeskStep → Bool
  | .claim signalId _ | .claimResting signalId _ | .openUnclaimed signalId => s.unused signalId
  | .placePending sig _ => s.unused sig.signalId
  | .fill tradeId _ _ _ | .rearm tradeId _ | .withdraw tradeId => s.orderAlive tradeId
  | _ => true

/-- The signal has one thing at most: a trade, an order or an open in flight. -/
def Sole : Prop := (Scope.ofSignal signalId).load s ≤ 1

variable {s signalId}

theorem Sole.oneTrade (h : s.Sole signalId) : s.OneTrade signalId := by
  have alive : s.workingOrdersOf signalId ≤ s.db.orders.count (Scope.ofSignal signalId).order := by
    rw [workingOrdersOf, Table.count_eq_countP, Table.count_eq_countP]
    refine List.countP_mono_left ?_
    intro o _ working
    rw [Bool.and_eq_true] at working
    have live : o.status.isAlive = true := by
      simp [OrderStatus.isAlive, of_decide_eq_true working.1]
    exact Bool.and_eq_true_iff.mpr ⟨live, working.2⟩
  have trades : s.db.trades.count (Scope.ofSignal signalId).trade = s.openTradesOf signalId := rfl
  rw [Sole, Scope.load, Scope.dbLoad, trades] at h
  rw [OneTrade]
  omega

theorem load_mine_le {other : String} (unused : s.unused other = true)
    (h : s.Sole signalId) :
    (Scope.ofSignal signalId).load s + ((Scope.ofSignal signalId).mine other).toNat ≤ 1 := by
  by_cases same : other = signalId
  · subst same
    rw [of_decide_eq_true unused, Nat.zero_add]
    exact Bool.toNat_le _
  · have none : (Scope.ofSignal signalId).mine other = false := decide_eq_false same
    rw [none]
    exact h

theorem gain_of_alive {o : PendingOrder} (h : o.status.isAlive = true) (b : Bool) :
    (b && !(Scope.ofSignal signalId).live o.status).toNat = 0 := by
  have live : (Scope.ofSignal signalId).live o.status = true := h
  rw [live, Bool.not_true, Bool.and_false]
  rfl

theorem gain_ofSignal_le (cap : ℕ) (a : DeskStep) (ok : s.soleStart a = true)
    (h : s.Sole signalId) :
    (Scope.ofSignal signalId).load s + (Scope.ofSignal signalId).gain cap s a ≤ 1 := by
  cases a with
  | claim other now | claimResting other now | openUnclaimed other =>
      rw [Scope.gain]
      split_ifs
      · exact load_mine_le ok h
      · exact h
  | placePending sig o => exact load_mine_le ok h
  | fill tradeId _ _ _ | rearm tradeId _ | withdraw tradeId =>
      rw [soleStart, orderAlive] at ok
      rw [Scope.gain]
      cases found : s.db.orders.find tradeId with
      | none => exact h
      | some o =>
          rw [found, Option.all_some] at ok
          dsimp only
          rw [gain_of_alive ok]
          exact h
  | _ => exact h

theorem Sole.step (cap : ℕ) (a : DeskStep) (ok : s.soleStart a = true) (h : s.Sole signalId) :
    (s.step cap a).Sole signalId :=
  ((Scope.ofSignal signalId).load_step cap s a).trans (gain_ofSignal_le cap a ok h)

theorem signal_opens_one_trade (cap : ℕ) (s : Desk) (start : ∀ signalId, s.Sole signalId)
    (run : List DeskStep) (ok : Meets (step cap) (fun s a => s.soleStart a = true) s run) :
    ∀ t ∈ states (step cap) s run, ∀ signalId, t.OneTrade signalId := by
  intro t mem signalId
  have kept := states_invariant (I := fun s => s.Sole signalId)
    (fun s a h ok => Sole.step cap a ok h) (start signalId) ok t mem
  exact kept.oneTrade

def oneQueued : Desk where
  db :=
    { trades := Table.empty
      partials := []
      legs := Table.empty
      signals := ⟨[⟨"s1", .pending, 0, none⟩], by decide⟩
      orders := Table.empty
      balance := 1000
      moveSlToBeAfterTp1 := true }
  flights := []

def rejectedThenOpened : List DeskStep :=
  [.claim "s1" 10, .gate 0, .reject 0, .release 20, .claim "s1" 30, .gate 0,
    .succeed 0 Trade.oneLot]

theorem signal_opens_one_trade_oneQueued :
    (rejectedThenOpened.foldl (step 2) oneQueued).db.trades.rows.length = 1 ∧
      ∀ t ∈ states (step 2) oneQueued rejectedThenOpened,
        ∀ signalId, t.OneTrade signalId := by
  refine ⟨by decide +kernel, ?_⟩
  exact signal_opens_one_trade 2 oneQueued (fun _ => Nat.zero_le 1) rejectedThenOpened
    (by decide +kernel)

/-- A signal with an open trade is claimed again; and a claim behind a resting
order is released by its age and opened at market. -/
theorem signal_opens_twice :
    (¬ ∀ t ∈ states (step 2) oneQueued
        [.claim "s1" 10, .gate 0, .succeed 0 Trade.oneLot, .claim "s1" 20, .gate 0,
          .succeed 0 { Trade.oneLot with tradeId := "t2" }],
      ∀ signalId, t.OneTrade signalId) ∧
    ¬ ∀ t ∈ states (step 2) oneQueued
        [.claimResting "s1" 10, .placeResting 0 (.resting "o1" "s1"), .release 1000,
          .claim "s1" 1010, .gate 0, .succeed 0 Trade.oneLot],
      ∀ signalId, t.OneTrade signalId := by
  constructor <;>
  · intro h
    have last := h _ (foldl_mem_states _ _ _) "s1"
    exact absurd last (by decide +kernel)

end Desk

end Forex
