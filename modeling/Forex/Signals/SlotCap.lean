import Forex.Signals.Desk

/-!
The cap on trade slots. The count on which claims and gates decide sees an open
in flight only through its signal: it has to be `activating`, to be no other
open's signal, and to have no working order. While every open in flight is
counted that way, what the count admits fits under the cap.
-/

namespace Forex
open Support

def Scope.book : Scope where
  mine _ := true
  live status := decide (status = .working)
  working := rfl
  filled := rfl
  cancelled := rfl
  expired := rfl

namespace Desk
variable (s : Desk)

/-- Open trades, working orders and opens in flight; an open whose own order is
already working is one setup with it. -/
def exposure : ℕ :=
  s.db.openSlots + s.db.orders.count PendingOrder.isWorking +
    (s.flights.filter fun f => !s.db.hasWorkingOrder f.signalId).length

def sees (f : Flight) : Bool :=
  (s.db.signals.find f.signalId).any Signal.isActivating && !s.db.hasWorkingOrder f.signalId

/-- The slot count sees every open in flight, and none of them twice. -/
def counted : Bool :=
  decide (s.flights.map Flight.signalId).Nodup && s.flights.all s.sees

/-- The unclaimed gate leaves out its own signal, so nothing may stand there. -/
def unencumbered (signalId : String) : Bool :=
  !s.db.hasWorkingOrder signalId && s.flights.all fun f => decide (f.signalId ≠ signalId)

def withinCap (cap : ℕ) : DeskStep → Bool
  | .claim _ _ | .claimResting _ _ => s.counted
  | .openUnclaimed signalId => s.counted && s.unencumbered signalId
  | .placePending _ _ => s.counted && decide (s.db.tradeSlotsUsed none < cap)
  | .rearm tradeId _ =>
      (s.db.orders.find tradeId).all PendingOrder.isWorking ||
        (s.counted && decide (s.db.tradeSlotsUsed none < cap))
  | .fill tradeId _ _ _ => (s.db.orders.find tradeId).all PendingOrder.isWorking
  | _ => true

variable {s}

theorem flights_length_le (counted : s.counted = true) {excluded : Option String}
    (others : ∀ f ∈ s.flights, Db.notExcluded excluded f.signalId = true) :
    s.flights.length ≤ s.db.signals.count fun sig =>
      sig.isActivating && Db.notExcluded excluded sig.signalId &&
        !s.db.hasWorkingOrder sig.signalId := by
  rw [Desk.counted, Bool.and_eq_true, decide_eq_true_eq, List.all_eq_true] at counted
  obtain ⟨distinct, seen⟩ := counted
  rw [Table.count_eq_countP, List.countP_eq_length_filter]
  have within : s.flights.map Flight.signalId ⊆ ((s.db.signals.rows.filter fun sig =>
      sig.isActivating && Db.notExcluded excluded sig.signalId &&
        !s.db.hasWorkingOrder sig.signalId).map Signal.signalId) := by
    intro signalId mem
    obtain ⟨f, inFlight, eq⟩ := List.mem_map.mp mem
    have visible := seen f inFlight
    rw [sees, Bool.and_eq_true, Option.any_eq_true] at visible
    obtain ⟨⟨sig, found, activating⟩, free⟩ := visible
    obtain ⟨stored, key⟩ := Table.find_eq_some_iff.mp found
    refine List.mem_map.mpr ⟨sig, List.mem_filter.mpr ⟨stored, ?_⟩, key.trans eq⟩
    rw [activating, key, others f inFlight, free]
    rfl
  have le := (List.subperm_of_subset distinct within).length_le
  rwa [List.length_map, List.length_map] at le

theorem load_book (s : Desk) :
    Scope.book.load s =
      s.db.openSlots + s.db.orders.count PendingOrder.isWorking + s.flights.length := by
  have trades : Scope.book.trade = Trade.isOpen := by
    funext t
    exact Bool.and_true _
  have orders : Scope.book.order = PendingOrder.isWorking := by
    funext o
    exact Bool.and_true _
  have flights : Scope.book.flightLoad s.flights = s.flights.length := by
    simp [Scope.flightLoad, Scope.book]
  rw [Scope.load, Scope.dbLoad, trades, orders, flights]
  rfl

theorem exposure_le_load (s : Desk) : s.exposure ≤ Scope.book.load s := by
  rw [load_book, exposure]
  exact Nat.add_le_add_left List.filter_sublist.length_le _

/-- The slot count covers the load, its own signal left out or not. -/
theorem load_le_slots (counted : s.counted = true) {excluded : Option String}
    (others : ∀ f ∈ s.flights, Db.notExcluded excluded f.signalId = true)
    (resting : ∀ o ∈ s.db.orders.rows, o.isWorking = true →
      Db.notExcluded excluded o.signalId = true) :
    Scope.book.load s ≤ s.db.tradeSlotsUsed excluded := by
  have flights := flights_length_le counted others
  have orders : s.db.orders.count (fun o => o.isWorking && Db.notExcluded excluded o.signalId) =
      s.db.orders.count PendingOrder.isWorking := by
    rw [Table.count_eq_countP, Table.count_eq_countP]
    refine List.countP_congr ?_
    intro o mem
    rw [Bool.and_eq_true]
    exact ⟨fun h => h.1, fun h => ⟨h, resting o mem h⟩⟩
  rw [load_book, Db.tradeSlotsUsed, Db.notYetOpenSlots, orders]
  omega

theorem load_le_slots_none (counted : s.counted = true) :
    Scope.book.load s ≤ s.db.tradeSlotsUsed none :=
  load_le_slots counted (fun _ _ => rfl) (fun _ _ _ => rfl)

theorem load_le_slots_own (counted : s.counted = true) {signalId : String}
    (free : s.unencumbered signalId = true) :
    Scope.book.load s ≤ s.db.tradeSlotsUsed (some signalId) := by
  rw [unencumbered, Bool.and_eq_true, List.all_eq_true] at free
  obtain ⟨bare, others⟩ := free
  refine load_le_slots counted ?_ ?_
  · intro f mem
    simpa [Db.notExcluded] using others f mem
  · intro o mem working
    rw [Db.hasWorkingOrder, Bool.not_eq_true', List.any_eq_false] at bare
    have other := bare o mem
    rw [working, Bool.true_and, decide_eq_true_eq] at other
    simpa [Db.notExcluded] using other

theorem gain_of_working {o : PendingOrder} (h : o.isWorking = true) :
    (Scope.book.mine o.signalId && !Scope.book.live o.status).toNat = 0 := by
  have live : Scope.book.live o.status = true := h
  rw [live]
  rfl

theorem gain_book_le (cap : ℕ) (a : DeskStep) (ok : s.withinCap cap a = true)
    (start : Scope.book.load s ≤ cap) : Scope.book.load s + Scope.book.gain cap s a ≤ cap := by
  cases a with
  | claim signalId now | claimResting signalId now =>
      rw [Scope.gain]
      split_ifs with won
      · exact Nat.lt_of_le_of_lt (load_le_slots_none ok) (Db.claimSignalActivation_isSome.mp won).2
      · exact start
  | openUnclaimed signalId =>
      rw [withinCap, Bool.and_eq_true] at ok
      rw [Scope.gain]
      split_ifs with room
      · exact Nat.lt_of_le_of_lt (load_le_slots_own ok.1 ok.2) room
      · exact start
  | placePending sig o =>
      rw [withinCap, Bool.and_eq_true, decide_eq_true_eq] at ok
      exact Nat.lt_of_le_of_lt (load_le_slots_none ok.1) ok.2
  | rearm tradeId ticket =>
      rw [withinCap, Bool.or_eq_true, Bool.and_eq_true, decide_eq_true_eq] at ok
      rw [Scope.gain]
      cases found : s.db.orders.find tradeId with
      | none => exact start
      | some o =>
          cases ok with
          | inl working =>
              rw [found, Option.all_some] at working
              dsimp only
              rw [gain_of_working working]
              exact start
          | inr room =>
              have fits := Nat.lt_of_le_of_lt (load_le_slots_none room.1) room.2
              exact Nat.le_trans (Nat.add_le_add_left (Bool.toNat_le _) _) fits
  | fill tradeId ticket fillPrice now =>
      rw [withinCap] at ok
      rw [Scope.gain]
      cases found : s.db.orders.find tradeId with
      | none => exact start
      | some o =>
          rw [found, Option.all_some] at ok
          dsimp only
          rw [gain_of_working ok]
          exact start
  | withdraw tradeId =>
      rw [Scope.gain]
      cases s.db.orders.find tradeId <;> simpa [Scope.book] using start
  | _ => exact start

theorem load_book_step (cap : ℕ) (a : DeskStep) (ok : s.withinCap cap a = true)
    (start : Scope.book.load s ≤ cap) : Scope.book.load (s.step cap a) ≤ cap :=
  (Scope.book.load_step cap s a).trans (gain_book_le cap a ok start)

def Apart (s : Desk) : Prop :=
  ∀ f ∈ s.flights, s.db.hasWorkingOrder f.signalId = false

instance (s : Desk) : Decidable s.Apart :=
  inferInstanceAs (Decidable (∀ f ∈ s.flights, s.db.hasWorkingOrder f.signalId = false))

theorem slots_within_cap (cap : ℕ) (s : Desk) (start : s.exposure ≤ cap) (apart : s.Apart)
    (run : List DeskStep) (ok : Meets (step cap) (fun s a => s.withinCap cap a = true) s run) :
    ∀ t ∈ states (step cap) s run, t.exposure ≤ cap := by
  have all : (s.flights.filter fun f => !s.db.hasWorkingOrder f.signalId) = s.flights := by
    refine List.filter_eq_self.mpr ?_
    intro f mem
    rw [apart f mem]
    rfl
  have load : Scope.book.load s ≤ cap := by
    rw [load_book, ← all]
    exact start
  intro t mem
  have kept := states_invariant (I := fun s => Scope.book.load s ≤ cap)
    (fun s a h ok => load_book_step cap a ok h) load ok t mem
  exact (exposure_le_load t).trans kept

def oneResting : Desk where
  db :=
    { trades := Table.empty
      partials := []
      legs := Table.empty
      signals := ⟨[⟨"s1", .pending, 0, none⟩, ⟨"s2", .pending, 0, none⟩], by decide⟩
      orders := ⟨[.resting "o1" "s1"], by decide⟩
      balance := 1000
      moveSlToBeAfterTp1 := true }
  flights := []

def orderThenTrade : List DeskStep :=
  [.fill "o1" (some 7001) 2000 10, .claim "s2" 20,
    .close (.fullClose ⟨(PendingOrder.resting "o1" "s1").filledTrade (some 7001) 2000 10, 2005,
      "TP1", 30⟩),
    .claim "s2" 40, .gate 0, .succeed 0 Trade.oneLot]

theorem slots_within_cap_orderThenTrade :
    (orderThenTrade.foldl (step 1) oneResting).exposure = 1 ∧
      ∀ t ∈ states (step 1) oneResting orderThenTrade, t.exposure ≤ 1 := by
  refine ⟨by decide +kernel, ?_⟩
  exact slots_within_cap 1 oneResting (by decide +kernel) (by decide +kernel) orderThenTrade
    (by decide +kernel)

/-- A withdrawn order holds no slot, and comes back without asking for one. -/
theorem rearm_exceeds_cap :
    ¬ ∀ t ∈ states (step 1) oneResting
        [.withdraw "o1", .claim "s2" 10, .gate 0, .succeed 0 Trade.oneLot,
          .rearm "o1" (some 7002)],
      t.exposure ≤ 1 := by
  decide +kernel

end Desk

end Forex
