import Forex.Close.CloseTrade

/-!
What the forced close of a ladder trade records against what its legs
confirmed. The loop over the legs is exact: a leg is marked closed, and its
profit added, only when its own ticket was confirmed. The parent is not: it is
closed in full after the loop, whatever the legs answered.
-/

namespace Forex
open Support

section Sums
variable (row : Trade) (reply : LadderLeg → Reply)

def confirmedPnl (legs : List LadderLeg) : ℚ :=
  (legs.map fun leg => ((legClosed reply leg).map (legPnl row leg)).getD 0).sum

def confirmedLegLots (legs : List LadderLeg) : ℚ :=
  (legs.map fun leg => ((legClosed reply leg).map fun _ => leg.lots).getD 0).sum

def AllConfirmed (legs : List LadderLeg) : Prop :=
  ∀ leg ∈ legs, leg.isOpen = true → (legClosed reply leg).isSome = true

instance (legs : List LadderLeg) : Decidable (AllConfirmed reply legs) :=
  inferInstanceAs (Decidable (∀ leg ∈ legs, _))

end Sums

/-- The ladder close records no more than its legs confirmed. -/
structure LadderOnlyConfirmed (row : Trade) (reply : LadderLeg → Reply) (db db' : Db) : Prop where
  legs : ∀ leg ∈ db.legs.rows,
    (leg.tradeId = row.tradeId → legClosed reply leg = none) → leg ∈ db'.legs.rows
  others : ∀ other, other ≠ row.tradeId → db'.getTrade other = db.getTrade other
  balance : db'.balance =
    db.balance + confirmedPnl row reply (getLadderLegs db row.tradeId)
  booked : db'.bookedLots row.tradeId =
    db.bookedLots row.tradeId + confirmedLegLots reply (getLadderLegs db row.tradeId)
  parent : ∃ t, db'.getTrade row.tradeId = some t ∧
    t.netPnl = row.netPnl + confirmedPnl row reply (getLadderLegs db row.tradeId) ∧
    (¬ AllConfirmed reply (getLadderLegs db row.tradeId) →
      t.isOpen = true ∧ t.remainingLots =
        row.remainingLots - confirmedLegLots reply (getLadderLegs db row.tradeId))

theorem isOpen_of_legClosed {reply : LadderLeg → Reply} {leg : LadderLeg}
    (h : (legClosed reply leg).isSome = true) : leg.isOpen = true := by
  rw [legClosed] at h
  cases isOpen : leg.isOpen with
  | true => rfl
  | false => simp [isOpen] at h

section Loop
variable (row : Trade) (reply : LadderLeg → Reply) (now : ℚ)

/-- The loop over the legs adds up the confirmed profits and leaves the trades,
the partial closes and the balance alone. -/
theorem foldl_closeLeg (legs : List LadderLeg) (sums : LadderSums) :
    let out := legs.foldl (closeLeg row reply now) sums
    out.db.trades = sums.db.trades ∧ out.db.partials = sums.db.partials ∧
      out.db.balance = sums.db.balance ∧
      out.totalPnl = sums.totalPnl + confirmedPnl row reply legs ∧
      out.closedAny = (sums.closedAny || legs.any fun leg => (legClosed reply leg).isSome) := by
  induction legs generalizing sums with
  | nil => simp [confirmedPnl]
  | cons leg legs ih =>
      obtain ⟨trades, partials, balance, total, closedAny⟩ := ih (closeLeg row reply now sums leg)
      simp only [List.foldl_cons, List.any_cons]
      rw [trades, partials, balance, total, closedAny]
      cases answer : legClosed reply leg with
      | none => simp [closeLeg, answer, confirmedPnl]
      | some r =>
          refine ⟨?_, ?_, ?_, ?_, ?_⟩ <;>
            simp [closeLeg, answer, closeLadderLeg, confirmedPnl, add_assoc]

theorem mem_foldl_closeLeg {leg : LadderLeg} (legs : List LadderLeg) (sums : LadderSums)
    (other : ∀ l ∈ legs, (legClosed reply l).isSome = true → l.id ≠ leg.id)
    (here : leg ∈ sums.db.legs.rows) :
    leg ∈ (legs.foldl (closeLeg row reply now) sums).db.legs.rows := by
  induction legs generalizing sums with
  | nil => exact here
  | cons l legs ih =>
      apply ih
      · intro m hm
        exact other m (List.mem_cons_of_mem l hm)
      · cases answer : legClosed reply l with
        | none =>
            simp only [closeLeg, answer]
            exact here
        | some r =>
            have ne : leg.id ≠ l.id :=
              (other l List.mem_cons_self (by rw [answer]; rfl)).symm
            simp only [closeLeg, answer, closeLadderLeg]
            exact Table.mem_update.mpr ⟨leg, here, by rw [if_neg ne]⟩

end Loop

theorem mem_getLadderLegs {db : Db} {tradeId : String} {leg : LadderLeg} :
    leg ∈ getLadderLegs db tradeId ↔ leg ∈ db.legs.rows ∧ leg.tradeId = tradeId := by
  rw [getLadderLegs]
  rw [List.mem_insertionSort, List.mem_filter, decide_eq_true_eq]

theorem openLots_eq_confirmed {reply : LadderLeg → Reply} {legs : List LadderLeg}
    (all : AllConfirmed reply legs) : openLots legs = confirmedLegLots reply legs := by
  induction legs with
  | nil => rfl
  | cons leg legs ih =>
      have rest := ih fun l hl => all l (List.mem_cons_of_mem leg hl)
      rw [openLots, confirmedLegLots] at rest ⊢
      cases answer : legClosed reply leg with
      | some r =>
          have isOpen : leg.isOpen = true := isOpen_of_legClosed (by rw [answer]; rfl)
          simp [isOpen, answer, rest]
      | none =>
          have shut : leg.isOpen = false := by
            cases isOpen : leg.isOpen with
            | false => rfl
            | true =>
                have confirmed := all leg List.mem_cons_self isOpen
                rw [answer] at confirmed
                exact absurd confirmed (by decide)
          simp [shut, answer, rest]

theorem closeAllLadderLegs_spec (row : Trade) (reply : LadderLeg → Reply) (now : ℚ) (db : Db)
    (tradeId : String) (legs : List LadderLeg) (reason : String) :
    let db' := closeAllLadderLegs row reply now db tradeId legs reason
    let any := legs.any fun leg => (legClosed reply leg).isSome
    ∃ last,
      db'.trades = db.trades.update tradeId
        (Trade.closeLadder now last (confirmedPnl row reply legs) reason) ∧
      db'.legs =
        (legs.foldl (closeLeg row reply now) ⟨db, 0, ladderStartPrice row, false⟩).db.legs ∧
      db'.balance = db.balance + (if any then confirmedPnl row reply legs else 0) ∧
      db'.partials = db.partials ++
        (if any then
          [⟨tradeId, now, openLots legs, last, confirmedPnl row reply legs, reason⟩]
        else []) := by
  intro db' any
  let sums := legs.foldl (closeLeg row reply now) ⟨db, 0, ladderStartPrice row, false⟩
  obtain ⟨trades, partials, balance, total, closedAny⟩ :=
    foldl_closeLeg row reply now legs ⟨db, 0, ladderStartPrice row, false⟩
  rw [Bool.false_or] at closedAny
  rw [zero_add] at total
  have book : db' = applyLadderClose sums.db tradeId any (openLots legs) sums.lastPrice
      (confirmedPnl row reply legs) reason row.signalId now := by
    simp only [any]
    rw [← total, ← closedAny]
    rfl
  have write := applyLadderClose_spec sums.db tradeId any (openLots legs) sums.lastPrice
    (confirmedPnl row reply legs) reason row.signalId now
  rw [book]
  refine ⟨sums.lastPrice, ?_, write.legs, ?_, ?_⟩
  · rw [write.trades, trades]
  · rw [write.balance, balance]
  · rw [write.partials, partials]

section Result
variable {db : Db} {row : Trade} (reply : LadderLeg → Reply) (now : ℚ) (reason : String)

theorem closeAllLadderLegs_parent (found : db.getTrade row.tradeId = some row) :
    ∃ t, (closeAllLadderLegs row reply now db row.tradeId (getLadderLegs db row.tradeId)
        reason).getTrade row.tradeId = some t ∧ t.isOpen = false ∧
      t.netPnl = row.netPnl + confirmedPnl row reply (getLadderLegs db row.tradeId) := by
  obtain ⟨last, trades, _⟩ := closeAllLadderLegs_spec row reply now db row.tradeId
    (getLadderLegs db row.tradeId) reason
  rw [Db.getTrade, trades, Table.find_update_self, ← Db.getTrade, found]
  exact ⟨_, rfl, rfl, rfl⟩

theorem closeAllLadderLegs_onlyConfirmed_iff (found : db.getTrade row.tradeId = some row)
    (leg : (getLadderLegs db row.tradeId).any LadderLeg.isOpen = true) :
    LadderOnlyConfirmed row reply db
        (closeAllLadderLegs row reply now db row.tradeId (getLadderLegs db row.tradeId) reason) ↔
      AllConfirmed reply (getLadderLegs db row.tradeId) := by
  obtain ⟨t, parent, shut, net⟩ := closeAllLadderLegs_parent reply now reason found
  constructor
  · intro only
    by_contra some
    obtain ⟨s, same, _, still⟩ := only.parent
    have eq : s = t := Option.some.inj (same.symm.trans parent)
    rw [eq, shut] at still
    exact absurd (still some).1 (by decide)
  · intro all
    have any : ((getLadderLegs db row.tradeId).any fun l => (legClosed reply l).isSome) = true := by
      obtain ⟨l, hl, isOpen⟩ := List.any_eq_true.mp leg
      exact List.any_eq_true.mpr ⟨l, hl, all l hl isOpen⟩
    obtain ⟨last, trades, legs, balance, partials⟩ := closeAllLadderLegs_spec row reply now db
      row.tradeId (getLadderLegs db row.tradeId) reason
    rw [any, if_pos rfl] at balance partials
    refine ⟨?_, ?_, balance, ?_, ?_⟩
    · intro l hl unconfirmed
      rw [legs]
      apply mem_foldl_closeLeg row reply now _ _ _ hl
      intro m hm confirmed same
      obtain ⟨here, mine⟩ := mem_getLadderLegs.mp hm
      have eq : m = l := Table.eq_of_mem_of_key here hl same
      rw [eq] at mine confirmed
      rw [unconfirmed mine] at confirmed
      exact absurd confirmed (by decide)
    · intro other ne
      rw [Db.getTrade, trades]
      exact Table.find_update_of_ne _ _ ne
    · rw [bookedLots_append db _ _ _ partials, if_pos rfl]
      exact congrArg _ (openLots_eq_confirmed all)
    · exact ⟨t, parent, net, fun missing => absurd all missing⟩

end Result
end Forex
