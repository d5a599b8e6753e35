import Forex.Reversal.Books
import Forex.Support.Run

/-!
The virtual balance against the rows: the starting balance, what the closed signals
have brought since the reporting epoch, and what is banked on the open ones. A
booking keeps the two together up to its rounding. A start of the process recomputes
the balance from the closed rows alone.
-/

namespace Forex
open Support

namespace ReSignal
variable {epoch : ℚ} {r : ReSignal}

/-- What the balance owes to a signal. -/
def worth (epoch : ℚ) (r : ReSignal) : ℚ := r.realised epoch + r.bankedOpen

/-- The amounts that count are in cents, and nothing is banked before the trigger. -/
structure Tidy (epoch : ℚ) (r : ReSignal) : Prop where
  realised : OnGrid 2 (r.realised epoch)
  banked : OnGrid 2 r.bankedOpen
  pending : r.status = .pending → r.partialBooked = 0

theorem realised_of_isOpen (isOpen : r.isOpen = true) : r.realised epoch = 0 := by
  rw [ReSignal.realised, if_neg]
  rintro ⟨closed, -⟩
  rw [ReRow.isOpen, closed] at isOpen
  exact absurd isOpen (by decide)

theorem worth_of_isOpen (isOpen : r.isOpen = true) : r.worth epoch = r.partialBooked := by
  rw [worth, realised_of_isOpen isOpen, bankedOpen, if_pos isOpen, zero_add]

theorem Tidy.cents (tidy : r.Tidy epoch) (isOpen : r.isOpen = true) : OnGrid 2 r.partialBooked := by
  have banked := tidy.banked
  rwa [bankedOpen, if_pos isOpen] at banked

/-- A change that leaves the status, the time of closing and the amounts alone. -/
theorem same_worth {f : Assign ReSignal.id} (status : (f r).status = r.status)
    (closeTime : (f r).closeTime = r.closeTime) (netPnl : (f r).netPnl = r.netPnl)
    (partialPnl : (f r).partialPnl = r.partialPnl) :
    (f r).realised epoch = r.realised epoch ∧ (f r).bankedOpen = r.bankedOpen := by
  constructor
  · rw [ReSignal.realised, ReSignal.realised, status, closeTime, netPnl]
  · rw [bankedOpen, bankedOpen, ReRow.isOpen, ReRow.isOpen, partialBooked, partialBooked, status,
      partialPnl]

end ReSignal

namespace ReBooks
variable (s : ReBooks)

def closedSince : ℚ := s.signals.total (ReSignal.realised s.epoch)

def bankedOpen : ℚ := s.signals.total ReSignal.bankedOpen

/-- The bookings of signals since the epoch. -/
def bookings : ℕ := s.log.countP fun e => e.signalId.isSome && decide (s.epoch ≤ e.ts)

/-- The balance is what the rows say, up to one cent for each booking. -/
def Conserved : Prop :=
  |s.virtualBalance - (startingBalance + s.closedSince + s.bankedOpen)| ≤ s.bookings / 100

/-- The reporting epoch opens: nothing has been closed since, and nothing is banked. -/
structure Opens : Prop where
  balance : s.virtualBalance = startingBalance
  past : s.epoch ≤ s.clock
  closed : ∀ r ∈ s.signals.rows, r.realised s.epoch = 0
  whole : ∀ r ∈ s.signals.rows, r.isOpen = true → r.partialBooked = 0

/-- What each operation keeps. -/
structure Sound : Prop where
  past : s.epoch ≤ s.clock
  cents : OnGrid 2 s.virtualBalance
  rows : ∀ r ∈ s.signals.rows, r.Tidy s.epoch

/-- No start of the process finds something banked on an open signal, unless the
balance is within a cent of what it recomputes; and what the broker closes has had
nothing banked. -/
def Careful (a : ℚ × BooksOp) : Prop :=
  match a.2 with
  | .restart =>
      s.bankedOpen = 0 ∨ |startingBalance + s.closedSince - s.virtualBalance| ≤ 1 / 100
  | .reconcile id _ _ =>
      ∀ row, s.signals.find id = some row → isMirrored row = true → row.partialBooked = 0
  | _ => True

instance : ∀ a, Decidable (s.Careful a)
  | (_, .restart) => inferInstanceAs (Decidable (_ ∨ _))
  | (_, .reconcile id _ _) =>
      inferInstanceAs (Decidable (∀ row ∈ s.signals.find id,
        isMirrored row = true → row.partialBooked = 0))
  | (_, .create _) | (_, .expire _) | (_, .trigger _ _) | (_, .record _ _ _ _)
  | (_, .manage _ _ _ _) => isTrue True.intro

instance : DecidablePred Conserved := fun _ => inferInstanceAs (Decidable (_ ≤ _))

/-- How far the balance is from the rows. -/
def drift : ℚ := s.virtualBalance - (startingBalance + s.signals.total (ReSignal.worth s.epoch))

/-- The books after a step: sound, on the same epoch, with this much more drift and this
many more bookings. -/
structure Moved (s t : ReBooks) (more : ℚ) (booked : ℕ) : Prop where
  sound : t.Sound
  epoch : t.epoch = s.epoch
  drift : t.drift = s.drift + more
  bookings : t.bookings = s.bookings + booked

variable {s}

theorem total_worth (t : Table ReSignal ReSignal.id) (epoch : ℚ) :
    t.total (ReSignal.worth epoch) =
      t.total (ReSignal.realised epoch) + t.total ReSignal.bankedOpen := by
  rw [Table.total, Table.total, Table.total]
  exact List.sum_map_add

theorem conserved_iff : s.Conserved ↔ |s.drift| ≤ s.bookings / 100 := by
  rw [Conserved, drift, total_worth, add_assoc]
  rfl

theorem Sound.moved_refl (sound : s.Sound) : s.Moved s 0 0 :=
  ⟨sound, rfl, (add_zero _).symm, rfl⟩

theorem Moved.trans {t u : ReBooks} {d e : ℚ} {m n : ℕ} (first : s.Moved t d m)
    (next : t.Moved u e n) : s.Moved u (d + e) (m + n) where
  sound := next.sound
  epoch := next.epoch.trans first.epoch
  drift := by rw [next.drift, first.drift, add_assoc]
  bookings := by rw [next.bookings, first.bookings, Nat.add_assoc]

/-- A write of one row. -/
theorem Sound.updateSignal (sound : s.Sound) {id : ℕ} {row : ReSignal} {f : Assign ReSignal.id}
    (found : s.signals.find id = some row) (tidy : (f row).Tidy s.epoch) {gain : ℚ}
    (worth : (f row).worth s.epoch = row.worth s.epoch + gain) :
    s.Moved (s.updateSignal id f) (-gain) 0 where
  sound :=
    { past := sound.past
      cents := sound.cents
      rows := Table.forall_update (fun r mem _ => sound.rows r mem) fun r here => by
        rw [found] at here
        exact Option.some.inj here ▸ tidy }
  epoch := rfl
  drift := by
    have exchange := Table.total_update found f (ReSignal.worth s.epoch)
    rw [worth] at exchange
    have total : (s.signals.update id f).total (ReSignal.worth s.epoch) =
        s.signals.total (ReSignal.worth s.epoch) + gain := by linarith
    change s.virtualBalance - (startingBalance +
      (s.signals.update id f).total (ReSignal.worth s.epoch)) = s.drift + -gain
    rw [total, ReBooks.drift]
    ring
  bookings := rfl

/-- A write that no amount depends on. -/
theorem Sound.updateSignal_plain (sound : s.Sound) (id : ℕ) {f : Assign ReSignal.id}
    (status : ∀ r, (f r).status = r.status) (closeTime : ∀ r, (f r).closeTime = r.closeTime)
    (netPnl : ∀ r, (f r).netPnl = r.netPnl) (partialPnl : ∀ r, (f r).partialPnl = r.partialPnl) :
    s.Moved (s.updateSignal id f) 0 0 := by
  cases found : s.signals.find id with
  | none =>
      rw [ReBooks.updateSignal, Table.update_of_missing found]
      exact sound.moved_refl
  | some row =>
      have tidy := sound.rows row (Table.find_mem found)
      have same : (f row).realised s.epoch = row.realised s.epoch ∧
          (f row).bankedOpen = row.bankedOpen :=
        ReSignal.same_worth (status row) (closeTime row) (netPnl row) (partialPnl row)
      rw [← neg_zero]
      refine sound.updateSignal found ⟨same.1 ▸ tidy.realised, same.2 ▸ tidy.banked, ?_⟩ ?_
      · intro pending
        rw [ReSignal.partialBooked, partialPnl row]
        exact tidy.pending ((status row).symm.trans pending)
      · rw [ReSignal.worth, ReSignal.worth, same.1, same.2, add_zero]

theorem Sound.updateBalance (sound : s.Sound) {delta : ℚ} (cents : OnGrid 2 delta)
    (reason : String) (id : ℕ) : s.Moved (s.updateBalance delta reason (some id)) delta 1 := by
  have exact_ : roundTo 4 (s.virtualBalance + delta) = s.virtualBalance + delta :=
    roundTo_of_onGrid ((sound.cents.add cents).mono (by decide))
  refine ⟨⟨sound.past, ?_, sound.rows⟩, rfl, ?_, ?_⟩
  · change OnGrid 2 (roundTo 4 (s.virtualBalance + delta))
    rw [exact_]
    exact sound.cents.add cents
  · change roundTo 4 (s.virtualBalance + delta) - _ = _
    rw [exact_, drift]
    exact add_sub_right_comm _ _ _
  · have entry : (decide (s.epoch ≤ s.clock)) = true := decide_eq_true sound.past
    rw [bookings, ReBooks.updateBalance, List.countP_append, List.countP_singleton, if_pos]
    · rfl
    · exact entry

/-- A signal is closed: the balance moves by the delta, and the stored result takes the
place of what was banked. -/
theorem Sound.closeSignal (sound : s.Sound) {id : ℕ} {row : ReSignal}
    (found : s.signals.find id = some row) (isOpen : row.isOpen = true) {c : SignalClosing}
    (cents : OnGrid 2 c.netPnl) (deltaCents : OnGrid 2 c.balanceDelta) :
    s.Moved (s.closeSignal id c) (c.balanceDelta + (row.partialBooked - c.netPnl)) 1 := by
  have paid := sound.updateBalance deltaCents ("signal_close_" ++ c.outcome) id
  have now : (decide (s.epoch ≤ s.clock)) = true := decide_eq_true sound.past
  have realised : (ReSignal.closed c s.clock (s.virtualBalance + c.balanceDelta) row).realised
      s.epoch = c.netPnl := by
    rw [ReSignal.realised, if_pos]
    · rfl
    · exact ⟨rfl, now⟩
  have banked : (ReSignal.closed c s.clock (s.virtualBalance + c.balanceDelta) row).bankedOpen =
      0 := rfl
  have worth : (ReSignal.closed c s.clock (s.virtualBalance + c.balanceDelta) row).worth s.epoch =
      row.worth s.epoch + (c.netPnl - row.partialBooked) := by
    rw [ReSignal.worth_of_isOpen isOpen, ReSignal.worth, realised, banked]
    ring
  have wrote := paid.sound.updateSignal found
    (f := ReSignal.closed c s.clock (s.virtualBalance + c.balanceDelta))
    ⟨realised ▸ cents, banked ▸ onGrid_zero 2, fun pending => nomatch pending⟩ worth
  rw [neg_sub] at wrote
  exact paid.trans wrote

theorem Sound.bookPartialClose (sound : s.Sound) {id : ℕ} {row : ReSignal}
    (found : s.signals.find id = some row) (triggered : row.status = .triggered) {legNet : ℚ}
    (cents : OnGrid 2 legNet) (fracClosed : ℚ) (tpIdx : ℕ) :
    s.Moved (s.bookPartialClose id legNet fracClosed tpIdx) 0 1 := by
  have isOpen : row.isOpen = true := by
    rw [ReRow.isOpen, triggered]
    rfl
  have tidy := sound.rows row (Table.find_mem found)
  have sum := (tidy.cents isOpen).add cents
  have paid := sound.updateBalance cents ("re_partial_tp" ++ toString tpIdx) id
  rw [ReBooks.bookPartialClose, found]
  dsimp only
  generalize roundTo 4 (max 0 (row.remaining - fracClosed)) = remaining
  generalize max (row.maxTpHit.getD 0) tpIdx = maxTp
  have stays : (ReSignal.banked (roundTo 2 (row.partialBooked + legNet)) remaining maxTp
      row).isOpen = true := isOpen
  have amount : (ReSignal.banked (roundTo 2 (row.partialBooked + legNet)) remaining maxTp
      row).partialBooked = row.partialBooked + legNet := roundTo_of_onGrid sum
  have worth : (ReSignal.banked (roundTo 2 (row.partialBooked + legNet)) remaining maxTp
      row).worth s.epoch = row.worth s.epoch + legNet := by
    rw [ReSignal.worth_of_isOpen stays, ReSignal.worth_of_isOpen isOpen, amount]
  have wrote := paid.sound.updateSignal found
    (f := ReSignal.banked (roundTo 2 (row.partialBooked + legNet)) remaining maxTp)
    ⟨ReSignal.realised_of_isOpen stays ▸ onGrid_zero 2,
      by rwa [ReSignal.bankedOpen, if_pos stays, amount],
      fun pending => nomatch triggered.symm.trans pending⟩ worth
  have both := paid.trans wrote
  rwa [add_neg_cancel] at both

/-- The calls of a pass, of which at most one books. -/
theorem Sound.stops (sound : s.Sound) (id : ℕ) {calls : List ManageCall}
    (only : ∀ c ∈ calls, c.stopOnly = true) : s.Moved (calls.foldl (call id) s) 0 0 := by
  induction calls generalizing s with
  | nil => exact sound.moved_refl
  | cons c calls ih =>
      rw [List.forall_mem_cons] at only
      have first : s.Moved (call id s c) 0 0 := by
        cases c with
        | moveSlToBe _ | setStopLoss _ =>
            exact sound.updateSignal_plain id (fun _ => rfl) (fun _ => rfl) (fun _ => rfl)
              (fun _ => rfl)
        | bookPartialClose _ _ _ | closeSignal _ => exact nomatch only.1
      have all := first.trans (ih first.sound only.2)
      rwa [add_zero] at all

/-- Moves of the stop leave the row there, as open as it was and with as much banked. -/
theorem find_stops {id : ℕ} {row : ReSignal} (found : s.signals.find id = some row)
    {calls : List ManageCall} (only : ∀ c ∈ calls, c.stopOnly = true) :
    ∃ row', (calls.foldl (call id) s).signals.find id = some row' ∧ row'.status = row.status ∧
      row'.partialPnl = row.partialPnl := by
  induction calls generalizing s row with
  | nil => exact ⟨row, found, rfl, rfl⟩
  | cons c calls ih =>
      rw [List.forall_mem_cons] at only
      have first : ∃ row', (call id s c).signals.find id = some row' ∧ row'.status = row.status ∧
          row'.partialPnl = row.partialPnl := by
        cases c with
        | moveSlToBe _ | setStopLoss _ =>
            exact ⟨_, (Table.find_update_self _ _ _).trans (congrArg _ found), rfl, rfl⟩
        | bookPartialClose _ _ _ | closeSignal _ => exact nomatch only.1
      obtain ⟨next, there, status, banked⟩ := first
      obtain ⟨last, here, status', banked'⟩ := ih there only.2
      exact ⟨last, here, status'.trans status, banked'.trans banked⟩

theorem Sound.manage (sound : s.Sound) {id : ℕ} {row : ReSignal}
    (found : s.signals.find id = some row) (triggered : row.status = .triggered)
    {calls : List ManageCall} (booking : Booking row calls) :
    ∃ more booked, s.Moved (calls.foldl (call id) s) more booked ∧ |more| ≤ (booked : ℚ) / 100 := by
  cases booking with
  | stops only => exact ⟨0, 0, sound.stops id only, by norm_num⟩
  | @banks legNet fracClosed tpIdx calls cents only =>
      have banks := sound.bookPartialClose found triggered cents fracClosed tpIdx
      exact ⟨0 + 0, 1 + 0, banks.trans (banks.sound.stops id only), by norm_num⟩
  | @closes c calls agrees only =>
      have stops := sound.stops id only
      obtain ⟨row', there, status, banked⟩ := find_stops found only
      have isOpen : row'.isOpen = true := by
        rw [ReRow.isOpen, status, triggered]
        rfl
      have same : row'.partialBooked = row.partialBooked := by
        rw [ReSignal.partialBooked, banked, ReSignal.partialBooked]
      have closes := stops.sound.closeSignal there isOpen agrees.cents agrees.deltaCents
      rw [List.foldl_append]
      refine ⟨_, _, stops.trans closes, ?_⟩
      have total := agrees.total
      rw [abs_sub_comm] at total
      rw [same, zero_add, Nat.zero_add, Nat.cast_one, add_sub_assoc', add_comm c.balanceDelta]
      exact total

theorem Sound.at_ (sound : s.Sound) (now : ℚ) : s.Moved (s.at_ now) 0 0 :=
  ⟨⟨le_max_of_le_left sound.past, sound.cents, sound.rows⟩, rfl, (add_zero _).symm, rfl⟩

theorem Sound.createSignal (sound : s.Sound) (data : NewSignal) :
    s.Moved (s.createSignal data) 0 0 := by
  rw [ReBooks.createSignal]
  split
  · exact sound.moved_refl
  · have worth : (data.row s.nextId).worth s.epoch = 0 := add_zero 0
    have rows := Table.rows_insertOrIgnore s.signals (data.row s.nextId)
    refine ⟨⟨sound.past, sound.cents, ?_⟩, rfl, ?_, rfl⟩
    · intro r mem
      rw [rows] at mem
      split at mem
      · exact sound.rows r mem
      · rcases List.mem_append.mp mem with old | new
        · exact sound.rows r old
        · rw [List.mem_singleton.mp new]
          exact ⟨onGrid_zero 2, onGrid_zero 2, fun _ => rfl⟩
    · rw [drift, drift, Table.total, rows, Table.total, add_zero]
      split
      · rfl
      · rw [List.map_append, List.map_singleton, worth, List.sum_append, List.sum_singleton,
          add_zero]

/-- A pending signal leaves that state with nothing banked. -/
theorem Sound.leavesPending (sound : s.Sound) (id : ℕ) {f : Assign ReSignal.id}
    (realised : ∀ r, (f r).realised s.epoch = 0) (moves : ∀ r, (f r).status ≠ .pending)
    (partialPnl : ∀ r, (f r).partialPnl = r.partialPnl) :
    s.Moved (s.onRow id isPending fun _ => s.updateSignal id f) 0 0 := by
  rw [onRow]
  cases found : s.signals.find id with
  | none => exact sound.moved_refl
  | some row =>
      dsimp only
      split
      · next pending =>
          have whole := (sound.rows row (Table.find_mem found)).pending (of_decide_eq_true pending)
          have isOpen : row.isOpen = true := decide_eq_true (.inl (of_decide_eq_true pending))
          have banked : (f row).bankedOpen = 0 := by
            rw [ReSignal.bankedOpen, ReSignal.partialBooked, partialPnl]
            exact ite_eq_right_iff.mpr fun _ => whole
          rw [← neg_zero]
          refine sound.updateSignal found ⟨realised row ▸ onGrid_zero 2, banked ▸ onGrid_zero 2,
            fun again => absurd again (moves row)⟩ ?_
          rw [ReSignal.worth_of_isOpen isOpen, whole, ReSignal.worth, realised, banked]
      · exact sound.moved_refl

/-- Every operation but a start of the process moves the balance and the rows alike. -/
theorem Sound.act (sound : s.Sound) {op : BooksOp} (other : op ≠ .restart) {now : ℚ}
    (careful : s.Careful (now, op)) :
    ∃ more booked, s.Moved (s.act op) more booked ∧ |more| ≤ (booked : ℚ) / 100 := by
  have unbooked : |(0 : ℚ)| ≤ ((0 : ℕ) : ℚ) / 100 := by norm_num
  cases op with
  | create data => exact ⟨0, 0, sound.createSignal data, unbooked⟩
  | expire id =>
      exact ⟨0, 0, sound.leavesPending id (fun _ => rfl) (fun _ => ReStatus.noConfusion)
        fun _ => rfl, unbooked⟩
  | trigger id price =>
      exact ⟨0, 0, sound.leavesPending id (fun _ => rfl) (fun _ => ReStatus.noConfusion)
        fun _ => rfl, unbooked⟩
  | record id mt5Ticket vantageSigId status =>
      exact ⟨0, 0, sound.updateSignal_plain id (fun _ => rfl) (fun _ => rfl) (fun _ => rfl)
        fun _ => rfl, unbooked⟩
  | manage id tick cost made =>
      rw [ReBooks.act, onRow]
      cases found : s.signals.find id with
      | none => exact ⟨0, 0, sound.moved_refl, unbooked⟩
      | some row =>
          dsimp only
          split
          · next simulated =>
              exact sound.manage found (of_decide_eq_true simulated).1
                ((row.booking_manageTriggeredSignal tick cost).take made)
          · exact ⟨0, 0, sound.moved_refl, unbooked⟩
  | reconcile id d ds =>
      rw [ReBooks.act, onRow]
      cases found : s.signals.find id with
      | none => exact ⟨0, 0, sound.moved_refl, unbooked⟩
      | some row =>
          dsimp only
          split
          · next mirrored =>
              have isOpen : row.isOpen = true :=
                decide_eq_true (.inr (of_decide_eq_true (Bool.and_eq_true_iff.mp mirrored).1))
              have whole := careful row found mirrored
              have closes := sound.closeSignal found isOpen (c := row.liveClosing d ds)
                (roundTo_onGrid 2 _) (roundTo_onGrid 2 _)
              refine ⟨_, _, closes, ?_⟩
              rw [whole, zero_sub]
              change |_ + -(row.liveClosing d ds).balanceDelta| ≤ _
              rw [add_neg_cancel, abs_zero]
              positivity
          · exact ⟨0, 0, sound.moved_refl, unbooked⟩
  | restart => exact absurd rfl other

theorem onGrid_closedSince (sound : s.Sound) : OnGrid 2 s.closedSince := by
  have rows : ∀ r ∈ s.signals.rows, OnGrid 2 (r.realised s.epoch) :=
    fun r mem => (sound.rows r mem).realised
  rw [closedSince, Table.total]
  generalize s.signals.rows = rs at rows ⊢
  induction rs with
  | nil => exact onGrid_zero 2
  | cons r rest ih =>
      rw [List.forall_mem_cons] at rows
      exact rows.1.add (ih rows.2)

/-- A start of the process that finds nothing banked, or has nothing to correct. -/
theorem Sound.restart (sound : s.Sound) (conserved : s.Conserved)
    (careful : s.bankedOpen = 0 ∨ |startingBalance + s.closedSince - s.virtualBalance| ≤ 1 / 100) :
    s.reconcileBalanceWithTrades.Sound ∧ s.reconcileBalanceWithTrades.Conserved := by
  have cents : OnGrid 2 (startingBalance + s.closedSince) :=
    OnGrid.add ⟨100000, by norm_num [startingBalance]⟩ (onGrid_closedSince sound)
  have correct : roundTo 4 (startingBalance + s.closedSince) = startingBalance + s.closedSince :=
    roundTo_of_onGrid (cents.mono (by decide))
  rw [closedSince] at correct cents careful
  rw [reconcileBalanceWithTrades, correct]
  split
  · next off =>
      have none := careful.resolve_right (not_le.mpr off)
      refine ⟨⟨sound.past, cents, sound.rows⟩, ?_⟩
      change |startingBalance + s.closedSince -
        (startingBalance + s.closedSince + s.bankedOpen)| ≤ _
      rw [none, add_zero, sub_self, abs_zero]
      positivity
  · exact ⟨sound, conserved⟩

theorem Moved.conserved {t : ReBooks} {more : ℚ} {booked : ℕ} (moved : s.Moved t more booked)
    (little : |more| ≤ (booked : ℚ) / 100) (conserved : s.Conserved) : t.Conserved := by
  rw [conserved_iff] at conserved ⊢
  rw [moved.drift, moved.bookings, Nat.cast_add, add_div]
  exact (abs_add_le _ _).trans (add_le_add conserved little)

theorem step_conserved (a : ℚ × BooksOp) (inv : s.Sound ∧ s.Conserved) (careful : s.Careful a) :
    (step s a).Sound ∧ (step s a).Conserved := by
  obtain ⟨now, op⟩ := a
  have waited := inv.1.at_ now
  have conserved : (s.at_ now).Conserved := inv.2
  by_cases restarts : op = .restart
  · rw [restarts] at careful ⊢
    exact waited.sound.restart conserved careful
  · have still : (s.at_ now).Careful (now, op) := careful
    obtain ⟨more, booked, moved, little⟩ := waited.sound.act restarts still
    exact ⟨moved.sound, moved.conserved little conserved⟩

theorem Opens.inv (opens : s.Opens) : s.Sound ∧ s.Conserved := by
  have banked : ∀ r ∈ s.signals.rows, r.bankedOpen = 0 := fun r mem =>
    ite_eq_right_iff.mpr (opens.whole r mem)
  have tidy : ∀ r ∈ s.signals.rows, r.Tidy s.epoch := fun r mem =>
    ⟨opens.closed r mem ▸ onGrid_zero 2, banked r mem ▸ onGrid_zero 2, fun pending =>
      opens.whole r mem (decide_eq_true (.inl pending))⟩
  have cents : OnGrid 2 s.virtualBalance := opens.balance ▸ ⟨100000, by norm_num [startingBalance]⟩
  refine ⟨⟨opens.past, cents, tidy⟩, ?_⟩
  have total : s.closedSince + s.bankedOpen = 0 := by
    rw [closedSince, bankedOpen, Table.total, Table.total, List.map_congr_left opens.closed,
      List.map_congr_left banked]
    simp
  rw [Conserved, opens.balance, add_assoc, total, add_zero, sub_self, abs_zero]
  positivity

/-- In every run of the Reversal Engine's books in which no start of the process finds a
half-closed signal, and the broker closes none that was half closed before it was
executed, the balance agrees with the rows throughout. -/
theorem balance_conserved {s : ReBooks} (opens : s.Opens) {run : List (ℚ × BooksOp)}
    (careful : Meets step Careful s run) : ∀ t ∈ states step s run, t.Conserved :=
  fun t mem => (states_invariant (I := fun s => s.Sound ∧ s.Conserved)
    (fun _ a inv careful => step_conserved a inv careful) opens.inv careful t mem).2

theorem fresh_opens : fresh.Opens :=
  ⟨rfl, le_refl _, fun _ mem => absurd mem List.not_mem_nil,
    fun _ mem => absurd mem List.not_mem_nil⟩

/-- A buy of a round level, in the format of the reference channel. -/
def roundLevelBuy : NewSignal where
  signalRef := "RE-1A2B3C"
  createdAt := 100
  direction := .buy
  entryLow := 1999
  entryHigh := 2002
  stopLoss := 3991 / 2
  tp1 := 4007 / 2
  tp2 := some (4009 / 2)
  tp3 := some (4011 / 2)
  tp4 := some (4013 / 2)
  tp7 := some (4031 / 2)
  tp8 := some (4061 / 2)
  sourceChannel := "Gold Diggers VIP"
  strategy := "scale_out"

def tickAt (bid : ℚ) : MidTick := ⟨⟨bid, bid + 1 / 5⟩, bid + 1 / 10⟩

/-- TP1 banks a half, and the process is started again before the signal closes. -/
theorem restart_drops_partial :
    ¬ ∀ (s : ReBooks), s.Opens → ∀ run, ∀ t ∈ states step s run, t.Conserved := by
  intro conserved
  have last := conserved fresh fresh_opens
    [(100, .create roundLevelBuy), (160, .trigger 1 2001),
      (220, .manage 1 (tickAt 2004) none 2), (300, .restart)] _
    (foldl_mem_states step fresh _)
  exact absurd last (by decide +kernel)

theorem balance_conserved_round_level :
    (([(100, .create roundLevelBuy), (160, .trigger 1 2001),
      (220, .manage 1 (tickAt 2004) (some (1 / 2)) 2), (400, .manage 1 (tickAt 2007) none 2),
      (500, .manage 1 (tickAt 2003) (some 1) 1), (600, .restart)] :
        List (ℚ × BooksOp)).foldl step fresh).Conserved :=
  balance_conserved fresh_opens (by decide +kernel) _ (foldl_mem_states step fresh _)

end ReBooks
end Forex
