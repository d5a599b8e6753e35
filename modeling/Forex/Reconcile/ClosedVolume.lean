import Forex.Reconcile.SyncCycle
import Mathlib.Data.List.Perm.Basic

/-!
The lots that position sync and the strategy handlers book for one trade, set
against the volume the broker's closing deals took. Beside the machine of sync
cycles stand the closing deals the broker made on the trade and those among
them that nobody has recorded yet. A vanished ticket is settled from the whole
history of the ticket, so the count is right as long as that history repeats no
deal that is recorded already, or the broker holds nothing any more.
-/

namespace Forex
open Support

namespace Db

/-- The lots a row tracks, and whether it is open. -/
def holding (db : Db) (tradeId : String) : Option (ℚ × Bool) :=
  (db.getTrade tradeId).map fun t => (t.remainingLots, t.isOpen)

structure SameLots (tradeId : String) (db db' : Db) : Prop where
  holding : db'.holding tradeId = db.holding tradeId
  booked : db'.bookedLots tradeId = db.bookedLots tradeId

theorem SameLots.refl (tradeId : String) (db : Db) : SameLots tradeId db db := ⟨rfl, rfl⟩

theorem SameLots.trans {tradeId : String} {a b c : Db} (ab : SameLots tradeId a b)
    (bc : SameLots tradeId b c) : SameLots tradeId a c :=
  ⟨bc.holding.trans ab.holding, bc.booked.trans ab.booked⟩

end Db

section Lots
variable {db db' : Db} {id : String} {f : Assign Trade.tradeId} {booked : List PartialClose}
  {moved : ℚ}

theorem LedgerWrite.setTrade (db : Db) (id : String) (f : Assign Trade.tradeId) :
    LedgerWrite db (db.setTrade id f) id f [] 0 :=
  ⟨rfl, (List.append_nil _).symm, (add_zero _).symm, rfl, rfl⟩

theorem LedgerWrite.sameLots_of_ne (write : LedgerWrite db db' id f booked moved)
    (own : ∀ p ∈ booked, p.tradeId = id) {tradeId : String} (ne : tradeId ≠ id) :
    Db.SameLots tradeId db db' := by
  refine ⟨?_, ?_⟩
  · rw [Db.holding, write.getTrade_of_ne ne]
    rfl
  · have none : booked.filter (fun p => decide (p.tradeId = tradeId)) = [] := by
      rw [List.filter_eq_nil_iff]
      intro p mem
      simpa [own p mem] using ne.symm
    rw [Db.bookedLots, write.partials, List.filter_append, none, List.append_nil]
    rfl

theorem LedgerWrite.sameLots_of_keeps (write : LedgerWrite db db' id f [] moved)
    (keeps : ∀ t, (f t).remainingLots = t.remainingLots ∧ (f t).isOpen = t.isOpen)
    (tradeId : String) : Db.SameLots tradeId db db' := by
  refine ⟨?_, write.bookedLots tradeId⟩
  by_cases mine : tradeId = id
  · rw [mine, Db.holding, write.getTrade_self, Option.map_map, Db.holding]
    congr 1
    funext t
    exact Prod.ext (keeps t).1 (keeps t).2
  · rw [Db.holding, write.getTrade_of_ne mine]
    rfl

theorem syncProfit_sameLots (env : PollEnv) (db : Db) (id : String) (ticket : ℤ)
    (tradeId : String) :
    Db.SameLots tradeId db (applyPollAction env db (.syncProfit id ticket)) := by
  rw [applyPollAction]
  split
  · exact .refl tradeId db
  · next w _ =>
      refine (applyProfitSync_spec db w.tradeId w.mt5Profit w.riskTotal
        w.allSettled).sameLots_of_keeps ?_ tradeId
      intro t
      refine ⟨Trade.afterSync_remainingLots .., ?_⟩
      rw [Trade.afterSync]
      split_ifs <;> rfl

/-- A full close takes all that is left of an open row. -/
theorem recordClose_lots (db : Db) (id : String) (price : ℚ) (reason : String) (now : ℚ) :
    Db.SameLots id db (recordCloseNow db id price reason now) ∨
      ((recordCloseNow db id price reason now).holding id = some (0, false) ∧
        (recordCloseNow db id price reason now).bookedLots id = db.bookedLots id) := by
  cases recordCloseNow_cases db id price reason now with
  | inl same =>
      rw [same]
      exact .inl (.refl id db)
  | inr closed =>
      obtain ⟨row, gross, realised, net, moved, found, -, write⟩ := closed
      refine .inr ⟨?_, write.bookedLots id⟩
      rw [Db.holding, write.getTrade_self, found]
      rfl

theorem recordClose_sameLots_of_ne (db : Db) {id tradeId : String} (ne : tradeId ≠ id) (price : ℚ)
    (reason : String) (now : ℚ) :
    Db.SameLots tradeId db (recordCloseNow db id price reason now) := by
  cases recordCloseNow_cases db id price reason now with
  | inl same =>
      rw [same]
      exact .refl tradeId db
  | inr closed =>
      obtain ⟨row, gross, realised, net, moved, -, -, write⟩ := closed
      exact write.sameLots_of_ne (by simp) ne

/-- A partial close moves lots from the row to the log, unless it is one the
log has already. -/
theorem partialWrite_lots {w : PartialWrite} (read : db.getTrade w.row.tradeId = some w.row)
    (isOpen : w.row.isOpen = true)
    (grid : OnGrid 4 w.row.remainingLots) (asked : OnGrid 4 w.requested) :
    Db.SameLots w.row.tradeId db (w.apply db) ∨
      ∃ isOpen, (w.apply db).holding w.row.tradeId =
          some (w.row.remainingLots - w.lots, isOpen) ∧
        (isOpen = false → w.row.remainingLots - w.lots = 0) ∧
        (w.apply db).bookedLots w.row.tradeId = db.bookedLots w.row.tradeId + w.lots := by
  cases known : db.alreadyRecorded w.booking with
  | true =>
      rw [PartialWrite.apply_of_recorded known]
      exact .inl (.refl _ db)
  | false =>
      have write := PartialWrite.apply_of_new known
      have lots : OnGrid 4 w.lots := by
        rw [PartialWrite.lots, min_def]
        split
        · exact asked
        · exact grid
      have left : w.newRemaining = w.row.remainingLots - w.lots :=
        roundTo_of_onGrid (grid.sub lots)
      have le : 0 ≤ w.row.remainingLots - w.lots := sub_nonneg.mpr (min_le_right _ _)
      refine .inr ?_
      have logged : (w.apply db).bookedLots w.row.tradeId =
          db.bookedLots w.row.tradeId + w.lots := by
        rw [bookedLots_append db _ w.booking w.row.tradeId write.partials]
        exact congrArg _ (if_pos rfl)
      by_cases none : w.newRemaining ≤ 0
      · have zero : w.row.remainingLots - w.lots = 0 := le_antisymm (left ▸ none) le
        refine ⟨false, ?_, fun _ => zero, logged⟩
        rw [Db.holding, write.getTrade_self, read, zero, Trade.afterPartial, if_pos none]
        rfl
      · refine ⟨true, ?_, fun h => absurd h (by simp), logged⟩
        rw [Db.holding, write.getTrade_self, read, ← left, Trade.afterPartial, if_neg none,
          ← isOpen]
        split_ifs <;> rfl

theorem partialWrite_sameLots_of_ne {w : PartialWrite} {tradeId : String}
    (ne : tradeId ≠ w.row.tradeId) : Db.SameLots tradeId db (w.apply db) := by
  cases known : db.alreadyRecorded w.booking with
  | true =>
      rw [PartialWrite.apply_of_recorded known]
      exact .refl tradeId db
  | false =>
      refine (PartialWrite.apply_of_new known).sameLots_of_ne ?_ ne
      intro p mem
      rw [List.mem_singleton.mp mem]
      rfl

theorem reassign_sameLots (db : Db) (id : String) (ticket : ℤ) (tradeId : String) :
    Db.SameLots tradeId db (db.setTrade id (Trade.reassignMt5Ticket ticket)) :=
  (LedgerWrite.setTrade db id _).sameLots_of_keeps (fun _ => ⟨rfl, rfl⟩) tradeId

theorem importUntracked_sameLots (env : PollEnv) (known : List ℤ) (positions : List Position)
    {tradeId : String} (held : (db.getTrade tradeId).isSome) :
    Db.SameLots tradeId db (importUntracked env db known positions) := by
  induction positions generalizing db known with
  | nil => exact .refl tradeId db
  | cons p ps ih =>
      rw [importUntracked]
      split
      · exact ih known held
      · split
        · next db' imported =>
            have kept : db'.getTrade tradeId = db.getTrade tradeId ∧
                db'.partials = db.partials := by
              rw [importDirectMt5Position] at imported
              split at imported
              · exact absurd imported (by simp)
              · next trades inserted =>
                  split at imported
                  · exact absurd imported (by simp)
                  · rw [← Option.some.inj imported]
                    refine ⟨?_, rfl⟩
                    obtain ⟨row, found⟩ := Option.isSome_iff_exists.mp held
                    rw [found]
                    refine Table.find_eq_some_iff.mpr ⟨?_, Table.key_of_find found⟩
                    rw [(Table.insert_eq_some inserted).2]
                    exact List.mem_append_left _ (Table.find_mem found)
            refine Db.SameLots.trans ⟨?_, bookedLots_congr kept.2 tradeId⟩
              (ih _ (kept.1 ▸ held))
            rw [Db.holding, kept.1]
            rfl
        · exact ih known held

end Lots

/-- The lots of one trade beside the broker's closing deals on its position. -/
structure VolumeWatch where
  desk : SyncDesk
  deals : Table Deal Deal.ticket
  /-- The deals that neither a handler nor the sync has recorded. -/
  unrecorded : List Deal

inductive VolumeStep where
  /-- The broker closes part of the position. -/
  | deal (d : Deal)
  /-- A strategy handler records a close it asked the broker for. -/
  | handler (d : Deal) (price : ℚ) (reason : String) (now : ℚ)
  | sync (a : SyncStep)

namespace VolumeWatch
variable (threshold : ℕ) (tradeId : String) (volume logged : ℚ) (s : VolumeWatch)

def start (db : Db) : VolumeWatch := ⟨⟨db, fun _ => 0, none⟩, Table.empty, []⟩

/-- The trade's turn, when the step settles it, with the closing deals found. -/
def settles : SyncStep → Option (Trade × List Deal)
  | .visit view _ written =>
      match s.desk.due threshold view with
      | some (_, trade, deals) =>
          if trade.tradeId = tradeId ∧ written ≠ .refused then
            some (trade, closingDeals trade.direction deals)
          else none
      | none => none
  | _ => none

def handle (d : Deal) (price : ℚ) (reason : String) (now : ℚ) : Db :=
  match partialCloseTrade s.desk.db tradeId d.volume price reason now with
  | none => s.desk.db
  | some w => w.apply s.desk.db

def step : VolumeStep → VolumeWatch
  | .deal d =>
      match s.deals.insert d with
      | some deals => ⟨s.desk, deals, s.unrecorded ++ [d]⟩
      | none => s
  | .handler d price reason now =>
      ⟨{ s.desk with db := s.handle tradeId d price reason now }, s.deals, s.unrecorded.diff [d]⟩
  | .sync a =>
      ⟨s.desk.step threshold a, s.deals,
        s.unrecorded.diff (((s.settles threshold tradeId a).map Prod.snd).getD [])⟩

/-- The volume of the distinct closing deals. -/
def closedAtBroker : ℚ := s.deals.total Deal.volume

/-- The volume of those that are recorded. -/
def recorded : ℚ := s.closedAtBroker - (s.unrecorded.map Deal.volume).sum

/-- No more is booked, in the log of partial closes or off the row, than the
broker closed, and the row is open as long as the broker holds something. -/
def BookedOnce : Prop :=
  s.desk.db.bookedLots tradeId - logged ≤ s.closedAtBroker ∧
    ∀ row ∈ s.desk.db.holding tradeId,
      volume - row.1 ≤ s.closedAtBroker ∧ (row.2 = false → volume ≤ s.closedAtBroker)

instance : Decidable (s.BookedOnce tradeId volume logged) := inferInstanceAs (Decidable (_ ∧ _))

/-- A handler records a deal nobody has recorded. A vanished ticket is settled
when the broker holds nothing of the trade, or from closing deals that nobody
has recorded and that do not miss the tracked lots by a rounding. -/
def Unrepeated : VolumeStep → Prop
  | .deal d => 0 ≤ d.volume ∧ OnGrid 4 d.volume
  | .handler d _ _ _ => d ∈ s.unrecorded
  | .sync a =>
      ∀ turn ∈ s.settles threshold tradeId a,
        volume ≤ s.closedAtBroker ∨
          turn.2 ≠ [] ∧ turn.2.Subperm s.unrecorded ∧
            ((turn.2.map Deal.volume).sum < turn.1.remainingLots - 1 / 1000 ∨
              turn.1.remainingLots ≤ (turn.2.map Deal.volume).sum)

instance : (a : VolumeStep) → Decidable (s.Unrepeated threshold tradeId volume a)
  | .deal _ => inferInstanceAs (Decidable (_ ∧ _))
  | .handler d _ _ _ => inferInstanceAs (Decidable (d ∈ s.unrecorded))
  | .sync a => inferInstanceAs (Decidable (∀ turn ∈ s.settles threshold tradeId a, _))

/-- A cycle under way read at least the lots the row has now. -/
def ReadAtLeast (lots : ℚ) (pass : Option SyncPass) : Prop :=
  ∀ p ∈ pass, ∀ t ∈ p.trades, t.tradeId = tradeId →
    OnGrid 4 t.remainingLots ∧ lots ≤ t.remainingLots

/-- What is off the row is recorded, or the broker holds nothing any more. -/
structure Tracked (tradeId : String) (volume logged : ℚ) (s : VolumeWatch) (lots : ℚ)
    (isOpen : Bool) : Prop where
  held : s.desk.db.holding tradeId = some (lots, isOpen)
  nonneg : 0 ≤ lots
  grid : OnGrid 4 lots
  closed : isOpen = false → lots = 0
  booked : s.desk.db.bookedLots tradeId - logged + lots ≤ volume
  covered : volume ≤ lots + s.recorded ∧ ReadAtLeast tradeId lots s.desk.pass ∨
    volume ≤ s.closedAtBroker

structure Sound (tradeId : String) (volume logged : ℚ) (s : VolumeWatch) : Prop where
  amounts : ∀ d ∈ s.unrecorded, 0 ≤ d.volume ∧ OnGrid 4 d.volume
  row : ∃ lots isOpen, Tracked tradeId volume logged s lots isOpen

variable {threshold tradeId volume logged s} {s' : VolumeWatch} {lots : ℚ} {isOpen : Bool}

theorem volumes_nonneg {deals : List Deal}
    (amounts : ∀ d ∈ deals, 0 ≤ d.volume ∧ OnGrid 4 d.volume) :
    0 ≤ (deals.map Deal.volume).sum ∧ OnGrid 4 (deals.map Deal.volume).sum := by
  induction deals with
  | nil => exact ⟨le_refl 0, onGrid_zero 4⟩
  | cons d deals ih =>
      rw [List.forall_mem_cons] at amounts
      rw [List.map_cons, List.sum_cons]
      exact ⟨add_nonneg amounts.1.1 (ih amounts.2).1, amounts.1.2.add (ih amounts.2).2⟩

theorem volume_diff {found unrecorded : List Deal} (among : found.Subperm unrecorded) :
    (unrecorded.map Deal.volume).sum =
      (found.map Deal.volume).sum + ((unrecorded.diff found).map Deal.volume).sum := by
  have parts : (found ++ unrecorded.diff found).Perm unrecorded :=
    List.subperm_append_diff_self_of_count_le fun x _ => among.count_le x
  rw [← (parts.map Deal.volume).sum_eq, List.map_append, List.sum_append]

theorem Tracked.bookedOnce (h : Tracked tradeId volume logged s lots isOpen)
    (amounts : ∀ d ∈ s.unrecorded, 0 ≤ d.volume ∧ OnGrid 4 d.volume) :
    s.BookedOnce tradeId volume logged := by
  have room : volume - lots ≤ s.closedAtBroker := by
    have open_ := (volumes_nonneg amounts).1
    have nonneg := h.nonneg
    cases h.covered with
    | inl some =>
        have covered := some.1
        rw [recorded] at covered
        linarith
    | inr none => linarith
  refine ⟨?_, ?_⟩
  · have booked := h.booked
    linarith
  · intro row held
    rw [h.held] at held
    rw [← Option.some.inj held]
    refine ⟨room, ?_⟩
    intro closed
    rw [h.closed closed, sub_zero] at room
    exact room

/-- Lots are taken off the row: all it has at most, with as many in the log. -/
theorem Tracked.take (h : Tracked tradeId volume logged s lots isOpen) {taken : ℚ}
    {isOpen' : Bool} (le : taken ≤ lots) (grid : OnGrid 4 taken)
    (held : s'.desk.db.holding tradeId = some (lots - taken, isOpen'))
    (closed : isOpen' = false → lots - taken = 0)
    (booked : s'.desk.db.bookedLots tradeId ≤ s.desk.db.bookedLots tradeId + taken)
    (covered : volume ≤ lots - taken + s'.recorded ∧
        ReadAtLeast tradeId (lots - taken) s'.desk.pass ∨ volume ≤ s'.closedAtBroker) :
    Tracked tradeId volume logged s' (lots - taken) isOpen' where
  held := held
  nonneg := sub_nonneg.mpr le
  grid := h.grid.sub grid
  closed := closed
  booked := by
    have before := h.booked
    linarith
  covered := covered

theorem Tracked.same (h : Tracked tradeId volume logged s lots isOpen)
    (same : Db.SameLots tradeId s.desk.db s'.desk.db)
    (covered : volume ≤ lots + s'.recorded ∧ ReadAtLeast tradeId lots s'.desk.pass ∨
      volume ≤ s'.closedAtBroker) :
    Tracked tradeId volume logged s' lots isOpen where
  held := same.holding.trans h.held
  nonneg := h.nonneg
  grid := h.grid
  closed := h.closed
  booked := same.booked ▸ h.booked
  covered := covered

theorem ReadAtLeast.mono {more less : ℚ} {pass : Option SyncPass}
    (h : ReadAtLeast tradeId more pass) (le : less ≤ more) : ReadAtLeast tradeId less pass :=
  fun p mem t listed mine => ⟨(h p mem t listed mine).1, le.trans (h p mem t listed mine).2⟩

/-- A partial close of the trade, by a handler or by the sync, for lots that are
then recorded or at a time when the broker holds nothing. -/
theorem Tracked.partly (h : Tracked tradeId volume logged s lots isOpen) {w : PartialWrite}
    (read : s.desk.db.getTrade tradeId = some w.row) (isOpenRow : w.row.isOpen = true)
    (asked : OnGrid 4 w.requested) (writes : Db.SameLots tradeId (w.apply s.desk.db) s'.desk.db)
    (pass : ReadAtLeast tradeId lots s.desk.pass → ReadAtLeast tradeId lots s'.desk.pass)
    (broker : s'.closedAtBroker = s.closedAtBroker)
    (now : volume ≤ s.closedAtBroker ∨
      0 ≤ w.requested ∧ s.recorded + w.requested ≤ s'.recorded) :
    ∃ lots isOpen, Tracked tradeId volume logged s' lots isOpen := by
  have key : w.row.tradeId = tradeId := Table.key_of_find read
  have row : w.row.remainingLots = lots := by
    have held := h.held
    rw [Db.holding, read] at held
    exact (Prod.ext_iff.mp (Option.some.inj held)).1
  have covered : ∀ taken, (0 ≤ w.requested → 0 ≤ taken) → taken ≤ w.requested →
      (volume ≤ lots - taken + s'.recorded ∧
        ReadAtLeast tradeId (lots - taken) s'.desk.pass ∨ volume ≤ s'.closedAtBroker) := by
    intro taken nonneg le
    cases h.covered with
    | inr none => exact .inr (broker ▸ none)
    | inl some =>
        cases now with
        | inl none => exact .inr (broker ▸ none)
        | inr fresh =>
            refine .inl ⟨by linarith [some.1, fresh.2], (pass some.2).mono ?_⟩
            exact sub_le_self lots (nonneg fresh.1)
  have lotsLe : w.lots ≤ lots := row ▸ min_le_right _ _
  cases partialWrite_lots (key.symm ▸ read) isOpenRow (row ▸ h.grid) asked with
  | inl same =>
      rw [key] at same
      refine ⟨lots, isOpen, h.same (same.trans writes) ?_⟩
      cases h.covered with
      | inr none => exact .inr (broker ▸ none)
      | inl some =>
          cases now with
          | inl none => exact .inr (broker ▸ none)
          | inr fresh => exact .inl ⟨by linarith [some.1, fresh.1, fresh.2], pass some.2⟩
  | inr moved =>
      obtain ⟨isOpen', held, closed, booked⟩ := moved
      rw [key] at held booked
      rw [row] at held closed
      have grid : OnGrid 4 w.lots := by
        rw [PartialWrite.lots, min_def]
        split
        · exact asked
        · exact row ▸ h.grid
      refine ⟨lots - w.lots, isOpen', h.take lotsLe grid (writes.holding.trans held) closed
        (writes.booked.trans booked).le (covered w.lots ?_ (min_le_left _ _))⟩
      intro nonneg
      exact le_min nonneg (row.symm ▸ h.nonneg)

/-- A full close of the trade, at a time when the broker holds nothing. -/
theorem Tracked.whole (h : Tracked tradeId volume logged s lots isOpen) (price : ℚ)
    (reason : String) (now : ℚ)
    (writes : Db.SameLots tradeId (recordCloseNow s.desk.db tradeId price reason now) s'.desk.db)
    (flat : volume ≤ s'.closedAtBroker) :
    ∃ lots isOpen, Tracked tradeId volume logged s' lots isOpen := by
  cases recordClose_lots s.desk.db tradeId price reason now with
  | inl same => exact ⟨lots, isOpen, h.same (same.trans writes) (.inr flat)⟩
  | inr closed =>
      refine ⟨lots - lots, false, h.take (le_refl lots) h.grid ?_ ?_ ?_ (.inr flat)⟩
      · rw [sub_self]
        exact writes.holding.trans closed.1
      · exact fun _ => sub_self lots
      · rw [writes.booked, closed.2]
        exact le_add_of_nonneg_right h.nonneg

/-- Unrecorded deals that close all of the row leave the broker with nothing. -/
theorem Tracked.flat (h : Tracked tradeId volume logged s lots isOpen)
    (amounts : ∀ d ∈ s.unrecorded, 0 ≤ d.volume ∧ OnGrid 4 d.volume) {deals : List Deal}
    (fresh : deals.Subperm s.unrecorded)
    (enough : ReadAtLeast tradeId lots s.desk.pass → lots ≤ (deals.map Deal.volume).sum) :
    volume ≤ s.closedAtBroker := by
  cases h.covered with
  | inr none => exact none
  | inl some =>
      have covered := some.1
      have left := (volumes_nonneg fun d mem =>
        amounts d (List.diff_subset s.unrecorded deals mem)).1
      have lotsLe := enough some.2
      rw [recorded, volume_diff fresh] at covered
      linarith

theorem Sound.deal (h : Sound tradeId volume logged s) {d : Deal} (nonneg : 0 ≤ d.volume)
    (grid : OnGrid 4 d.volume) :
    Sound tradeId volume logged (s.step threshold tradeId (.deal d)) := by
  rw [step]
  split
  · next deals inserted =>
      obtain ⟨lots, isOpen, row⟩ := h.row
      have total : deals.total Deal.volume = s.closedAtBroker + d.volume := by
        rw [closedAtBroker, Table.total, Table.total, (Table.insert_eq_some inserted).2]
        simp
      refine ⟨?_, lots, isOpen, row.same (.refl tradeId _) ?_⟩
      · intro x mem
        cases List.mem_append.mp mem with
        | inl old => exact h.amounts x old
        | inr new => exact List.mem_singleton.mp new ▸ ⟨nonneg, grid⟩
      · cases row.covered with
        | inl some =>
            refine .inl ⟨some.1.trans (le_of_eq ?_), some.2⟩
            simp only [recorded, closedAtBroker, total, List.map_append, List.map_cons,
              List.map_nil, List.sum_append, List.sum_cons, List.sum_nil]
            ring
        | inr none =>
            refine .inr (none.trans ?_)
            change s.closedAtBroker ≤ deals.total Deal.volume
            rw [total]
            exact le_add_of_nonneg_right nonneg
  · exact h

theorem Sound.handler (h : Sound tradeId volume logged s) {d : Deal} (price : ℚ) (reason : String)
    (now : ℚ) (fresh : d ∈ s.unrecorded) :
    Sound tradeId volume logged (s.step threshold tradeId (.handler d price reason now)) := by
  obtain ⟨lots, isOpen, row⟩ := h.row
  obtain ⟨nonneg, grid⟩ := h.amounts d fresh
  have left := volume_diff (List.singleton_subperm_iff.mpr fresh)
  have more : s.recorded + d.volume = (s.step threshold tradeId
      (.handler d price reason now)).recorded := by
    simp only [recorded, step, closedAtBroker]
    rw [left, List.map_singleton, List.sum_singleton]
    ring
  refine ⟨fun x mem => h.amounts x (List.diff_subset _ _ mem), ?_⟩
  cases write : partialCloseTrade s.desk.db tradeId d.volume price reason now with
  | none =>
      refine ⟨lots, isOpen, row.same ?_ ?_⟩
      · simp only [step, handle, write]
        exact .refl tradeId _
      · cases row.covered with
        | inl some => exact .inl ⟨by linarith [some.1], some.2⟩
        | inr none => exact .inr none
  | some w =>
      obtain ⟨read, isOpenRow, asked⟩ := partialCloseTrade_eq_some write
      refine row.partly read isOpenRow (asked ▸ grid) ?_ id rfl (.inr ⟨asked ▸ nonneg, ?_⟩)
      · simp only [step, handle, write]
        exact .refl tradeId _
      · rw [asked]
        exact more.le

theorem Tracked.fetched (row : Tracked tradeId volume logged s lots isOpen) {t : Trade}
    (listed : t ∈ fetchPythonManagedOpenTrades s.desk.db) (mine : t.tradeId = tradeId) :
    OnGrid 4 t.remainingLots ∧ lots ≤ t.remainingLots := by
  have found : s.desk.db.getTrade tradeId = some t :=
    Table.find_eq_some_iff.mpr ⟨(List.mem_filter.mp listed).1, mine⟩
  have held := row.held
  rw [Db.holding, found] at held
  have same : t.remainingLots = lots := (Prod.ext_iff.mp (Option.some.inj held)).1
  exact ⟨same ▸ row.grid, same.ge⟩

/-- A step that leaves the trade's lots and the deals alone. -/
theorem Sound.idle (h : Sound tradeId volume logged s) {desk : SyncDesk}
    (same : Db.SameLots tradeId s.desk.db desk.db)
    (pass : ∀ q ∈ desk.pass, (∃ p ∈ s.desk.pass, q.trades ⊆ p.trades) ∨
      q.trades = fetchPythonManagedOpenTrades s.desk.db) :
    Sound tradeId volume logged ⟨desk, s.deals, s.unrecorded⟩ := by
  obtain ⟨lots, isOpen, row⟩ := h.row
  refine ⟨h.amounts, lots, isOpen, row.same same ?_⟩
  cases row.covered with
  | inr none => exact .inr none
  | inl some =>
      refine .inl ⟨some.1, ?_⟩
      intro q mem t listed mine
      cases pass q mem with
      | inl old =>
          obtain ⟨p, at_, sub⟩ := old
          exact some.2 p at_ t (sub listed) mine
      | inr new =>
          rw [new] at listed
          exact row.fetched listed mine

/-- What a turn of another trade, or the end of a cycle, writes. -/
theorem settled_sameLots {positions : List Position} {trade : Trade} {deals : List Deal}
    {env : PollEnv} {written : Written} {db db' : Db}
    (settled : Settled positions trade deals env written db db')
    (ne : tradeId ≠ trade.tradeId) : Db.SameLots tradeId db db' := by
  cases settled with
  | kept => exact .refl tradeId db
  | partly w short read isOpen lots =>
      exact partialWrite_sameLots_of_ne (Table.key_of_find read ▸ ne)
  | moved w p short read isOpen lots found linked =>
      exact (partialWrite_sameLots_of_ne (Table.key_of_find read ▸ ne)).trans
        (reassign_sameLots _ _ _ tradeId)
  | fully price reason whole =>
      exact (recordClose_sameLots_of_ne db ne price reason env.now).trans
        (syncProfit_sameLots env _ _ _ tradeId)

theorem Sound.finish (h : Sound tradeId volume logged s) (env : PollEnv) :
    Sound tradeId volume logged (s.step threshold tradeId (.sync (.finish env))) := by
  refine h.idle ?_ fun q mem => .inl ⟨q, SyncDesk.finish_pass mem, List.Subset.refl _⟩
  rw [SyncDesk.step, SyncDesk.finish]
  split
  · obtain ⟨lots, isOpen, row⟩ := h.row
    refine importUntracked_sameLots env _ _ ?_
    have held := row.held
    rw [Db.holding, Option.map_eq_some_iff] at held
    obtain ⟨t, found, -⟩ := held
    rw [found]
    rfl
  · exact .refl tradeId _

theorem Sound.fetch (h : Sound tradeId volume logged s) (view : PollView) :
    Sound tradeId volume logged (s.step threshold tradeId (.sync (.fetch view))) := by
  refine h.idle ?_ ?_
  · rw [SyncDesk.step, SyncDesk.fetch_db]
    exact .refl tradeId _
  · intro q mem
    cases SyncDesk.fetch_pass mem with
    | inl old => exact .inl ⟨q, old, List.Subset.refl _⟩
    | inr new => exact .inr new

/-- The trade's own turn past its streak, written to the database. -/
theorem Sound.settle (h : Sound tradeId volume logged s) {positions : List Position}
    {trade : Trade} {deals : List Deal} {env : PollEnv} {written : Written} {db' : Db}
    {streak : String → ℕ} {pass : Option SyncPass}
    (settled : Settled positions trade deals env written s.desk.db db')
    (mine : trade.tradeId = tradeId)
    (fresh : volume ≤ s.closedAtBroker ∨
      closingDeals trade.direction deals ≠ [] ∧
        (closingDeals trade.direction deals).Subperm s.unrecorded ∧
        (((closingDeals trade.direction deals).map Deal.volume).sum <
            trade.remainingLots - 1 / 1000 ∨
          trade.remainingLots ≤ ((closingDeals trade.direction deals).map Deal.volume).sum))
    (snapshot : ∀ lots, ReadAtLeast tradeId lots s.desk.pass →
      OnGrid 4 trade.remainingLots ∧ lots ≤ trade.remainingLots)
    (next : ∀ lots, ReadAtLeast tradeId lots s.desk.pass → ReadAtLeast tradeId lots pass) :
    Sound tradeId volume logged
      ⟨⟨db', streak, pass⟩, s.deals,
        s.unrecorded.diff (closingDeals trade.direction deals)⟩ := by
  obtain ⟨lots, isOpen, row⟩ := h.row
  subst mine
  have kept : ∀ d ∈ s.unrecorded.diff (closingDeals trade.direction deals),
      0 ≤ d.volume ∧ OnGrid 4 d.volume := fun d mem => h.amounts d (List.diff_subset _ _ mem)
  have taken : volume ≤ s.closedAtBroker ∨
      0 ≤ closedVolume trade deals ∧ s.recorded + closedVolume trade deals =
        recorded ⟨⟨db', streak, pass⟩, s.deals,
          s.unrecorded.diff (closingDeals trade.direction deals)⟩ := by
    refine fresh.imp id fun found => ?_
    have amounts := volumes_nonneg fun d mem => h.amounts d (found.2.1.subset mem)
    rw [closedVolume, roundTo_of_onGrid amounts.2]
    refine ⟨amounts.1, ?_⟩
    simp only [recorded, closedAtBroker]
    rw [volume_diff found.2.1]
    ring
  refine ⟨kept, ?_⟩
  cases settled with
  | kept =>
      refine ⟨lots, isOpen, row.same (.refl _ _) ?_⟩
      cases row.covered with
      | inr none => exact .inr none
      | inl some =>
          refine taken.symm.imp (fun more => ⟨?_, next lots some.2⟩) id
          linarith [some.1, more.1, more.2]
  | partly w short read isOpenRow asked =>
      refine row.partly read isOpenRow (asked ▸ roundTo_onGrid 4 _) (.refl _ _) (next lots) rfl ?_
      rw [asked]
      exact taken.imp id fun more => ⟨more.1, more.2.le⟩
  | moved w p short read isOpenRow asked found linked =>
      refine row.partly read isOpenRow (asked ▸ roundTo_onGrid 4 _)
        (reassign_sameLots _ _ _ _) (next lots) rfl ?_
      rw [asked]
      exact taken.imp id fun more => ⟨more.1, more.2.le⟩
  | fully price reason whole =>
      -- a full close is due only when the broker holds nothing any more
      have flat : volume ≤ s.closedAtBroker := by
        cases fresh with
        | inl none => exact none
        | inr found =>
            refine row.flat h.amounts found.2.1 fun pass => ?_
            obtain ⟨grid, atMost⟩ := snapshot lots pass
            refine atMost.trans (found.2.2.resolve_left fun short => whole ⟨found.1, ?_⟩)
            have amounts := volumes_nonneg fun d mem => h.amounts d (found.2.1.subset mem)
            rw [closedVolume, roundTo_of_onGrid amounts.2, roundTo_of_onGrid grid]
            exact short
      exact row.whole price reason env.now (syncProfit_sameLots env _ _ _ _) flat

theorem Sound.visit (h : Sound tradeId volume logged s) {view : PollView} {env : PollEnv}
    {written : Written}
    (fresh : s.Unrepeated threshold tradeId volume (.sync (.visit view env written))) :
    Sound tradeId volume logged (s.step threshold tradeId (.sync (.visit view env written))) := by
  have left : ∀ q ∈ (s.desk.visit threshold view env written).pass,
      ∃ p ∈ s.desk.pass, q.trades ⊆ p.trades := by
    intro q mem
    obtain ⟨p, under, sub, -⟩ := SyncDesk.visit_pass mem
    exact ⟨p, under, sub⟩
  simp only [Unrepeated, settles] at fresh
  simp only [step, settles, SyncDesk.step]
  cases due : s.desk.due threshold view with
  | none =>
      refine h.idle ?_ fun q mem => .inl (left q mem)
      rw [SyncDesk.visit_db, due]
      exact .refl tradeId _
  | some turn =>
      obtain ⟨pass, trade, deals⟩ := turn
      rw [due] at fresh
      dsimp only at fresh ⊢
      by_cases own : trade.tradeId = tradeId ∧ written ≠ .refused
      · rw [if_pos own] at fresh ⊢
        obtain ⟨under, listed⟩ := SyncDesk.due_pass due
        refine h.settle (SyncDesk.visit_settled due own.2) own.1 (fresh _ rfl) ?_ ?_
        · intro lots before
          exact before pass under trade listed own.1
        · intro lots before q mem t at_ same
          obtain ⟨p, old, sub⟩ := left q mem
          exact before p old t (sub at_) same
      · rw [if_neg own]
        refine h.idle ?_ fun q mem => .inl (left q mem)
        by_cases go : written = .refused
        · rw [SyncDesk.visit_db, due, go]
          exact .refl tradeId _
        · refine settled_sameLots (SyncDesk.visit_settled due go) ?_
          intro same
          exact own ⟨same.symm, go⟩

theorem Sound.step (h : Sound tradeId volume logged s) (a : VolumeStep)
    (fresh : s.Unrepeated threshold tradeId volume a) :
    Sound tradeId volume logged (s.step threshold tradeId a) := by
  cases a with
  | deal d => exact h.deal fresh.1 fresh.2
  | handler d price reason now => exact h.handler price reason now fresh
  | sync a =>
      cases a with
      | fetch view => exact h.fetch view
      | visit view env written => exact h.visit fresh
      | finish env => exact h.finish env

theorem Sound.start {db : Db} {row : Trade} (found : db.getTrade tradeId = some row)
    (isOpen : row.isOpen = true) (nonneg : 0 ≤ row.remainingLots)
    (grid : OnGrid 4 row.remainingLots) :
    Sound tradeId row.remainingLots (db.bookedLots tradeId) (start db) := by
  refine ⟨by simp [VolumeWatch.start], row.remainingLots, true, ?_, nonneg, grid, by simp, ?_, ?_⟩
  · rw [← isOpen]
    exact congrArg (Option.map _) found
  · exact (by simp [VolumeWatch.start])
  · refine .inl ⟨?_, by simp [ReadAtLeast, VolumeWatch.start]⟩
    simp [VolumeWatch.start, recorded, closedAtBroker, Table.empty, Table.total]

/-- In every state of a run of closing deals, handlers and sync cycles that
settles no vanished ticket from deals recorded before, the lots booked for the
trade stay within what the broker closed, and the row is open while the broker
holds any of it. -/
theorem volume_booked_once (threshold : ℕ) (tradeId : String) (db : Db) (row : Trade)
    (run : List VolumeStep) (found : db.getTrade tradeId = some row) (isOpen : row.isOpen = true)
    (nonneg : 0 ≤ row.remainingLots) (grid : OnGrid 4 row.remainingLots)
    (fresh : Meets (step threshold tradeId) (Unrepeated threshold tradeId row.remainingLots)
      (VolumeWatch.start db) run) :
    ∀ s ∈ states (step threshold tradeId) (VolumeWatch.start db) run,
      s.BookedOnce tradeId row.remainingLots (db.bookedLots tradeId) := by
  intro s visited
  have sound := states_invariant (I := Sound tradeId row.remainingLots (db.bookedLots tradeId))
    (fun _ a h fresh => h.step a fresh) (Sound.start found isOpen nonneg grid) fresh s visited
  obtain ⟨lots, isOpen', tracked⟩ := sound.row
  exact tracked.bookedOnce sound.amounts

end VolumeWatch

namespace VolumeWatch

/-- Whole cycles for so many trades, with this history for every ticket. -/
def cycles (trades : List ℕ) (positions : List Position) (history : List Deal) :
    List VolumeStep :=
  let view := { PollView.listing positions with positionHistory := fun _ => .value history }
  trades.flatMap fun n =>
    .sync (.fetch view) :: List.replicate n (.sync (.visit view quietEnv .through)) ++
      [.sync (.finish quietEnv)]

/-- The handler records the take profit, and the sync settles the stop. -/
theorem volume_booked_once_stopped :
    let recorded : List VolumeStep :=
      [.deal tpDeal, .handler tpDeal 2010 "TP1" 9, .deal slDeal]
    ∀ s ∈ states (step 2 "t1") (VolumeWatch.start oneLotBook)
        (recorded ++ cycles [1, 1] [] [tpDeal, slDeal]),
      s.BookedOnce "t1" 1 (oneLotBook.bookedLots "t1") :=
  volume_booked_once 2 "t1" oneLotBook Trade.oneLot _ (by decide) (by decide) (by decide)
    (by decide +kernel) (by decide +kernel)

/-- The handler records the take profit, and the position goes on under another
ticket: every second cycle books the same 0.3 lots again, until the row is
closed with 0.7 lots at the broker. -/
theorem recorded_deal_booked_again :
    ¬ ∀ s ∈ states (step 2 "t1") (VolumeWatch.start oneLotBook)
        ([.deal tpDeal, .handler tpDeal 2010 "TP1" 9] ++
          cycles [1, 2, 2, 2, 2, 2] [.held 7002 (7 / 10)] [tpDeal]),
      s.BookedOnce "t1" 1 (oneLotBook.bookedLots "t1") := by
  decide +kernel

end VolumeWatch

end Forex
