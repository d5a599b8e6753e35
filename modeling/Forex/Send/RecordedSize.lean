import Forex.Send.PlaceOrder
import Forex.Strategy.LadderOnce

/-!
The size a trade row records beside the volume its position has at the broker.
The bridge normalises the lot when the position is opened, and again at each
partial close; the row is opened with the lot that was asked for, and a partial
is booked as the caller passes it on.
-/

namespace Forex
open Support

/-- What the caller of a confirmed partial close books: `lots_closed` of the
answer, or the lots it asked for. -/
inductive Booked where
  | answered
  | asked
deriving DecidableEq, Repr

/-- One call of `_partial_close`, and of `partial_close_trade` if it succeeds;
the volume step is missing when there is no symbol info. -/
structure PartialCall where
  lots : ℚ
  volumeStep : Option ℚ
  booked : Booked
  reason : String
  closePrice : ℚ
  now : ℚ

namespace PartialCall

def lotStep (c : PartialCall) : ℚ := c.volumeStep.getD (1 / 100)

/-- The lots that the broker closes of a position with a volume. -/
def closed (c : PartialCall) (volume : ℚ) : ℚ := brokerLots c.lotStep volume c.lots

/-- The close is confirmed: there is a position and a volume step to divide by,
and the broker takes no more than the position has. -/
def Confirmed (c : PartialCall) (volume : ℚ) : Prop :=
  0 < volume ∧ 0 < c.lotStep ∧ c.closed volume ≤ volume

instance (c : PartialCall) (volume : ℚ) : Decidable (c.Confirmed volume) :=
  inferInstanceAs (Decidable (_ ∧ _ ∧ _))

def bookedLots (c : PartialCall) (volume : ℚ) : ℚ :=
  match c.booked with
  | .answered => c.closed volume
  | .asked => c.lots

/-- The rest that the ledger books, on four decimals, is the one that the broker
keeps of a volume. -/
def Keeps (c : PartialCall) (volume : ℚ) : Prop :=
  match c.booked with
  | .answered => OnGrid 4 (volume - c.closed volume)
  | .asked => roundTo 4 (volume - min c.lots volume) = volume - c.closed volume

instance (c : PartialCall) (volume : ℚ) : Decidable (c.Keeps volume) :=
  match booked : c.booked with
  | .answered =>
      decidable_of_iff (OnGrid 4 (volume - c.closed volume)) (by rw [Keeps, booked])
  | .asked =>
      decidable_of_iff (roundTo 4 (volume - min c.lots volume) = volume - c.closed volume)
        (by rw [Keeps, booked])

end PartialCall

/-- The ledger, and the volume of the position at the broker. -/
structure SizeDesk where
  db : Db
  volume : ℚ

namespace SizeDesk
variable (tradeId : String)

/-- The booking of a confirmed close; a trade that is not open raises. -/
def booking (s : SizeDesk) (c : PartialCall) : Option PartialWrite :=
  partialCloseTrade s.db tradeId (c.bookedLots s.volume) c.closePrice c.reason c.now

def step (s : SizeDesk) (c : PartialCall) : SizeDesk :=
  if c.Confirmed s.volume then
    { db := ((s.booking tradeId c).map fun w => w.apply s.db).getD s.db
      volume := s.volume - c.closed s.volume }
  else s

/-- The row of the trade has the volume that is open at the broker. -/
def Recorded (s : SizeDesk) : Prop :=
  (s.db.getTrade tradeId).map Trade.remainingLots = some s.volume

/-- A confirmed close that the ledger follows: it is no repeat of a booking, and
the rest that is booked is the one that the broker keeps. -/
def Follows (s : SizeDesk) (c : PartialCall) : Prop :=
  c.Confirmed s.volume →
    (∀ w ∈ s.booking tradeId c, s.db.alreadyRecorded w.booking = false) ∧ c.Keeps s.volume

instance (s : SizeDesk) (c : PartialCall) : Decidable (s.Follows tradeId c) :=
  inferInstanceAs (Decidable (_ → _ ∧ _))

end SizeDesk

/-- An order of `open_trade` that the bridge reports as filled, by a broker that
fills the volume it is sent when it reports the request as done. -/
structure Filled (m : Terminal) (call : OrderCall) (info : SymbolInfo) (fill : Fill) : Prop where
  symbol : m.symbol = .value info
  placed : (placeOrder m call).1 = .placed fill
  done : ∀ request r, m.orderSend request = .answered r → r.retcode = retcodeDone →
    r.volume = request.volume
  some : 0 < fill.volume

/-- The last answer of the loop over the filling modes is that of one of them. -/
theorem sendAll_mem {send : Filling → SendAnswer} {modes : List Filling} {a : SendAnswer}
    (mem : a ∈ sendAll send modes) : ∃ mode, a = send mode := by
  induction modes with
  | nil => exact nomatch mem
  | cons mode modes ih =>
      rw [sendAll] at mem
      split_ifs at mem with retry
      · rcases List.mem_cons.mp mem with here | later
        · exact ⟨mode, here⟩
        · exact ih later
      · exact ⟨mode, List.mem_singleton.mp mem⟩

theorem preflight_error {m : Terminal} {reply : OrderReply} (h : preflight m = .error reply) :
    reply.success = none := by
  rw [preflight] at h
  split_ifs at h
  · rw [← Except.error.inj h]
    rfl
  · split at h
    · rw [← Except.error.inj h]
      rfl
    · rw [← Except.error.inj h]
      rfl
    · rw [← Except.error.inj h]
      rfl
    · rw [← Except.error.inj h]
      rfl
    · split_ifs at h
      · rw [← Except.error.inj h]
        rfl
      · rw [← Except.error.inj h]
        rfl
      · split at h
        · rw [← Except.error.inj h]
          rfl
        · rw [← Except.error.inj h]
          rfl
        · cases h

theorem preflight_ok {m : Terminal} {tick : Tick} {info : SymbolInfo}
    (h : preflight m = .ok (tick, info)) : m.symbol = .value info := by
  rw [preflight] at h
  split_ifs at h
  split at h
  · cases h
  · cases h
  · cases h
  · cases h
  · rename_i symbol
    split_ifs at h
    split at h
    · cases h
    · cases h
    · cases h
      exact symbol

theorem Filled.volume {m : Terminal} {call : OrderCall} {info : SymbolInfo} {fill : Fill}
    (filled : Filled m call info fill) : fill.volume = normaliseLots call info := by
  have placed := filled.placed
  rw [placeOrder] at placed
  cases checked : preflight m with
  | error reply =>
      rw [checked] at placed
      have none := preflight_error checked
      dsimp only at placed
      rw [placed] at none
      cases none
  | ok found =>
      obtain ⟨tick, info'⟩ := found
      have same : Call.value info' = .value info :=
        (preflight_ok checked).symm.trans filled.symbol
      cases same
      rw [checked] at placed
      dsimp only at placed
      cases last : (sendAll (fun mode => m.orderSend (orderRequest call tick info mode))
          fillModes).getLastD .none with
      | none =>
          rw [last, replyTo] at placed
          cases error : m.lastError with
          | ok text => rw [error] at placed; cases placed
          | error e => rw [error] at placed; cases placed
      | raised e =>
          rw [last, replyTo] at placed
          cases placed
      | answered r =>
          rw [last, replyTo] at placed
          by_cases done : r.retcode = retcodeDone
          · rw [if_pos done] at placed
            have volume : fill.volume = r.volume := by
              cases placed
              rfl
            have mem : SendAnswer.answered r ∈
                sendAll (fun mode => m.orderSend (orderRequest call tick info mode)) fillModes := by
              rw [List.getLastD_eq_getLast?] at last
              cases some' : (sendAll (fun mode => m.orderSend (orderRequest call tick info mode))
                  fillModes).getLast? with
              | none => rw [some'] at last; cases last
              | some a =>
                  rw [some', Option.getD_some] at last
                  exact last ▸ List.mem_of_getLast? some'
            obtain ⟨mode, sent⟩ := sendAll_mem mem
            rw [volume, filled.done _ r sent.symm done]
            rfl
          · rw [if_neg done, rejection] at placed
            split_ifs at placed <;> cases placed

namespace SizeDesk
variable {tradeId : String} {s : SizeDesk} {c : PartialCall}

/-- The row has the broker's volume, and is open while there is some. -/
structure Level (tradeId : String) (s : SizeDesk) : Prop where
  row : ∃ row, s.db.getTrade tradeId = some row ∧ row.remainingLots = s.volume ∧
    row.isOpen = decide (0 < s.volume)
  nonneg : 0 ≤ s.volume

theorem Level.recorded (level : s.Level tradeId) : s.Recorded tradeId := by
  obtain ⟨row, found, remaining, -⟩ := level.row
  rw [Recorded, found, Option.map_some, remaining]

theorem closed_pos (confirmed : c.Confirmed s.volume) : 0 < c.closed s.volume :=
  confirmed.2.1.trans_le (le_max_left _ _)

theorem Level.booking (level : s.Level tradeId) (some' : 0 < s.volume) :
    ∃ row, s.db.getTrade tradeId = some row ∧ row.remainingLots = s.volume ∧
      row.isOpen = true ∧
      s.booking tradeId c = some ⟨row, c.bookedLots s.volume, c.closePrice, c.reason, c.now⟩ := by
  obtain ⟨row, found, remaining, isOpen⟩ := level.row
  rw [decide_eq_true some'] at isOpen
  refine ⟨row, found, remaining, isOpen, ?_⟩
  rw [SizeDesk.booking, partialCloseTrade, found]
  dsimp only
  rw [if_pos isOpen]

/-- The row that a new booking leaves. -/
theorem remaining_apply {row : Trade} {w : PartialWrite}
    (found : s.db.getTrade tradeId = some row) (remaining : row.remainingLots = s.volume)
    (isOpen : row.isOpen = true) (own : w.row = row)
    (new : s.db.alreadyRecorded w.booking = false) :
    ∃ after, (w.apply s.db).getTrade tradeId = some after ∧
      after.remainingLots = roundTo 4 (s.volume - min w.requested s.volume) ∧
      after.isOpen = decide (0 < roundTo 4 (s.volume - min w.requested s.volume)) := by
  have key : w.row.tradeId = tradeId := own ▸ Table.key_of_find found
  have rest : w.newRemaining = roundTo 4 (s.volume - min w.requested s.volume) := by
    rw [PartialWrite.newRemaining, PartialWrite.lots, own, remaining]
  have nonneg : 0 ≤ w.newRemaining := by
    rw [rest]
    exact roundTo_nonneg 4 (sub_nonneg.mpr (min_le_right _ _))
  have after := (PartialWrite.apply_of_new new).getTrade_self
  rw [key, found, Option.map_some] at after
  refine ⟨_, after, ?_, ?_⟩
  · rw [Trade.afterPartial_remainingLots, ← rest]
    split_ifs with none
    · exact le_antisymm nonneg none
    · rfl
  · rw [← rest, Trade.afterPartial]
    by_cases none : w.newRemaining ≤ 0
    · rw [if_pos none, decide_eq_false (not_lt.mpr none)]
      rfl
    · rw [if_neg none, decide_eq_true (not_le.mp none), ← isOpen]
      split_ifs <;> rfl

/-- The rest that a close books, against the one the broker keeps. -/
theorem rest_eq_iff (confirmed : c.Confirmed s.volume) :
    roundTo 4 (s.volume - min (c.bookedLots s.volume) s.volume) =
        s.volume - c.closed s.volume ↔
      c.Keeps s.volume := by
  rw [PartialCall.Keeps, PartialCall.bookedLots]
  cases c.booked with
  | asked => rfl
  | answered =>
      dsimp only
      rw [min_eq_left confirmed.2.2]
      constructor
      · intro same
        rw [← same]
        exact roundTo_onGrid 4 _
      · exact roundTo_of_onGrid

theorem Level.step (level : s.Level tradeId) (follows : s.Follows tradeId c) :
    (s.step tradeId c).Level tradeId := by
  rw [SizeDesk.step]
  by_cases confirmed : c.Confirmed s.volume
  · obtain ⟨row, found, remaining, isOpen, booking⟩ := level.booking (c := c) confirmed.1
    obtain ⟨fresh, rest⟩ := follows confirmed
    have new := fresh _ booking
    obtain ⟨after, here, left, openAfter⟩ := remaining_apply found remaining isOpen rfl new
    dsimp only at left openAfter
    rw [(rest_eq_iff confirmed).mpr rest] at left openAfter
    rw [if_pos confirmed, booking]
    exact ⟨⟨after, here, left, openAfter⟩, sub_nonneg.mpr confirmed.2.2⟩
  · rw [if_neg confirmed]
    exact level

theorem Level.follows (level : s.Level tradeId)
    (recorded : (s.step tradeId c).Recorded tradeId) : s.Follows tradeId c := by
  intro confirmed
  obtain ⟨row, found, remaining, isOpen, booking⟩ := level.booking (c := c) confirmed.1
  rw [Recorded, SizeDesk.step, if_pos confirmed, booking, Option.map_some, Option.getD_some]
    at recorded
  have new : s.db.alreadyRecorded
      (PartialWrite.booking ⟨row, c.bookedLots s.volume, c.closePrice, c.reason, c.now⟩) =
        false := by
    cases old : s.db.alreadyRecorded
        (PartialWrite.booking ⟨row, c.bookedLots s.volume, c.closePrice, c.reason, c.now⟩) with
    | false => rfl
    | true =>
        rw [PartialWrite.apply_of_recorded old, found, Option.map_some, remaining] at recorded
        have same := Option.some.inj recorded
        have some' := closed_pos confirmed
        linarith
  constructor
  · intro w mem
    rw [booking] at mem
    rw [← Option.some.inj mem]
    exact new
  · obtain ⟨after, here, left, -⟩ := remaining_apply found remaining isOpen rfl new
    rw [here, Option.map_some, left] at recorded
    exact (rest_eq_iff confirmed).mp (Option.some.inj recorded)

end SizeDesk

/-- After the opening and after each confirmed partial close, the row has the
volume open at the broker, just when the lot that was asked for is one that the
bridge leaves as it is, and each close is one that the ledger follows. -/
theorem recorded_eq_volume_iff {m : Terminal} {call : OrderCall} {info : SymbolInfo} {fill : Fill}
    (filled : Filled m call info fill) (row : Trade) {db : Db} (opened : row.Opened db)
    (isOpen : row.isOpen = true) (size : row.lotSize = call.lots)
    (calls : List PartialCall) :
    (∀ cs, cs <+: calls →
        (cs.foldl (SizeDesk.step row.tradeId) ⟨db, fill.volume⟩).Recorded row.tradeId) ↔
      normaliseLots call info = call.lots ∧
        Meets (SizeDesk.step row.tradeId) (SizeDesk.Follows row.tradeId) ⟨db, fill.volume⟩
          calls := by
  have opening : SizeDesk.Recorded row.tradeId ⟨db, fill.volume⟩ ↔
      normaliseLots call info = call.lots := by
    rw [SizeDesk.Recorded, opened.found, Option.map_some, opened.whole, size, filled.volume,
      Option.some_inj, eq_comm]
  have level : normaliseLots call info = call.lots →
      SizeDesk.Level row.tradeId ⟨db, fill.volume⟩ := by
    intro same
    refine ⟨⟨row, opened.found, ?_, ?_⟩, filled.some.le⟩
    · rw [opened.whole, size, filled.volume, same]
    · rw [isOpen, decide_eq_true filled.some]
  have runs : ∀ start : SizeDesk.Level row.tradeId ⟨db, fill.volume⟩,
      (∀ cs, cs <+: calls →
        (cs.foldl (SizeDesk.step row.tradeId) ⟨db, fill.volume⟩).Recorded row.tradeId) ↔
      Meets (SizeDesk.step row.tradeId) (SizeDesk.Follows row.tradeId) ⟨db, fill.volume⟩
        calls := by
    intro start
    rw [← states_iff (P := SizeDesk.Recorded row.tradeId) (fun s => SizeDesk.Level.recorded)
      (fun s c level ok => level.step ok) (fun s c level recorded => level.follows recorded) calls
      start]
    constructor
    · intro all s mem
      obtain ⟨cs, short, rfl⟩ := mem_states_iff.mp mem
      exact all cs short
    · exact fun all cs short => all _ (mem_states_iff.mpr ⟨cs, short, rfl⟩)
  constructor
  · intro all
    have same := opening.mp (all [] List.nil_prefix)
    exact ⟨same, (runs (level same)).mp all⟩
  · rintro ⟨same, run⟩
    exact (runs (level same)).mpr run

/-- A terminal that fills what it is sent. -/
def fillingTerminal : Terminal where
  connected := true
  lastConnectError := ""
  tick := .value ⟨2000, 2000⟩
  symbol := .value ⟨4, 1 / 100, 1 / 100, 100, 1 / 100, 0, 0⟩
  tradeAllowed := .value true
  orderSend request := .answered ⟨retcodeDone, 7001, request.price, request.volume, "done"⟩
  lastError := .ok ""

theorem filled_fillingTerminal (lots volume : ℚ)
    (placed : (placeOrder fillingTerminal ⟨.buy, lots, some 1990, none, "tb:t1"⟩).1 =
      .placed ⟨7001, 2000, volume, .buy, some 1990, none⟩) (some' : 0 < volume) :
    Filled fillingTerminal ⟨.buy, lots, some 1990, none, "tb:t1"⟩
      ⟨4, 1 / 100, 1 / 100, 100, 1 / 100, 0, 0⟩ ⟨7001, 2000, volume, .buy, some 1990, none⟩ := by
  refine ⟨rfl, placed, ?_, some'⟩
  intro request r sent _
  cases sent
  rfl

def boughtLots (lots : ℚ) : Trade :=
  .fresh "t1" "s1" (some 7001) .buy 2000 lots 1990 [some 2010, some 2020] 0 .adaptiveRunner .python
    false none none

/-- A lot of 0.015, set in the risk settings, is sent as 0.02. -/
theorem opened_size_ne_volume :
    ¬ ∀ (m : Terminal) (call : OrderCall) (info : SymbolInfo) (fill : Fill) (row : Trade) (db : Db)
        (calls : List PartialCall), Filled m call info fill → row.Opened db → row.isOpen = true →
      row.lotSize = call.lots →
        (calls.foldl (SizeDesk.step row.tradeId) ⟨db, fill.volume⟩).Recorded row.tradeId := by
  intro all
  have recorded := all _ _ _ _ (boughtLots (3 / 200))
    (Db.single (boughtLots (3 / 200)) Table.empty) []
    (filled_fillingTerminal (3 / 200) (1 / 50) (by decide +kernel) (by decide +kernel))
    ⟨rfl, by decide, rfl, by decide +kernel⟩ rfl rfl
  rw [SizeDesk.Recorded] at recorded
  exact absurd recorded (by decide +kernel)

theorem recorded_eq_volume_twoCloses :
    ([⟨3 / 100, some (1 / 100), .answered, "TP1", 2010, 1⟩,
        ⟨7 / 100, some (1 / 100), .answered, "TP2", 2020, 2⟩].foldl (SizeDesk.step "t1")
      ⟨Db.single (boughtLots (1 / 10)) Table.empty, 1 / 10⟩).Recorded "t1" :=
  (recorded_eq_volume_iff (filled_fillingTerminal (1 / 10) (1 / 10) (by decide +kernel)
    (by decide +kernel)) (boughtLots (1 / 10)) ⟨rfl, by decide, rfl, by decide +kernel⟩ rfl rfl
      _).mpr ⟨by decide +kernel, by decide +kernel⟩ _ (List.prefix_refl _)

end Forex
