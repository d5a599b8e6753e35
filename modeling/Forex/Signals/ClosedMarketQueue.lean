import Forex.Market.TradingWeek
import Forex.Support.Run
import Forex.Support.Table
import Mathlib.Data.List.Sort

/-!
The limit signals that arrive while the market is shut. The scan stores each in
a table; one flush at a time replays the stored ones once the market is open,
row by row, and signals may arrive and the process may restart between any two
of its steps. A write of a row's status may fail: it is logged and passed over.
-/

namespace Forex.ClosedMarket
open Support

variable {P : Type} (dumps : P → String) (loads : String → Option P)

def maxQueueAgeSec : ℚ := 72 * 3600

inductive QueueStatus where
  | queued
  | placed
  | expired
  | failed
deriving DecidableEq, Repr

structure QueuedSignal where
  tgMessageId : String
  channelName : String
  sourceLabel : String
  parsedJson : String
  queuedAt : ℚ
  status : QueueStatus
deriving DecidableEq, Repr

abbrev Queue := Table QueuedSignal QueuedSignal.tgMessageId

def QueuedSignal.mark (status : QueueStatus) : Assign QueuedSignal.tgMessageId :=
  ⟨fun r => { r with status := status }, fun _ => rfl⟩

namespace Queue
variable (queue : Queue)

def insertQueuedSignal (tgId channelName sourceLabel parsedJson : String) (queuedAt : ℚ) : Queue :=
  queue.insertOrIgnore ⟨tgId, channelName, sourceLabel, parsedJson, queuedAt, .queued⟩

def fetchQueuedSignals : List QueuedSignal :=
  (queue.rows.filter fun r => decide (r.status = .queued)).insertionSort
    fun a b => a.queuedAt ≤ b.queuedAt

def setQueuedStatus (tgId : String) (status : QueueStatus) : Queue :=
  queue.update tgId (QueuedSignal.mark status)

end Queue

/-- What a limit signal comes with, and is placed with. -/
structure LimitSignal (P : Type) where
  parsed : P
  tgId : String
  channelName : String
  sourceLabel : String
deriving DecidableEq, Repr

def shouldQueue (lkQueueClosedMarketLimits : Bool) (now : ℚ) : Bool :=
  lkQueueClosedMarketLimits && isWeeklyMarketClosed now

/-- A flush on its way through the rows it has fetched. -/
structure Flush where
  /-- The clock by which the market was found open. -/
  clock : ℚ
  now : ℚ
  rows : List QueuedSignal
  /-- The message whose placement is awaited. -/
  placing : Option String
deriving DecidableEq, Repr

structure HandedOver (P : Type) where
  signal : LimitSignal P
  queuedAt : ℚ
  clock : ℚ
  now : ℚ
deriving DecidableEq, Repr

/-- The table and the flush, and what has come in, gone out and been lost so far:
newest first. -/
structure Desk (P : Type) where
  queue : Queue
  flush : Option Flush
  arrived : List (ℚ × LimitSignal P)
  handed : List (HandedOver P)
  /-- The messages handed over whose row was not marked. -/
  unmarked : List String

inductive Step (P : Type) where
  /-- The scan comes to a limit signal outside the sessions. -/
  | arrive (now : ℚ) (lkQueueClosedMarketLimits : Bool) (signal : LimitSignal P) (written : Bool)
  | flush (clock now : ℚ) (read : Bool)
  /-- The flush comes to its next row. -/
  | visit (written : Bool)
  | placed
  | raised (written : Bool)
  | restart

namespace Desk

def start : Desk P := ⟨Table.empty, none, [], [], []⟩

variable (d : Desk P)

def mark (written : Bool) (tgId : String) (status : QueueStatus) : Queue :=
  if written then d.queue.setQueuedStatus tgId status else d.queue

def queueClosedMarketLimit (now : ℚ) (signal : LimitSignal P) (written : Bool) : Desk P :=
  if written then
    { d with
      queue := d.queue.insertQueuedSignal signal.tgId signal.channelName signal.sourceLabel
        (dumps signal.parsed) now
      arrived := (now, signal) :: d.arrived }
  else d

def visit (written : Bool) (f : Flush) (row : QueuedSignal) (rest : List QueuedSignal) : Desk P :=
  if maxQueueAgeSec < f.now - row.queuedAt then
    { d with
      queue := d.mark written row.tgMessageId .expired
      flush := some { f with rows := rest } }
  else
    match loads row.parsedJson with
    | none =>
        { d with
          queue := d.mark written row.tgMessageId .failed
          flush := some { f with rows := rest } }
    | some parsed =>
        { d with
          queue := d.mark written row.tgMessageId .placed
          flush := some { f with rows := rest, placing := some row.tgMessageId }
          handed :=
            ⟨⟨parsed, row.tgMessageId, row.channelName, row.sourceLabel⟩, row.queuedAt, f.clock,
              f.now⟩ :: d.handed
          unmarked := if written then d.unmarked else row.tgMessageId :: d.unmarked }

def step : Step P → Desk P
  | .arrive now lkQueue signal written =>
      if shouldQueue lkQueue now then d.queueClosedMarketLimit dumps now signal written else d
  | .flush clock now read =>
      match d.flush with
      | some _ => d
      | none =>
          if isWeeklyMarketClosed clock || !read then d
          else { d with flush := some ⟨clock, now, d.queue.fetchQueuedSignals, none⟩ }
  | .visit written =>
      match d.flush with
      | some ⟨clock, now, row :: rest, none⟩ =>
          d.visit loads written ⟨clock, now, row :: rest, none⟩ row rest
      | some ⟨_, _, [], none⟩ => { d with flush := none }
      | _ => d
  | .placed =>
      match d.flush with
      | some f => { d with flush := some { f with placing := none } }
      | none => d
  | .raised written =>
      match d.flush with
      | some ⟨clock, now, rows, some tgId⟩ =>
          { d with
            queue := d.mark written tgId .failed
            flush := some ⟨clock, now, rows, none⟩ }
      | _ => d
  | .restart => { d with flush := none }

end Desk

/-- What was handed over is what once came in, no oftener than once more than its
row went unmarked, and neither late nor while the market was shut. -/
structure Delivered (d : Desk P) : Prop where
  once : ∀ tgId, d.handed.countP (fun h => decide (h.signal.tgId = tgId)) ≤
    d.unmarked.count tgId + 1
  whole : ∀ h ∈ d.handed, (h.queuedAt, h.signal) ∈ d.arrived
  shut : ∀ h ∈ d.handed, isWeeklyMarketClosed h.queuedAt = true
  opened : ∀ h ∈ d.handed, isWeeklyMarketClosed h.clock = false
  fresh : ∀ h ∈ d.handed, h.now - h.queuedAt ≤ maxQueueAgeSec

/-- One if the message's row is marked. -/
def spent (queue : Queue) (tgId : String) : ℕ :=
  if (queue.find tgId).any fun r => decide (r.status ≠ .queued) then 1 else 0

/-- A row stands for one of the signals that came in while the market was shut. -/
def Stands (arrived : List (ℚ × LimitSignal P)) (row : QueuedSignal) : Prop :=
  isWeeklyMarketClosed row.queuedAt = true ∧
    ∃ parsed, row.parsedJson = dumps parsed ∧
      (row.queuedAt, ⟨parsed, row.tgMessageId, row.channelName, row.sourceLabel⟩) ∈ arrived

structure Waiting (queue : Queue) (f : Flush) : Prop where
  distinct : (f.rows.map QueuedSignal.tgMessageId).Nodup
  queued : ∀ row ∈ f.rows, row ∈ queue.rows ∧ row.status = .queued
  apart : ∀ tgId ∈ f.placing, tgId ∉ f.rows.map QueuedSignal.tgMessageId
  opened : isWeeklyMarketClosed f.clock = false

structure Held (d : Desk P) : Prop where
  rows : ∀ row ∈ d.queue.rows, Stands dumps d.arrived row
  waiting : ∀ f ∈ d.flush, Waiting d.queue f
  counts : ∀ tgId, d.handed.countP (fun h => decide (h.signal.tgId = tgId)) ≤
    d.unmarked.count tgId + spent d.queue tgId
  whole : ∀ h ∈ d.handed, (h.queuedAt, h.signal) ∈ d.arrived
  shut : ∀ h ∈ d.handed, isWeeklyMarketClosed h.queuedAt = true
  opened : ∀ h ∈ d.handed, isWeeklyMarketClosed h.clock = false
  fresh : ∀ h ∈ d.handed, h.now - h.queuedAt ≤ maxQueueAgeSec

variable {dumps loads} {d : Desk P} {queue queue' : Queue} {tgId : String}

theorem spent_le_one (queue : Queue) (tgId : String) : spent queue tgId ≤ 1 := by
  unfold spent
  split <;> omega

theorem Held.delivered (held : Held dumps d) : Delivered d where
  once tgId := (held.counts tgId).trans (Nat.add_le_add_left (spent_le_one _ _) _)
  whole := held.whole
  shut := held.shut
  opened := held.opened
  fresh := held.fresh

/-- What a mark leaves of the table. -/
structure Marks (queue queue' : Queue) (tgId : String) : Prop where
  others : ∀ row ∈ queue.rows, row.tgMessageId ≠ tgId → row ∈ queue'.rows
  rows : ∀ row' ∈ queue'.rows, ∃ row ∈ queue.rows, ∃ status, row' = { row with status := status }
  counted : ∀ k, spent queue k ≤ spent queue' k

theorem marks_refl (queue : Queue) (tgId : String) : Marks queue queue tgId where
  others _ mem _ := mem
  rows row mem := ⟨row, mem, row.status, rfl⟩
  counted _ := le_rfl

theorem marks_setQueuedStatus {status : QueueStatus} (terminal : status ≠ .queued)
    (queue : Queue) (tgId : String) : Marks queue (queue.setQueuedStatus tgId status) tgId where
  others row mem ne := Table.mem_update.mpr ⟨row, mem, (if_neg ne).symm⟩
  rows row' mem := by
    obtain ⟨row, here, rfl⟩ := Table.mem_update.mp mem
    refine ⟨row, here, if row.tgMessageId = tgId then status else row.status, ?_⟩
    split_ifs <;> rfl
  counted k := by
    by_cases same : k = tgId
    · subst same
      rw [spent, spent, Queue.setQueuedStatus, Table.find_update_self]
      cases queue.find k with
      | none => simp
      | some row => simp [QueuedSignal.mark, terminal]; split <;> omega
    · rw [spent, spent, Queue.setQueuedStatus, Table.find_update_of_ne _ _ same]

theorem Desk.marks (d : Desk P) (written : Bool) (tgId : String) (status : QueueStatus)
    (terminal : status ≠ .queued) : Marks d.queue (d.mark written tgId status) tgId := by
  cases written with
  | false => exact marks_refl d.queue tgId
  | true => exact marks_setQueuedStatus terminal d.queue tgId

theorem Marks.stands (marks : Marks queue queue' tgId) {arrived : List (ℚ × LimitSignal P)}
    (rows : ∀ row ∈ queue.rows, Stands dumps arrived row) :
    ∀ row ∈ queue'.rows, Stands dumps arrived row := by
  intro row' mem
  obtain ⟨row, here, status, rfl⟩ := marks.rows row' mem
  exact rows row here

theorem Marks.waiting (marks : Marks queue queue' tgId) {f : Flush} (waiting : Waiting queue f)
    (other : tgId ∉ f.rows.map QueuedSignal.tgMessageId) : Waiting queue' f where
  distinct := waiting.distinct
  queued row mem := by
    have ne : row.tgMessageId ≠ tgId := by
      rintro rfl
      exact other (List.mem_map_of_mem mem)
    exact ⟨marks.others row (waiting.queued row mem).1 ne, (waiting.queued row mem).2⟩
  apart := waiting.apart
  opened := waiting.opened

theorem Marks.counts (marks : Marks queue queue' tgId) {handed : List (HandedOver P)}
    {unmarked : List String}
    (counts : ∀ k, handed.countP (fun h => decide (h.signal.tgId = k)) ≤
      unmarked.count k + spent queue k) (k : String) :
    handed.countP (fun h => decide (h.signal.tgId = k)) ≤ unmarked.count k + spent queue' k :=
  (counts k).trans (Nat.add_le_add_left (marks.counted k) _)

theorem Held.start : Held dumps (Desk.start : Desk P) where
  rows := nofun
  waiting := nofun
  counts _ := Nat.zero_le _
  whole := nofun
  shut := nofun
  opened := nofun
  fresh := nofun

theorem Held.queueClosedMarketLimit (held : Held dumps d) {now : ℚ} (signal : LimitSignal P)
    (written : Bool) (closed : isWeeklyMarketClosed now = true) :
    Held dumps (d.queueClosedMarketLimit dumps now signal written) := by
  cases written with
  | false => exact held
  | true =>
      let row : QueuedSignal := ⟨signal.tgId, signal.channelName, signal.sourceLabel,
        dumps signal.parsed, now, .queued⟩
      have stays : ∀ r ∈ d.queue.rows, r ∈ (d.queue.insertOrIgnore row).rows := by
        intro r mem
        rw [Table.rows_insertOrIgnore]
        split_ifs
        · exact mem
        · exact List.mem_append_left _ mem
      exact {
        rows := by
          intro r mem
          have old : ∀ r ∈ d.queue.rows, Stands dumps ((now, signal) :: d.arrived) r := by
            intro r mem
            obtain ⟨shut, parsed, json, arrived⟩ := held.rows r mem
            exact ⟨shut, parsed, json, List.mem_cons_of_mem _ arrived⟩
          change r ∈ (d.queue.insertOrIgnore row).rows at mem
          rw [Table.rows_insertOrIgnore] at mem
          split_ifs at mem
          · exact old r mem
          · rcases List.mem_append.mp mem with here | new
            · exact old r here
            · obtain rfl := List.mem_singleton.mp new
              exact ⟨closed, signal.parsed, rfl, List.mem_cons_self⟩
        waiting := fun f flush =>
          have waits := held.waiting f flush
          ⟨waits.distinct, fun r mem => ⟨stays r (waits.queued r mem).1, (waits.queued r mem).2⟩,
            waits.apart, waits.opened⟩
        counts := by
          intro k
          have same : spent (d.queue.insertOrIgnore row) k = spent d.queue k := by
            rw [spent, spent, Table.find_insertOrIgnore]
            cases d.queue.find k with
            | some r => rfl
            | none =>
                by_cases mine : row.tgMessageId = k
                · rw [if_pos mine]
                  rfl
                · rw [if_neg mine]
                  rfl
          exact (held.counts k).trans (by rw [← same]; exact le_rfl)
        whole := fun h mem => List.mem_cons_of_mem _ (held.whole h mem)
        shut := held.shut
        opened := held.opened
        fresh := held.fresh }

theorem waiting_fetch {clock now : ℚ} (queue : Queue)
    (opened : isWeeklyMarketClosed clock = false) :
    Waiting queue ⟨clock, now, queue.fetchQueuedSignals, none⟩ where
  distinct := by
    have perm := (List.perm_insertionSort (fun a b : QueuedSignal => a.queuedAt ≤ b.queuedAt)
      (queue.rows.filter fun r => decide (r.status = .queued))).map QueuedSignal.tgMessageId
    exact perm.nodup_iff.mpr (queue.unique.sublist (List.filter_sublist.map _))
  queued row mem := by
    rw [Queue.fetchQueuedSignals, List.mem_insertionSort, List.mem_filter, decide_eq_true_eq] at mem
    exact mem
  apart := nofun
  opened := opened

theorem Waiting.tail {f : Flush} {row : QueuedSignal} {rest : List QueuedSignal}
    (waiting : Waiting queue f) (rows : f.rows = row :: rest) (placing : Option String)
    (apart : ∀ k ∈ placing, k = row.tgMessageId) :
    Waiting queue { f with rows := rest, placing := placing } ∧
      row.tgMessageId ∉ rest.map QueuedSignal.tgMessageId := by
  have distinct := waiting.distinct
  rw [rows, List.map_cons, List.nodup_cons] at distinct
  refine ⟨⟨distinct.2, fun r mem => waiting.queued r ?_, ?_, waiting.opened⟩, distinct.1⟩
  · rw [rows]
    exact List.mem_cons_of_mem _ mem
  · intro k mem
    rw [apart k mem]
    exact distinct.1

theorem spent_of_queued {row : QueuedSignal} (mem : row ∈ queue.rows)
    (status : row.status = .queued) :
    spent queue row.tgMessageId = 0 ∧
      spent (queue.setQueuedStatus row.tgMessageId .placed) row.tgMessageId = 1 := by
  have found : queue.find row.tgMessageId = some row := Table.find_eq_some_iff.mpr ⟨mem, rfl⟩
  constructor
  · simp [spent, found, status]
  · rw [spent, Queue.setQueuedStatus, Table.find_update_self, found]
    rfl

theorem Held.visit (roundTrip : ∀ p, loads (dumps p) = some p) (held : Held dumps d)
    (written : Bool) {f : Flush} {row : QueuedSignal} {rest : List QueuedSignal}
    (flush : d.flush = some f) (rows : f.rows = row :: rest) (idle : f.placing = none) :
    Held dumps (d.visit loads written f row rest) := by
  have waiting := held.waiting f flush
  obtain ⟨here, queued⟩ := waiting.queued row (by rw [rows]; exact List.mem_cons_self)
  obtain ⟨shut, parsed, json, arrived⟩ := held.rows row here
  obtain ⟨onward, other⟩ := waiting.tail rows f.placing (by simp [idle])
  have dropped {status : QueueStatus} (terminal : status ≠ .queued) :
      Held dumps { d with
        queue := d.mark written row.tgMessageId status
        flush := some { f with rows := rest } } := by
    have marks := d.marks written row.tgMessageId status terminal
    exact {
      rows := marks.stands held.rows
      waiting := by
        rintro _ ⟨⟩
        exact marks.waiting onward other
      counts := marks.counts held.counts
      whole := held.whole
      shut := held.shut
      opened := held.opened
      fresh := held.fresh }
  unfold Desk.visit
  by_cases stale : maxQueueAgeSec < f.now - row.queuedAt
  · rw [if_pos stale]
    exact dropped (by decide)
  · rw [if_neg stale]
    simp only [json, roundTrip]
    have marks := d.marks written row.tgMessageId .placed (by decide)
    obtain ⟨placing, -⟩ := waiting.tail rows (some row.tgMessageId) (by simp)
    exact {
      rows := marks.stands held.rows
      waiting := by
        rintro _ ⟨⟩
        exact marks.waiting placing other
      counts := by
        intro k
        have count := held.counts k
        have counted := marks.counted k
        rw [List.countP_cons]
        by_cases mine : row.tgMessageId = k
        · subst mine
          obtain ⟨before, after⟩ := spent_of_queued here queued
          simp only [decide_true, if_true]
          cases written with
          | true =>
              change _ ≤ d.unmarked.count row.tgMessageId +
                spent (d.queue.setQueuedStatus row.tgMessageId .placed) row.tgMessageId
              omega
          | false =>
              change _ ≤ (row.tgMessageId :: d.unmarked).count row.tgMessageId +
                spent d.queue row.tgMessageId
              rw [List.count_cons_self]
              omega
        · simp only [mine, decide_false, Bool.false_eq_true, if_false]
          cases written with
          | true =>
              change _ ≤ d.unmarked.count k + spent (d.mark true row.tgMessageId .placed) k
              omega
          | false =>
              change _ ≤ (row.tgMessageId :: d.unmarked).count k + spent d.queue k
              rw [List.count_cons_of_ne mine]
              omega
      whole := List.forall_mem_cons.mpr ⟨arrived, held.whole⟩
      shut := List.forall_mem_cons.mpr ⟨shut, held.shut⟩
      opened := List.forall_mem_cons.mpr ⟨waiting.opened, held.opened⟩
      fresh := List.forall_mem_cons.mpr ⟨not_lt.mp stale, held.fresh⟩ }

theorem Held.step (roundTrip : ∀ p, loads (dumps p) = some p) (held : Held dumps d) (a : Step P) :
    Held dumps (d.step dumps loads a) := by
  have noFlush : Held dumps { d with flush := none } :=
    ⟨held.rows, nofun, held.counts, held.whole, held.shut, held.opened, held.fresh⟩
  cases a with
  | arrive now lkQueue signal written =>
      simp only [Desk.step]
      split_ifs with due
      · exact held.queueClosedMarketLimit signal written (Bool.and_eq_true_iff.mp due).2
      · exact held
  | flush clock now read =>
      simp only [Desk.step]
      split
      · exact held
      · split_ifs with passed
        · exact held
        · rw [Bool.or_eq_true, not_or, Bool.not_eq_true] at passed
          refine { held with waiting := ?_ }
          rintro _ ⟨⟩
          exact waiting_fetch d.queue passed.1
  | visit written =>
      simp only [Desk.step]
      split
      · rename_i flush
        exact held.visit roundTrip written flush rfl rfl
      · exact noFlush
      · exact held
  | placed =>
      simp only [Desk.step]
      split
      · rename_i f flush
        refine { held with waiting := ?_ }
        rintro _ ⟨⟩
        have waiting := held.waiting f flush
        exact ⟨waiting.distinct, waiting.queued, nofun, waiting.opened⟩
      · exact held
  | raised written =>
      simp only [Desk.step]
      split
      · rename_i clock now rows tgId flush
        have marks := d.marks written tgId .failed (by decide)
        have waiting := held.waiting _ flush
        exact {
          rows := marks.stands held.rows
          waiting := by
            rintro _ ⟨⟩
            exact marks.waiting ⟨waiting.distinct, waiting.queued, nofun, waiting.opened⟩
              (waiting.apart tgId rfl)
          counts := marks.counts held.counts
          whole := held.whole
          shut := held.shut
          opened := held.opened
          fresh := held.fresh }
      · exact held
  | restart => exact noFlush

/-- In any run, with whatever arrives, fails or restarts between its steps. -/
theorem queue_delivers (roundTrip : ∀ p, loads (dumps p) = some p) (steps : List (Step P)) :
    ∀ d ∈ states (Desk.step dumps loads) Desk.start steps, Delivered d := by
  have run : Meets (Desk.step dumps loads) (fun _ _ => True) Desk.start steps :=
    meets_of_forall (fun _ _ => True.intro) _ _
  have all := states_invariant (I := Held dumps) (fun d a held _ => held.step roundTrip a)
    Held.start run
  exact fun d mem => (all d mem).delivered

def weekendRun : List (Step String) :=
  [.arrive 200000 true ⟨"BUY", "1", "VIP", "telegram"⟩ true,
    .arrive 200000 true ⟨"SELL", "2", "VIP", "telegram"⟩ true, .flush 340000 340000 true,
    .visit true, .placed, .visit true, .raised true, .visit true]

theorem queue_delivers_weekendRun :
    ∀ d ∈ states (Desk.step id some) (Desk.start : Desk String) weekendRun, Delivered d :=
  queue_delivers (fun _ => rfl) _

/-- The clock of the arrivals does not go back, and the flush's marks are written. -/
def Orderly (d : Desk P) : Step P → Prop
  | .arrive now _ _ _ => ∀ a ∈ d.arrived, a.1 ≤ now
  | .visit written => written = true
  | _ => True

def Before (a b : QueuedSignal) : Prop := a.queuedAt ≤ b.queuedAt

structure Ordered (d : Desk P) : Prop where
  handed : d.handed.Pairwise fun a b => b.queuedAt ≤ a.queuedAt
  behind : ∀ h ∈ d.handed, ∀ row ∈ d.queue.rows, row.status = .queued → h.queuedAt ≤ row.queuedAt
  flush : ∀ f ∈ d.flush, f.rows.Pairwise Before
  first : ∀ f ∈ d.flush, ∀ row ∈ d.queue.rows, row.status = .queued →
    row ∈ f.rows ∨ ∀ r ∈ f.rows, Before r row

/-- No mark brings a row back to the queue. -/
structure Drains (queue queue' : Queue) : Prop where
  queued : ∀ row ∈ queue'.rows, row.status = .queued → row ∈ queue.rows

theorem drains_setQueuedStatus {status : QueueStatus} (terminal : status ≠ .queued)
    (queue : Queue) (tgId : String) : ∀ row ∈ (queue.setQueuedStatus tgId status).rows,
      row.status = .queued → row ∈ queue.rows ∧ row.tgMessageId ≠ tgId := by
  intro row mem queued
  obtain ⟨old, here, rfl⟩ := Table.mem_update.mp mem
  by_cases mine : old.tgMessageId = tgId
  · rw [if_pos mine] at queued
    exact absurd queued terminal
  · rw [if_neg mine]
    exact ⟨here, mine⟩

theorem drains_mark (d : Desk P) (written : Bool) (tgId : String) (status : QueueStatus)
    (terminal : status ≠ .queued) : Drains d.queue (d.mark written tgId status) := by
  cases written with
  | false => exact ⟨fun _ mem _ => mem⟩
  | true =>
      exact ⟨fun row mem queued => (drains_setQueuedStatus terminal d.queue tgId row mem queued).1⟩

theorem Ordered.start : Ordered (Desk.start : Desk P) := ⟨List.Pairwise.nil, nofun, nofun, nofun⟩

theorem Ordered.arrive (ordered : Ordered d) (held : Held dumps d) {now : ℚ}
    (signal : LimitSignal P) (written : Bool) (late : ∀ a ∈ d.arrived, a.1 ≤ now) :
    Ordered (d.queueClosedMarketLimit dumps now signal written) := by
  cases written with
  | false => exact ordered
  | true =>
      have rows : ∀ row ∈ (d.queue.insertQueuedSignal signal.tgId signal.channelName
          signal.sourceLabel (dumps signal.parsed) now).rows,
          row ∈ d.queue.rows ∨ row.queuedAt = now := by
        intro row mem
        rw [Queue.insertQueuedSignal, Table.rows_insertOrIgnore] at mem
        split_ifs at mem
        · exact .inl mem
        · rcases List.mem_append.mp mem with here | new
          · exact .inl here
          · rw [List.mem_singleton.mp new]
            exact .inr rfl
      exact {
        handed := ordered.handed
        behind := by
          intro h mem row here queued
          rcases rows row here with old | new
          · exact ordered.behind h mem row old queued
          · rw [new]
            exact late _ (held.whole h mem)
        flush := ordered.flush
        first := by
          intro f flush row here queued
          rcases rows row here with old | new
          · exact ordered.first f flush row old queued
          · refine .inr fun r mem => ?_
            have waiting := held.waiting f flush
            obtain ⟨-, parsed, -, arrived⟩ := held.rows r (waiting.queued r mem).1
            rw [Before, new]
            exact late _ arrived }

theorem Ordered.visit (roundTrip : ∀ p, loads (dumps p) = some p) (ordered : Ordered d)
    (held : Held dumps d) {f : Flush} {row : QueuedSignal} {rest : List QueuedSignal}
    (flush : d.flush = some f) (rows : f.rows = row :: rest) :
    Ordered (d.visit loads true f row rest) := by
  obtain ⟨here, queued⟩ :=
    (held.waiting f flush).queued row (by rw [rows]; exact List.mem_cons_self)
  obtain ⟨-, parsed, json, -⟩ := held.rows row here
  have sorted := ordered.flush f flush
  rw [rows, List.pairwise_cons] at sorted
  have remain (status : QueueStatus) (terminal : status ≠ .queued) :
      ∀ r ∈ (d.queue.setQueuedStatus row.tgMessageId status).rows, r.status = .queued →
        (r ∈ rest ∨ ∀ s ∈ rest, Before s r) ∧ Before row r ∧ r ∈ d.queue.rows := by
    intro r mem waiting
    obtain ⟨old, ne⟩ := drains_setQueuedStatus terminal d.queue row.tgMessageId r mem waiting
    have first := ordered.first f flush r old waiting
    rw [rows, List.forall_mem_cons, List.mem_cons] at first
    rcases first with (rfl | next) | ahead
    · exact absurd rfl ne
    · exact ⟨.inl next, sorted.1 r next, old⟩
    · exact ⟨.inr ahead.2, ahead.1, old⟩
  unfold Desk.visit
  by_cases stale : maxQueueAgeSec < f.now - row.queuedAt
  · rw [if_pos stale]
    exact {
      handed := ordered.handed
      behind := fun h mem r old waiting =>
        ordered.behind h mem r (remain .expired (by decide) r old waiting).2.2 waiting
      flush := by
        rintro _ ⟨⟩
        exact sorted.2
      first := by
        rintro _ ⟨⟩ r old waiting
        exact (remain .expired (by decide) r old waiting).1 }
  · rw [if_neg stale]
    simp only [json, roundTrip]
    exact {
      handed := List.pairwise_cons.mpr
        ⟨fun h mem => ordered.behind h mem row here queued, ordered.handed⟩
      behind := by
        refine List.forall_mem_cons.mpr ⟨fun r old waiting => ?_, fun h mem r old waiting => ?_⟩
        · exact (remain .placed (by decide) r old waiting).2.1
        · exact ordered.behind h mem r
            (remain .placed (by decide) r old waiting).2.2 waiting
      flush := by
        rintro _ ⟨⟩
        exact sorted.2
      first := by
        rintro _ ⟨⟩ r old waiting
        exact (remain .placed (by decide) r old waiting).1 }

theorem Ordered.step (roundTrip : ∀ p, loads (dumps p) = some p) (ordered : Ordered d)
    (held : Held dumps d) {a : Step P} (orderly : Orderly d a) :
    Ordered (d.step dumps loads a) := by
  have noFlush : Ordered { d with flush := none } :=
    ⟨ordered.handed, ordered.behind, nofun, nofun⟩
  cases a with
  | arrive now lkQueue signal written =>
      simp only [Desk.step]
      split_ifs
      · exact ordered.arrive held signal written orderly
      · exact ordered
  | flush clock now read =>
      simp only [Desk.step]
      split
      · exact ordered
      · split_ifs
        · exact ordered
        · refine ⟨ordered.handed, ordered.behind, ?_, ?_⟩
          · rintro _ ⟨⟩
            exact List.pairwise_insertionSort (fun a b : QueuedSignal => a.queuedAt ≤ b.queuedAt) _
          · rintro _ ⟨⟩ row mem queued
            refine .inl ?_
            rw [Queue.fetchQueuedSignals, List.mem_insertionSort, List.mem_filter,
              decide_eq_true_eq]
            exact ⟨mem, queued⟩
  | visit written =>
      obtain rfl : written = true := orderly
      simp only [Desk.step]
      split
      · rename_i flush
        exact ordered.visit roundTrip held flush rfl
      · exact noFlush
      · exact ordered
  | placed =>
      simp only [Desk.step]
      split
      · rename_i f flush
        refine ⟨ordered.handed, ordered.behind, ?_, ?_⟩
        · rintro _ ⟨⟩
          exact ordered.flush f flush
        · rintro _ ⟨⟩
          exact ordered.first f flush
      · exact ordered
  | raised written =>
      simp only [Desk.step]
      split
      · rename_i clock now rows tgId flush
        have drains := drains_mark d written tgId .failed (by decide)
        refine ⟨ordered.handed, fun h mem row here queued => ?_, ?_, ?_⟩
        · exact ordered.behind h mem row (drains.queued row here queued) queued
        · rintro _ ⟨⟩
          exact ordered.flush ⟨clock, now, rows, some tgId⟩ flush
        · rintro _ ⟨⟩ row here queued
          exact ordered.first ⟨clock, now, rows, some tgId⟩ flush row (drains.queued row here queued)
            queued
      · exact ordered
  | restart => exact noFlush

/-- Signals are replayed in the order in which they were queued, over all the
flushes of a run. -/
theorem queue_replays_in_order (roundTrip : ∀ p, loads (dumps p) = some p) (steps : List (Step P))
    (run : Meets (Desk.step dumps loads) Orderly Desk.start steps) :
    ∀ d ∈ states (Desk.step dumps loads) Desk.start steps,
      d.handed.Pairwise fun a b => b.queuedAt ≤ a.queuedAt := by
  have all := states_invariant (I := fun d => Held dumps d ∧ Ordered d)
    (fun d a both orderly => ⟨both.1.step roundTrip a, both.2.step roundTrip both.1 orderly⟩)
    ⟨Held.start, Ordered.start⟩ run
  exact fun d mem => (all d mem).2.handed

theorem queue_replays_in_order_weekendRun :
    ∀ d ∈ states (Desk.step id some) (Desk.start : Desk String) weekendRun,
      d.handed.Pairwise fun a b => b.queuedAt ≤ a.queuedAt := by
  refine queue_replays_in_order (fun _ => rfl) _ ⟨nofun, fun a mem => ?_, True.intro, rfl,
    True.intro, rfl, True.intro, rfl, True.intro⟩
  have arrived : ∀ a ∈ ((Desk.start : Desk String).step id some
      (.arrive 200000 true ⟨"BUY", "1", "VIP", "telegram"⟩ true)).arrived, a.1 ≤ 200000 := by
    simp only [Desk.step]
    split_ifs
    · simp [Desk.queueClosedMarketLimit, Desk.start]
    · simp [Desk.start]
  exact arrived a mem

end Forex.ClosedMarket
