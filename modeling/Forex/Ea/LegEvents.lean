import Forex.Ledger.Closers

/-!
The bridge's handlers for what the EA reports about the legs of a template
trade. One row stands for all legs: the first leg to fill gives it its ticket,
and a later report is mapped onto the row by its id and its ticket. A handler
that has found its row awaits before it writes, so another leg's fill may come
in between.
-/

namespace Forex
open Support

/-- `^(.+)-([ag])(\d+)$`; a trailing newline is let pass. -/
def splitLegTradeId (tradeId : String) : Option (String × Char) :=
  let back := match tradeId.toList.reverse with
    | '\n' :: rest => rest
    | rest => rest
  match back.takeWhile Char.isDigit, back.dropWhile Char.isDigit with
  | _ :: _, kind :: '-' :: c :: base =>
      if (kind = 'a' ∨ kind = 'g') ∧ '\n' ∉ c :: base then
        some (String.ofList (c :: base).reverse, kind)
      else none
  | _, _ => none

/-- The trade whose leg the id names. -/
def legParent (legTradeId : String) : Option String := (splitLegTradeId legTradeId).map Prod.fst

/-- A leg that went live, with the volume the broker shows for it. -/
structure LegFill where
  tradeId : String
  ticket : Option ℤ
  fillPrice : ℚ
  lots : Option ℚ
  now : ℚ

def LegFill.parent (f : LegFill) : Option String := legParent f.tradeId

def LegFill.volume (f : LegFill) : Option ℚ := f.lots.filter fun lots => decide (lots ≠ 0)

inductive LegReport where
  | tpHit (tpNum : ℕ) (price lots : ℚ)
  | slMoved (newSl : ℚ)
  /-- `verified` is the exit price of the broker's deals, asked for when the
  report has none. -/
  | closed (closePrice : ℚ) (reason : String) (verified : Option ℚ)

structure LegEvent where
  /-- The broker position that the EA is reporting on. -/
  leg : ℤ
  tradeId : String
  /-- As the message has it. -/
  ticket : Option ℤ
  report : LegReport

namespace Trade

def promote (f : LegFill) : Assign Trade.tradeId where
  apply t :=
    { t with
      mt5Ticket := f.ticket
      entryPrice := f.fillPrice
      lotSize := f.volume.getD t.lotSize
      remainingLots := f.volume.getD t.remainingLots
      openTime := f.now }
  keeps _ := rfl

/-- `set_stop_loss_be` writes what the move to breakeven of a booking does. -/
def setStopLossBe (newSl : ℚ) : Assign Trade.tradeId := moveToBreakeven newSl

end Trade

/-- `claim_template_leg_fill`: only a row whose ticket is 0 is promoted. -/
def claimTemplateLegFill (db : Db) (originalId : String) (f : LegFill) : Db :=
  match db.getTrade originalId with
  | some row => if row.mt5Ticket = some 0 then db.setTrade originalId (Trade.promote f) else db
  | none => db

/-- `_promote_leg_fill`. When the row is not there yet, its task comes back
with the same fill. -/
def promoteLegFill (db : Db) (f : LegFill) : Db :=
  match f.parent with
  | some originalId => claimTemplateLegFill db originalId f
  | none => db

/-- `_resolve_leg_event`: the row's id, and whether the event may write it. -/
def resolveLegEvent (db : Db) (e : LegEvent) : Option (String × Bool) :=
  match db.getTrade e.tradeId with
  | some _ => some (e.tradeId, true)
  | none =>
      match splitLegTradeId e.tradeId with
      | none => none
      | some (base, _) =>
          match db.getTrade base with
          | none => none
          | some row =>
              let evTicket := e.ticket.getD 0
              let rowTicket := row.mt5Ticket.getD 0
              some (base, decide (rowTicket = 0 ∨ evTicket = 0 ∨ evTicket = rowTicket))

/-- Where the handler of an event stands. The connection hands on one event at
a time. -/
inductive LegHandler where
  | idle
  | owns (rowId : String) (e : LegEvent)
  | writes (rowId : String) (e : LegEvent) (w : CloserWrite)

structure LegDesk where
  db : Db
  handler : LegHandler

inductive LegStep where
  | fill (f : LegFill)
  | read (e : LegEvent)
  | proceed (now : ℚ)

namespace LegDesk
variable (s : LegDesk)

def read (e : LegEvent) : LegDesk :=
  match s.handler, resolveLegEvent s.db e with
  | .idle, some (rowId, true) => { s with handler := .owns rowId e }
  | _, _ => s

/-- What `_on_tp_hit`, `_on_sl_moved` and `_on_trade_closed` do with a row that
is theirs, up to the next await. -/
def handle (rowId : String) (e : LegEvent) (now : ℚ) : LegDesk :=
  let begin (w : Option CloserWrite) : LegDesk :=
    { s with handler := match w with
        | some w => .writes rowId e w
        | none => .idle }
  match e.report with
  | .tpHit tpNum price lots =>
      begin ((partialCloseTrade s.db rowId lots price ("TP" ++ toString tpNum) now).map
        .partialClose)
  | .slMoved newSl => ⟨s.db.setTrade rowId (Trade.setStopLossBe newSl), .idle⟩
  | .closed closePrice reason verified =>
      begin ((if 0 < closePrice then some closePrice else verified).bind fun price =>
        (recordClose s.db rowId price reason now).map .fullClose)

def proceed (now : ℚ) : LegDesk :=
  match s.handler with
  | .idle => s
  | .owns rowId e => s.handle rowId e now
  | .writes _ _ w => ⟨w.apply s.db, .idle⟩

def step : LegStep → LegDesk
  | .fill f => { s with db := promoteLegFill s.db f }
  | .read e => s.read e
  | .proceed now => s.proceed now

/-- The ticket of the leg that has become the row's. -/
def promoted (tradeId : String) : Option ℤ :=
  (s.db.getTrade tradeId).bind fun t => t.mt5Ticket.filter fun ticket => decide (ticket ≠ 0)

def inHand : Option (String × LegEvent) :=
  match s.handler with
  | .idle => none
  | .owns rowId e => some (rowId, e)
  | .writes rowId e _ => some (rowId, e)

/-- The leg a step is about. -/
def legOf : LegStep → Option ℤ
  | .fill f => f.ticket
  | .read e => some e.leg
  | .proceed _ => s.inHand.map fun held => held.2.leg

end LegDesk

/-- Ticket, entry, lots, stop and status. -/
def Trade.tracked (t : Trade) : Option ℤ × ℚ × ℚ × ℚ × ℚ × TradeStatus :=
  (t.mt5Ticket, t.entryPrice, t.lotSize, t.remainingLots, t.stopLoss, t.status)

namespace LegDesk
variable (tradeId : String) (s : LegDesk)

/-- Once a leg is the row's, it stays so, and a step about another leg leaves
the row as it is. -/
def OneLeg (a : LegStep) : Prop :=
  ∀ ticket ∈ s.promoted tradeId,
    (s.step a).promoted tradeId = some ticket ∧
    (s.legOf a ≠ some ticket →
      ((s.step a).db.getTrade tradeId).map Trade.tracked =
        (s.db.getTrade tradeId).map Trade.tracked)

instance (a : LegStep) : Decidable (s.OneLeg tradeId a) :=
  inferInstanceAs (Decidable (∀ ticket ∈ s.promoted tradeId, _))

/-- A report on another leg than the row's does not come under the row's own id
and has its own ticket; and no leg fills the row while a report on another one
is in hand. -/
def Told : LegStep → Prop
  | .fill f => f.parent = some tradeId → s.promoted tradeId = none → ∀ held ∈ s.inHand,
      held.1 = tradeId → f.ticket = some held.2.leg
  | .read e => ∀ ticket ∈ s.promoted tradeId,
      e.leg = ticket ∨ e.tradeId ≠ tradeId ∧ e.ticket = some e.leg ∧ e.leg ≠ 0
  | .proceed _ => True

instance : ∀ a, Decidable (s.Told tradeId a)
  | .fill _ => inferInstanceAs (Decidable (_ → _ → ∀ held ∈ s.inHand, _))
  | .read _ => inferInstanceAs (Decidable (∀ ticket ∈ s.promoted tradeId, _))
  | .proceed _ => isTrue True.intro

end LegDesk

/-- A write of one row that leaves the row's ticket. -/
def Db.WritesRow (db db' : Db) (rowId : String) : Prop :=
  ∃ f : Assign Trade.tradeId, (∀ t, (f t).mt5Ticket = t.mt5Ticket) ∧
    db'.trades = db.trades.update rowId f

theorem Trade.afterPartial_mt5Ticket ( be : Bool)
    (now closePrice partialPnl newRemaining entryPrice : ℚ) (t : Trade) :
    (Trade.afterPartial be now closePrice partialPnl newRemaining entryPrice t).mt5Ticket =
      t.mt5Ticket := by
  rw [afterPartial]
  split_ifs <;> rfl

theorem PartialWrite.writesRow (w : PartialWrite) (db : Db) :
    db.WritesRow (w.apply db) w.row.tradeId := by
  cases old : db.alreadyRecorded w.booking with
  | true =>
      rw [apply_of_recorded old]
      exact ⟨Assign.skip, fun _ => rfl, (Table.update_skip _ _).symm⟩
  | false =>
      exact ⟨_, Trade.afterPartial_mt5Ticket _ _ _ _ _ _, (apply_of_new old).trades⟩

theorem FullWrite.writesRow (w : FullWrite) (db : Db) :
    db.WritesRow (w.apply db).1 w.row.tradeId := by
  cases won : (db.getTrade w.row.tradeId).any Trade.isOpen with
  | false =>
      rw [apply_of_settled won]
      exact ⟨Assign.skip, fun _ => rfl, (Table.update_skip _ _).symm⟩
  | true => exact ⟨_, fun _ => rfl, (apply_of_open won).trades⟩

theorem Db.WritesRow.getTrade {db db' : Db} {rowId tradeId : String}
    (h : db.WritesRow db' rowId) (ne : tradeId ≠ rowId) :
    db'.getTrade tradeId = db.getTrade tradeId := by
  obtain ⟨f, _, trades⟩ := h
  rw [Db.getTrade, trades]
  exact Table.find_update_of_ne _ _ ne

theorem Db.WritesRow.ticket {db db' : Db} {rowId : String} (h : db.WritesRow db' rowId)
    (tradeId : String) :
    (db'.getTrade tradeId).map Trade.mt5Ticket = (db.getTrade tradeId).map Trade.mt5Ticket := by
  by_cases same : tradeId = rowId
  · obtain ⟨f, ticket, trades⟩ := h
    subst same
    rw [Db.getTrade, trades, Table.find_update_self, Option.map_map]
    exact congrArg (fun g => Option.map g (db.getTrade tradeId)) (funext ticket)
  · rw [h.getTrade same]

/-- A fill leaves a row as it is, or promotes the placeholder it belongs to. -/
theorem promoteLegFill_getTrade (db : Db) (f : LegFill) (tradeId : String) :
    (promoteLegFill db f).getTrade tradeId = db.getTrade tradeId ∨
      f.parent = some tradeId ∧ ∃ row, db.getTrade tradeId = some row ∧
        row.mt5Ticket = some 0 ∧
        (promoteLegFill db f).getTrade tradeId = some (Trade.promote f row) := by
  rw [promoteLegFill]
  cases parent : f.parent with
  | none => exact .inl rfl
  | some originalId =>
      dsimp only [claimTemplateLegFill]
      cases found : db.getTrade originalId with
      | none => exact .inl rfl
      | some row =>
          dsimp only
          by_cases waiting : row.mt5Ticket = some 0
          · rw [if_pos waiting]
            by_cases same : tradeId = originalId
            · subst same
              refine .inr ⟨rfl, row, found, waiting, ?_⟩
              rw [Db.setTrade, Db.getTrade, Table.find_update_self]
              exact congrArg (Option.map (Trade.promote f)) found
            · exact .inl (Table.find_update_of_ne _ _ same)
          · rw [if_neg waiting]
            exact .inl rfl

namespace LegDesk
variable {tradeId : String} {s : LegDesk}

theorem promoted_eq_some {ticket : ℤ} (h : s.promoted tradeId = some ticket) :
    ∃ row, s.db.getTrade tradeId = some row ∧ row.mt5Ticket = some ticket ∧ ticket ≠ 0 := by
  obtain ⟨row, found, filtered⟩ := Option.bind_eq_some_iff.mp h
  obtain ⟨same, nonzero⟩ := Option.filter_eq_some_iff.mp filtered
  exact ⟨row, found, same, of_decide_eq_true nonzero⟩

theorem promoted_congr {s' : LegDesk}
    (same : (s'.db.getTrade tradeId).map Trade.mt5Ticket =
      (s.db.getTrade tradeId).map Trade.mt5Ticket) :
    s'.promoted tradeId = s.promoted tradeId := by
  have through : ∀ s : LegDesk, s.promoted tradeId =
      ((s.db.getTrade tradeId).map Trade.mt5Ticket).bind fun ticket =>
        ticket.filter fun ticket => decide (ticket ≠ 0) := by
    intro s
    rw [promoted, Option.bind_map]
    rfl
  rw [through, through, same]

theorem promoted_of_waiting {row : Trade} (found : s.db.getTrade tradeId = some row)
    (waiting : row.mt5Ticket = some 0) : s.promoted tradeId = none := by
  simp [promoted, found, waiting]

/-- The event in hand is the promoted leg's, and what it is about to write is
the row it was mapped onto. -/
structure InOrder (tradeId : String) (s : LegDesk) : Prop where
  held : ∀ ticket ∈ s.promoted tradeId, ∀ held ∈ s.inHand, held.1 = tradeId →
    held.2.leg = ticket
  row : ∀ rowId e w, s.handler = .writes rowId e w → ∀ db : Db, db.WritesRow (w.apply db) rowId

theorem resolveLegEvent_told {db : Db} {e : LegEvent} {ticket : ℤ} {row : Trade}
    (found : db.getTrade tradeId = some row) (mine : row.mt5Ticket = some ticket)
    (nonzero : ticket ≠ 0) (mapped : resolveLegEvent db e = some (tradeId, true))
    (apart : e.tradeId ≠ tradeId) (own : e.ticket = some e.leg) (leg : e.leg ≠ 0) :
    e.leg = ticket := by
  rw [resolveLegEvent] at mapped
  split at mapped
  · exact absurd (congrArg Prod.fst (Option.some.inj mapped)) apart
  · split at mapped
    · exact absurd mapped (by simp)
    · next base kind _ =>
        split at mapped
        · exact absurd mapped (by simp)
        · next parent parentFound =>
            have pair := Option.some.inj mapped
            have same : base = tradeId := congrArg Prod.fst pair
            subst same
            rw [found] at parentFound
            have row_eq := Option.some.inj parentFound
            subst row_eq
            have owns := of_decide_eq_true (congrArg Prod.snd pair)
            simpa [own, mine, leg, nonzero] using owns

theorem InOrder.fill (h : InOrder tradeId s) {f : LegFill} (told : s.Told tradeId (.fill f)) :
    InOrder tradeId (s.step (.fill f)) := by
  refine ⟨?_, h.row⟩
  cases promoteLegFill_getTrade s.db f tradeId with
  | inl same =>
      have kept : (s.step (.fill f)).promoted tradeId = s.promoted tradeId :=
        promoted_congr (congrArg (Option.map Trade.mt5Ticket) same)
      rw [kept]
      exact h.held
  | inr claimed =>
      obtain ⟨parent, row, found, waiting, after⟩ := claimed
      intro ticket mem held inHand mine
      obtain ⟨row', found', ticket_eq, -⟩ := promoted_eq_some mem
      have row_eq : Trade.promote f row = row' :=
        Option.some.inj (after.symm.trans found')
      have filled : f.ticket = some ticket := by rw [← ticket_eq, ← row_eq]; rfl
      have own := told parent (promoted_of_waiting found waiting) held inHand mine
      exact Option.some.inj (own.symm.trans filled)

theorem InOrder.read (h : InOrder tradeId s) {e : LegEvent} (told : s.Told tradeId (.read e)) :
    InOrder tradeId (s.step (.read e)) := by
  change InOrder tradeId (s.read e)
  rw [LegDesk.read]
  split
  · next rowId _ mapped =>
      refine ⟨?_, by simp⟩
      intro ticket mem held inHand mine
      have held_eq : held = (rowId, e) := (Option.some.inj inHand).symm
      subst held_eq
      obtain ⟨row, found, ticket_eq, nonzero⟩ := promoted_eq_some mem
      cases told ticket mem with
      | inl own => exact own
      | inr sibling =>
          have target : rowId = tradeId := mine
          subst target
          exact resolveLegEvent_told found ticket_eq nonzero mapped sibling.1 sibling.2.1
            sibling.2.2
  · exact h

/-- A handler that owns its row writes nothing but that row, and not its ticket. -/
theorem handle_spec (s : LegDesk) (rowId : String) (e : LegEvent) (now : ℚ) :
    s.db.WritesRow (s.handle rowId e now).db rowId ∧
      (∀ held ∈ (s.handle rowId e now).inHand, held = (rowId, e)) ∧
      ∀ rowId' e' w, (s.handle rowId e now).handler = .writes rowId' e' w →
        ∀ db : Db, db.WritesRow (w.apply db) rowId' := by
  have idle : s.db.WritesRow s.db rowId :=
    ⟨Assign.skip, fun _ => rfl, (Table.update_skip _ _).symm⟩
  rw [handle]
  cases e.report with
  | slMoved newSl => exact ⟨⟨_, fun _ => rfl, rfl⟩, by simp [inHand], by simp⟩
  | tpHit tpNum price lots =>
      dsimp only
      cases begun : partialCloseTrade s.db rowId lots price ("TP" ++ toString tpNum) now with
      | none => exact ⟨idle, by simp [inHand], by simp⟩
      | some w =>
          refine ⟨idle, by simp [inHand, eq_comm], ?_⟩
          intro rowId' e' w' writing db
          cases writing
          rw [← Table.key_of_find (partialCloseTrade_eq_some begun).1]
          exact w.writesRow db
  | closed closePrice reason verified =>
      dsimp only
      cases (if 0 < closePrice then some closePrice else verified) with
      | none => exact ⟨idle, by simp [inHand], by simp⟩
      | some price =>
          rw [Option.bind_some, recordClose]
          cases found : s.db.getTrade rowId with
          | none => exact ⟨idle, by simp [inHand], by simp⟩
          | some row =>
              refine ⟨idle, by simp [inHand, eq_comm], ?_⟩
              intro rowId' e' w writing db
              cases writing
              have key : row.tradeId = rowId := Table.key_of_find found
              rw [← key]
              exact FullWrite.writesRow ⟨row, price, reason, now⟩ db

/-- The end of a handler's work: it writes the row it was mapped onto, and what
is still in hand was in hand before. -/
theorem proceed_spec (h : InOrder tradeId s) (now : ℚ) :
    ((s.proceed now).db = s.db ∨
      ∃ held ∈ s.inHand, s.db.WritesRow (s.proceed now).db held.1) ∧
      (∀ held ∈ (s.proceed now).inHand, held ∈ s.inHand) ∧
      ∀ rowId e w, (s.proceed now).handler = .writes rowId e w →
        ∀ db : Db, db.WritesRow (w.apply db) rowId := by
  rw [proceed]
  split
  · exact ⟨.inl rfl, fun _ held => held, h.row⟩
  · next rowId e phase =>
      obtain ⟨writes, kept, next⟩ := handle_spec s rowId e now
      have mine : (rowId, e) ∈ s.inHand := by simp [inHand, phase]
      exact ⟨.inr ⟨(rowId, e), mine, writes⟩, fun held mem => kept held mem ▸ mine, next⟩
  · next rowId e w phase =>
      have mine : (rowId, e) ∈ s.inHand := by simp [inHand, phase]
      exact ⟨.inr ⟨(rowId, e), mine, h.row rowId e w phase s.db⟩, by simp [inHand], by simp⟩

theorem promoted_proceed (h : InOrder tradeId s) (now : ℚ) :
    (s.proceed now).promoted tradeId = s.promoted tradeId := by
  cases (proceed_spec h now).1 with
  | inl same => exact promoted_congr (by rw [same])
  | inr wrote =>
      obtain ⟨held, _, writes⟩ := wrote
      exact promoted_congr (writes.ticket tradeId)

theorem InOrder.step (h : InOrder tradeId s) (a : LegStep) (told : s.Told tradeId a) :
    InOrder tradeId (s.step a) := by
  cases a with
  | fill f => exact h.fill told
  | read e => exact h.read told
  | proceed now =>
      obtain ⟨-, kept, next⟩ := proceed_spec h now
      refine ⟨?_, next⟩
      intro ticket mem held inHand mine
      have before : ticket ∈ s.promoted tradeId := promoted_proceed h now ▸ mem
      exact h.held ticket before held (kept held inHand) mine

theorem InOrder.oneLeg (h : InOrder tradeId s) (a : LegStep) : s.OneLeg tradeId a := by
  intro ticket mem
  cases a with
  | fill f =>
      cases promoteLegFill_getTrade s.db f tradeId with
      | inl same =>
          have kept : (s.step (.fill f)).promoted tradeId = s.promoted tradeId :=
            promoted_congr (congrArg (Option.map Trade.mt5Ticket) same)
          exact ⟨kept.trans mem, fun _ => congrArg (Option.map Trade.tracked) same⟩
      | inr claimed =>
          obtain ⟨-, row, found, waiting, -⟩ := claimed
          rw [promoted_of_waiting found waiting] at mem
          exact absurd mem (by simp)
  | read e =>
      have same : (s.step (.read e)).db = s.db := by
        change (s.read e).db = s.db
        rw [LegDesk.read]
        split <;> rfl
      exact ⟨(promoted_congr (by rw [same])).trans mem, fun _ => by rw [same]⟩
  | proceed now =>
      refine ⟨(promoted_proceed h now).trans mem, ?_⟩
      intro sibling
      cases (proceed_spec h now).1 with
      | inl same => exact congrArg (fun db => (Db.getTrade db tradeId).map Trade.tracked) same
      | inr wrote =>
          obtain ⟨held, inHand, writes⟩ := wrote
          have other : tradeId ≠ held.1 := by
            intro mine
            have own := h.held ticket mem held inHand mine.symm
            rw [legOf, inHand] at sibling
            exact sibling (congrArg some own)
          exact congrArg (Option.map Trade.tracked) (writes.getTrade other)

/-- From any book and along every run of fills and reports, the first leg to
fill the row stays the row's leg and no report on another one changes the row,
as long as those reports come under a leg's id with the leg's ticket, and none
is in hand while the row is filled. -/
theorem template_row_keeps_its_leg (tradeId : String) (db : Db) (run : List LegStep)
    (told : Meets step (Told tradeId) ⟨db, .idle⟩ run) :
    Meets step (OneLeg tradeId) ⟨db, .idle⟩ run :=
  meets_of_invariant (I := InOrder tradeId) (fun _ a h told => h.step a told)
    (fun _ a h _ => h.oneLeg a) ⟨by simp [inHand], by simp⟩ told

end LegDesk

/-- The row of a template trade before any leg has filled. -/
def Trade.gridPlaceholder : Trade :=
  Trade.fresh "t1" "s1" (some 0) .buy 0 1 1990 [some 2010] 0 (.template "grid") .ea false
    (some 1990) none

namespace LegDesk

def placeholderDesk : LegDesk := ⟨Db.single Trade.gridPlaceholder Table.empty, .idle⟩

/-- Two grid legs fill, and each reports a close under its own id. -/
def suffixedRun : List LegStep :=
  [.fill ⟨"t1-g1", some 7001, 2000, some 1, 1⟩, .fill ⟨"t1-g2", some 7002, 1998, some 1, 2⟩,
    .read ⟨7002, "t1-g2", some 7002, .closed 2005 "TP" none⟩, .proceed 3,
    .read ⟨7001, "t1-g1", some 7001, .closed 2006 "TP" none⟩, .proceed 4, .proceed 4]

theorem template_row_keeps_its_leg_suffixed :
    Meets step (Told "t1") placeholderDesk suffixedRun ∧
      Meets step (OneLeg "t1") placeholderDesk suffixedRun := by
  have told : Meets step (Told "t1") placeholderDesk suffixedRun := by decide
  exact ⟨told, template_row_keeps_its_leg "t1" placeholderDesk.db suffixedRun told⟩

/-- The second leg closes, and the EA reports it under the trade's own id. -/
theorem sibling_report_closes_row :
    ¬ Meets step (OneLeg "t1") placeholderDesk
      [.fill ⟨"t1-g1", some 7001, 2000, some 1, 1⟩, .fill ⟨"t1-g2", some 7002, 1998, some 1, 2⟩,
        .read ⟨7002, "t1", some 7002, .closed 2005 "TP" none⟩, .proceed 3, .proceed 3] := by
  decide

end LegDesk

end Forex
