import Forex.Close.LadderConfirmed
import Forex.Close.TpLadder

/-!
When a close is recorded only on a confirmed broker close. The single-ticket
path and the ladder step of the take-profit walk take an answer with neither a
verdict nor an error for a confirmation; the ladder close marks its parent
closed whatever the legs answered. Each result says exactly when the code
records no more than the broker confirmed.
-/

namespace Forex
open Support

def Reply.confirmedLots (asked : ℚ) : Reply → Option ℚ
  | .answered r => if r.succeeded then some (r.lotsClosed.getD asked) else none
  | .raised => none

/-- Nothing moves without confirmation; with it, nothing but the trade's own
row, and no more is booked than was confirmed. -/
structure OnlyConfirmed (tradeId : String) (confirmed : Option ℚ) (db db' : Db) : Prop where
  untouched : confirmed = none → db' = db
  booked : ∀ p ∈ db'.partials, p ∈ db.partials ∨
    (p.tradeId = tradeId ∧ ∃ lots, confirmed = some lots ∧ p.lotsClosed ≤ lots)
  legs : db'.legs = db.legs
  others : ∀ other, other ≠ tradeId → db'.getTrade other = db.getTrade other

private theorem onlyConfirmed_refl (tradeId : String) (confirmed : Option ℚ) (db : Db) :
    OnlyConfirmed tradeId confirmed db db :=
  ⟨fun _ => rfl, fun _ h => .inl h, rfl, fun _ _ => rfl⟩

theorem Reply.confirmedLots_eq_none_iff {asked : ℚ} {reply : Reply} :
    reply.confirmedLots asked = none ↔ reply.confirmed = false := by
  cases reply with
  | raised => simp [confirmedLots, confirmed]
  | answered r => cases h : r.succeeded <;> simp [confirmedLots, confirmed, h]

/-! The single-ticket path -/

section Single
variable {db : Db} {row : Trade} (price : ℚ) (reason : String) (now : ℚ)

theorem recordCloseNow_spec (found : db.getTrade row.tradeId = some row)
    (isOpen : row.isOpen = true) :
    let db' := recordCloseNow db row.tradeId price reason now
    (∃ t, db'.getTrade row.tradeId = some t ∧ t.isOpen = false) ∧
      db'.partials = db.partials ∧
      db'.legs = db.legs ∧
      ∀ other, other ≠ row.tradeId → db'.getTrade other = db.getTrade other := by
  intro db'
  have write := recordCloseNow_of_open price reason now found isOpen
  refine ⟨?_, write.partials.trans (List.append_nil _), write.legs, ?_⟩
  · rw [write.getTrade_self, found]
    exact ⟨_, rfl, rfl⟩
  · intro other ne
    exact write.getTrade_of_ne ne

theorem recordCloseNow_ne (found : db.getTrade row.tradeId = some row)
    (isOpen : row.isOpen = true) :
    recordCloseNow db row.tradeId price reason now ≠ db := by
  intro same
  obtain ⟨⟨t, ht, closed⟩, _⟩ := recordCloseNow_spec price reason now found isOpen
  rw [same, found] at ht
  rw [Option.some.inj ht, closed] at isOpen
  exact absurd isOpen (by decide)

theorem closeReplyPrice_cases (ticket : ℤ) (reply : Reply) :
    (∃ p, closeReplyPrice ticket price reply = .ok p ∧
      (reply.confirmed = true ∨ reply.unclear = true)) ∨
    (∃ e, closeReplyPrice ticket price reply = .error e ∧ reply.unclear = false) := by
  cases reply with
  | raised => exact .inr ⟨_, rfl, rfl⟩
  | answered r =>
      simp only [closeReplyPrice, Reply.confirmed, Reply.unclear]
      cases error : r.hasError with
      | true => exact .inr ⟨_, rfl, by simp⟩
      | false =>
          cases refused : r.refused with
          | true => exact .inr ⟨_, rfl, by simp⟩
          | false =>
              cases success : r.succeeded with
              | true => exact .inl ⟨_, rfl, .inl rfl⟩
              | false => exact .inl ⟨_, rfl, .inr rfl⟩

theorem closeOpenTrade_linked {ticket : ℤ} (tick : Option Tick) (reply : Reply)
    (legReply : LadderLeg → Reply) (linked : linkedTicket row.mt5Ticket = some ticket)
    (flat : (getLadderLegs db row.tradeId).any LadderLeg.isOpen = false) :
    (∃ p, bookAfter db (closeOpenTrade db row reason tick reply legReply now) =
        recordCloseNow db row.tradeId p reason now ∧
      (reply.confirmed = true ∨ reply.unclear = true)) ∨
    (bookAfter db (closeOpenTrade db row reason tick reply legReply now) = db ∧
      reply.unclear = false) := by
  simp only [closeOpenTrade, closePriceOf, flat, linked, Bool.false_eq_true, if_false]
  cases closeReplyPrice_cases (quotedPrice row tick) ticket reply with
  | inl h =>
      obtain ⟨p, price, verdict⟩ := h
      rw [price]
      exact .inl ⟨p, rfl, verdict⟩
  | inr h =>
      obtain ⟨e, error, clear⟩ := h
      rw [error]
      exact .inr ⟨rfl, clear⟩

end Single

theorem Reply.confirmed_of_unclear {reply : Reply} (h : reply.unclear = true) :
    reply.confirmed = false := by
  cases reply with
  | raised => rfl
  | answered r =>
      simp only [Reply.unclear, Bool.and_eq_true, Bool.not_eq_true'] at h
      exact h.1.1

theorem closeTrade_onlyConfirmed_iff {db : Db} {row : Trade} {ticket : ℤ} (reason : String)
    (tick : Read Tick) (reply : Reply) (legReply : LadderLeg → Reply) (now : ℚ)
    (found : db.getTrade row.tradeId = some row) (isOpen : row.isOpen = true)
    (linked : linkedTicket row.mt5Ticket = some ticket)
    (flat : (getLadderLegs db row.tradeId).any LadderLeg.isOpen = false) :
    OnlyConfirmed row.tradeId (reply.confirmedLots row.remainingLots) db
        (bookAfter db (closeTrade db row.tradeId reason tick reply legReply now)) ↔
      (reply.unclear = false ∨ tick = .raised) := by
  have opened : ∀ quote, bookAfter db (closeOpenTrade db row reason quote reply legReply now) =
      bookAfter db (closeTrade db row.tradeId reason tick reply legReply now) →
      (OnlyConfirmed row.tradeId (reply.confirmedLots row.remainingLots) db
        (bookAfter db (closeTrade db row.tradeId reason tick reply legReply now)) ↔
          reply.unclear = false) := by
    intro quote same
    rw [← same]
    cases closeOpenTrade_linked reason now quote reply legReply linked flat with
    | inr h => simp [h.1, h.2, onlyConfirmed_refl]
    | inl h =>
        obtain ⟨p, book, verdict⟩ := h
        obtain ⟨_, partials, legs, others⟩ := recordCloseNow_spec p reason now found isOpen
        rw [book]
        constructor
        · intro only
          cases unclear : reply.unclear with
          | false => rfl
          | true =>
              have unconfirmed := Reply.confirmed_of_unclear unclear
              exact absurd (only.untouched (Reply.confirmedLots_eq_none_iff.mpr unconfirmed))
                (recordCloseNow_ne p reason now found isOpen)
        · intro clear
          rw [clear] at verdict
          refine ⟨?_, ?_, legs, others⟩
          · intro refused
            simp [Reply.confirmedLots_eq_none_iff.mp refused] at verdict
          · intro q hq
            rw [partials] at hq
            exact .inl hq
  cases tick with
  | raised =>
      have same : bookAfter db (closeTrade db row.tradeId reason .raised reply legReply now) = db :=
        rfl
      simp [same, onlyConfirmed_refl]
  | none =>
      have same : closeTrade db row.tradeId reason .none reply legReply now =
          closeOpenTrade db row reason none reply legReply now := by
        simp [closeTrade, Except.bind, found, isOpen]
      simp [opened none (by rw [same])]
  | value t =>
      have same : closeTrade db row.tradeId reason (.value t) reply legReply now =
          closeOpenTrade db row reason (some t) reply legReply now := by
        simp [closeTrade, Except.bind, found, isOpen]
      simp [opened (some t) (by rw [same])]

/-! One level of the take-profit walk -/

/-- Booking this level would be recorded: the trade is open and the same level,
lots and price are not booked yet. -/
def bookable (db : Db) (tradeId : String) (tpNum : ℕ) (lots price now : ℚ) : Bool :=
  match partialCloseTrade db tradeId lots price (tpReason tpNum) now with
  | none => false
  | some w => !db.alreadyRecorded w.booking

section Level
variable (db : Db) (tradeId : String) (tpNum : ℕ) (lots price now : ℚ)

theorem bookTp_of_not_bookable (h : bookable db tradeId tpNum lots price now = false) :
    (bookTp db tradeId tpNum lots price now).book db = db := by
  rw [bookTp]
  cases write : partialCloseTrade db tradeId lots price (tpReason tpNum) now with
  | none => rfl
  | some w =>
      simp only [bookable, write, Bool.not_eq_false'] at h
      exact PartialWrite.apply_of_recorded h

theorem bookTp_ne_of_bookable (h : bookable db tradeId tpNum lots price now = true) :
    (bookTp db tradeId tpNum lots price now).book db ≠ db := by
  rw [bookTp]
  cases write : partialCloseTrade db tradeId lots price (tpReason tpNum) now with
  | none => exact absurd h (by simp [bookable, write])
  | some w =>
      simp only [bookable, write, Bool.not_eq_true'] at h
      intro same
      have grown := (PartialWrite.apply_of_new h).partials
      have kept : (w.apply db).partials = db.partials := congrArg Db.partials same
      rw [kept] at grown
      simp at grown

theorem bookTp_frame :
    (∀ p ∈ ((bookTp db tradeId tpNum lots price now).book db).partials,
      p ∈ db.partials ∨ (p.tradeId = tradeId ∧ p.lotsClosed ≤ lots)) ∧
      ((bookTp db tradeId tpNum lots price now).book db).legs = db.legs ∧
      ∀ other, other ≠ tradeId →
        ((bookTp db tradeId tpNum lots price now).book db).getTrade other =
          db.getTrade other := by
  rw [bookTp]
  cases write : partialCloseTrade db tradeId lots price (tpReason tpNum) now with
  | none => exact ⟨fun _ h => .inl h, rfl, fun _ _ => rfl⟩
  | some w =>
      have mine : w.row.tradeId = tradeId :=
        Table.key_of_find (partialCloseTrade_eq_some write).1
      cases old : db.alreadyRecorded w.booking with
      | true =>
          simp only [TpClose.book, PartialWrite.apply_of_recorded old]
          exact ⟨fun _ h => .inl h, trivial, fun _ _ => trivial⟩
      | false =>
          have booked := PartialWrite.apply_of_new old
          refine ⟨?_, booked.legs, ?_⟩
          · intro p hp
            change p ∈ (w.apply db).partials at hp
            rw [booked.partials] at hp
            cases List.mem_append.mp hp with
            | inl h => exact .inl h
            | inr h =>
                rw [List.mem_singleton.mp h]
                exact .inr ⟨mine, (partialCloseTrade_eq_some write).2.2 ▸ min_le_left _ _⟩
          · intro other ne
            exact booked.getTrade_of_ne (mine ▸ ne)

end Level

theorem closeTp_onlyConfirmed_iff {db : Db} {trade : Trade} {ticket : ℤ} (tpNum : ℕ)
    (tpPrice lots : ℚ) (reply : Reply) (now : ℚ)
    (linked : linkedTicket trade.mt5Ticket = some ticket) :
    OnlyConfirmed trade.tradeId (reply.confirmedLots lots) db
        ((closeTp db trade tpNum tpPrice lots reply now).book db) ↔
      (reply.unclear = false ∨ bookable db trade.tradeId tpNum lots tpPrice now = false) := by
  simp only [closeTp, linked]
  cases reply with
  | raised => simp [Reply.unclear, TpClose.book, onlyConfirmed_refl]
  | answered r =>
      cases success : r.succeeded with
      | true =>
          obtain ⟨booked, legs, others⟩ := bookTp_frame db trade.tradeId tpNum
            (r.lotsClosed.getD lots) (r.closePrice.getD tpPrice) now
          simp only [Reply.unclear, success, Reply.confirmedLots, Bool.not_true, Bool.false_and,
            true_or, iff_true, if_true]
          refine ⟨fun h => absurd h (by simp), ?_, legs, others⟩
          intro p hp
          cases booked p hp with
          | inl h => exact .inl h
          | inr h => exact .inr ⟨h.1, _, rfl, h.2⟩
      | false =>
          cases refusal : r.hasError || r.refused with
          | true =>
              have clear : (Reply.answered r).unclear = false := by
                simp only [Reply.unclear, success]
                cases error : r.hasError with
                | true => simp
                | false =>
                    rw [error, Bool.false_or] at refusal
                    simp [refusal]
              simp [clear, success, refusal, TpClose.book, onlyConfirmed_refl]
          | false =>
              obtain ⟨error, refused⟩ := Bool.or_eq_false_iff.mp refusal
              have unclear : (Reply.answered r).unclear = true := by
                simp [Reply.unclear, success, error, refused]
              have unconfirmed : (Reply.answered r).confirmedLots lots = none :=
                Reply.confirmedLots_eq_none_iff.mpr success
              simp only [unclear, Bool.true_eq_false, false_or, Bool.false_eq_true, if_false,
                success, refusal]
              constructor
              · intro only
                cases able : bookable db trade.tradeId tpNum lots tpPrice now with
                | false => rfl
                | true =>
                    exact absurd (only.untouched unconfirmed)
                      (bookTp_ne_of_bookable _ _ tpNum lots tpPrice now able)
              · intro unable
                rw [bookTp_of_not_bookable _ _ tpNum lots tpPrice now unable]
                exact onlyConfirmed_refl _ _ _

/-! The walk and the result -/

theorem closeTp_of_refused {db : Db} {trade : Trade} {ticket : ℤ} {reply : Reply} (tpNum : ℕ)
    (tpPrice lots now : ℚ) (linked : linkedTicket trade.mt5Ticket = some ticket)
    (unconfirmed : reply.confirmed = false) (clear : reply.unclear = false) :
    closeTp db trade tpNum tpPrice lots reply now = .raised ∨
      closeTp db trade tpNum tpPrice lots reply now = .skipped := by
  simp only [closeTp, linked]
  cases reply with
  | raised => exact .inl rfl
  | answered r =>
      change r.succeeded = false at unconfirmed
      simp only [Reply.unclear, unconfirmed, Bool.not_false, Bool.true_and] at clear
      have refusal : (r.hasError || r.refused) = true := by
        cases error : r.hasError with
        | true => rfl
        | false => simpa [error] using clear
      simp [unconfirmed, refusal]

section Walk
variable {trade : Trade} {reply : ℕ → Reply} {ticket : ℤ} (tick : Tick) (rule : LadderRule)
  (modifyRaises : ℕ → Bool) (now : ℚ) (tps : List (ℕ × ℚ))

theorem walkTp_of_refused (linked : linkedTicket trade.mt5Ticket = some ticket)
    (refused : ∀ n, (reply n).confirmed = false ∧ (reply n).unclear = false)
    (w : LadderWalk) (pos tpNum : ℕ) (tpPrice : ℚ) :
    let level := walkTp trade tick rule reply modifyRaises now tps w pos tpNum tpPrice
    level = .next w ∨ level = .stop w := by
  intro level
  simp only [level, walkTp]
  split_ifs
  · exact .inl rfl
  · exact .inr rfl
  · exact .inr rfl
  · cases lotsAt trade rule tps pos _ with
    | none => exact .inr rfl
    | some lots =>
        dsimp only
        split_ifs
        · exact .inl rfl
        · cases closeTp_of_refused tpNum tpPrice lots now linked (refused tpNum).1
            (refused tpNum).2 with
          | inl h =>
              rw [h]
              exact .inr rfl
          | inr h =>
              rw [h]
              exact .inl rfl

theorem walkFrom_of_refused (linked : linkedTicket trade.mt5Ticket = some ticket)
    (refused : ∀ n, (reply n).confirmed = false ∧ (reply n).unclear = false)
    (w : LadderWalk) (levels : List ((ℕ × ℚ) × ℕ)) :
    walkFrom trade tick rule reply modifyRaises now tps w levels = w := by
  induction levels with
  | nil => rfl
  | cons level levels ih =>
      obtain ⟨⟨tpNum, tpPrice⟩, pos⟩ := level
      simp only [walkFrom]
      cases walkTp_of_refused tick rule modifyRaises now tps linked refused w pos tpNum tpPrice with
      | inl h =>
          rw [h]
          exact ih
      | inr h => rw [h]

end Walk

theorem runTpLadder_of_refused {trade : Trade} {reply : ℕ → Reply} {ticket : ℤ} (db : Db)
    (tick : Tick) (rule : LadderRule) (triggered : List ℕ) (modifyRaises : ℕ → Bool) (now : ℚ)
    (linked : linkedTicket trade.mt5Ticket = some ticket)
    (refused : ∀ n, (reply n).confirmed = false ∧ (reply n).unclear = false) :
    runTpLadder db trade tick rule triggered reply modifyRaises now =
      ⟨db, triggered, trade.stopLoss⟩ :=
  walkFrom_of_refused tick rule modifyRaises now _ linked refused _ _

def twoLegs : Table LadderLeg LadderLeg.id :=
  ⟨[⟨1, "t1", 1, 1, 2010, 1 / 2, none, some 7001, .opened, none, none, none⟩,
    ⟨2, "t1", 2, 2, 2020, 1 / 2, none, some 7002, .opened, none, none, none⟩], by decide⟩

def emptyReply : Reply := .answered ⟨none, none, none, none⟩

def successReply : Reply := .answered ⟨some true, none, some 2009, some 1⟩

def anchorOnly (leg : LadderLeg) : Reply :=
  if leg.id = 1 then successReply else .answered ⟨some false, some "Requote", none, none⟩

end Forex
