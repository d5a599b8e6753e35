import Forex.Ledger.FinalProfit
import Forex.Reconcile.ClosedVolume

/-!
What the placeholder repair books for a grid whose legs all opened and closed
unheard. The row is settled from the first leg alone, at the move of its price
and not at the broker's money, and the broker's profit is stamped before the
close, so that no later profit sync corrects the row.
-/

namespace Forex
open Support

/-- The trade whose row an action of the repair, or a profit sync, writes. -/
def PollAction.settles : PollAction → Option String
  | .fullClose tradeId _ _ => some tradeId
  | .syncProfit tradeId _ => some tradeId
  | .adoptLeg tradeId _ _ _ => some tradeId
  | .recordFill tradeId _ _ _ _ _ => some tradeId
  | _ => none

/-- An action with what its calls are answered. -/
structure PollCall where
  env : PollEnv
  action : PollAction

namespace PollCall
variable {db : Db} {tradeId : String}

def run (db : Db) (c : PollCall) : Db := applyPollAction c.env db c.action

/-- What the calls about one trade move on the account. -/
def movedFor (tradeId : String) : Db → List PollCall → ℚ
  | _, [] => 0
  | db, c :: cs =>
      (if c.action.settles = some tradeId then (c.run db).balance - db.balance else 0) +
        movedFor tradeId (c.run db) cs

theorem movedFor_append (cs ds : List PollCall) :
    movedFor tradeId db (cs ++ ds) =
      movedFor tradeId db cs + movedFor tradeId (cs.foldl run db) ds := by
  induction cs generalizing db with
  | nil => exact (zero_add _).symm
  | cons c cs ih =>
      rw [List.cons_append, movedFor, movedFor, List.foldl_cons, ih]
      ring

theorem ledgerWrite (db : Db) {c : PollCall} {id : String} (about : c.action.settles = some id) :
    ∃ f moved, LedgerWrite db (c.run db) id f [] moved := by
  obtain ⟨env, action⟩ := c
  cases action with
  | fullClose tradeId price reason =>
      rw [← Option.some.inj about]
      cases recordCloseNow_cases db tradeId price reason env.now with
      | inl same =>
          have still : PollCall.run db ⟨env, .fullClose tradeId price reason⟩ = db := same
          rw [still]
          exact ⟨_, _, .refl db tradeId⟩
      | inr closed =>
          obtain ⟨row, gross, realised, net, moved, -, -, write⟩ := closed
          exact ⟨_, _, write⟩
  | syncProfit tradeId ticket =>
      rw [← Option.some.inj about]
      rw [run, applyPollAction]
      cases synced : syncProfit db tradeId ticket env.profits with
      | none => exact ⟨_, _, .refl db tradeId⟩
      | some w =>
          have write := applyProfitSync_spec db w.tradeId w.mt5Profit w.riskTotal w.allSettled
          rw [(SyncView.syncProfit_spec synced).1] at write
          dsimp only
          rw [(SyncView.syncProfit_spec synced).1]
          exact ⟨_, _, write⟩
  | adoptLeg tradeId ticket entry lots =>
      rw [← Option.some.inj about]
      exact ⟨_, _, .setTrade db tradeId _⟩
  | recordFill tradeId ticket entry lotSize remaining profit =>
      rw [← Option.some.inj about]
      exact ⟨_, _, .setTrade db tradeId _⟩
  | partialClose => exact absurd about (by simp [PollAction.settles])
  | closeTrade => exact absurd about (by simp [PollAction.settles])
  | importUntracked => exact absurd about (by simp [PollAction.settles])

/-- Calls about other trades leave a row alone and count nothing for it. -/
theorem others {cs : List PollCall}
    (about : ∀ c ∈ cs, ∃ id, c.action.settles = some id ∧ id ≠ tradeId) :
    (cs.foldl run db).getTrade tradeId = db.getTrade tradeId ∧ movedFor tradeId db cs = 0 := by
  induction cs generalizing db with
  | nil => exact ⟨rfl, rfl⟩
  | cons c cs ih =>
      obtain ⟨id, mine, ne⟩ := about c List.mem_cons_self
      obtain ⟨found, moved⟩ := @ih (c.run db) fun c mem => about c (List.mem_cons_of_mem _ mem)
      obtain ⟨f, amount, write⟩ := ledgerWrite db mine
      refine ⟨found.trans (write.getTrade_of_ne ne.symm), ?_⟩
      rw [movedFor, moved, mine, if_neg fun same => ne (Option.some.inj same), add_zero]

/-- A profit sync leaves the net profit and the balance of a stamped row alone. -/
theorem sync_stamped {env : PollEnv} {ticket : ℤ} {t : Trade}
    (found : db.getTrade tradeId = some t) (stamped : t.mt5Profit.isSome) :
    ∃ t', ((⟨env, .syncProfit tradeId ticket⟩ : PollCall).run db).getTrade tradeId = some t' ∧
      t'.netPnl = t.netPnl ∧ t'.mt5Profit.isSome ∧
      ((⟨env, .syncProfit tradeId ticket⟩ : PollCall).run db).balance = db.balance := by
  rw [run, applyPollAction]
  cases synced : syncProfit db tradeId ticket env.profits with
  | none => exact ⟨t, found, rfl, stamped, rfl⟩
  | some w =>
      have write := applyProfitSync_spec db w.tradeId w.mt5Profit w.riskTotal w.allSettled
      dsimp only
      rw [(SyncView.syncProfit_spec synced).1] at write ⊢
      have quiet : syncCorrection db tradeId w.mt5Profit = none := by
        rw [syncCorrection_of_found found]
        exact if_neg fun due => absurd due.1 (Option.ne_none_iff_isSome.mpr stamped)
      rw [quiet] at write
      refine ⟨_, write.getTrade_self.trans (congrArg _ found), ?_, ?_, ?_⟩
      · exact Trade.afterSync_netPnl ..
      · rw [Trade.afterSync_mt5Profit]
        split
        · rfl
        · exact stamped
      · exact write.balance.trans (add_zero _)

theorem syncs_stamped {cs : List PollCall} {t : Trade}
    (sync : ∀ c ∈ cs, ∃ id ticket, c.action = .syncProfit id ticket)
    (found : db.getTrade tradeId = some t) (stamped : t.mt5Profit.isSome) :
    ((cs.foldl run db).getTrade tradeId).map Trade.netPnl = some t.netPnl ∧
      movedFor tradeId db cs = 0 := by
  induction cs generalizing db t with
  | nil => exact ⟨congrArg _ found, rfl⟩
  | cons c cs ih =>
      obtain ⟨env, action⟩ := c
      obtain ⟨id, ticket, is⟩ := sync _ List.mem_cons_self
      dsimp only at is
      subst is
      have rest := fun c mem => sync c (List.mem_cons_of_mem _ mem)
      rw [movedFor, List.foldl_cons]
      by_cases mine : id = tradeId
      · subst mine
        obtain ⟨t', found', net, stamped', balance⟩ := sync_stamped found stamped
        obtain ⟨row, moved⟩ := ih rest found' stamped'
        rw [moved, balance, sub_self, ite_self, add_zero]
        exact ⟨net ▸ row, rfl⟩
      · obtain ⟨f, amount, write⟩ :=
          @ledgerWrite db ⟨env, .syncProfit id ticket⟩ id rfl
        have found' := (write.getTrade_of_ne (Ne.symm mine)).trans found
        have other : (PollAction.syncProfit id ticket).settles ≠ some tradeId :=
          fun same => mine (Option.some.inj same)
        obtain ⟨row, moved⟩ := ih rest found' stamped
        rw [moved, if_neg other, add_zero]
        exact ⟨row, rfl⟩

end PollCall

section Grid
variable (row : Trade) (positions : List Position) (deals : List Deal)

/-- An opening deal with the trade's comment. -/
def opensLeg (d : Deal) : Bool :=
  (commentForTrade row.tradeId).isPrefixOf d.comment.toList && d.opening

def closesOf (opening : Deal) : List Deal :=
  deals.filter fun d =>
    decide (d.positionId = opening.positionId ∧ (d.entry = 1 ∨ d.entry = 2 ∨ d.entry = 3))

/-- The profit, swap and fee of all deals on the trade's legs. -/
def gridMoney : ℚ :=
  let legs := (deals.filter (opensLeg row)).map Deal.positionId
  ((deals.filter fun d => decide (d.positionId ∈ legs)).map Deal.money).sum

/-- The price move of the leg that opened first, from its opening deal to the
latest of its closing ones. -/
def firstLegMove : ℚ :=
  match deals.find? (opensLeg row) with
  | none => 0
  | some opening =>
      match latestDeal (closesOf deals opening) with
      | none => 0
      | some last =>
          let lots := roundTo 4 opening.volume
          pnl row.direction opening.price last.price (if lots = 0 then row.remainingLots else lots)

/-- The broker lists no position of the trade any more, and in the week's deals
each of its legs has opened and closed. -/
structure GridClosed (view : PollView) : Prop where
  configured : view.configured = true
  positionsRead : view.positions.orEmpty = some positions
  dealsRead : view.weekDeals.orEmpty = some deals
  gone : ∀ p ∈ positions, (commentForTrade row.tradeId).isPrefixOf p.comment.toList = false
  opened : ∃ d ∈ deals, opensLeg row d = true
  closed : ∀ d ∈ deals, opensLeg row d = true →
    d.positionId ≠ 0 ∧ 0 < d.price ∧ closesOf deals d ≠ []

end Grid

/-- A call of `sync_profit`. -/
structure SyncCall where
  tradeId : String
  ticket : ℤ
  view : SyncView

def SyncCall.call (env : PollEnv) (c : SyncCall) : PollCall :=
  ⟨{ env with profits := c.view }, .syncProfit c.tradeId c.ticket⟩

/-- The repair and the profit syncs after it. -/
def repairThenSync (db : Db) (env : PollEnv) (view : PollView) (expiry : ℚ)
    (later : List SyncCall) : List PollCall :=
  (repairTemplatePlaceholders db view env.now expiry).map (PollCall.mk env) ++
    later.map (SyncCall.call env)

/-- The row's net profit is what its legs made, and the calls about the trade
moved the balance by as much. -/
def GridBooked (row : Trade) (deals : List Deal) (db : Db) (calls : List PollCall) : Prop :=
  ((calls.foldl PollCall.run db).getTrade row.tradeId).map Trade.netPnl =
      some (gridMoney row deals) ∧
    PollCall.movedFor row.tradeId db calls = gridMoney row deals

instance (row : Trade) (deals : List Deal) (db : Db) (calls : List PollCall) :
    Decidable (GridBooked row deals db calls) :=
  inferInstanceAs (Decidable (_ ∧ _))

theorem repairPlaceholder_settles (positions : List Position) (deals : List Deal)
    (now expiry : ℚ) (row : Trade) :
    ∀ a ∈ repairPlaceholder positions deals now expiry row, a.settles = some row.tradeId := by
  have adopted : ∀ p, ∀ a ∈ adoptLivePosition row p, a.settles = some row.tradeId := by
    intro p
    simp only [adoptLivePosition]
    split <;> simp [PollAction.settles]
  have settled : ∀ opening, ∀ a ∈ closeFromDeals row opening deals,
      a.settles = some row.tradeId := by
    intro opening
    simp only [closeFromDeals]
    split
    · simp
    · split <;> simp [PollAction.settles]
  have expired : ∀ a ∈ expireNeverFilled row now expiry, a.settles = some row.tradeId := by
    rw [expireNeverFilled]
    split <;> simp [PollAction.settles]
  simp only [repairPlaceholder]
  split
  · exact adopted _
  · split
    · exact settled _
    · exact expired

/-- The repair of a grid that has closed fills the row from the first leg and
closes it at that leg's move. -/
theorem repairPlaceholder_of_closed {row : Trade} {positions : List Position} {deals : List Deal}
    {view : PollView} {now expiry : ℚ} (grid : GridClosed row positions deals view) :
    ∃ ticket entry lotSize lots profit price reason,
      repairPlaceholder positions deals now expiry row =
        [.recordFill row.tradeId ticket entry lotSize lots profit,
          .fullClose row.tradeId price reason] ∧
      0 < entry ∧ pnl row.direction entry price lots = firstLegMove row deals := by
  have live : positions.find? (fun p =>
      (commentForTrade row.tradeId).isPrefixOf p.comment.toList) = none := by
    rw [List.find?_eq_none]
    intro p mem
    rw [grid.gone p mem]
    exact Bool.false_ne_true
  obtain ⟨d, mem, opens⟩ := grid.opened
  cases first : deals.find? (opensLeg row) with
  | none => exact absurd opens (List.find?_eq_none.mp first d mem)
  | some opening =>
      obtain ⟨position, price, closes⟩ :=
        grid.closed opening (List.mem_of_find?_eq_some first) (List.find?_some first)
      have seen : deals.find? (fun d =>
          (commentForTrade row.tradeId).isPrefixOf d.comment.toList && d.opening) =
            some opening := first
      cases latest : latestDeal (closesOf deals opening) with
      | none =>
          cases found : closesOf deals opening with
          | nil => exact absurd found closes
          | cons c cs =>
              rw [found] at latest
              exact absurd latest (by simp [latestDeal])
      | some last =>
          have refuses : ¬ (opening.positionId = 0 ∨ opening.price ≤ 0) := by
            rw [not_or, not_le]
            exact ⟨position, price⟩
          have latest' := latest
          rw [closesOf] at latest'
          have repaired : repairPlaceholder positions deals now expiry row =
              closeFromDeals row opening deals := by
            simp only [repairPlaceholder, live, seen]
          rw [repaired]
          simp only [closeFromDeals, latest', if_neg refuses]
          refine ⟨_, _, _, _, _, _, _, rfl, price, ?_⟩
          simp only [firstLegMove, first, latest]

/-- The fill and the close of one placeholder row. -/
theorem fillThenClose {db : Db} {row : Trade} (env : PollEnv) (ticket : ℤ)
    (entry lotSize lots profit price : ℚ) (reason : String)
    (found : db.getTrade row.tradeId = some row) (isOpen : row.isOpen = true) (pos : 0 < entry) :
    let calls : List PollCall :=
      [⟨env, .recordFill row.tradeId ticket entry lotSize lots profit⟩,
        ⟨env, .fullClose row.tradeId price reason⟩]
    (∃ t, (calls.foldl PollCall.run db).getTrade row.tradeId = some t ∧ t.mt5Profit.isSome ∧
      t.netPnl = roundTo 4 (row.netPnl + pnl row.direction entry price lots)) ∧
    PollCall.movedFor row.tradeId db calls = pnl row.direction entry price lots := by
  intro calls
  let filled := Trade.recordPlaceholderFill ticket entry lotSize lots profit row
  let between := db.setTrade row.tradeId
    (Trade.recordPlaceholderFill ticket entry lotSize lots profit)
  have read : between.getTrade filled.tradeId = some filled :=
    (LedgerWrite.setTrade db row.tradeId _).getTrade_self.trans (congrArg _ found)
  have write := recordCloseNow_of_open price reason env.now read isOpen
  have gross : FullWrite.grossPnl ⟨filled, price, reason, env.now⟩ =
      pnl row.direction entry price lots := if_pos pos
  dsimp only at write
  rw [gross] at write
  refine ⟨⟨_, write.getTrade_self.trans (congrArg _ read), rfl, rfl⟩, ?_⟩
  have moved : PollCall.movedFor row.tradeId db calls =
      (between.balance - db.balance) +
        (((recordCloseNow between filled.tradeId price reason env.now).balance -
          between.balance) + 0) := by
    simp only [calls, PollCall.movedFor, PollAction.settles, if_true]
    rfl
  rw [moved, write.balance]
  have same : between.balance = db.balance := rfl
  rw [same]
  ring

/-- The calls about one row stand together among calls about others. -/
theorem repairThenSync_split {db : Db} {env : PollEnv} {view : PollView} {expiry : ℚ} {row : Trade}
    {positions : List Position} {deals : List Deal} (later : List SyncCall)
    (placeholder : row ∈ fetchTemplatePlaceholders db)
    (grid : GridClosed row positions deals view) :
    ∃ before behind : List PollCall,
      repairThenSync db env view expiry later =
        before ++ ((repairPlaceholder positions deals env.now expiry row).map (PollCall.mk env) ++
          (behind ++ later.map (SyncCall.call env))) ∧
      ∀ c ∈ before ++ behind, ∃ id, c.action.settles = some id ∧ id ≠ row.tradeId := by
  let repair := repairPlaceholder positions deals env.now expiry
  have unique : ((fetchTemplatePlaceholders db).map Trade.tradeId).Nodup :=
    db.trades.unique.sublist (List.filter_sublist.map _)
  have actions : repairTemplatePlaceholders db view env.now expiry =
      (fetchTemplatePlaceholders db).flatMap repair := by
    have nonempty : (fetchTemplatePlaceholders db).isEmpty = false :=
      List.isEmpty_eq_false_iff_exists_mem.mpr ⟨row, placeholder⟩
    simp only [repairTemplatePlaceholders, grid.configured, nonempty, grid.positionsRead,
      grid.dealsRead]
    rfl
  obtain ⟨first, last, split⟩ := List.append_of_mem placeholder
  rw [split, List.map_append, List.map_cons, List.nodup_middle, List.nodup_cons,
    ← List.map_append] at unique
  refine ⟨(first.flatMap repair).map (PollCall.mk env), (last.flatMap repair).map (PollCall.mk env),
    ?_, ?_⟩
  · rw [repairThenSync, actions, split, List.flatMap_append, List.flatMap_cons]
    simp only [List.map_append, List.append_assoc, repair]
  · intro c mem
    rw [← List.map_append, ← List.flatMap_append] at mem
    obtain ⟨a, made, rfl⟩ := List.mem_map.mp mem
    obtain ⟨t, other, made⟩ := List.mem_flatMap.mp made
    refine ⟨_, repairPlaceholder_settles _ _ _ _ t a made, ?_⟩
    intro same
    exact unique.1 (same ▸ List.mem_map_of_mem other)

/-- After the repair and any later profit syncs the row stands at what its legs
made, and the balance has moved by as much, exactly when the first leg's price
move is the money of all the legs and the row carried nothing before. -/
theorem repair_books_grid_iff (db : Db) (env : PollEnv) (view : PollView) (expiry : ℚ)
    (row : Trade) (positions : List Position) (deals : List Deal) (later : List SyncCall)
    (placeholder : row ∈ fetchTemplatePlaceholders db)
    (grid : GridClosed row positions deals view) :
    GridBooked row deals db (repairThenSync db env view expiry later) ↔
      firstLegMove row deals = gridMoney row deals ∧
        roundTo 4 (row.netPnl + gridMoney row deals) = gridMoney row deals := by
  obtain ⟨listed, is⟩ := List.mem_filter.mp placeholder
  rw [Bool.and_eq_true, Bool.and_eq_true] at is
  have found : db.getTrade row.tradeId = some row := Table.find_eq_some_iff.mpr ⟨listed, rfl⟩
  obtain ⟨before, behind, calls, others⟩ :=
    @repairThenSync_split db env view expiry row positions deals later placeholder grid
  obtain ⟨ticket, entry, lotSize, lots, profit, price, reason, own, pos, move⟩ :=
    @repairPlaceholder_of_closed row positions deals view env.now expiry grid
  rw [GridBooked, calls, own]
  simp only [PollCall.movedFor_append, List.foldl_append]
  -- the rows before, the row itself, the rows behind, and then the profit syncs
  obtain ⟨found₁, moved₁⟩ := @PollCall.others db row.tradeId before fun c mem =>
    others c (List.mem_append_left _ mem)
  rw [moved₁]
  generalize List.foldl PollCall.run db before = db₁ at found₁ ⊢
  obtain ⟨⟨t, found₂, stamped, net⟩, moved₂⟩ := fillThenClose env ticket entry lotSize lots profit
    price reason (found₁.trans found) is.1.1 pos
  rw [move] at net moved₂
  simp only [List.map_cons, List.map_nil]
  rw [moved₂]
  generalize List.foldl PollCall.run db₁ _ = db₂ at found₂ ⊢
  obtain ⟨found₃, moved₃⟩ := @PollCall.others db₂ row.tradeId behind fun c mem =>
    others c (List.mem_append_right _ mem)
  rw [moved₃]
  generalize List.foldl PollCall.run db₂ behind = db₃ at found₃ ⊢
  have syncs : ∀ c ∈ later.map (SyncCall.call env),
      ∃ id ticket, c.action = .syncProfit id ticket := by
    intro c mem
    obtain ⟨call, -, rfl⟩ := List.mem_map.mp mem
    exact ⟨_, _, rfl⟩
  obtain ⟨kept, moved₄⟩ := PollCall.syncs_stamped syncs (found₃.trans found₂) stamped
  rw [moved₄, kept, net, zero_add, zero_add, add_zero, Option.some.injEq]
  constructor
  · rintro ⟨same, moved⟩
    exact ⟨moved, moved ▸ same⟩
  · rintro ⟨moved, same⟩
    exact ⟨moved.symm ▸ same, moved⟩

/-- Both legs of the grid `t1` filled and closed: the first made 500, which is
the move of its price, and each paid a fee of 1. -/
def twoLegDeals (second : ℚ) : List Deal :=
  [gridLegOpened 7001, gridLegOpened 7002, gridLegClosed 7001 (1 / 2) 500,
    gridLegClosed 7002 (1 / 2) second]

def unheardGrid : Db := Db.single Trade.placeholder Table.empty

def unheardView (second : ℚ) : PollView :=
  { PollView.listing [] with weekDeals := .value (twoLegDeals second) }

/-- A second leg that makes up for the fees. -/
theorem repair_books_grid_iff_even :
    GridBooked Trade.placeholder (twoLegDeals 2) unheardGrid
        (repairThenSync unheardGrid quietEnv (unheardView 2) 86400
          [⟨"t1", 7001, .reading (twoLegDeals 2)⟩]) ↔
      firstLegMove Trade.placeholder (twoLegDeals 2) =
          gridMoney Trade.placeholder (twoLegDeals 2) ∧
        roundTo 4 (Trade.placeholder.netPnl + gridMoney Trade.placeholder (twoLegDeals 2)) =
          gridMoney Trade.placeholder (twoLegDeals 2) :=
  repair_books_grid_iff unheardGrid quietEnv (unheardView 2) 86400 Trade.placeholder []
    (twoLegDeals 2) _ (by decide)
    ⟨rfl, rfl, rfl, by simp, ⟨gridLegOpened 7001, by decide +kernel, by decide⟩,
      by decide⟩

/-- The first leg's 500 is booked and the second's 490 never is, however often
the whole history is read afterwards. -/
theorem repair_books_one_leg :
    Trade.placeholder ∈ fetchTemplatePlaceholders unheardGrid ∧
      GridClosed Trade.placeholder [] (twoLegDeals 490) (unheardView 490) ∧
      gridMoney Trade.placeholder (twoLegDeals 490) = 988 ∧
      ¬ GridBooked Trade.placeholder (twoLegDeals 490) unheardGrid
        (repairThenSync unheardGrid quietEnv (unheardView 490) 86400
          [⟨"t1", 7001, .reading (twoLegDeals 490)⟩, ⟨"t1", 7002, .reading (twoLegDeals 490)⟩]) :=
  ⟨by decide,
    ⟨rfl, rfl, rfl, by simp, ⟨gridLegOpened 7001, by decide +kernel, by decide⟩,
      by decide⟩,
    by decide +kernel, by decide +kernel⟩

end Forex
