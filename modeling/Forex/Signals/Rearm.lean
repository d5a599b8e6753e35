import Forex.Signals.Resting
import Forex.Strategy.EaLadder

/-!
The order that `handle_limit_order_signal` sends to the EA, the row that it
leaves, and the order that the sweep rebuilds from that row when it puts a
withdrawn one back. The JSON columns hold the values that they encode; of an EA
template only its mode is looked into.
-/

namespace Forex
open Support
universe u
variable {τ : Type u}

/-- A stored EA template, with whether its mode is grid. -/
structure StoredTemplate (τ : Type u) where
  grid : Bool
  fields : τ

/-- What the order of a signal comes to before its management. -/
structure LimitOrder where
  tradeId : String
  direction : Direction
  price : ℚ
  lot : ℚ
  stopLoss : ℚ
  tps : List (ℕ × ℚ)
  tpOpen : Bool
deriving DecidableEq, Repr

/-- `get_strategy_params` of Limit Runner. -/
structure LimitRunnerParams where
  runnerReservePct : ℚ
  beAtPos : ℚ
deriving DecidableEq, Repr

namespace LimitRunnerParams
variable (params : LimitRunnerParams)

def reserve : ℚ := min (max (params.runnerReservePct / 100) 0) (95 / 100)

/-- `_limit_runner_pcts`. -/
def limitRunnerPcts (n : ℕ) (tpOpen : Bool) : List ℚ :=
  List.replicate n ((if tpOpen then 1 - params.reserve else 1) / n)

end LimitRunnerParams

structure Management where
  strategy : Strategy
  pcts : List ℚ
  beAtPos : ℤ
  trailMode : Option TrailMode
deriving DecidableEq

/-- `_resolve_management`, with the channel's override; `none` for a channel that
has none or whose override cannot be read. -/
def resolveManagement (params : LimitRunnerParams) (override : Option Strategy) (n : ℕ)
    (tpOpen : Bool) : Management :=
  let runner (strategy : Strategy) : Management :=
    ⟨strategy, params.limitRunnerPcts n tpOpen, max (truncated params.beAtPos - 1) 0, none⟩
  match override with
  | none => runner .limitRunner
  | some (.template name) => runner (.template name)
  | some .limitRunner => runner .limitRunner
  | some strategy =>
      match eaLadderPcts strategy with
      | none => ⟨strategy, [1], 0, none⟩
      | some table =>
          ⟨strategy,
            if tpOpen then (pctsFor table n).map (· * (1 - params.reserve)) else pctsFor table n,
            eaLadderBeAtPos strategy,
            if eaLadderTrailMode strategy = .prevTp then none
            else some (eaLadderTrailMode strategy)⟩

abbrev Templates (τ : Type u) := String → Option (StoredTemplate τ)

/-- `_template_for_channel`. -/
def templateForChannel (templates : Templates τ) (override : Option Strategy) : Option τ :=
  match override with
  | some (.template name) =>
      ((templates name).filter fun t => !t.grid).map StoredTemplate.fields
  | _ => none

/-- The template that a strategy names. -/
def namedTemplate (templates : Templates τ) (strategy : Strategy) : Option τ :=
  match strategy with
  | .template name => (templates name).map StoredTemplate.fields
  | _ => none

/-- What a resting order is, apart from its life. -/
structure RestingTerms (τ : Type u) where
  tradeId : String
  direction : Direction
  price : ℚ
  lot : ℚ
  stopLoss : ℚ
  tps : List (ℕ × ℚ)
  pcts : List ℚ
  beAtPos : ℤ
  strategy : Strategy
  closeFullOnLast : Bool
  trailMode : Option TrailMode
  template : Option τ

/-- The message of `place_pending_order`. -/
structure PlaceMessage (τ : Type u) where
  terms : RestingTerms τ
  expireMinutes : ℚ

/-- `HandlePlacePendingOrder`: when the order expires, by the server's clock. -/
def PlaceMessage.expiration (m : PlaceMessage τ) (timeCurrent : ℤ) : ℤ :=
  timeCurrent + truncated (m.expireMinutes * 60)

/-- What a placement meets: the override as `_resolve_management` and as
`_template_for_channel` read it, the templates then, the clock of the server when
the EA handles the order and the app's when its answer is in. -/
structure Placement (τ : Type u) where
  order : LimitOrder
  params : LimitRunnerParams
  managed : Option Strategy
  assigned : Option Strategy
  templates : Templates τ
  timeCurrent : ℤ
  ackAt : ℚ
  ticket : Option ℤ

/-- The columns of `vantage_pending_orders` that the sweep reads. -/
structure OrderRow where
  tradeId : String
  direction : Direction
  price : ℚ
  stopLoss : ℚ
  tpsJson : List (ℕ × ℚ)
  pctsJson : List ℚ
  beAtPos : ℤ
  tpOpen : Bool
  lotSize : ℚ
  eaTicket : Option ℤ
  status : OrderStatus
  createdAt : ℚ
  strategy : Strategy
  withdrawCount : ℕ
deriving DecidableEq

namespace Placement
variable (p : Placement τ)

def management : Management :=
  resolveManagement p.params p.managed p.order.tps.length p.order.tpOpen

/-- The order that is sent. -/
def message : PlaceMessage τ where
  terms :=
    { tradeId := p.order.tradeId
      direction := p.order.direction
      price := p.order.price
      lot := p.order.lot
      stopLoss := p.order.stopLoss
      tps := p.order.tps
      pcts := p.management.pcts
      beAtPos := p.management.beAtPos
      strategy := p.management.strategy
      closeFullOnLast := !p.order.tpOpen
      trailMode := p.management.trailMode
      template := templateForChannel p.templates p.assigned }
  expireMinutes := defaultExpireMinutes

/-- The row that is inserted once the EA has answered. -/
def row : OrderRow where
  tradeId := p.order.tradeId
  direction := p.order.direction
  price := p.order.price
  stopLoss := p.order.stopLoss
  tpsJson := p.order.tps
  pctsJson := p.management.pcts
  beAtPos := p.management.beAtPos
  tpOpen := p.order.tpOpen
  lotSize := p.order.lot
  eaTicket := p.ticket
  status := .working
  createdAt := p.ackAt
  strategy := p.management.strategy
  withdrawCount := 0

end Placement

inductive RearmAnswer where
  | placed (ticket : Option ℤ)
  | refused
  | raised
deriving DecidableEq, Repr

/-- What a re-arm meets. -/
structure Rearm (τ : Type u) where
  /-- A gate still refuses the order, or something raises before the send. -/
  held : Bool
  now : ℚ
  templates : Templates τ
  timeCurrent : ℤ
  answer : RearmAnswer
  written : Bool

inductive SweepStep (τ : Type u) where
  | withdraw (cancelled written : Bool)
  | rearm (r : Rearm τ)
  | resolved (status : OrderStatus)

namespace OrderRow
variable (row : OrderRow)

def minutesLeft (now : ℚ) : ℚ := defaultExpireMinutes - (now - row.createdAt) / 60

/-- The order that `_rearm` sends, if it sends one. -/
def rearmMessage (r : Rearm τ) : Option (PlaceMessage τ) :=
  if row.status = .withdrawn ∧ r.held = false ∧ 0 < row.minutesLeft r.now then
    some
      { terms :=
          { tradeId := row.tradeId
            direction := row.direction
            price := row.price
            lot := row.lotSize
            stopLoss := row.stopLoss
            tps := row.tpsJson
            pcts := row.pctsJson
            beAtPos := row.beAtPos
            strategy := row.strategy
            closeFullOnLast := !row.tpOpen
            trailMode := none
            template := namedTemplate r.templates row.strategy }
        expireMinutes := row.minutesLeft r.now }
  else none

def mark (written : Bool) (marked : OrderRow) : OrderRow := if written then marked else row

/-- `_rearm`, as far as the row goes. -/
def rearm (r : Rearm τ) : OrderRow :=
  if row.status = .withdrawn ∧ r.held = false then
    if row.minutesLeft r.now ≤ 0 then row.mark r.written { row with status := .expired }
    else
      match r.answer with
      | .placed ticket =>
          row.mark r.written { row with status := .working, eaTicket := ticket }
      | .refused | .raised => row
  else row

/-- `_withdraw`. -/
def withdraw (cancelled written : Bool) : OrderRow :=
  if row.status = .working ∧ 0 < row.eaTicket.getD 0 ∧ cancelled = true then
    row.mark written
      { row with status := .withdrawn, withdrawCount := row.withdrawCount + 1 }
  else row

def step : SweepStep τ → OrderRow
  | .withdraw cancelled written => row.withdraw cancelled written
  | .rearm r => row.rearm r
  | .resolved status => { row with status := status }

end OrderRow

namespace Placement
variable (p : Placement τ)

/-- The order sent by a re-arm has the terms of the placement and ends no later. -/
def Preserved (row : OrderRow) : SweepStep τ → Prop
  | .rearm r =>
      ∀ m ∈ row.rearmMessage r,
        m.terms = p.message.terms ∧
          m.expiration r.timeCurrent ≤ p.message.expiration p.timeCurrent
  | .withdraw _ _ | .resolved _ => True

/-- Where an order is sent: the trail of its strategy is the usual one, the
strategy names the template that was sent with the placement, and no more seconds
of the server's clock lie between the two placements than of the app's, rounded
up, between the stamp of the row and the re-arm. -/
def RearmFits (row : OrderRow) : SweepStep τ → Prop
  | .rearm r =>
      row.status = .withdrawn → r.held = false → 0 < row.minutesLeft r.now →
        p.managed ≠ some .adaptiveRunner2 ∧
          namedTemplate r.templates p.management.strategy =
            templateForChannel p.templates p.assigned ∧
          r.timeCurrent - p.timeCurrent ≤ ⌈r.now - p.ackAt⌉
  | .withdraw _ _ | .resolved _ => True

end Placement

theorem trailMode_eq_none (params : LimitRunnerParams) (override : Option Strategy) (n : ℕ)
    (tpOpen : Bool) :
    (resolveManagement params override n tpOpen).trailMode = none ↔
      override ≠ some .adaptiveRunner2 := by
  cases override with
  | none => simp [resolveManagement]
  | some strategy =>
      cases strategy <;> simp [resolveManagement, eaLadderPcts, eaLadderTrailMode]

theorem truncated_sub_ceil {x : ℚ} (le : x ≤ 3600) : truncated (3600 - x) = 3600 - ⌈x⌉ := by
  rw [truncated, if_pos (sub_nonneg.mpr le), sub_eq_add_neg, sub_eq_add_neg, ← Int.floor_neg]
  exact_mod_cast Int.floor_intCast_add 3600 (-x)

namespace OrderRow
variable {row : OrderRow}

/-- What is left of the row's life counts the seconds since its stamp as whole ones. -/
theorem expiration_left (terms : RestingTerms τ) {now : ℚ} (left : 0 < row.minutesLeft now)
    (timeCurrent : ℤ) :
    PlaceMessage.expiration ⟨terms, row.minutesLeft now⟩ timeCurrent =
      timeCurrent + (3600 - ⌈now - row.createdAt⌉) := by
  rw [minutesLeft, defaultExpireMinutes] at left
  have seconds : (60 - (now - row.createdAt) / 60) * 60 = 3600 - (now - row.createdAt) := by ring
  rw [PlaceMessage.expiration, minutesLeft, defaultExpireMinutes, seconds, truncated_sub_ceil]
  linarith

end OrderRow

namespace Placement
variable (p : Placement τ)

theorem expiration_message : p.message.expiration p.timeCurrent = p.timeCurrent + 3600 := by
  have hour : truncated (60 * 60) = 3600 := by decide +kernel
  rw [PlaceMessage.expiration, message, defaultExpireMinutes, hour]

/-- The row has the order as it was placed. -/
def HeldBy (row : OrderRow) : Prop :=
  ∃ ticket status count,
    row = { p.row with eaTicket := ticket, status := status, withdrawCount := count }

theorem heldBy_row : p.HeldBy p.row := ⟨_, _, _, rfl⟩

variable {p} {row : OrderRow}

theorem HeldBy.mark (held : p.HeldBy row) (written : Bool) {marked : OrderRow}
    (same : p.HeldBy marked) : p.HeldBy (row.mark written marked) := by
  cases written with
  | true => exact same
  | false => exact held

/-- The sweep and the reports of the EA leave the order in the row as it is. -/
theorem HeldBy.step (held : p.HeldBy row) (a : SweepStep τ) : p.HeldBy (row.step a) := by
  have kept : ∀ ticket status count,
      p.HeldBy { row with eaTicket := ticket, status := status, withdrawCount := count } := by
    intro ticket status count
    obtain ⟨_, _, _, rfl⟩ := held
    exact ⟨ticket, status, count, rfl⟩
  cases a with
  | withdraw cancelled written =>
      rw [OrderRow.step, OrderRow.withdraw]
      split
      · exact held.mark written (kept _ _ _)
      · exact held
  | rearm r =>
      rw [OrderRow.step, OrderRow.rearm]
      split
      · split
        · exact held.mark r.written (kept _ _ _)
        · cases r.answer with
          | placed ticket => exact held.mark r.written (kept _ _ _)
          | refused | raised => exact held
      · exact held
  | resolved status => exact kept _ _ _

theorem preserved_iff (held : p.HeldBy row) (a : SweepStep τ) :
    p.Preserved row a ↔ p.RearmFits row a := by
  cases a with
  | withdraw cancelled written => exact Iff.rfl
  | resolved status => exact Iff.rfl
  | rearm r =>
      obtain ⟨ticket, status, count, rfl⟩ := held
      rw [Preserved, RearmFits, OrderRow.rearmMessage]
      split
      · next sent =>
          obtain ⟨withdrawn, free, left⟩ := sent
          obtain rfl : status = .withdrawn := withdrawn
          have trail : none = p.management.trailMode ↔ p.managed ≠ some .adaptiveRunner2 := by
            rw [eq_comm]
            exact trailMode_eq_none _ _ _ _
          have life : r.timeCurrent + (3600 - ⌈r.now - p.ackAt⌉) ≤ p.timeCurrent + 3600 ↔
              r.timeCurrent - p.timeCurrent ≤ ⌈r.now - p.ackAt⌉ := by
            omega
          simp only [Option.mem_some_iff, forall_eq', OrderRow.expiration_left _ left,
            expiration_message, free, left, forall_true_left]
          rw [← trail, ← and_assoc]
          refine and_congr ?_ life
          simp [message, row, RestingTerms.mk.injEq]
      · next none =>
          refine iff_of_true (fun m mem => by cases mem) ?_
          intro withdrawn free left
          exact absurd ⟨withdrawn, free, left⟩ none

end Placement

/-- Along a run of the sweep every order that is put back is the one that was
placed, exactly when every re-arm fits. -/
theorem rearm_preserves_order (p : Placement τ) (run : List (SweepStep τ)) :
    Meets OrderRow.step p.Preserved p.row run ↔ Meets OrderRow.step p.RearmFits p.row run := by
  constructor
  · intro preserved
    exact meets_of_invariant (fun _ a held _ => held.step a)
      (fun _ a held preserved => (Placement.preserved_iff held a).mp preserved) p.heldBy_row
      preserved
  · intro fits
    exact meets_of_invariant (fun _ a held _ => held.step a)
      (fun _ a held fits => (Placement.preserved_iff held a).mpr fits) p.heldBy_row fits

/-- A BUY limit on a channel that Adaptive Runner 2 manages. -/
def adaptivePlacement : Placement Unit where
  order := ⟨"o1", .buy, 2000, 1 / 10, 1990, [(1, 2010), (2, 2020)], false⟩
  params := ⟨25, 1⟩
  managed := some .adaptiveRunner2
  assigned := some .adaptiveRunner2
  templates := fun _ => none
  timeCurrent := 1000
  ackAt := 1000
  ticket := some 7

/-- Withdrawn, and put back five minutes after its placement. -/
def withdrawnAndBack : List (SweepStep Unit) :=
  [.withdraw true true, .rearm ⟨false, 1300, fun _ => none, 1300, .placed (some 8), true⟩]

theorem rearm_drops_trail_mode :
    ¬ ∀ (p : Placement Unit) (run : List (SweepStep Unit)),
      Meets OrderRow.step p.Preserved p.row run := by
  intro all
  have back := (all adaptivePlacement withdrawnAndBack).2.1
  have carried : ∀ m ∈ ((adaptivePlacement.row.withdraw true true).rearmMessage
      ⟨false, 1300, fun _ => none, 1300, .placed (some 8), true⟩ : Option (PlaceMessage Unit)),
      m.terms.trailMode = adaptivePlacement.message.terms.trailMode :=
    fun m mem => congrArg RestingTerms.trailMode (back m mem).1
  have sent : (((adaptivePlacement.row.withdraw true true).rearmMessage
      ⟨false, 1300, fun _ => none, 1300, .placed (some 8), true⟩ : Option (PlaceMessage Unit)).map
        fun m => m.terms.trailMode) = some none := by decide +kernel
  obtain ⟨m, mem, none⟩ := Option.map_eq_some_iff.mp sent
  rw [carried m mem] at none
  exact absurd none (by decide +kernel)

end Forex
