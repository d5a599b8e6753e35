import Forex.Support.Run
import Forex.Telegram.Routes

/-!
The pairing of a bare trigger with the full signal that follows it. The scan
decides by one template test whether a signal goes to the limit route, and the
matcher, behind that decision, recognises an instant trade by its channel and
its age alone. What is wanted is stated over the trades known to be awaiting
their follow-up.
-/

namespace Forex
open Support

section Absorbed
variable {env : ScanEnv} {mk : Market} {b : Book} {ch : ChannelConfig} {m : Message}

theorem perform_absorbed (c : Decision) : (perform env mk b ch m c).absorbed = none := by
  cases c with
  | nothing => rfl
  | send => rfl
  | queue p r =>
      simp only [perform]
      split <;> rfl
  | queueClosed p =>
      simp only [perform]
      split <;> rfl

/-- The trade takes the signal: it only acknowledges it, or the signal has the
stop that its levels are computed from. -/
def completes (mk : Market) (ch : ChannelConfig) (t : Trade) (p : Parsed) : Bool :=
  onlyAcknowledges mk ch t || p.stopLoss.isSome

theorem absorb_absorbed (t : Trade) (p : Parsed) :
    (absorb mk b ch t p).absorbed = if completes mk ch t p then some t.tradeId else none := by
  change (applyFollowup mk b ch t p).absorbed = _
  rw [applyFollowup, completes]
  cases onlyAcknowledges mk ch t with
  | true => rfl
  | false =>
      cases p.stopLoss with
      | none => rfl
      | some stop =>
          simp only [Bool.false_eq_true, if_false, Option.isSome_some, Bool.or_true, if_true,
            updateLevels]
          split <;> rfl

/-- The signal is matched against the open instant trades at all. -/
def matchesFollowUp (env : ScanEnv) (mk : Market) (ch : ChannelConfig) (m : Message)
    (p : Parsed) : Bool :=
  env.settings.autoExecute && env.settings.immediateMarketEntry &&
    (p.tpOpen.isNone || mk.isGrid (mk.resolveStrategy ch.name m p).1)

theorem isTemplate_of_isGrid {strategy : Strategy} (grid : mk.isGrid strategy = true) :
    strategy.isTemplate = true := by
  cases strategy with
  | template name => rfl
  | _ => exact absurd grid (by simp [Market.isGrid, Market.templateOf])

theorem matchesFollowUp_eq (env : ScanEnv) (mk : Market) (ch : ChannelConfig) (m : Message)
    (p : Parsed) :
    matchesFollowUp env mk ch m p =
      (env.settings.autoExecute && !takesLimitRoute mk (mk.resolveStrategy ch.name m p).1 p &&
        seeksFollowUp env (mk.resolveStrategy ch.name m p).1 p) := by
  rw [matchesFollowUp, takesLimitRoute, seeksFollowUp]
  cases grid : mk.isGrid (mk.resolveStrategy ch.name m p).1 with
  | true =>
      rw [isTemplate_of_isGrid grid]
      cases p.tpOpen <;> simp
  | false => cases p.tpOpen <;> simp

theorem actSignal_absorbed (p : Parsed) :
    (actSignal env mk b ch m p).absorbed =
      if matchesFollowUp env mk ch m p then
        (followUpTarget env mk b ch p.direction).bind fun t =>
          if completes mk ch t p then some t.tradeId else none
      else none := by
  rw [matchesFollowUp_eq, actSignal]
  dsimp only
  cases env.settings.autoExecute with
  | false => rfl
  | true =>
      cases takesLimitRoute mk (mk.resolveStrategy ch.name m p).1 p with
      | true =>
          simp only [Bool.not_true, Bool.false_eq_true, if_false, if_true, Bool.and_false,
            Bool.false_and]
          exact perform_absorbed _
      | false =>
          cases seeksFollowUp env (mk.resolveStrategy ch.name m p).1 p with
          | false =>
              simp only [Bool.not_true, Bool.false_eq_true, if_false, Bool.and_false]
              exact perform_absorbed _
          | true =>
              simp only [Bool.not_true, Bool.false_eq_true, if_false, if_true, Bool.not_false,
                Bool.and_true]
              cases followUpTarget env mk b ch p.direction with
              | none => exact perform_absorbed _
              | some t => exact absorb_absorbed t p

theorem applySlAdjustment_absorbed (newStop : ℚ) :
    (applySlAdjustment env mk b ch newStop).absorbed = none := by
  simp only [applySlAdjustment]
  split
  · rfl
  · split
    · rfl
    · split <;> rfl

theorem actTrigger_absorbed (claimed : Bool) (trigger : Trigger) :
    (actTrigger env mk b ch claimed trigger).absorbed = none := by
  simp only [actTrigger]
  split
  · rfl
  · split
    · rfl
    · split
      · rfl
      · split
        · rfl
        · exact applySlAdjustment_absorbed _

end Absorbed

section Scan
variable (env : ScanEnv) (mk : Market) (s : ScanState) (ch : ChannelConfig) (m : Message)

/-- The signal as the overrides leave it. -/
def overridden (p : Parsed) : Parsed :=
  applyOverrides env.settings.levels (env.templateOf ch.name) p

/-- The signal that is offered to an open trade as its follow-up: a fresh one
that is matched, or an edit that parses again. -/
def offered : Option Parsed :=
  match (env.lookOn ch m (s.inbox.view ch m)).stage with
  | .parsed q =>
      if !env.isStale m && matchesFollowUp env mk ch m (overridden env ch q) then
        some (overridden env ch q)
      else none
  | .settled (.edited (.followUp p)) => some p
  | _ => none

theorem outcomeOn_absorbed :
    (outcomeOn env mk s ch m).absorbed =
      (offered env mk s ch m).bind fun p =>
        (followUpTarget env mk s.book ch p.direction).bind fun t =>
          if completes mk ch t p then some t.tradeId else none := by
  have proper := lookOn_proper env ch m (s.inbox.view ch m)
  rw [outcomeOn, offered, ScanEnv.readOn, ScanEnv.finish]
  cases stage : (env.lookOn ch m (s.inbox.view ch m)).stage with
  | parsed q =>
      dsimp only [ScanEnv.record]
      cases env.isStale m with
      | true => rfl
      | false =>
          change (actSignal env mk s.book ch m (overridden env ch q)).absorbed = _
          rw [actSignal_absorbed]
          cases matchesFollowUp env mk ch m (overridden env ch q) <;> rfl
  | settled v =>
      dsimp only
      cases v with
      | trigger trigger first =>
          cases first with
          | true => exact actTrigger_absorbed _ _
          | false => rfl
      | edited request =>
          cases request with
          | nothing => rfl
          | flatten recorded =>
              simp only [act, actEdit]
              split
              · rfl
              · split <;> rfl
          | followUp p =>
              simp only [act, actEdit, Option.bind_some]
              cases followUpTarget env mk s.book ch p.direction with
              | none => rfl
              | some t => exact absorb_absorbed t p
      | instant d price stale =>
          cases stale with
          | true => rfl
          | false => exact perform_absorbed _
      | adjustStop newStop first =>
          cases first with
          | true => exact applySlAdjustment_absorbed _
          | false => rfl
      | signal p fresh =>
          rw [stage] at proper
          exact absurd proper id
      | _ => rfl

/-- An open trade of an instant entry on the channel and the side, not older
than the timeout, that has had no follow-up yet. -/
structure Expects (d : Direction) (t : Trade) : Prop where
  row : t ∈ s.book.db.trades.rows
  opened : t.isOpen = true
  awaiting : t.tradeId ∈ s.book.awaiting
  source : s.book.isFrom ch.name t = true
  recent : env.now - mk.followupTimeout ≤ t.openTime
  side : t.direction = d

/-- The channel is assigned an EA Template. -/
def OnTemplate : Prop :=
  ∃ name, mk.channelOverride ch.name = some (.fixed (.template name))

/-- The message completes what waits for it and opens nothing besides, and no
other trade takes it. -/
structure FollowedUp : Prop where
  completed : ∀ ch q t, env.channelOf m.groupId = some ch → OnTemplate mk ch →
    stageOf env s m = .parsed q → Expects env mk s ch q.direction t →
      (outcomeOn env mk s ch m).absorbed = some t.tradeId ∧
        ∀ r ∈ (outcomeOn env mk s ch m).requests, r.side = none
  awaited : ∀ ch id, env.channelOf m.groupId = some ch →
    (outcomeOn env mk s ch m).absorbed = some id → id ∈ s.book.awaiting

/-- The signal is fresh, matched and not reversed, and the trade that waits for
it is the channel's newest; whatever else is offered meets a trade that waits. -/
structure FollowUpReady : Prop where
  completed : ∀ ch q t, env.channelOf m.groupId = some ch → OnTemplate mk ch →
    stageOf env s m = .parsed q → Expects env mk s ch q.direction t →
      env.isStale m = false ∧ env.settings.levels.enableMirrorCopy = false ∧
        matchesFollowUp env mk ch m (overridden env ch q) = true ∧
          s.book.findLatestInstantTrade ch.name (env.now - mk.followupTimeout) = some t ∧
            completes mk ch t (overridden env ch q) = true
  offers : ∀ ch p t, env.channelOf m.groupId = some ch → offered env mk s ch m = some p →
    followUpTarget env mk s.book ch p.direction = some t → completes mk ch t p = true →
      t.tradeId ∈ s.book.awaiting

end Scan

section Ready
variable {env : ScanEnv} {mk : Market} {s : ScanState} {ch : ChannelConfig} {m : Message}

theorem absorbed_iff {id : String} :
    (outcomeOn env mk s ch m).absorbed = some id ↔
      ∃ p t, offered env mk s ch m = some p ∧
        followUpTarget env mk s.book ch p.direction = some t ∧ completes mk ch t p = true ∧
          t.tradeId = id := by
  simp only [outcomeOn_absorbed, Option.bind_eq_some_iff, Option.ite_none_right_eq_some,
    Option.some.injEq]
  constructor
  · rintro ⟨p, found, t, target, done, rfl⟩
    exact ⟨p, t, found, target, done, rfl⟩
  · rintro ⟨p, t, found, target, done, rfl⟩
    exact ⟨p, found, t, target, done, rfl⟩

theorem followUpTarget_eq_some {b : Book} {d : Direction} {t : Trade} :
    followUpTarget env mk b ch d = some t ↔
      b.findLatestInstantTrade ch.name (env.now - mk.followupTimeout) = some t ∧
        t.direction = d := by
  simp [followUpTarget, Option.filter_eq_some_iff]

theorem findLatestInstantTrade_row {b : Book} {channel : String} {since : ℚ} {t : Trade}
    (found : b.findLatestInstantTrade channel since = some t) : t ∈ b.db.trades.rows :=
  (List.mem_filter.mp (newest_mem _ found)).1

theorem offered_of_parsed {q : Parsed} (watched : env.channelOf m.groupId = some ch)
    (stage : stageOf env s m = .parsed q) :
    offered env mk s ch m =
      if !env.isStale m && matchesFollowUp env mk ch m (overridden env ch q) then
        some (overridden env ch q) else none := by
  rw [stageOf, watched] at stage
  dsimp only at stage
  rw [offered, stage]

/-- Absorbed by this very trade: the signal reached the matcher unreversed, and
the trade is the one it finds. -/
theorem absorbed_expected_iff {q : Parsed} {t : Trade}
    (watched : env.channelOf m.groupId = some ch) (stage : stageOf env s m = .parsed q)
    (expects : Expects env mk s ch q.direction t) :
    (outcomeOn env mk s ch m).absorbed = some t.tradeId ↔
      env.isStale m = false ∧ env.settings.levels.enableMirrorCopy = false ∧
        matchesFollowUp env mk ch m (overridden env ch q) = true ∧
          s.book.findLatestInstantTrade ch.name (env.now - mk.followupTimeout) = some t ∧
            completes mk ch t (overridden env ch q) = true := by
  have side : (overridden env ch q).direction =
      if env.settings.levels.enableMirrorCopy then q.direction.opposite else q.direction :=
    applyOverrides_direction _ _ _
  rw [absorbed_iff, offered_of_parsed watched stage]
  constructor
  · rintro ⟨p, u, found, target, done, same⟩
    rw [Option.ite_none_right_eq_some, Bool.and_eq_true, Bool.not_eq_true',
      Option.some.injEq] at found
    obtain ⟨⟨fresh, matched⟩, rfl⟩ := found
    obtain ⟨latest, faces⟩ := followUpTarget_eq_some.mp target
    have this_ : u = t :=
      Table.eq_of_mem_of_key (findLatestInstantTrade_row latest) expects.row same
    subst this_
    refine ⟨fresh, ?_, matched, latest, done⟩
    rw [expects.side, side] at faces
    by_contra on
    rw [Bool.not_eq_false] at on
    rw [if_pos on] at faces
    exact Direction.opposite_ne _ faces.symm
  · rintro ⟨fresh, plain, matched, latest, done⟩
    refine ⟨_, t, if_pos ?_, followUpTarget_eq_some.mpr ⟨latest, ?_⟩, done, rfl⟩
    · rw [fresh, matched]
      rfl
    · rw [expects.side, side, plain]
      rfl

/-- A signal that some trade takes asks for no order. -/
theorem no_side_of_absorbed {q : Parsed} (watched : env.channelOf m.groupId = some ch)
    (stage : stageOf env s m = .parsed q) {id : String}
    (absorbed : (outcomeOn env mk s ch m).absorbed = some id) :
    ∀ r ∈ (outcomeOn env mk s ch m).requests, r.side = none := by
  obtain ⟨p, t, found, target, _, _⟩ := absorbed_iff.mp absorbed
  rw [offered_of_parsed watched stage, Option.ite_none_right_eq_some, Bool.and_eq_true,
    Bool.not_eq_true', Option.some.injEq] at found
  obtain ⟨⟨fresh, matched⟩, rfl⟩ := found
  have look : (env.lookOn ch m (s.inbox.view ch m)).stage = .parsed q := by
    rw [stageOf, watched] at stage
    exact stage
  have verdict : (env.readOn ch m (s.inbox.view ch m)).verdict =
      .signal (overridden env ch q) true := by
    simp only [ScanEnv.readOn, ScanEnv.finish, look, ScanEnv.record, fresh]
    rfl
  intro r mem
  rw [outcomeOn, verdict] at mem
  rw [matchesFollowUp_eq, Bool.and_eq_true, Bool.and_eq_true, Bool.not_eq_true'] at matched
  obtain ⟨⟨auto, plain⟩, seeks⟩ := matched
  simp only [act, actSignal, auto, plain, seeks, target, Bool.not_true, Bool.false_eq_true,
    if_false, if_true] at mem
  exact applyFollowup_side mem

theorem followedUp_iff_ready :
    FollowedUp env mk s m ↔ FollowUpReady env mk s m := by
  constructor
  · intro good
    refine ⟨fun ch q t watched template stage expects => ?_,
      fun ch p t watched found target done => ?_⟩
    · exact (absorbed_expected_iff watched stage expects).mp
        (good.completed ch q t watched template stage expects).1
    · exact good.awaited ch t.tradeId watched (absorbed_iff.mpr ⟨p, t, found, target, done, rfl⟩)
  · intro ready
    refine ⟨fun ch q t watched template stage expects => ?_, fun ch id watched absorbed => ?_⟩
    · have absorbed := (absorbed_expected_iff watched stage expects).mpr
        (ready.completed ch q t watched template stage expects)
      exact ⟨absorbed, no_side_of_absorbed watched stage absorbed⟩
    · obtain ⟨p, t, found, target, done, rfl⟩ := absorbed_iff.mp absorbed
      exact ready.offers ch p t watched found target done

end Ready

/-- A step of the book: a message is scanned, or another service changes the
trades and their sources. -/
inductive BookStep where
  | scan (env : ScanEnv) (mk : Market) (m : Message)
  | outside (db : Db) (sources : List (String × String))

namespace ScanState

def step (s : ScanState) : BookStep → ScanState
  | .scan env market m => (scanMessage env market s m).1
  | .outside db sources => { s with book := { s.book with db := db, sources := sources } }

def FollowsUp (s : ScanState) : BookStep → Prop
  | .scan env market m => FollowedUp env market s m
  | .outside _ _ => True

def Ready (s : ScanState) : BookStep → Prop
  | .scan env market m => FollowUpReady env market s m
  | .outside _ _ => True

end ScanState

/-- Along every run: each scan pairs trigger and follow-up as wanted exactly
when each scan meets the condition. -/
theorem follow_up_paired_iff (run : List BookStep) :
    Meets ScanState.step ScanState.FollowsUp ScanState.start run ↔
      Meets ScanState.step ScanState.Ready ScanState.start run := by
  refine meets_congr (fun s l => ?_) _ _
  cases l with
  | scan env mk m => exact followedUp_iff_ready
  | outside db sources => exact Iff.rfl

/-- A channel on a single template posts a trigger and then its levels in the
layout of a limit order. -/
def limitLayout : String := "BUY GOLD @ 2001/1999\nTP 2005\nTP OPEN\nSL 1990"

def limitLayoutParsed : Parsed :=
  ⟨.buy, 1999, 2001, some 1990, some 2005 :: List.replicate 7 none, some true⟩

def limitLayoutEnv (now : ℚ) : ScanEnv :=
  ScanEnv.shipped
    { bareBuyParsers with
      limitOrderSignal := fun text =>
        if text = limitLayout then .ok (some limitLayoutParsed) else .ok none }
    now

def singleTemplateMarket : Market :=
  { Market.calm with
    channelOverride := fun _ => some (.fixed (.template "single"))
    templates := fun name =>
      if name = "single" then some ⟨false, false, true, 70, false, 0, 0, 0, 1 / 10⟩ else none
    answers := fun _ => ⟨none, true, .opened 7001 2001 none, .absent, "", .rejected ""⟩ }

def limitLayoutMessage : Message := ⟨8, "G", limitLayout, .posted 860, false, false⟩

def triggerThenLimitLayout : List BookStep :=
  [.scan (limitLayoutEnv 810) singleTemplateMarket bareBuy,
    .scan (limitLayoutEnv 865) singleTemplateMarket limitLayoutMessage]

def afterTrigger : ScanState :=
  (scanMessage (limitLayoutEnv 810) singleTemplateMarket ScanState.start bareBuy).1

def triggerTrade : Trade := afterTrigger.book.db.trades.rows.headD Trade.oneLot

theorem triggerTrade_expects :
    Expects (limitLayoutEnv 865) singleTemplateMarket afterTrigger ⟨"G", true, false, ""⟩ .buy
      triggerTrade := by
  constructor <;> decide +kernel

/-- The levels come as a second order, and the instant trade is left waiting. -/
theorem limit_layout_ordered_twice :
    ¬ Meets ScanState.step ScanState.FollowsUp ScanState.start triggerThenLimitLayout := by
  rintro ⟨_, second, _⟩
  have done := FollowedUp.completed second ⟨"G", true, false, ""⟩ limitLayoutParsed triggerTrade rfl
    ⟨"single", rfl⟩ (by decide +kernel) triggerTrade_expects
  have asked : ((outcomeOn (limitLayoutEnv 865) singleTemplateMarket afterTrigger
      ⟨"G", true, false, ""⟩ limitLayoutMessage).requests.any fun r => r.side.isSome) = true := by
    decide +kernel
  obtain ⟨r, mem, side⟩ := List.any_eq_true.mp asked
  rw [done.2 r mem] at side
  cases side

end Forex
