import Forex.Telegram.Scan
import Forex.Telegram.Stages

/-!
The routes from a message to an order. An order, or a place in a queue, comes
either from the bare trigger of the instant entry or from a signal that went
through the overrides and was recorded as fresh. The second kind is bounded in
age and reversed by Mirror Copy; the first is neither.
-/

namespace Forex
open Support

/-- The side of a request that opens something, now or later. -/
def Request.side : Request → Option Direction
  | .order _ r => some r.direction
  | .queue r => some r.direction
  | .queueClosed direction => some direction
  | _ => none

section Act
variable {env : ScanEnv} {mk : Market} {b : Book} {ch : ChannelConfig} {m : Message}

theorem perform_side {c : Decision} {d e : Direction} (takes : c.Takes d) {q : Request}
    (mem : q ∈ (perform env mk b ch m c).requests) (side : q.side = some e) : e = d := by
  cases c with
  | nothing => cases mem
  | send site tpOpen r =>
      simp only [perform, send] at mem
      split at mem
      · rw [List.mem_singleton.mp mem] at side
        exact takes e side
      · cases mem
  | queue p r =>
      simp only [perform] at mem
      split at mem
      · cases mem
      · rw [List.mem_singleton.mp mem] at side
        exact takes e side
  | queueClosed p =>
      simp only [perform] at mem
      split at mem
      · cases mem
      · rw [List.mem_singleton.mp mem] at side
        exact takes e side

theorem applyFollowup_side {t : Trade} {p : Parsed} {q : Request}
    (mem : q ∈ (applyFollowup mk b ch t p).requests) : q.side = none := by
  have levels : ∀ strategy stop, q ∈ (updateLevels b t strategy p stop).requests →
      q.side = none := by
    intro strategy stop mem
    simp only [updateLevels] at mem
    split at mem
    · cases mem
    · cases mem
    · cases mem
    · rw [List.mem_singleton.mp mem]
      rfl
  rw [applyFollowup] at mem
  split at mem
  · cases mem
  · cases stated : p.stopLoss with
    | none =>
        rw [stated] at mem
        cases mem
    | some stop =>
        rw [stated] at mem
        exact levels _ _ mem

theorem closeFor_side {t : Trade} {reason : String} {q : Request}
    (mem : q ∈ (closeFor env mk b t reason).requests) : q.side = none := by
  rw [List.mem_singleton.mp mem]
  rfl

theorem applySlAdjustment_side {newStop : ℚ} {q : Request}
    (mem : q ∈ (applySlAdjustment env mk b ch newStop).requests) : q.side = none := by
  simp only [applySlAdjustment] at mem
  split at mem
  · cases mem
  · split at mem
    · cases mem
    · split at mem
      · cases mem
      · rw [List.mem_singleton.mp mem]
        rfl

theorem actTrigger_side {claimed : Bool} {trigger : Trigger} {q : Request}
    (mem : q ∈ (actTrigger env mk b ch claimed trigger).requests) : q.side = none := by
  simp only [actTrigger] at mem
  split at mem
  · cases mem
  · split at mem
    · cases mem
    · split at mem
      · exact closeFor_side mem
      · split at mem
        · cases mem
        · exact applySlAdjustment_side mem

theorem actEdit_side {request : EditRequest} {q : Request}
    (mem : q ∈ (actEdit env mk b ch request).requests) : q.side = none := by
  cases request with
  | nothing => cases mem
  | flatten recorded =>
      simp only [actEdit] at mem
      split at mem
      · cases mem
      · split at mem
        · exact closeFor_side mem
        · cases mem
  | followUp p =>
      simp only [actEdit] at mem
      split at mem
      · exact applyFollowup_side mem
      · cases mem

theorem actSignal_side {p : Parsed} {q : Request} {d : Direction}
    (mem : q ∈ (actSignal env mk b ch m p).requests) (side : q.side = some d) :
    d = p.direction := by
  simp only [actSignal] at mem
  split at mem
  · cases mem
  · split at mem
    · exact perform_side (handleLimitOrderSignal_takes _ _ _) mem side
    · split at mem
      · rw [applyFollowup_side mem] at side
        cases side
      · exact perform_side (executeAutoSignal_takes _ _ _ _) mem side

/-- Where a request that opens something comes from. -/
theorem act_side {view : InboxView} {v : Verdict} {q : Request} {d : Direction}
    (mem : q ∈ (act env mk b ch m view v).requests) (side : q.side = some d) :
    (∃ price, v = .instant d price false) ∨ ∃ p, v = .signal p true ∧ d = p.direction := by
  simp only [act] at mem
  split at mem
  · rw [actTrigger_side mem] at side
    cases side
  · rw [actEdit_side mem] at side
    cases side
  · next e price =>
      rw [perform_side (processInstantEntry_takes _ _ _ _) mem side]
      exact .inl ⟨price, rfl⟩
  · rw [applySlAdjustment_side mem] at side
    cases side
  · next p => exact .inr ⟨p, rfl, actSignal_side mem side⟩
  · cases mem

end Act

/-- The time of the message can be read and lies within the allowed age. -/
def Fresh (env : ScanEnv) (m : Message) : Prop :=
  ∃ time, m.stamp = .posted time ∧ env.now - time ≤ env.settings.maxSignalAge

theorem fresh_iff_isStale {env : ScanEnv} {m : Message} :
    Fresh env m ↔ env.isStale m = false := by
  rw [Fresh, ScanEnv.isStale]
  cases m.stamp with
  | missing => simp
  | malformed => simp
  | posted time => simp

section Scan
variable (env : ScanEnv) (mk : Market) (s : ScanState) (m : Message)

/-- How far the pipeline takes the message in this state. -/
def stageOf : Stage :=
  match env.channelOf m.groupId with
  | none => .settled .ignored
  | some ch => (env.lookOn ch m (s.inbox.view ch m)).stage

/-- The direction a message states, as it is parsed and before any override. -/
def Stage.direction : Stage → Option Direction
  | .parsed p => some p.direction
  | .settled (.instant d _ _) => some d
  | _ => none

/-- Nothing in the instant entry stops an order of this side: no switch or gate,
a quote of no wider than the allowed spread, a free slot, a risk that the
strategy can be given, and a way out for the request. -/
structure InstantOpen (ch : ChannelConfig) (d : Direction) : Prop where
  autoExecute : env.settings.autoExecute = true
  session : mk.sessionOk = true
  schedule : mk.scheduleOk ch.name = true
  news : mk.newsOk = true
  bias : mk.biasBlocks d = false
  tick : mk.tick.isSome = true
  spread : mk.spreadPoints ≤ mk.maxSpread
  slots : s.book.db.tradeSlotsUsed none < mk.maxOpenTrades
  risk : (instantRisk mk (mk.instantStrategy ch.name m)
    (s.book.sigGuardBlocks ch.name d)).isSome = true
  out : goesOut .instant (mk.instantStrategy ch.name m) (mk.answers m) = true

/-- The message is read as a bare trigger that nothing in the instant entry
stops. -/
def InstantOrder : Prop :=
  ∃ ch d price, env.channelOf m.groupId = some ch ∧
    env.BareTrigger ch m (s.inbox.view ch m) d price ∧ InstantOpen env mk s m ch d

/-- An order goes out only for a message of a known, allowed age. -/
def OrdersFresh : Prop :=
  ∀ q ∈ (scanMessage env mk s m).2, q.orderOf.isSome = true → Fresh env m

/-- With Mirror Copy on, what the message opens or queues is the opposite of
what it states; and the reversal of levels is exact and keeps validity. -/
structure MirrorSound : Prop where
  entries : env.settings.levels.enableMirrorCopy = true →
    ∀ q ∈ (scanMessage env mk s m).2, ∀ d, q.side = some d →
      (stageOf env s m).direction = some d.opposite
  inverse : ∀ p, mirrorWith id (mirrorWith id p) = p
  valid : ∀ p, validateSignal (mirrorWith id p) = [] ↔ validateSignal p = []
  priced : ∀ p : Parsed, p.Priced →
    applyMirrorCopy (applyMirrorCopy p) = p ∧
      (validateSignal (applyMirrorCopy p) = [] ↔ validateSignal p = [])

variable {env mk s m}

/-- The instant entry asks for nothing, or for the order that nothing stops. -/
theorem instant_requests (env : ScanEnv) (mk : Market) (s : ScanState) (ch : ChannelConfig)
    (m : Message) (d : Direction) (price : Option ℚ) :
    (perform env mk s.book ch m (instantDecision env mk s.book ch m d price)).requests = [] ∧
        ¬ InstantOpen env mk s m ch d ∨
      ∃ r, r.direction = d ∧ InstantOpen env mk s m ch d ∧
        (perform env mk s.book ch m (instantDecision env mk s.book ch m d price)).requests =
          [.order .instant r] := by
  rw [instantDecision, processInstantEntry]
  split
  · next shut =>
      refine .inl ⟨rfl, fun open_ => ?_⟩
      simp [open_.autoExecute, open_.session, open_.schedule, open_.news, open_.bias] at shut
  · next gates =>
      simp only [Bool.or_eq_true, Bool.not_eq_true', not_or, Bool.not_eq_false,
        Bool.not_eq_true] at gates
      obtain ⟨⟨⟨⟨autoExecute, session⟩, schedule⟩, news⟩, bias⟩ := gates
      cases quote : mk.tick with
      | none =>
          refine .inl ⟨rfl, fun open_ => ?_⟩
          have quoted := open_.tick
          rw [quote] at quoted
          cases quoted
      | some tick =>
          dsimp only
          by_cases wide : mk.maxSpread < mk.spreadPoints
          · rw [if_pos wide]
            exact .inl ⟨rfl, fun open_ => absurd open_.spread (not_le.mpr wide)⟩
          · rw [if_neg wide]
            by_cases full : mk.maxOpenTrades ≤ s.book.db.tradeSlotsUsed none
            · rw [if_pos full]
              exact .inl ⟨rfl, fun open_ => absurd open_.slots (not_lt.mpr full)⟩
            · rw [if_neg full]
              cases risk : instantRisk mk (mk.instantStrategy ch.name m)
                  (s.book.sigGuardBlocks ch.name d) with
              | none =>
                  refine .inl ⟨rfl, fun open_ => ?_⟩
                  have sized := open_.risk
                  rw [risk] at sized
                  cases sized
              | some pair =>
                  dsimp only [perform, send, requestFor]
                  by_cases out : goesOut .instant (mk.instantStrategy ch.name m)
                      (mk.answers m) = true
                  · rw [if_pos out]
                    exact .inr ⟨_, rfl, ⟨autoExecute, session, schedule, news, bias,
                      by rw [quote]; rfl, not_lt.mp wide, not_le.mp full,
                      by rw [risk]; rfl, out⟩, rfl⟩
                  · rw [if_neg out]
                    exact .inl ⟨rfl, fun open_ => out open_.out⟩

/-- What a message opens or queues: an order of the instant entry on the side
it states, or what follows from a fresh parse on the side the overrides give. -/
theorem scan_side {q : Request} {d : Direction} (mem : q ∈ (scanMessage env mk s m).2)
    (side : q.side = some d) :
    (InstantOrder env mk s m ∧ (stageOf env s m).direction = some d) ∨
      ∃ p, stageOf env s m = .parsed p ∧ env.isStale m = false ∧
        d = if env.settings.levels.enableMirrorCopy then p.direction.opposite
          else p.direction := by
  rw [scanMessage] at mem
  cases watched : env.channelOf m.groupId with
  | none =>
      rw [watched] at mem
      cases mem
  | some ch =>
      rw [watched] at mem
      dsimp only at mem
      have stage : stageOf env s m = (env.lookOn ch m (s.inbox.view ch m)).stage := by
        rw [stageOf, watched]
      rcases act_side mem side with ⟨price, verdict⟩ | ⟨p, verdict, rfl⟩
      · have settled := settled_of_instant verdict
        rw [outcomeOn, verdict] at mem
        change q ∈ (perform env mk s.book ch m
          (instantDecision env mk s.book ch m d price)).requests at mem
        left
        rcases instant_requests env mk s ch m d price with ⟨silent, _⟩ | ⟨r, _, open_, _⟩
        · rw [silent] at mem
          cases mem
        · refine ⟨⟨ch, d, price, watched, lookOn_bareTrigger_iff.mp settled, open_⟩, ?_⟩
          rw [stage, settled, Stage.direction]
      · obtain ⟨parse, found, rfl, guard⟩ := parsed_of_signal verdict
        right
        refine ⟨parse, stage.trans found, ?_, applyOverrides_direction _ _ _⟩
        simpa using guard.symm

/-- An order of the instant entry goes out on the stated side. -/
theorem scan_of_instantOrder (h : InstantOrder env mk s m) :
    ∃ site r, .order site r ∈ (scanMessage env mk s m).2 ∧
      (stageOf env s m).direction = some r.direction := by
  obtain ⟨ch, d, price, watched, trigger, gates⟩ := h
  have settled := lookOn_bareTrigger_iff.mpr trigger
  have verdict : (env.readOn ch m (s.inbox.view ch m)).verdict = .instant d price false := by
    rw [ScanEnv.readOn, ScanEnv.finish, settled]
  rcases instant_requests env mk s ch m d price with ⟨_, shut⟩ | ⟨r, side, _, asked⟩
  · exact absurd gates shut
  · refine ⟨.instant, r, ?_, ?_⟩
    · rw [scanMessage, watched]
      dsimp only
      rw [outcomeOn, verdict, act, asked]
      exact List.mem_singleton_self _
    · rw [stageOf, watched, side]
      dsimp only
      rw [settled, Stage.direction]

/-- Every order is fresh exactly when the order of an instant entry would be. -/
theorem ordersFresh_iff (env : ScanEnv) (mk : Market) (s : ScanState) (m : Message) :
    OrdersFresh env mk s m ↔ (InstantOrder env mk s m → Fresh env m) := by
  constructor
  · intro fresh instant
    obtain ⟨site, r, mem, _⟩ := scan_of_instantOrder instant
    exact fresh _ mem rfl
  · intro fresh q mem order
    cases q with
    | order site r =>
        rcases scan_side mem rfl with ⟨instant, _⟩ | ⟨p, _, guard, _⟩
        · exact fresh instant
        · exact fresh_iff_isStale.mpr guard
    | _ => cases order

/-- Mirror Copy reverses every route but the instant entry. -/
theorem mirrorSound_iff (env : ScanEnv) (mk : Market) (s : ScanState) (m : Message) :
    MirrorSound env mk s m ↔
      (env.settings.levels.enableMirrorCopy = true → ¬ InstantOrder env mk s m) := by
  constructor
  · intro sound on instant
    obtain ⟨site, r, mem, stated⟩ := scan_of_instantOrder instant
    have reversed := sound.entries on _ mem r.direction rfl
    rw [stated] at reversed
    exact Direction.opposite_ne _ (Option.some.inj reversed).symm
  · intro never
    refine ⟨fun on q mem d side => ?_, mirror_mirror, validateSignal_mirror_iff,
      fun p priced => ⟨applyMirrorCopy_applyMirrorCopy priced, ?_⟩⟩
    · rcases scan_side mem side with ⟨instant, _⟩ | ⟨p, found, _, rfl⟩
      · exact absurd instant (never on)
      · rw [found, Stage.direction, if_pos on, Direction.opposite_opposite]
    · rw [applyMirrorCopy_of_priced priced, validateSignal_mirror_iff]

end Scan

/-- A phrase of the buy lexicon, alone on its line. -/
def bareBuyParsers : Parsers :=
  { Parsers.silent with
    lexiconDirectionTrigger := fun text =>
      if text = "PREPARE FOR A BUY" then .ok (some (.buy, none)) else .ok none }

def bareBuy : Message := ⟨7, "G", "PREPARE FOR A BUY", .posted 800, false, false⟩

/-- The scan runs 200 seconds after the trigger was posted; signals may be a
minute old. -/
def bareBuyEnv (mirror : Bool) : ScanEnv :=
  { ScanEnv.shipped bareBuyParsers 1000 with
    settings :=
      { ScanSettings.shipped with
        maxSignalAge := 60
        levels := { ScanSettings.shipped.levels with enableMirrorCopy := mirror } } }

theorem bareBuy_ordered (mirror : Bool) :
    ∃ r, Request.order .instant r ∈
        (scanMessage (bareBuyEnv mirror) Market.calm ScanState.start bareBuy).2 ∧
      r.direction = .buy ∧
        (stageOf (bareBuyEnv mirror) ScanState.start bareBuy).direction = some .buy := by
  refine ⟨⟨"t7", "s7", .buy, 1 / 10, 1986, List.replicate 8 none, .scaleOut, 2001, 1000⟩, ?_⟩
  cases mirror <;> decide +kernel

theorem stale_trigger_ordered :
    ¬ OrdersFresh (bareBuyEnv false) Market.calm ScanState.start bareBuy := by
  intro fresh
  obtain ⟨r, mem, _⟩ := bareBuy_ordered false
  obtain ⟨time, posted, young⟩ := fresh _ mem rfl
  have time_eq : time = 800 := by
    injection posted with same
    exact same.symm
  rw [time_eq] at young
  exact absurd young (by decide +kernel)

/-- With Mirror Copy on, a bare buy is bought. -/
theorem mirrored_trigger_not_reversed :
    ¬ MirrorSound (bareBuyEnv true) Market.calm ScanState.start bareBuy := by
  intro sound
  obtain ⟨r, mem, buys, stated⟩ := bareBuy_ordered true
  have reversed := sound.entries rfl _ mem r.direction rfl
  rw [stated, buys] at reversed
  cases reversed

end Forex
