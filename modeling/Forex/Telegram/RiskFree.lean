import Forex.Strategy.SafetyNet
import Forex.Support.Run
import Forex.Telegram.Scan

/-!
`try_handle_risk_free_be_trigger` and the `apply_sl_adjustment` it ends in, with the other
tasks of the event loop between its awaits. The trade is looked up twice: for the entry
price and the switch of its template, and again when the stop is to be moved.
-/

namespace Forex
open Support

/-- Where a call waits; what it holds on to is as it was read. -/
inductive RiskFreePhase where
  | claimTrigger
  | findTrade
  | tgCmd (trade : Trade)
  | claimAdjustment (newSl : ℚ)
  | adjust (newSl : ℚ)
  | modifyOrder (trade : Trade) (accepts : Bool) (newSl : ℚ)
  | finished
deriving DecidableEq, Repr

/-- The message has been claimed, and no stop moved for it yet. -/
def RiskFreePhase.holds : RiskFreePhase → Bool
  | .claimTrigger | .finished => false
  | _ => true

structure RiskFreeCall where
  tgId : ℕ
  channel : String
  phase : RiskFreePhase
deriving DecidableEq, Repr

def RiskFreeCall.holdsFor (c : RiskFreeCall) (id : ℕ) : Bool :=
  c.phase.holds && decide (c.tgId = id)

/-- A stop that was moved: the trade as the broker was asked about it, its row as the new
stop was written over it, and whether the broker had confirmed. -/
structure StopMove where
  tgId : ℕ
  trade : Trade
  accepts : Bool
  row : Option Trade
  newSl : ℚ
  confirmed : Bool
deriving DecidableEq, Repr

/-- What the other tasks change. -/
structure RiskFreeWorld where
  book : Book
  market : Market
  settings : ScanSettings

/-- The two tables of claims are only ever added to. -/
structure RiskFreeDesk where
  world : RiskFreeWorld
  triggers : List (ℕ × Trigger)
  adjustments : List ℕ
  calls : List RiskFreeCall
  moves : List StopMove

/-- `claimSl` is the claim of a message by the other two routes to `apply_sl_adjustment`. -/
inductive RiskFreeStep where
  | receive (ch : ChannelConfig) (m : Message)
  | run (i : ℕ) (reply : ModifyReply)
  | drop (i : ℕ)
  | claimSl (tgId : ℕ)
  | others (change : RiskFreeWorld → RiskFreeWorld)

namespace RiskFreeWorld
variable (w : RiskFreeWorld)

/-- A message that the handler takes up. -/
def takesUp (m : Message) : Bool :=
  w.settings.riskFreeBeParsing && textMatchesAny m.body w.settings.lexicons.riskFreeBe

/-- The trade whose stop `apply_sl_adjustment` goes on to move. -/
def adjusted (channel : String) (newSl : ℚ) : Option Trade :=
  if !w.settings.levels.enableSlParsing then none
  else
    (w.book.findChannelOpenTrade channel).filter fun t =>
      !selfManaged t.strategy && !decide (|t.stopLoss - newSl| < 11 / 1000)

def tgCmdAccepts (t : Trade) : Bool := !tgCmdBlocked w.market t

end RiskFreeWorld

/-- A claim is looked up by its message and its trigger. -/
local instance : LawfulBEq (ℕ × Trigger) := inferInstance

namespace RiskFreeDesk
variable (s : RiskFreeDesk)

def start (world : RiskFreeWorld) (triggers : List (ℕ × Trigger)) (adjustments : List ℕ) :
    RiskFreeDesk :=
  ⟨world, triggers, adjustments, [], []⟩

def setPhase (i : ℕ) (c : RiskFreeCall) (phase : RiskFreePhase) : RiskFreeDesk :=
  { s with calls := s.calls.set i { c with phase := phase } }

/-- `set_stop_loss`, for a trade as it was read. -/
def store (i : ℕ) (c : RiskFreeCall) (t : Trade) (accepts : Bool) (newSl : ℚ)
    (confirmed : Bool) : RiskFreeDesk :=
  { s.setPhase i c .finished with
    world := { s.world with book := s.world.book.setTrade t (Trade.setStopLoss newSl) }
    moves := s.moves ++
      [⟨c.tgId, t, accepts, s.world.book.db.getTrade t.tradeId, newSl, confirmed⟩] }

/-- A call goes on to its next await. -/
def advance (i : ℕ) (c : RiskFreeCall) (reply : ModifyReply) : RiskFreeDesk :=
  match c.phase with
  | .claimTrigger =>
      if (c.tgId, Trigger.riskFreeBe) ∈ s.triggers then s.setPhase i c .finished
      else
        { s.setPhase i c .findTrade with triggers := (c.tgId, Trigger.riskFreeBe) :: s.triggers }
  | .findTrade =>
      match s.world.book.findChannelOpenTrade c.channel with
      | none => s.setPhase i c .finished
      | some t => s.setPhase i c (.tgCmd t)
  | .tgCmd t =>
      if s.world.tgCmdAccepts t then s.setPhase i c (.claimAdjustment t.entryPrice)
      else s.setPhase i c .finished
  | .claimAdjustment newSl =>
      if c.tgId ∈ s.adjustments then s.setPhase i c .finished
      else { s.setPhase i c (.adjust newSl) with adjustments := c.tgId :: s.adjustments }
  | .adjust newSl =>
      match s.world.adjusted c.channel newSl with
      | none => s.setPhase i c .finished
      | some t =>
          match linkedTicket t.mt5Ticket with
          | some _ => s.setPhase i c (.modifyOrder t (s.world.tgCmdAccepts t) newSl)
          | none => s.store i c t (s.world.tgCmdAccepts t) newSl false
  | .modifyOrder t accepts newSl =>
      if reply.confirmed then s.store i c t accepts newSl true else s.setPhase i c .finished
  | .finished => s

/-- A dropped call has raised, or its task was cancelled. -/
def step : RiskFreeStep → RiskFreeDesk
  | .receive ch m =>
      if s.world.takesUp m then { s with calls := s.calls ++ [⟨m.id, ch.name, .claimTrigger⟩] }
      else s
  | .run i reply =>
      match s.calls[i]? with
      | some c => s.advance i c reply
      | none => s
  | .drop i =>
      match s.calls[i]? with
      | some c => s.setPhase i c .finished
      | none => s
  | .claimSl tgId => { s with adjustments := tgId :: s.adjustments }
  | .others change => { s with world := change s.world }

end RiskFreeDesk

/-- A price that is not further from profit than the stop; a stop of zero is none. -/
def Trade.stopBehind (t : Trade) (price : ℚ) : Prop :=
  t.stopLoss = 0 ∨ t.direction.sign * t.stopLoss ≤ t.direction.sign * price

instance (t : Trade) (price : ℚ) : Decidable (t.stopBehind price) :=
  inferInstanceAs (Decidable (_ ∨ _))

/-- The price is the entry of the trade, and its stop is behind it. -/
def Trade.ProtectedBy (t : Trade) (price : ℚ) : Prop :=
  t.entryPrice = price ∧ t.stopBehind price

instance (t : Trade) (price : ℚ) : Decidable (t.ProtectedBy price) :=
  inferInstanceAs (Decidable (_ ∧ _))

/-- A move that protects the right trade, as it was asked for and as it was stored. -/
structure StopMove.Right (m : StopMove) : Prop where
  accepts : m.accepts = true
  asked : m.trade.ProtectedBy m.newSl
  stored : ∀ row ∈ m.row, row.ProtectedBy m.newSl
  confirmed : m.confirmed = true

namespace RiskFreeDesk
variable (s : RiskFreeDesk)

/-- The step writes no stop but that of the trade of a move. -/
def WritesOnly (l : RiskFreeStep) : Prop :=
  ((s.step l).moves = s.moves ∧ ((s.step l).world = s.world ∨ ∃ change, l = .others change)) ∨
    ∃ m, (s.step l).moves = s.moves ++ [m] ∧
      (s.step l).world =
        { s.world with book := s.world.book.setTrade m.trade (Trade.setStopLoss m.newSl) }

/-- At most one move for each message, and every one of them protects the right trade. -/
structure Orderly : Prop where
  once : (s.moves.map StopMove.tgId).Nodup
  right : ∀ m ∈ s.moves, m.Right
  single : ∀ l, s.WritesOnly l

/-- The second look-up does not go on with a trade that has no ticket; and where the broker
takes a stop, it is the entry of the trade found there, whose template accepts commands, and
not behind its stop, neither then nor now. -/
def Careful : RiskFreeStep → Prop
  | .run i reply =>
      match s.calls[i]? with
      | none => True
      | some c =>
          match c.phase with
          | .adjust newSl =>
              ∀ t ∈ s.world.adjusted c.channel newSl, (linkedTicket t.mt5Ticket).isSome = true
          | .modifyOrder t accepts newSl =>
              reply.confirmed = true →
                accepts = true ∧ t.ProtectedBy newSl ∧
                  ∀ row ∈ s.world.book.db.getTrade t.tradeId, row.ProtectedBy newSl
          | _ => True
  | _ => True

section Steps
variable {s} {i : ℕ} {c : RiskFreeCall}

/-- A move and the phase of the call that it ends. -/
inductive Ends (s : RiskFreeDesk) (c : RiskFreeCall) (reply : ModifyReply) (t : Trade)
    (accepts : Bool) (newSl : ℚ) : Bool → Prop where
  | unasked (phase : c.phase = .adjust newSl)
      (found : s.world.adjusted c.channel newSl = some t)
      (ticketless : linkedTicket t.mt5Ticket = none) : Ends s c reply t accepts newSl false
  | confirmed (phase : c.phase = .modifyOrder t accepts newSl)
      (taken : reply.confirmed = true) : Ends s c reply t accepts newSl true

/-- A call moves on, claims its message or moves a stop. -/
theorem advance_cases (found : s.calls[i]? = some c) (reply : ModifyReply) :
    (∃ phase adjustments, (phase.holds = true → c.phase.holds = true) ∧
      s.advance i c reply = { s.setPhase i c phase with adjustments := adjustments }) ∨
    (c.phase = .claimTrigger ∧ (c.tgId, Trigger.riskFreeBe) ∉ s.triggers ∧
      s.advance i c reply =
        { s.setPhase i c .findTrade with
          triggers := (c.tgId, Trigger.riskFreeBe) :: s.triggers }) ∨
    ∃ t accepts newSl confirmed, s.Ends c reply t accepts newSl confirmed ∧
      s.advance i c reply = s.store i c t accepts newSl confirmed := by
  rw [advance]
  cases phase : c.phase with
  | claimTrigger =>
      dsimp only
      split
      · exact .inl ⟨.finished, s.adjustments, nofun, rfl⟩
      · next fresh => exact .inr (.inl ⟨rfl, fresh, rfl⟩)
  | findTrade =>
      cases s.world.book.findChannelOpenTrade c.channel with
      | none => exact .inl ⟨.finished, s.adjustments, nofun, rfl⟩
      | some t => exact .inl ⟨.tgCmd t, s.adjustments, fun _ => rfl, rfl⟩
  | tgCmd t =>
      dsimp only
      split
      · exact .inl ⟨.claimAdjustment t.entryPrice, s.adjustments, fun _ => rfl, rfl⟩
      · exact .inl ⟨.finished, s.adjustments, nofun, rfl⟩
  | claimAdjustment newSl =>
      dsimp only
      split
      · exact .inl ⟨.finished, s.adjustments, nofun, rfl⟩
      · exact .inl ⟨.adjust newSl, _, fun _ => rfl, rfl⟩
  | adjust newSl =>
      dsimp only
      cases trade : s.world.adjusted c.channel newSl with
      | none => exact .inl ⟨.finished, s.adjustments, nofun, rfl⟩
      | some t =>
          dsimp only
          cases ticket : linkedTicket t.mt5Ticket with
          | none =>
              exact .inr (.inr ⟨t, s.world.tgCmdAccepts t, newSl, false,
                .unasked phase trade ticket, rfl⟩)
          | some n =>
              exact .inl ⟨.modifyOrder t (s.world.tgCmdAccepts t) newSl, s.adjustments,
                fun _ => rfl, rfl⟩
  | modifyOrder t accepts newSl =>
      dsimp only
      split
      · next taken => exact .inr (.inr ⟨t, accepts, newSl, true, .confirmed phase taken, rfl⟩)
      · exact .inl ⟨.finished, s.adjustments, nofun, rfl⟩
  | finished =>
      refine .inl ⟨.finished, s.adjustments, nofun, ?_⟩
      obtain ⟨inside, own⟩ := List.getElem?_eq_some_iff.mp found
      have same : ({ c with phase := .finished } : RiskFreeCall) = s.calls[i] := by
        rw [own, ← phase]
      rw [setPhase, same, List.set_getElem_self]

theorem Ends.holds {reply : ModifyReply} {t : Trade} {accepts confirmed : Bool} {newSl : ℚ}
    (ends : s.Ends c reply t accepts newSl confirmed) : c.phase.holds = true := by
  cases ends with
  | unasked phase _ _ => rw [phase]; rfl
  | confirmed phase _ => rw [phase]; rfl

/-- The move of a step is right where the step is careful. -/
theorem Ends.right_iff {reply : ModifyReply} {t : Trade} {accepts confirmed : Bool} {newSl : ℚ}
    (found : s.calls[i]? = some c) (ends : s.Ends c reply t accepts newSl confirmed) :
    StopMove.Right ⟨c.tgId, t, accepts, s.world.book.db.getTrade t.tradeId, newSl, confirmed⟩ ↔
      s.Careful (.run i reply) := by
  rw [Careful, found]
  dsimp only
  cases ends with
  | unasked phase trade ticketless =>
      rw [phase]
      dsimp only
      constructor
      · intro right
        exact absurd right.confirmed Bool.false_ne_true
      · intro careful
        have ticket := careful t trade
        rw [ticketless] at ticket
        exact absurd ticket Bool.false_ne_true
  | confirmed phase taken =>
      rw [phase]
      dsimp only
      constructor
      · exact fun right _ => ⟨right.accepts, right.asked, right.stored⟩
      · intro careful
        obtain ⟨accepts, asked, stored⟩ := careful taken
        exact ⟨accepts, asked, stored, rfl⟩

/-- The moves made for a message, and the calls that may still make one. -/
def load (s : RiskFreeDesk) (id : ℕ) : ℕ :=
  s.moves.countP (fun m => decide (m.tgId = id)) + s.calls.countP fun c => c.holdsFor id

theorem countP_set_add {α : Type} {l : List α} {a a' : α} (found : l[i]? = some a)
    (p : α → Bool) :
    (l.set i a').countP p + (if p a = true then 1 else 0) =
      l.countP p + if p a' = true then 1 else 0 := by
  obtain ⟨inside, own⟩ := List.getElem?_eq_some_iff.mp found
  have enough : (if p a = true then 1 else 0) ≤ l.countP p := by
    rw [← own]
    exact List.boole_getElem_le_countP inside
  rw [List.countP_set inside, own]
  omega

theorem load_setPhase (found : s.calls[i]? = some c) (phase : RiskFreePhase) (id : ℕ) :
    (s.setPhase i c phase).load id + (if c.holdsFor id = true then 1 else 0) =
      s.load id + if { c with phase := phase }.holdsFor id = true then 1 else 0 := by
  rw [load, load, Nat.add_assoc, Nat.add_assoc]
  exact congrArg _ (countP_set_add found fun c => c.holdsFor id)

theorem load_setPhase_le (found : s.calls[i]? = some c) {phase : RiskFreePhase}
    (holds : phase.holds = true → c.phase.holds = true) (id : ℕ) :
    (s.setPhase i c phase).load id ≤ s.load id := by
  have count := load_setPhase found phase id
  cases held : phase.holds with
  | false =>
      simp only [RiskFreeCall.holdsFor, held, Bool.false_and, Bool.false_eq_true, if_false] at count
      omega
  | true =>
      simp only [RiskFreeCall.holdsFor, held, holds held] at count
      omega

theorem load_claim (found : s.calls[i]? = some c) (free : c.phase.holds = false) (id : ℕ) :
    (s.setPhase i c .findTrade).load id = s.load id + if c.tgId = id then 1 else 0 := by
  have count := load_setPhase found .findTrade id
  have held : RiskFreePhase.findTrade.holds = true := rfl
  simpa [RiskFreeCall.holdsFor, free, held] using count

theorem load_store (found : s.calls[i]? = some c) (holds : c.phase.holds = true) (t : Trade)
    (accepts : Bool) (newSl : ℚ) (confirmed : Bool) (id : ℕ) :
    (s.store i c t accepts newSl confirmed).load id = s.load id := by
  have count := load_setPhase found .finished id
  have over_ : RiskFreePhase.finished.holds = false := rfl
  have more : (s.store i c t accepts newSl confirmed).load id =
      (s.setPhase i c .finished).load id + if c.tgId = id then 1 else 0 := by
    simp only [load, store, setPhase, List.countP_append, List.countP_singleton,
      decide_eq_true_eq]
    omega
  simp only [RiskFreeCall.holdsFor, holds, over_, Bool.true_and, Bool.false_and,
    decide_eq_true_eq, Bool.false_eq_true, if_false, Nat.add_zero] at count
  rw [more, count]

/-- No message has two moves or calls that may make one, and each of them is claimed. -/
structure Kept (s : RiskFreeDesk) : Prop where
  once : ∀ id, s.load id ≤ 1
  claimed : ∀ id, 0 < s.load id → (id, Trigger.riskFreeBe) ∈ s.triggers
  right : ∀ m ∈ s.moves, m.Right

theorem Kept.of_le (kept : s.Kept) {s' : RiskFreeDesk} (load : ∀ id, s'.load id ≤ s.load id)
    (triggers : s'.triggers = s.triggers) (right : ∀ m ∈ s'.moves, m.Right) : s'.Kept where
  once id := (load id).trans (kept.once id)
  claimed id some_ := triggers ▸ kept.claimed id (some_.trans_le (load id))
  right := right

theorem Kept.claim (kept : s.Kept) (found : s.calls[i]? = some c) (phase : c.phase = .claimTrigger)
    (fresh : (c.tgId, Trigger.riskFreeBe) ∉ s.triggers) :
    Kept { s.setPhase i c .findTrade with
      triggers := (c.tgId, Trigger.riskFreeBe) :: s.triggers } := by
  have load := load_claim found (phase ▸ rfl)
  have none : s.load c.tgId = 0 := Nat.eq_zero_of_not_pos fun some_ => fresh (kept.claimed _ some_)
  refine ⟨fun id => ?_, fun id some_ => ?_, kept.right⟩
  · refine (load id).trans_le ?_
    by_cases own : c.tgId = id
    · rw [if_pos own, ← own, none]
    · rw [if_neg own]
      exact kept.once id
  · by_cases own : c.tgId = id
    · rw [own]
      exact List.mem_cons_self
    · have more : 0 < s.load id + if c.tgId = id then 1 else 0 := (load id) ▸ some_
      rw [if_neg own] at more
      exact List.mem_cons_of_mem _ (kept.claimed id more)

theorem Kept.store (kept : s.Kept) (found : s.calls[i]? = some c) (holds : c.phase.holds = true)
    {t : Trade} {accepts confirmed : Bool} {newSl : ℚ}
    (right : StopMove.Right
      ⟨c.tgId, t, accepts, s.world.book.db.getTrade t.tradeId, newSl, confirmed⟩) :
    (s.store i c t accepts newSl confirmed).Kept := by
  refine kept.of_le (fun id => (load_store found holds t accepts newSl confirmed id).le) rfl ?_
  intro m mem
  rcases List.mem_append.mp mem with old | new
  · exact kept.right m old
  · rw [List.mem_singleton.mp new]
    exact right

theorem Kept.run (kept : s.Kept) (reply : ModifyReply) (careful : s.Careful (.run i reply)) :
    (s.step (.run i reply)).Kept := by
  rw [step]
  cases found : s.calls[i]? with
  | none => exact kept
  | some c =>
      rcases advance_cases found reply with
        ⟨phase, adjustments, holds, next⟩ | ⟨phase, fresh, next⟩ |
          ⟨t, accepts, newSl, confirmed, ends, next⟩
      · dsimp only
        rw [next]
        exact kept.of_le (load_setPhase_le found holds) rfl kept.right
      · dsimp only
        rw [next]
        exact kept.claim found phase fresh
      · dsimp only
        rw [next]
        exact kept.store found ends.holds ((ends.right_iff found).mpr careful)

theorem Kept.step (kept : s.Kept) (l : RiskFreeStep) (careful : s.Careful l) :
    (s.step l).Kept := by
  cases l with
  | receive ch m =>
      rw [RiskFreeDesk.step]
      split
      · refine kept.of_le (fun id => ?_) rfl kept.right
        have none : ({ tgId := m.id, channel := ch.name, phase := .claimTrigger } :
            RiskFreeCall).holdsFor id = false := rfl
        simp [load, none]
      · exact kept
  | run i reply => exact kept.run reply careful
  | drop i =>
      rw [RiskFreeDesk.step]
      cases found : s.calls[i]? with
      | none => exact kept
      | some c => exact kept.of_le (load_setPhase_le found nofun) rfl kept.right
  | claimSl tgId => exact kept.of_le (fun _ => le_rfl) rfl kept.right
  | others change => exact kept.of_le (fun _ => le_rfl) rfl kept.right

/-- A step whose move is right was careful. -/
theorem careful_of_right {l : RiskFreeStep} (right : ∀ m ∈ (s.step l).moves, m.Right) :
    s.Careful l := by
  cases l with
  | receive _ _ | drop _ | claimSl _ | others _ => exact trivial
  | run i reply =>
      rw [RiskFreeDesk.step] at right
      cases found : s.calls[i]? with
      | none =>
          rw [Careful, found]
          exact trivial
      | some c =>
          rw [found] at right
          dsimp only at right
          have last {t : Trade} {accepts confirmed : Bool} {newSl : ℚ}
              (ends : s.Ends c reply t accepts newSl confirmed)
              (next : s.advance i c reply = s.store i c t accepts newSl confirmed) :
              s.Careful (.run i reply) := by
            rw [next] at right
            exact (ends.right_iff found).mp
              (right _ (List.mem_append_right _ (List.mem_singleton_self _)))
          cases phase : c.phase with
          | adjust newSl =>
              by_cases ticketless : ∃ t, s.world.adjusted c.channel newSl = some t ∧
                  linkedTicket t.mt5Ticket = none
              · obtain ⟨t, trade, ticket⟩ := ticketless
                have ends : s.Ends c reply t (s.world.tgCmdAccepts t) newSl false :=
                  .unasked phase trade ticket
                refine last ends ?_
                simp only [advance, phase, trade, ticket]
              · simp only [Careful, found, phase]
                intro t trade
                rw [Option.isSome_iff_ne_none]
                exact fun ticket => ticketless ⟨t, trade, ticket⟩
          | modifyOrder t accepts newSl =>
              by_cases taken : reply.confirmed = true
              · refine last (.confirmed phase taken) ?_
                simp only [advance, phase, taken, if_true]
              · simp only [Careful, found, phase]
                exact fun confirmed => absurd confirmed taken
          | claimTrigger | findTrade | tgCmd _ | claimAdjustment _ | finished =>
              simp only [Careful, found, phase]

theorem kept_start (world : RiskFreeWorld) (triggers : List (ℕ × Trigger))
    (adjustments : List ℕ) : (start world triggers adjustments).Kept where
  once _ := Nat.zero_le 1
  claimed _ some_ := absurd some_ (lt_irrefl 0)
  right _ mem := absurd mem List.not_mem_nil

theorem writesOnly_run (s : RiskFreeDesk) (i : ℕ) (reply : ModifyReply) :
    s.WritesOnly (.run i reply) := by
  rw [WritesOnly, step]
  cases found : s.calls[i]? with
  | none => exact .inl ⟨rfl, .inl rfl⟩
  | some c =>
      rcases advance_cases found reply with
        ⟨phase, adjustments, holds, next⟩ | ⟨phase, fresh, next⟩ |
          ⟨t, accepts, newSl, confirmed, ends, next⟩
      · dsimp only
        rw [next]
        exact .inl ⟨rfl, .inl rfl⟩
      · dsimp only
        rw [next]
        exact .inl ⟨rfl, .inl rfl⟩
      · dsimp only
        rw [next]
        exact .inr ⟨_, rfl, rfl⟩

theorem writesOnly (s : RiskFreeDesk) (l : RiskFreeStep) : s.WritesOnly l := by
  cases l with
  | run i reply => exact s.writesOnly_run i reply
  | others change => exact .inl ⟨rfl, .inr ⟨change, rfl⟩⟩
  | claimSl tgId => exact .inl ⟨rfl, .inl rfl⟩
  | receive ch m =>
      rw [WritesOnly, step]
      split <;> exact .inl ⟨rfl, .inl rfl⟩
  | drop i =>
      rw [WritesOnly, step]
      split <;> exact .inl ⟨rfl, .inl rfl⟩

theorem Kept.orderly (kept : s.Kept) : s.Orderly where
  once := by
    refine List.nodup_iff_count_le_one.mpr fun id => ?_
    have moved := (Nat.le_add_right _ _).trans (kept.once id)
    rw [List.count, List.countP_map]
    exact moved
  right := kept.right
  single := s.writesOnly

end Steps

/-- The moves of a run are in order exactly when each of its steps is careful. -/
theorem risk_free_iff (world : RiskFreeWorld) (triggers : List (ℕ × Trigger))
    (adjustments : List ℕ) (steps : List RiskFreeStep) :
    (∀ s ∈ states step (start world triggers adjustments) steps, s.Orderly) ↔
      Meets step Careful (start world triggers adjustments) steps :=
  states_iff (fun _ kept => kept.orderly) (fun _ l kept careful => kept.step l careful)
    (fun _ _ _ orderly => careful_of_right orderly.right) steps
    (kept_start world triggers adjustments)

section Alone
variable {env : ScanEnv} {mk : Market} {b : Book} {ch : ChannelConfig} {m : Message}
  {reply : ModifyReply} {triggers : List (ℕ × Trigger)} {adjustments : List ℕ}

/-- The only call, at one of its awaits. -/
def lone (env : ScanEnv) (mk : Market) (b : Book) (ch : ChannelConfig) (m : Message)
    (triggers : List (ℕ × Trigger)) (adjustments : List ℕ) (phase : RiskFreePhase) :
    RiskFreeDesk :=
  ⟨⟨b, mk, env.settings⟩, triggers, adjustments, [⟨m.id, ch.name, phase⟩], []⟩

def runs (n : ℕ) (reply : ModifyReply) (s : RiskFreeDesk) : RiskFreeDesk :=
  (List.replicate n (.run 0 reply)).foldl step s

theorem runs_succ (n : ℕ) (s : RiskFreeDesk) :
    runs (n + 1) reply s = runs n reply (s.step (.run 0 reply)) := by
  rw [runs, List.replicate_succ, List.foldl_cons, ← runs]

/-- A call that has finished does nothing more. -/
theorem runs_finished (n : ℕ) {s : RiskFreeDesk} {c : RiskFreeCall} (sole : s.calls = [c])
    (over_ : c.phase = .finished) : runs n reply s = s := by
  induction n with
  | zero => rfl
  | succ n ih =>
      have idle : s.step (.run 0 reply) = s := by
        rw [step, sole]
        dsimp only [List.getElem?_cons_zero]
        rw [advance, over_]
      rw [runs_succ, idle, ih]

theorem book_modifyOrder (n : ℕ) (t : Trade) (accepts : Bool) (newSl : ℚ) :
    (runs (n + 1) reply
      (lone env mk b ch m triggers adjustments (.modifyOrder t accepts newSl))).world.book =
      if reply.confirmed then b.setTrade t (Trade.setStopLoss newSl) else b := by
  rw [runs_succ, step, lone]
  dsimp only [List.getElem?_cons_zero]
  rw [advance]
  dsimp only
  split
  · rw [runs_finished n rfl rfl]
    rfl
  · rw [runs_finished n rfl rfl]
    rfl

/-- The scan's `apply_sl_adjustment`, by the trade whose stop it goes on to move. -/
theorem applySlAdjustment_book (newSl : ℚ) :
    (applySlAdjustment env mk b ch newSl).book =
      (RiskFreeWorld.adjusted ⟨b, mk, env.settings⟩ ch.name newSl).elim b fun t =>
        if (linkedTicket t.mt5Ticket).isNone || mk.modifies t then
          b.setTrade t (Trade.setStopLoss newSl)
        else b := by
  rw [applySlAdjustment, RiskFreeWorld.adjusted]
  cases env.settings.levels.enableSlParsing with
  | false => rfl
  | true =>
      rw [Bool.not_true, if_neg Bool.false_ne_true, if_neg Bool.false_ne_true]
      dsimp only
      cases b.findChannelOpenTrade ch.name with
      | none => rfl
      | some t =>
          dsimp only
          rw [Option.filter_some, ← Bool.not_or]
          by_cases left :
              (selfManaged t.strategy || decide (|t.stopLoss - newSl| < 11 / 1000)) = true
          · rw [if_pos left, left]
            rfl
          · rw [if_neg left, Bool.eq_false_of_not_eq_true left]
            rfl

theorem book_adjust (n : ℕ) (newSl : ℚ) :
    (runs (n + 2) reply
      (lone env mk b ch m triggers adjustments (.adjust newSl))).world.book =
      (applySlAdjustment env { mk with modifies := fun _ => reply.confirmed } b ch newSl).book := by
  rw [runs_succ, step, lone, applySlAdjustment_book]
  dsimp only [List.getElem?_cons_zero]
  rw [advance]
  dsimp only
  have same : RiskFreeWorld.adjusted
      ⟨b, { mk with modifies := fun _ => reply.confirmed }, env.settings⟩ ch.name newSl =
      RiskFreeWorld.adjusted ⟨b, mk, env.settings⟩ ch.name newSl := rfl
  rw [same]
  cases RiskFreeWorld.adjusted ⟨b, mk, env.settings⟩ ch.name newSl with
  | none =>
      dsimp only
      rw [runs_finished (n + 1) rfl rfl]
      rfl
  | some t =>
      dsimp only [Option.elim_some]
      cases linkedTicket t.mt5Ticket with
      | none =>
          dsimp only
          rw [runs_finished (n + 1) rfl rfl]
          rfl
      | some ticket => exact book_modifyOrder n t _ newSl

theorem book_claimAdjustment (n : ℕ) (newSl : ℚ) :
    (runs (n + 3) reply
      (lone env mk b ch m triggers adjustments (.claimAdjustment newSl))).world.book =
      if m.id ∈ adjustments then b
      else
        (applySlAdjustment env { mk with modifies := fun _ => reply.confirmed } b ch
          newSl).book := by
  rw [runs_succ, step, lone]
  dsimp only [List.getElem?_cons_zero]
  rw [advance]
  dsimp only
  split
  · rw [runs_finished (n + 2) rfl rfl]
    rfl
  · exact book_adjust n newSl

theorem book_tgCmd (n : ℕ) (t : Trade) :
    (runs (n + 4) reply (lone env mk b ch m triggers adjustments (.tgCmd t))).world.book =
      if tgCmdBlocked mk t then b
      else if m.id ∈ adjustments then b
      else
        (applySlAdjustment env { mk with modifies := fun _ => reply.confirmed } b ch
          t.entryPrice).book := by
  rw [runs_succ, step, lone]
  dsimp only [List.getElem?_cons_zero]
  rw [advance]
  dsimp only
  rw [RiskFreeWorld.tgCmdAccepts]
  dsimp only
  cases tgCmdBlocked mk t with
  | true =>
      rw [if_pos rfl, Bool.not_true, if_neg Bool.false_ne_true, runs_finished (n + 3) rfl rfl]
      rfl
  | false => exact book_claimAdjustment n t.entryPrice

end Alone

/-- A message that is handled without another task in between. -/
def alone (ch : ChannelConfig) (m : Message) (reply : ModifyReply) : List RiskFreeStep :=
  .receive ch m :: List.replicate 6 (.run 0 reply)

/-- Handled alone, a message leaves the book as the scan's own account of the trigger has it. -/
theorem book_alone (env : ScanEnv) (mk : Market) (b : Book) (ch : ChannelConfig) (m : Message)
    (reply : ModifyReply) (triggers : List (ℕ × Trigger)) (adjustments : List ℕ)
    (takes : RiskFreeWorld.takesUp ⟨b, mk, env.settings⟩ m = true)
    (fresh : (m.id, Trigger.riskFreeBe) ∉ triggers) :
    ((alone ch m reply).foldl step (start ⟨b, mk, env.settings⟩ triggers adjustments)).world.book =
      (actTrigger env { mk with modifies := fun _ => reply.confirmed } b ch
        (decide (m.id ∈ adjustments)) .riskFreeBe).book := by
  have received : (start ⟨b, mk, env.settings⟩ triggers adjustments).step (.receive ch m) =
      lone env mk b ch m triggers adjustments .claimTrigger := by
    rw [step, start]
    dsimp only
    rw [takes, if_pos rfl]
    rfl
  have claimed : (lone env mk b ch m triggers adjustments .claimTrigger).step (.run 0 reply) =
      lone env mk b ch m ((m.id, .riskFreeBe) :: triggers) adjustments .findTrade := by
    rw [step, lone]
    dsimp only [List.getElem?_cons_zero]
    rw [advance]
    dsimp only
    rw [if_neg fresh]
    rfl
  rw [alone, List.foldl_cons, received, ← runs, runs_succ, claimed, runs_succ, step, lone,
    actTrigger]
  dsimp only [List.getElem?_cons_zero]
  rw [advance]
  dsimp only
  cases b.findChannelOpenTrade ch.name with
  | none =>
      dsimp only
      rw [runs_finished 4 rfl rfl]
      rfl
  | some t =>
      dsimp only
      refine (book_tgCmd 0 t).trans ?_
      have blocked : tgCmdBlocked { mk with modifies := fun _ => reply.confirmed } t =
          tgCmdBlocked mk t := rfl
      rw [blocked]
      cases tgCmdBlocked mk t with
      | true => rfl
      | false =>
          by_cases claimed : m.id ∈ adjustments
          · simp only [claimed, decide_true, if_true, Bool.false_eq_true, if_false]
            rfl
          · simp only [claimed, decide_false, if_false, Bool.false_eq_true]

/-- One open trade of the channel, every switch as shipped. -/
def soleTrade (t : Trade) : RiskFreeWorld where
  book :=
    { db := Db.single t Table.empty
      sources := [(t.tradeId, "G")]
      closedQueue := []
      awaiting := [] }
  market := Market.calm
  settings := ScanSettings.shipped

def groupChannel : ChannelConfig := ⟨"G", true, false, ""⟩

def riskFree : Message := ⟨7, "G", "RISK FREE", .posted 800, false, false⟩

/-- A buy at 2000 whose stop has been trailed to 2010. -/
def trailed : Trade := { Trade.oneLot with stopLoss := 2010 }

/-- The next trade of the channel, bought at 2020. -/
def nextTrade : Trade :=
  { Trade.oneLot with
    tradeId := "t2"
    mt5Ticket := some 7002
    entryPrice := 2020
    stopLoss := 2015 }

/-- An unfilled placeholder: no ticket, and an entry of zero. -/
def unfilled : Trade :=
  { Trade.oneLot with mt5Ticket := none, entryPrice := 0, strategy := .template "grid" }

def movesOf (world : RiskFreeWorld) (steps : List RiskFreeStep) : List (String × ℚ × ℚ × Bool) :=
  (steps.foldl step (start world [] [])).moves.map fun m =>
    (m.trade.tradeId, m.trade.stopLoss, m.newSl, m.confirmed)

/-- The trade of the first look-up closes, and the next one is found in its place. -/
def replaced : List RiskFreeStep :=
  .receive groupChannel riskFree :: List.replicate 3 (.run 0 .raised) ++
    .others (fun _ => soleTrade nextTrade) :: List.replicate 3 (.run 0 (.answered true))

theorem stop_moved_back_to_entry :
    movesOf (soleTrade trailed) (alone groupChannel riskFree (.answered true)) =
        [("t1", 2010, 2000, true)] ∧
      movesOf (soleTrade unfilled) (alone groupChannel riskFree (.answered true)) =
        [("t1", 1990, 0, false)] ∧
      movesOf (soleTrade Trade.oneLot) replaced = [("t2", 2015, 2000, true)] ∧
      ¬ ∀ (world : RiskFreeWorld) (steps : List RiskFreeStep),
        ∀ s ∈ states step (start world [] []) steps, s.Orderly := by
  refine ⟨by decide +kernel, by decide +kernel, by decide +kernel, fun all => ?_⟩
  have orderly := all (soleTrade trailed) _ _
    (foldl_mem_states step _ (alone groupChannel riskFree (.answered true)))
  have behind : ∀ m ∈ ((alone groupChannel riskFree (.answered true)).foldl step
      (start (soleTrade trailed) [] [])).moves, m.trade.stopBehind m.newSl := fun m mem =>
    (orderly.right m mem).asked.2
  exact absurd behind (by decide +kernel)

end RiskFreeDesk
end Forex
