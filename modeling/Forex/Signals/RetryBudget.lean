import Forex.Support.Message
import Forex.Signals.Parked

/-!
What the watcher makes of a failed activation. `open_trade_from_signal` refuses in
`resolve_open_trade_params`, at the claim and in `open_trade`, each time with a
message of its own, and the watcher tells a refusal from a failure of the send by
four phrases in the message.
-/

namespace Forex
open Support

/-- The gates, in the order they are asked; those from `standDownServer` on are in
`open_trade`. -/
inductive Gate where
  | notFound
  | notOpenable
  | breaker
  | session
  | dayTarget
  | outsideSchedule
  | sourceOff
  | windowTarget
  | newsWindow
  | newsEvent
  | autoStandDown
  | autoCell
  | templateGone
  | sigGuard
  | sigGuardNear
  | rrFilter
  | directionalCap
  | htfBias
  | spread
  | templateSpread
  | lateGuard
  | templateRr
  | channelPaused
  | trendRatchet
  | stopZero
  | stopWide
  | sizeSmall
  | governorRr
  | governorCap
  | standDownServer
  | standDownClient
  | pausedUntil
  | pausedUntilWhy
  | paused
  | pausedWhy
  | breakerOpen
  | maxOpen
  | noPrice
  | staleEa
  | noEa
  | noEaManagement
  /-- The answer of a VPS that runs no engine. -/
  | noEngine
deriving DecidableEq, Repr

/-- The ways a send fails. -/
inductive Send where
  | mt5Rejected
  | mt5Unanswered
  | eaRejected
  | noLegs
  /-- Any other exception of the send, by whether it means that no answer came. -/
  | raised (answered : Bool)
deriving DecidableEq, Repr

abbrev Pattern := List (Piece Char)

def lit (s : String) : Piece Char := .lit s.toList

namespace Gate

/-- The message. Names are quoted texts, figures are formatted numbers. -/
def pattern : Gate → Pattern
  | .notFound => [lit "Signal ", .name 0, lit " not found"]
  | .notOpenable => [lit "Signal is ", .name 0, lit ", cannot open"]
  | .breaker =>
      [lit "Circuit breaker active — live trading blocked. Resumes in ~", .figure 0, lit " min."]
  | .session =>
      [lit "Trading session '", .name 0,
        lit "' is not active in your Trading Markets selection ",
        lit "(Trading > Strategy > Trading Markets)"]
  | .dayTarget =>
      [lit "Trading Schedule: daily profit target reached ($", .figure 0, lit " of $", .figure 1,
        lit ") -- resumes tomorrow (Trading > Schedule) (Trading > Schedule)"]
  | .outsideSchedule =>
      [lit "Trading Schedule: outside today's trading schedule (", .name 0,
        lit ") (Trading > Schedule)"]
  | .sourceOff =>
      [lit "Trading Schedule: ", .name 0,
        lit " disabled for this window (Trading > Schedule) (Trading > Schedule)"]
  | .windowTarget =>
      [lit "Trading Schedule: profit target reached for this window ($", .figure 0, lit " of $",
        .figure 1, lit ") -- resumes at the next scheduled window (Trading > Schedule)"]
  | .newsWindow =>
      [lit "News blackout — scheduled high-impact window (calendar unavailable) (Trading > News)"]
  | .newsEvent =>
      [lit "News blackout — ", .name 0, lit " (", .name 1, lit "), resumes in ", .figure 0,
        lit " min (Trading > News)"]
  | .autoStandDown =>
      [lit "Auto: ", .name 0, lit " in a ", .name 1,
        lit " market has no configuration with a positive ",
        lit "expectancy in backtest (best available -0.08R) -- stand down",
        lit " (Trading > Schedule: Auto)"]
  | .autoCell =>
      [lit "Auto: ", .name 0, lit " in a ", .name 1, lit " market -> ", .name 2,
        lit " (Trading > Schedule: Auto)"]
  | .templateGone =>
      [lit "Template '", .name 0, lit "' no longer exists — reassign this channel"]
  | .sigGuard =>
      [lit "Sig Guard: a template-managed trade is already open for '", .name 0, lit "' ", .name 1]
  | .sigGuardNear =>
      [lit "Sig Guard: a template-managed trade is already open for '", .name 0, lit "' ", .name 1,
        lit " within ", .figure 0, lit " pips of $", .figure 1]
  | .rrFilter =>
      [lit "R:R filter blocked: TP1 is ", .figure 0, lit " pts from ", .name 0, lit " vs SL ",
        .figure 1, lit " pts away (", .figure 2, lit ":1 — minimum ", .figure 3, lit ":1 required)"]
  | .directionalCap =>
      [lit "Directional cap blocked: ", .figure 0, lit " open ", .name 0,
        lit " trade(s) are still exposed (SL not at breakeven) — max ", .figure 1,
        lit " unprotected same-direction trades allowed"]
  | .htfBias =>
      [lit "Higher-timeframe bias is ", .name 0, lit " — a ", .name 1,
        lit " runs against it. (Trading > Strategy > Risk Settings: 'Only trade with the trend')"]
  | .spread =>
      [lit "Spread too wide: ", .figure 0, lit " pts (max ", .figure 1,
        lit " pts). Likely a news event — signal stays active for when spread normalises."]
  | .templateSpread =>
      [lit "Template '", .name 0, lit "' Max Spread: spread ", .figure 0, lit " pts exceeds ",
        .figure 1, lit " pips (", .figure 2,
        lit " pts) — signal stays active for when spread normalises."]
  | .lateGuard =>
      [lit "Template '", .name 0, lit "' Late Guard: price $", .figure 0, lit " is ", .figure 1,
        lit " pips beyond the ", .name 1, lit " zone $", .figure 2, lit "-$", .figure 3,
        lit ", past the ", .figure 4,
        lit " pip guard — signal stays active for when price returns closer to the zone."]
  | .templateRr =>
      [lit "Template '", .name 0, lit "' Signal R:R: this signal's own TP1:SL ratio (", .figure 0,
        lit ":1) is below the required ", .figure 1, lit ":1 — trade skipped."]
  | .channelPaused =>
      [lit "Channel '", .name 0, lit "' is paused by the scorecard — trade skipped"]
  | .trendRatchet =>
      [lit "Trend Ratchet blocked — ADX ", .figure 0,
        lit " < 30 (market not trending). ",
        lit "Switch to Scale Out or wait for a stronger trend before entering."]
  | .stopZero => [lit "Risk Governor blocked trade: stop distance is zero"]
  | .stopWide =>
      [lit "Risk Governor blocked trade: stop ", .figure 0, lit " pts exceeds ", .figure 1,
        lit "x ATR (", .figure 2, lit " pts) — too wide for a scalp"]
  | .sizeSmall =>
      [lit "Risk Governor blocked trade: risk-correct size below 0.01 lots for a ", .figure 0,
        lit " pt stop (would exceed ", .figure 1, lit "% of $", .figure 2,
        lit ") — trade skipped"]
  | .governorRr =>
      [lit "Risk Governor blocked trade: TP1 R:R ", .figure 0, lit ":1 below the ", .figure 1,
        lit ":1 minimum"]
  | .governorCap =>
      [lit "Risk Governor blocked trade: ", .figure 0, lit " unprotected ", .name 0,
        lit " trade(s) already open (directional cap is 2)"]
  | .standDownServer =>
      [lit "Trading stood down — the paired Local/Remote node has taken ",
        lit "control (see Settings > Remote Node)."]
  | .standDownClient =>
      [lit "Trading stood down — the VPS is the active trader (see Settings > Remote Node)."]
  | .pausedUntil => [lit "Trading paused until ", .name 0, lit " — MT5 order blocked."]
  | .pausedUntilWhy =>
      [lit "Trading paused until ", .name 0, lit " — MT5 order blocked: ", .name 1, lit "."]
  | .paused => [lit "Trading paused — MT5 order blocked."]
  | .pausedWhy => [lit "Trading paused — MT5 order blocked: ", .name 0, lit "."]
  | .breakerOpen =>
      [lit "Trade blocked — circuit breaker active. Live trading resumes in approximately ",
        .figure 0, lit " min."]
  | .maxOpen =>
      [lit "Max open trades reached (", .figure 0, lit ") — ", .figure 1, lit " open, ", .figure 2,
        lit " resting at the broker, ", .figure 3, lit " being opened right now"]
  | .noPrice => [lit "No live price available"]
  | .staleEa =>
      [lit "EA Template refused: the chart is running EA v", .name 0, lit " but this app ships v",
        .name 1,
        lit ". A template is managed entirely by the EA, ",
        lit "so a stale build would run it under replaced logic. ",
        lit "Fix: run tools/deploy_ea.sh, compile (F7) and re-attach the EA."]
  | .noEa =>
      [lit "EA Template strategies require a connected, healthy EA — none is available right now"]
  | .noEaManagement =>
      [lit "EA Template strategy resolved with no EA management — refusing to open"]
  | .noEngine => [lit "No main engine running on this node"]

/-- Raised past the claim of the signal. -/
def inOpenTrade : Gate → Bool
  | .standDownServer | .standDownClient | .pausedUntil | .pausedUntilWhy | .paused | .pausedWhy
  | .breakerOpen | .maxOpen | .noPrice | .staleEa | .noEa | .noEaManagement | .noEngine => true
  | _ => false

/-- The phrase the watcher looks for is in the gate's own words. -/
def spared : Gate → Bool
  | .breaker | .rrFilter | .channelPaused | .standDownServer | .standDownClient | .pausedUntil
  | .pausedUntilWhy | .paused | .pausedWhy | .breakerOpen => true
  | _ => false

end Gate

def Send.pattern : Send → Pattern
  | .mt5Rejected => [lit "MT5 order rejected: ", .name 0]
  | .mt5Unanswered => [lit "broker gave no usable answer: ", .name 0]
  | .eaRejected => [lit "EA rejected template order: ", .name 0]
  | .noLegs =>
      [lit "EA Template grid placed 0 of its legs — every ",
        lit "anchor/pending leg was rejected by the broker; ", lit "no trade opened"]
  | .raised _ => [.name 0]

/-- A number as it is written: digits, with a point, commas or a sign. -/
structure Figure where
  text : List Char
  some : text ≠ []
  plain : ∀ c ∈ text, c.isDigit = true ∨ c ∈ ['.', ',', '-']

structure MessageFields where
  names : ℕ → String
  figures : ℕ → Figure

def MessageFields.toFields (m : MessageFields) : Fields Char :=
  ⟨fun i => (m.names i).toList, fun i => (m.figures i).text⟩

/-- A message that the VPS has sent back. -/
def forwardedPattern (forwarded : Bool) (pattern : Pattern) : Pattern :=
  if forwarded then lit "VPS rejected forwarded trade: " :: pattern else pattern

def MessageFields.message (m : MessageFields) (pattern : Pattern) : String :=
  String.ofList (m.toFields.render pattern)

structure GateRefusal where
  gate : Gate
  fields : MessageFields
  forwarded : Bool
  own : forwarded = true → gate.inOpenTrade = true

structure SendFailure where
  send : Send
  fields : MessageFields
  forwarded : Bool

inductive OpenFailure where
  | gate (r : GateRefusal)
  /-- The claim of the signal is not won. -/
  | claimLost
  | send (f : SendFailure)

namespace GateRefusal

def message (r : GateRefusal) : String :=
  r.fields.message (forwardedPattern r.forwarded r.gate.pattern)

/-- One of the phrases is in a text that the message quotes. -/
def QuotesMark (fields : MessageFields) (pattern : Pattern) : Prop :=
  ∃ i, .name i ∈ pattern ∧ expectedRefusal (fields.names i) = true

end GateRefusal

namespace SendFailure
variable (f : SendFailure)

def message : String := f.fields.message (forwardedPattern f.forwarded f.send.pattern)

/-- `send_outcome_is_unknown`; what comes back from the VPS is a plain error. -/
def unanswered : Bool :=
  !f.forwarded && match f.send with
    | .mt5Unanswered => true
    | .raised answered => !answered
    | _ => false

end SendFailure

namespace OpenFailure

def outcome : OpenFailure → OpenOutcome
  | .gate r => if r.gate.inOpenTrade then .rejected r.message else .refused r.message
  | .claimLost => .rejected ""
  | .send f => if f.unanswered then .unanswered f.message else .rejected f.message

/-- The failure is one that the state of the signal lets happen. -/
def Reached (f : OpenFailure) (cap : ℕ) (db : Db) (signalId : String) (now : ℚ) : Prop :=
  let row := db.signals.find signalId
  let claimed := (db.claimSignalActivation cap signalId now).isSome
  db.hasOpenTradeForSignal signalId = false ∧
    match f with
    | .gate r =>
        if r.gate = .notFound then row = none
        else if r.gate = .notOpenable then ∃ sig ∈ row, sig.claimable = false
        else if r.gate.inOpenTrade then claimed = true
        else row.any Signal.claimable = true
    | .claimLost => claimed = false
    | .send _ => claimed = true

end OpenFailure

namespace Lifecycle
variable (cap : ℕ) (s : Lifecycle) (signalId : String)

/-- One attempt of the watcher with its `except` branch. -/
def attemptFailing (now : ℚ) (f : OpenFailure) : Lifecycle :=
  let s' := visit cap s signalId (.attempt now f.outcome)
  match s'.raised with
  | some (_, message) => s'.handleFailure signalId message
  | none => s'

/-- The attempt has cost the signal nothing, and it waits on. -/
def Unspent (s' : Lifecycle) : Prop :=
  s'.failures signalId = s.failures signalId ∧ s'.db.statusOf signalId = some .pending

/-- The attempt counts; with the last one the signal is given up. -/
def SpendsOne (s' : Lifecycle) : Prop :=
  if s.failures signalId + 1 < maxActivationAttempts then
    s'.failures signalId = s.failures signalId + 1
  else s'.failures signalId = 0 ∧ s'.db.statusOf signalId = some .expired

def Budgeted (s' : Lifecycle) : OpenFailure → Prop
  | .gate _ | .claimLost => s.Unspent signalId s'
  | .send _ => s.SpendsOne signalId s'

/-- A refusal has one of the phrases, in its own words or in what it quotes, and
its signal was pending or claimed; a failure of the send has none. -/
def Recognised : OpenFailure → Prop
  | .gate r =>
      (r.gate.spared = true ∨ GateRefusal.QuotesMark r.fields r.gate.pattern) ∧
        (r.gate.inOpenTrade = true ∨ s.db.statusOf signalId = some .pending)
  | .claimLost => False
  | .send f => ¬ GateRefusal.QuotesMark f.fields f.send.pattern

end Lifecycle

/-! The phrases in the messages. -/

def lowerChar (c : Char) : Char := if c.toNat = 0x212a then 'k' else c.toLower

def exactPhrase : List Char := ['R', ':', 'R', ' ', 'f', 'i', 'l', 't', 'e', 'r']

def lowerPhrases : List (List Char) :=
  [['c', 'i', 'r', 'c', 'u', 'i', 't', ' ', 'b', 'r', 'e', 'a', 'k', 'e', 'r'],
    ['s', 't', 'o', 'o', 'd', ' ', 'd', 'o', 'w', 'n'], ['p', 'a', 'u', 's', 'e', 'd']]

theorem contains_iff {word text : List Char} : contains word text = true ↔ word <:+: text := by
  rw [contains, List.any_eq_true]
  constructor
  · rintro ⟨t, mem, begins⟩
    exact (List.isPrefixOf_iff_prefix.mp begins).isInfix.trans ((List.mem_tails _ _).mp mem).isInfix
  · rintro ⟨before, after, rfl⟩
    refine ⟨word ++ after, (List.mem_tails _ _).mpr ⟨before, by rw [List.append_assoc]⟩, ?_⟩
    exact List.isPrefixOf_iff_prefix.mpr (List.prefix_append word after)

theorem lower_eq (text : List Char) : lower text = text.map lowerChar := rfl

theorem exists_mem_three {γ : Type} {p : γ → Prop} (a b c : γ) :
    (∃ w ∈ [a, b, c], p w) ↔ (p a ∨ p b) ∨ p c := by
  simp [or_assoc]

theorem expectedRefusal_iff {message : String} :
    expectedRefusal message = true ↔ exactPhrase <:+: message.toList ∨
      ∃ w ∈ lowerPhrases, w <:+: message.toList.map lowerChar := by
  have chars := @String.toList_ofList
  unfold expectedRefusal
  rw [chars, chars, chars, chars, lowerPhrases, exists_mem_three, exactPhrase]
  dsimp only
  rw [Bool.or_eq_true, Bool.or_eq_true, Bool.or_eq_true, contains_iff, contains_iff, contains_iff,
    contains_iff, lower_eq, or_assoc, or_assoc, or_assoc]

/-- The words of the pattern neither have a phrase nor make one with a name. -/
def Neutral (pattern : Pattern) : Prop :=
  Separates exactPhrase pattern ∧
    ∀ w ∈ lowerPhrases, Separates w (pattern.map (Piece.map lowerChar))

instance (pattern : Pattern) : Decidable (Neutral pattern) := inferInstanceAs (Decidable (_ ∧ _))

def Marked (pattern : Pattern) : Bool :=
  pattern.any fun
    | .lit text => decide (exactPhrase <:+: text) ||
        lowerPhrases.any fun w => decide (w <:+: text.map lowerChar)
    | _ => false

theorem lowerChar_plain {c : Char} (plain : c.isDigit = true ∨ c ∈ ['.', ',', '-']) :
    lowerChar c = c := by
  rcases plain with digit | sign
  · have low : c.val ≤ 57 := by
      rw [Char.isDigit] at digit
      simpa using (Bool.and_eq_true_iff.mp digit).2
    have small : c.val.toNat ≤ 57 := low
    have kelvin : c.toNat ≠ 0x212a := by
      rw [Char.toNat]
      omega
    have lowercase : ¬ (c.val ≥ 'A'.val ∧ c.val ≤ 'Z'.val) := by
      intro upper
      have big : 65 ≤ c.val.toNat := upper.1
      omega
    rw [lowerChar, if_neg kelvin]
    exact dif_neg lowercase
  · simp only [List.mem_cons, List.not_mem_nil, or_false] at sign
    rcases sign with rfl | rfl | rfl <;> rfl

theorem plain_not_mem {c : Char} (plain : c.isDigit = true ∨ c ∈ ['.', ',', '-']) :
    c ∉ exactPhrase ∧ ∀ w ∈ lowerPhrases, c ∉ w := by
  have none : ∀ w ∈ exactPhrase :: lowerPhrases,
      w.all (fun d => !(d.isDigit || ['.', ',', '-'].contains d)) = true := by decide
  have absent : ∀ w ∈ exactPhrase :: lowerPhrases, c ∉ w := by
    intro w phrase mem
    have kept := List.all_eq_true.mp (none w phrase) c mem
    rw [Bool.not_eq_true', Bool.or_eq_false_iff] at kept
    rcases plain with digit | sign
    · rw [digit] at kept
      exact nomatch kept.1
    · rw [List.contains_iff_mem.mpr sign] at kept
      exact nomatch kept.2
  exact ⟨absent _ List.mem_cons_self, fun w mem => absent w (List.mem_cons_of_mem _ mem)⟩

theorem expectedRefusal_of_neutral {pattern : Pattern} (neutral : Neutral pattern)
    (m : MessageFields) :
    expectedRefusal (m.message pattern) = true ↔ GateRefusal.QuotesMark m pattern := by
  have exact' := infix_render_iff (by decide) m.toFields
    (fun i => ⟨(m.figures i).some, fun c mem => (plain_not_mem ((m.figures i).plain c mem)).1⟩)
    neutral.1
  have lowered : ∀ w ∈ lowerPhrases,
      (w <:+: (m.toFields.render pattern).map lowerChar ↔
        ∃ i, .name i ∈ pattern ∧ w <:+: (m.names i).toList.map lowerChar) := by
    intro w mem
    have nonempty : w ≠ [] := by
      revert w
      decide
    have figures : ∀ i, (m.toFields.map lowerChar).figures i ≠ [] ∧
        ∀ c ∈ (m.toFields.map lowerChar).figures i, c ∉ w := by
      refine fun i => ⟨List.map_eq_nil_iff.not.mpr (m.figures i).some, fun c here => ?_⟩
      obtain ⟨d, inFigure, rfl⟩ := List.mem_map.mp here
      have plain := (m.figures i).plain d inFigure
      rw [lowerChar_plain plain]
      exact (plain_not_mem plain).2 w mem
    rw [render_map, infix_render_iff nonempty _ figures (neutral.2 w mem)]
    refine exists_congr fun i => and_congr_left fun _ => ?_
    rw [List.mem_map]
    constructor
    · rintro ⟨piece, here, same⟩
      cases piece with
      | name j =>
          rw [Piece.map] at same
          exact same ▸ here
      | lit text | figure j => exact nomatch same
    · exact fun here => ⟨.name i, here, rfl⟩
  rw [expectedRefusal_iff, MessageFields.message, String.toList_ofList, exact',
    GateRefusal.QuotesMark]
  simp only [expectedRefusal_iff]
  constructor
  · rintro (⟨i, here, occurs⟩ | ⟨w, mem, occurs⟩)
    · exact ⟨i, here, .inl occurs⟩
    · obtain ⟨i, here, occurs⟩ := (lowered w mem).mp occurs
      exact ⟨i, here, .inr ⟨w, mem, occurs⟩⟩
  · rintro ⟨i, here, occurs | ⟨w, mem, occurs⟩⟩
    · exact .inl ⟨i, here, occurs⟩
    · exact .inr ⟨w, mem, (lowered w mem).mpr ⟨i, here, occurs⟩⟩

theorem expectedRefusal_of_marked {pattern : Pattern} (marked : Marked pattern = true)
    (m : MessageFields) : expectedRefusal (m.message pattern) = true := by
  obtain ⟨piece, mem, here⟩ := List.any_eq_true.mp marked
  rw [expectedRefusal_iff, MessageFields.message, String.toList_ofList]
  cases piece with
  | lit text =>
      simp only [Bool.or_eq_true, decide_eq_true_eq, List.any_eq_true] at here
      rcases here with here | ⟨w, phrase, here⟩
      · exact .inl (infix_render_of_lit mem here _)
      · refine .inr ⟨w, phrase, ?_⟩
        rw [render_map]
        exact infix_render_of_lit (List.mem_map.mpr ⟨_, mem, rfl⟩) here _
  | name i | figure i => exact nomatch here

/-- Written as characters, a literal need not be decoded where it is looked at. -/
theorem lit_ofList (cs : List Char) : lit (String.ofList cs) = .lit cs := by
  rw [lit, String.toList_ofList]

theorem gate_marked {g : Gate} (spared : g.spared = true) : Marked g.pattern = true := by
  cases g with
  | breaker | rrFilter | channelPaused | standDownServer | standDownClient | pausedUntil
  | pausedUntilWhy | paused | pausedWhy | breakerOpen =>
      rw [Gate.pattern]
      repeat rw [lit_ofList]
      decide +kernel
  | _ => exact nomatch spared

theorem send_neutral (f : Send) : Neutral f.pattern := by
  cases f with
  | raised answered => exact (by decide : Neutral [.name 0])
  | mt5Rejected | mt5Unanswered | eaRejected | noLegs =>
      rw [Send.pattern]
      repeat rw [lit_ofList]
      decide

theorem phrase_ne_nil : exactPhrase ≠ [] ∧ ∀ w ∈ lowerPhrases, w ≠ [] := by
  decide

theorem neutral_forwarded {pattern : Pattern} (forwarded : Bool) (neutral : Neutral pattern) :
    Neutral (forwardedPattern forwarded pattern) := by
  cases forwarded with
  | false => exact neutral
  | true =>
      have plain : ∃ text, lit "VPS rejected forwarded trade: " = .lit text ∧
          NoneBegins exactPhrase text ∧
            ∀ w ∈ lowerPhrases, NoneBegins w (text.map lowerChar) := by
        rw [lit_ofList]
        exact ⟨_, rfl, by decide, by decide⟩
      obtain ⟨text, written, exact', lowered⟩ := plain
      rw [forwardedPattern, if_pos rfl, written]
      refine ⟨neutral.1.cons_lit phrase_ne_nil.1 exact', fun w mem => ?_⟩
      exact (neutral.2 w mem).cons_lit (phrase_ne_nil.2 w mem) (lowered w mem)

theorem marked_forwarded {pattern : Pattern} (forwarded : Bool)
    (marked : Marked pattern = true) : Marked (forwardedPattern forwarded pattern) = true := by
  cases forwarded with
  | false => exact marked
  | true =>
      rw [forwardedPattern, if_pos rfl, Marked, List.any_cons]
      exact Bool.or_eq_true_iff.mpr (.inr marked)

theorem quotesMark_forwarded {m : MessageFields} {pattern : Pattern} (forwarded : Bool) :
    GateRefusal.QuotesMark m (forwardedPattern forwarded pattern) ↔
      GateRefusal.QuotesMark m pattern := by
  cases forwarded with
  | false => exact Iff.rfl
  | true => simp [GateRefusal.QuotesMark, forwardedPattern, lit]

theorem gate_neutral {g : Gate} (plain : g.spared = false) : Neutral g.pattern := by
  cases g with
  | breaker | rrFilter | channelPaused | standDownServer | standDownClient | pausedUntil
  | pausedUntilWhy | paused | pausedWhy | breakerOpen => exact nomatch plain
  | _ =>
      rw [Gate.pattern]
      repeat rw [lit_ofList]
      decide +kernel

theorem expectedRefusal_gate (r : GateRefusal) :
    expectedRefusal r.message = true ↔
      r.gate.spared = true ∨ GateRefusal.QuotesMark r.fields r.gate.pattern := by
  rw [GateRefusal.message]
  cases spared : r.gate.spared with
  | true =>
      have marked := marked_forwarded r.forwarded (gate_marked spared)
      exact iff_of_true (expectedRefusal_of_marked marked _) (.inl rfl)
  | false =>
      rw [expectedRefusal_of_neutral (neutral_forwarded r.forwarded (gate_neutral spared)),
        quotesMark_forwarded]
      simp

theorem expectedRefusal_send (f : SendFailure) :
    expectedRefusal f.message = true ↔ GateRefusal.QuotesMark f.fields f.send.pattern := by
  rw [SendFailure.message,
    expectedRefusal_of_neutral (neutral_forwarded f.forwarded (send_neutral f.send)),
    quotesMark_forwarded]

def Figure.ofNat (n : ℕ) : Figure where
  text := Nat.toDigits 10 n
  some := Nat.toDigits_ne_nil
  plain _ mem := .inl (Nat.isDigit_of_mem_toDigits (by decide) (by decide) mem)

/-- The refusal of a claim that finds no slot has the words of the gate. -/
theorem explainFailedClaim_eq {db : Db} {cap : ℕ} {signalId : String}
    (claimable : (db.signals.find signalId).any Signal.claimable = true) :
    ∃ figures : ℕ → Figure, ∀ names : ℕ → String,
      db.explainFailedClaim cap signalId =
        MessageFields.message ⟨names, figures⟩ Gate.maxOpen.pattern := by
  refine ⟨fun i => .ofNat (match i with
    | 0 => cap
    | 1 => db.openSlots
    | 2 => db.orders.count PendingOrder.isWorking
    | _ => db.signals.count fun s => s.isActivating && !db.hasWorkingOrder s.signalId),
    fun names => ?_⟩
  cases found : db.signals.find signalId with
  | none =>
      rw [found] at claimable
      exact nomatch claimable
  | some row =>
      rw [found, Option.any_some] at claimable
      rw [Db.explainFailedClaim, found]
      dsimp only
      rw [if_pos claimable, Db.describeTradeSlots, MessageFields.message, Gate.pattern]
      simp only [lit, Fields.render_cons, Fields.render_nil, Fields.write,
        MessageFields.toFields, Figure.ofNat, String.ofList_append, String.ofList_toList,
        Nat.toString_eq_ofList_toDigits, List.append_nil, String.append_assoc]

namespace Lifecycle
variable {cap : ℕ} {s : Lifecycle} {signalId : String} {now : ℚ}

/-- The branch spares the attempt just when it finds a phrase. -/
theorem handleFailure_failures {message : String} :
    (s.handleFailure signalId message).failures signalId = s.failures signalId ↔
      expectedRefusal message = true := by
  rw [handleFailure]
  dsimp only
  split_ifs with expected more
  · simp [expected]
  · simp [expected]
  · have spent : maxActivationAttempts ≤ s.failures signalId + 1 := not_lt.mp more
    rw [maxActivationAttempts] at spent
    simp only [forget, withDb, Function.update_self, expected]
    exact iff_of_false (by omega) Bool.false_ne_true

theorem handleFailure_db {message : String} (expected : expectedRefusal message = true) :
    (s.handleFailure signalId message).db = s.db := by
  rw [handleFailure, if_pos expected]

theorem handleFailure_spendsOne {message : String} (row : s.db.statusOf signalId ≠ none) :
    s.SpendsOne signalId (s.handleFailure signalId message) ↔
      expectedRefusal message = false := by
  rw [SpendsOne, handleFailure]
  cases expected : expectedRefusal message with
  | true =>
      rw [if_pos rfl]
      dsimp only
      refine iff_of_false ?_ Bool.noConfusion
      split_ifs with more
      · omega
      · rw [maxActivationAttempts] at more
        omega
  | false =>
      rw [if_neg Bool.false_ne_true]
      dsimp only
      refine iff_of_true ?_ rfl
      split_ifs with more
      · exact Function.update_self _ _ _
      · refine ⟨Function.update_self _ _ _, ?_⟩
        simp only [forget, withDb, Db.statusOf, Db.expireSignal, Db.setSignalStatus,
          Table.find_update_self, Option.map_map]
        cases found : s.db.signals.find signalId with
        | none => exact absurd (by rw [Db.statusOf, found]; rfl) row
        | some r => rfl

theorem claimSignalActivation_eq {db : Db}
    (won : (db.claimSignalActivation cap signalId now).isSome = true) :
    ∃ row claimed, db.signals.find signalId = some row ∧
      db.claimSignalActivation cap signalId now = some claimed ∧
        claimed.signals.find signalId = some (Signal.claim now row) := by
  obtain ⟨claimed, claim⟩ := Option.isSome_iff_exists.mp won
  have can := (Db.claimSignalActivation_isSome.mp won).1
  rw [Db.claimSignalActivation] at claim
  split_ifs at claim
  cases found : db.signals.find signalId with
  | none =>
      rw [found] at can
      cases can
  | some row =>
      refine ⟨row, claimed, rfl, ?_, ?_⟩
      · rw [Db.claimSignalActivation, if_pos ‹_›, claim]
      · rw [← Option.some.inj claim, Table.find_update_self, found]
        rfl

theorem find_routeFailedOpen {db : Db} {row : Signal} (unanswered : Bool)
    (claimed : db.signals.find signalId = some (Signal.claim now row)) :
    ((routeFailedOpen db signalId unanswered).signals.find signalId).map Signal.status =
      some (if unanswered then .unknown else .pending) := by
  have own : (Signal.claim now row).signalId = signalId := Table.key_of_find claimed
  cases unanswered with
  | true =>
      rw [routeFailedOpen, if_pos rfl, Db.parkSignalUnknown, Table.find_updateWhere, claimed]
      have hit : decide ((Signal.claim now row).signalId = signalId ∧
          ((Signal.claim now row).status = .activating ∨
            (Signal.claim now row).status = .active)) = true :=
        decide_eq_true ⟨own, .inl rfl⟩
      rw [Option.map_some, hit]
      rfl
  | false =>
      rw [routeFailedOpen, if_neg Bool.false_ne_true, Db.restoreSignalAfterFailedOpen,
        Table.find_updateWhere, claimed]
      have hit : (decide ((Signal.claim now row).signalId = signalId) &&
          (Signal.claim now row).isActivating) = true := by
        rw [decide_eq_true own]
        rfl
      rw [Option.map_some, hit]
      rfl

/-- The signal with the message raised, before the watcher handles it. -/
def raising (s : Lifecycle) (db : Db) (signalId message : String) : Lifecycle :=
  { s with db := db, raised := some (signalId, message) }

theorem attemptFailing_eq {f : OpenFailure} {db : Db} {message : String}
    (fresh : s.db.hasOpenTradeForSignal signalId = false)
    (raised : openTradeFromSignal cap s.db signalId now f.outcome = (db, some message)) :
    attemptFailing cap s signalId now f =
      (s.raising db signalId message).handleFailure signalId message := by
  rw [attemptFailing, visit, if_neg (by rw [fresh]; exact Bool.false_ne_true), raised]
  rfl

theorem unspent_iff {db : Db} {message : String} :
    s.Unspent signalId ((s.raising db signalId message).handleFailure signalId message) ↔
      expectedRefusal message = true ∧
        (db.signals.find signalId).map Signal.status = some .pending := by
  have spared := @handleFailure_failures (s.raising db signalId message) signalId message
  constructor
  · rintro ⟨same, waits⟩
    have expected := spared.mp same
    rw [Db.statusOf, handleFailure_db expected] at waits
    exact ⟨expected, waits⟩
  · rintro ⟨expected, waits⟩
    refine ⟨spared.mpr expected, ?_⟩
    rw [Db.statusOf, handleFailure_db expected]
    exact waits

theorem spendsOne_iff {db : Db} {message : String} (row : db.statusOf signalId ≠ none) :
    s.SpendsOne signalId ((s.raising db signalId message).handleFailure signalId message) ↔
      expectedRefusal message = false :=
  @handleFailure_spendsOne (s.raising db signalId message) signalId message row

theorem budgeted_gate {r : GateRefusal}
    (reached : (OpenFailure.gate r).Reached cap s.db signalId now) :
    s.Unspent signalId (attemptFailing cap s signalId now (.gate r)) ↔
      s.Recognised signalId (.gate r) := by
  obtain ⟨fresh, reached⟩ := reached
  cases inOpen : r.gate.inOpenTrade with
  | false =>
      have raised : openTradeFromSignal cap s.db signalId now (OpenFailure.gate r).outcome =
          (s.db, some r.message) := by
        rw [OpenFailure.outcome, inOpen]
        rfl
      rw [attemptFailing_eq fresh raised, unspent_iff, expectedRefusal_gate, Recognised, inOpen,
        Db.statusOf]
      simp
  | true =>
      have early : r.gate ≠ .notFound ∧ r.gate ≠ .notOpenable :=
        ⟨fun same => by simp [same, Gate.inOpenTrade] at inOpen,
          fun same => by simp [same, Gate.inOpenTrade] at inOpen⟩
      dsimp only at reached
      rw [if_neg early.1, if_neg early.2, if_pos inOpen] at reached
      obtain ⟨row, claimed, -, claim, found⟩ := claimSignalActivation_eq reached
      have raised : openTradeFromSignal cap s.db signalId now (OpenFailure.gate r).outcome =
          (routeFailedOpen claimed signalId false, some r.message) := by
        rw [OpenFailure.outcome, if_pos inOpen, openTradeFromSignal, claim]
      have waits := find_routeFailedOpen false found
      rw [if_neg Bool.false_ne_true] at waits
      rw [attemptFailing_eq fresh raised, unspent_iff, expectedRefusal_gate, Recognised, inOpen]
      simp [waits]

/-- A claim that is not won spends an attempt, or is that of another opener. -/
theorem budgeted_claimLost
    (reached : OpenFailure.claimLost.Reached cap s.db signalId now) :
    ¬ s.Unspent signalId (attemptFailing cap s signalId now .claimLost) := by
  obtain ⟨fresh, lost⟩ := reached
  have none : s.db.claimSignalActivation cap signalId now = none :=
    Option.not_isSome_iff_eq_none.mp (by rw [lost]; exact Bool.false_ne_true)
  have raised : openTradeFromSignal cap s.db signalId now OpenFailure.claimLost.outcome =
      (s.db, some (s.db.explainFailedClaim cap signalId)) := by
    rw [OpenFailure.outcome, openTradeFromSignal, none]
  rw [attemptFailing_eq fresh raised, unspent_iff]
  rintro ⟨expected, waits⟩
  obtain ⟨row, found, pending⟩ := Option.map_eq_some_iff.mp waits
  have claimable : (s.db.signals.find signalId).any Signal.claimable = true := by
    rw [found, Option.any_some, Signal.claimable, pending]
    rfl
  obtain ⟨figures, said⟩ := explainFailedClaim_eq claimable
  rw [said fun _ => "", expectedRefusal_of_neutral (gate_neutral rfl)] at expected
  obtain ⟨i, quoted, -⟩ := expected
  simp [Gate.pattern, lit] at quoted

theorem budgeted_send {f : SendFailure}
    (reached : (OpenFailure.send f).Reached cap s.db signalId now) :
    s.SpendsOne signalId (attemptFailing cap s signalId now (.send f)) ↔
      s.Recognised signalId (.send f) := by
  obtain ⟨fresh, won⟩ := reached
  obtain ⟨row, claimed, -, claim, found⟩ := claimSignalActivation_eq won
  have raised : openTradeFromSignal cap s.db signalId now (OpenFailure.send f).outcome =
      (routeFailedOpen claimed signalId f.unanswered, some f.message) := by
    rw [OpenFailure.outcome]
    cases f.unanswered with
    | true => rw [if_pos rfl, openTradeFromSignal, claim]
    | false => rw [if_neg Bool.false_ne_true, openTradeFromSignal, claim]
  have there : (routeFailedOpen claimed signalId f.unanswered).statusOf signalId ≠ none := by
    rw [Db.statusOf, find_routeFailedOpen f.unanswered found]
    exact Option.some_ne_none _
  rw [attemptFailing_eq fresh raised, spendsOne_iff there, Recognised, ← expectedRefusal_send,
    Bool.not_eq_true]

end Lifecycle

theorem retry_budget_iff (cap : ℕ) (s : Lifecycle) (signalId : String) (now : ℚ)
    (f : OpenFailure) (reached : f.Reached cap s.db signalId now) :
    s.Budgeted signalId (s.attemptFailing cap signalId now f) f ↔ s.Recognised signalId f := by
  cases f with
  | gate r => exact Lifecycle.budgeted_gate reached
  | claimLost => exact iff_of_false (Lifecycle.budgeted_claimLost reached) id
  | send f => exact Lifecycle.budgeted_send reached

def plainFields : MessageFields := ⟨fun _ => "", fun _ => .ofNat 80⟩

def wideSpread : GateRefusal := ⟨.spread, plainFields, false, fun never => nomatch never⟩

def stoodDown : GateRefusal := ⟨.standDownClient, plainFields, false, fun never => nomatch never⟩

/-- A spread that is too wide for the moment uses up an attempt. -/
theorem spread_spends_attempt :
    ¬ ∀ (cap : ℕ) (s : Lifecycle) (signalId : String) (now : ℚ) (f : OpenFailure),
      f.Reached cap s.db signalId now →
        s.Budgeted signalId (s.attemptFailing cap signalId now f) f := by
  intro all
  have claimable : (Lifecycle.oneQueued.db.signals.find "s1").any Signal.claimable = true := by
    decide
  have reached : (OpenFailure.gate wideSpread).Reached 1 Lifecycle.oneQueued.db "s1" 1 :=
    ⟨by decide, claimable⟩
  have spared := all 1 Lifecycle.oneQueued "s1" 1 (.gate wideSpread) reached
  -- neither the gate nor what the message quotes has one of the phrases
  obtain ⟨own | ⟨i, -, quoted⟩, -⟩ := (Lifecycle.budgeted_gate reached).mp spared
  · exact absurd own (by decide)
  · have silent : expectedRefusal "" = false := by decide
    exact absurd quoted (Bool.eq_false_iff.mp silent)

theorem stand_down_spends_none :
    Lifecycle.oneQueued.Unspent "s1"
      (Lifecycle.oneQueued.attemptFailing 1 "s1" 1 (.gate stoodDown)) :=
  (retry_budget_iff 1 Lifecycle.oneQueued "s1" 1 (.gate stoodDown) (by
    refine ⟨by decide, ?_⟩
    exact (by decide :
      (Lifecycle.oneQueued.db.claimSignalActivation 1 "s1" 1).isSome = true))).mpr
    ⟨.inl rfl, .inl rfl⟩

end Forex
