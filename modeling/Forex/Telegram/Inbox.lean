import Forex.Send.Sites
import Forex.Telegram.Levels

/-!
The reading half of `scan_messages`: what the pipeline decides about one message
and what it writes into the tables that remember messages. The decision is a
function of the message, the settings, the parsers and a view of those tables;
its writes name no message, so that each falls on the message being read. The
trading that follows from a decision is elsewhere.

Two in-process memories are left out, that of bare directions and that of
high-risk skips: they only repeat a conclusion without logging it again.
-/

namespace Forex
open Support

/-- A message's timestamp as `fromisoformat` sees it. -/
inductive Stamp where
  | missing
  | malformed
  | posted (time : ℚ)
deriving DecidableEq, Repr

structure Message where
  id : ℕ
  groupId : String
  text : String
  stamp : Stamp
  hasMedia : Bool
  forwarded : Bool
deriving DecidableEq, Repr

def Message.body (m : Message) : String := String.ofList (strip m.text.toList)

/-- The level columns of a recorded message. -/
structure RowLevels where
  entryLow : Option ℚ
  entryHigh : Option ℚ
  stopLoss : Option ℚ
  tps : List (Option ℚ)
deriving DecidableEq, Repr

def RowLevels.blank : RowLevels := ⟨none, none, none, List.replicate 8 none⟩

def Parsed.levels (p : Parsed) : RowLevels :=
  ⟨some p.entryLow, some p.entryHigh, p.stopLoss, p.tps⟩

/-- A row of `vantage_tg_signals`. The message id alone is unique there. -/
structure TgRow where
  tgMessageId : ℕ
  groupId : String
  rawText : String
  direction : Option Direction
  levels : RowLevels
  signalId : Option String
  status : TgStatus
deriving DecidableEq, Repr

inductive Trigger where
  | closeAll
  | riskFreeBe
deriving DecidableEq, Repr

/-- The stop and targets of a message that names no direction. -/
structure FollowUpLevels where
  stopLoss : Option ℚ
  tps : List (Option ℚ)
  tpOpen : Bool
deriving DecidableEq, Repr

/-- A row of `vantage_second_message_holds`. -/
structure Hold where
  tgMessageId : ℕ
  channel : String
  firstSeenAt : ℚ
  levels : Option FollowUpLevels
  waiting : Bool
deriving DecidableEq, Repr

/-- A parser gives a result, finds nothing, or raises. -/
abbrev Parse (α : Type) := Except Unit (Option α)

/-- Python's `a or b` on two parses. -/
def Parse.orElse {α : Type} (first second : Parse α) : Parse α :=
  match first with
  | .ok none => second
  | other => other

structure Parsers where
  instantEntry : String → Parse (Direction × Option ℚ)
  gd2InstantEntry : String → Parse (Direction × Option ℚ)
  lexiconDirectionTrigger : String → Parse (Direction × Option ℚ)
  slAdjustmentRules : String → String → Option ℚ
  learnedRules : String → String → Option Parsed
  tpSlOnly : String → Parse FollowUpLevels
  partialAnyFormat : String → Parse Parsed
  limitOrderSignal : String → Parse Parsed
  isFormatAbSignal : String → String → Bool
  isGd2Message : String → Bool
  foreignCurrency : String → Bool
  /-- The direction noted on the row of a signal for another pair. -/
  foreignDirection : String → Option Direction
  goldSignal : String → Parse Parsed
  gd2Signal : String → Parse Parsed
  gd2Partial : String → Parse (Direction × ℚ × ℚ)
  formatAbPartial : String → Parse (Direction × ℚ × ℚ)

structure ChannelConfig where
  name : String
  /-- Switched on, with a parser format other than `none`. -/
  enabled : Bool
  gd2 : Bool
  signalPrefix : String
deriving DecidableEq, Repr

structure Lexicons where
  closeAll : List String
  riskFreeBe : List String
  exclusion : List String
  /-- The lists that let a message through to the AI, together. -/
  candidates : List String
deriving DecidableEq, Repr

structure ScanSettings where
  autoExecute : Bool
  excludeHighRisk : Bool
  immediateMarketEntry : Bool
  ignoreMedia : Bool
  ignoreForwarded : Bool
  closeAllParsing : Bool
  riskFreeBeParsing : Bool
  levels : LevelSettings
  secondMessage : Bool
  matchWindowSec : ℚ
  maxSignalAge : ℚ
  lexicons : Lexicons
deriving DecidableEq, Repr

inductive AiAnswer where
  | unavailable
  | chatter
  | stop (newStopLoss : ℚ)
  | signal (p : Parsed)
deriving DecidableEq, Repr

/-- What one scan pass is given. -/
structure ScanEnv where
  now : ℚ
  settings : ScanSettings
  parsers : Parsers
  channelOf : String → Option ChannelConfig
  templateOf : String → Option TemplateLevels
  ai : Message → AiAnswer

def upper (text : List Char) : List Char := text.map Char.toUpper

/-- `text_matches_any`, as a test. -/
def textMatchesAny (text : String) (phrases : List String) : Bool :=
  phrases.any fun phrase =>
    decide (phrase ≠ "") && contains (upper phrase.toList) (upper text.toList)

/-- The tables as far as they bear on one message. -/
structure InboxView where
  row : Option TgRow
  claimed : Trigger → Bool
  stopClaimed : Bool
  hold : Option Hold
  /-- A hold of the message's channel that waits for its levels. -/
  channelWaits : Bool
  aiChecked : Bool

/-- What an edit asks of the trading half. -/
inductive EditRequest where
  | nothing
  | flatten (recorded : Direction)
  | followUp (p : Parsed)
deriving DecidableEq, Repr

inductive Verdict where
  | ignored
  | trigger (t : Trigger) (first : Bool)
  | unchanged
  | edited (request : EditRequest)
  | dropped
  | instant (direction : Direction) (price : Option ℚ) (stale : Bool)
  | adjustStop (newStopLoss : ℚ) (first : Bool)
  | excluded
  | attached
  | held
  | foreign
  | partialSignal
  | bare
  | unrecognised
  | abandoned
  | signal (p : Parsed) (fresh : Bool)
deriving DecidableEq, Repr

/-- A write into the tables that remember messages, about the message read. -/
inductive InboxWrite where
  /-- `INSERT OR IGNORE`. -/
  | insertRow (rawText : String) (direction : Option Direction) (levels : RowLevels)
      (status : TgStatus)
  | setRawText (rawText : String)
  | correctDirection (direction : Direction) (rawText : String)
  | updateReparsed (rawText : String) (levels : RowLevels)
  | applyCorrection (direction : Direction) (levels : RowLevels) (rawText : String)
  | claim (t : Trigger)
  | claimStop
  | noteAi (text : String)
  | noteUnrecognised
  | insertHold
  | resolveHold
  /-- To the newest waiting hold of the channel. -/
  | attachLevels (levels : FollowUpLevels)
  /-- What the trading half writes back. -/
  | mark (status : TgStatus) (signalId : Option String)
deriving DecidableEq, Repr

structure Reading where
  verdict : Verdict
  writes : List InboxWrite

/-- Where the pipeline leaves a message: with a verdict, or with a parsed signal
that goes on to the overrides and is recorded. -/
inductive Stage where
  | settled (verdict : Verdict)
  | parsed (p : Parsed)
deriving DecidableEq, Repr

structure Progress where
  stage : Stage
  writes : List InboxWrite
deriving DecidableEq, Repr

namespace ScanEnv
variable (env : ScanEnv) (ch : ChannelConfig) (m : Message) (view : InboxView)

/-- The staleness guard of `record_staleness_or_new`. -/
def isStale : Bool :=
  match m.stamp with
  | .posted time => decide (env.settings.maxSignalAge < env.now - time)
  | .missing | .malformed => true

def maxInstantAge : ℚ := 4 * 60

/-- The guard of `process_instant_entry`, which passes an unreadable time. -/
def isStaleInstant : Bool :=
  match m.stamp with
  | .missing => true
  | .malformed => false
  | .posted time => decide (maxInstantAge < env.now - time)

/-- The overrides, then `record_staleness_or_new`, which stores the text as it
came and not as it was compared. -/
def record (p : Parsed) : Reading :=
  let p := applyOverrides env.settings.levels (env.templateOf ch.name) p
  let stale := env.isStale m
  ⟨.signal p (!stale),
    [.insertRow m.text (some p.direction) p.levels (if stale then .historical else .new)]⟩

/-- `try_ai_signal_fallback`: the signal it recovers, if any, and its writes. -/
def askAi : AiAnswer × List InboxWrite :=
  if view.aiChecked || env.parsers.foreignCurrency m.body then (.unavailable, [])
  else
    match env.ai m with
    | .unavailable => (.unavailable, [])
    | .chatter => (.chatter, [.noteAi m.body])
    | .stop newStopLoss => (.stop newStopLoss, [.noteAi m.body, .claimStop])
    | .signal p => (.signal p, [.noteAi m.body])

def mergeLevels (p : Parsed) (levels : FollowUpLevels) : Parsed :=
  { p with
    stopLoss := levels.stopLoss.or p.stopLoss
    tps := List.zipWith Option.or levels.tps p.tps
    tpOpen := p.tpOpen.map fun stated => levels.tpOpen || stated }

/-- `hold_or_resolve`. -/
def holdOrResolve (p : Parsed) : Progress :=
  match view.hold with
  | none => ⟨.settled .held, [.insertHold]⟩
  | some hold =>
      match hold.levels with
      | some levels =>
          ⟨.parsed (mergeLevels p levels), [.resolveHold]⟩
      | none =>
          if env.settings.matchWindowSec ≤ env.now - hold.firstSeenAt then
            ⟨.parsed p, [.resolveHold]⟩
          else ⟨.settled .held, []⟩

/-- The AI at the end of `classify_and_parse`, then the unrecognised queue. -/
def lastResort (looksLikeSignal : Bool) : Progress :=
  let candidates := env.settings.lexicons.candidates
  let answer :=
    if candidates = [] || textMatchesAny m.body candidates then env.askAi m view
    else (.unavailable, [])
  match answer with
  | (.signal p, writes) => ⟨.parsed p, writes⟩
  | (.stop newStopLoss, writes) =>
      ⟨.settled (.adjustStop newStopLoss (!view.stopClaimed)),
        writes ++ if looksLikeSignal then [.noteUnrecognised] else []⟩
  | (_, writes) =>
      if looksLikeSignal then ⟨.settled .unrecognised, writes ++ [.noteUnrecognised]⟩
      else ⟨.settled .dropped, writes⟩

/-- The deterministic parsers, in the one order for every channel. -/
def gatedSignal : Parse Parsed :=
  let gold := if env.parsers.isFormatAbSignal ch.signalPrefix m.body then
      env.parsers.goldSignal m.body else .ok none
  gold.orElse (if env.parsers.isGd2Message m.body then env.parsers.gd2Signal m.body else .ok none)

def readPartial : Progress :=
  match (env.parsers.gd2Partial m.body).orElse (env.parsers.formatAbPartial m.body) with
  | .error _ => ⟨.settled .abandoned, []⟩
  | .ok (some (direction, low, high)) =>
      ⟨.settled .partialSignal, [.insertRow m.body (some direction)
        { RowLevels.blank with entryLow := some low, entryHigh := some high } .pendingFollowup]⟩
  | .ok none =>
      match (env.parsers.gd2InstantEntry m.body).orElse
          (env.parsers.lexiconDirectionTrigger m.body) with
      | .error _ => ⟨.settled .abandoned, []⟩
      | .ok (some _) => ⟨.settled .bare, []⟩
      | .ok none =>
          env.lastResort m view
            (env.parsers.isFormatAbSignal ch.signalPrefix m.body ||
              env.parsers.isGd2Message m.body)

def readPlain : Progress :=
  match env.parsers.limitOrderSignal m.body with
  | .error _ => ⟨.settled .abandoned, []⟩
  | .ok (some p) => ⟨.parsed p, []⟩
  | .ok none =>
      if (env.parsers.isFormatAbSignal ch.signalPrefix m.body ||
          env.parsers.isGd2Message m.body) && env.parsers.foreignCurrency m.body then
        ⟨.settled .foreign, [.insertRow m.body (env.parsers.foreignDirection m.body) RowLevels.blank
          .unsupportedCurrency]⟩
      else
        match env.gatedSignal ch m with
        | .error _ => ⟨.settled .abandoned, []⟩
        | .ok (some p) => ⟨.parsed p, []⟩
        | .ok none => env.readPartial ch m view

/-- The block of `classify_and_parse` for levels in a second message. -/
def readSecondMessage : Progress :=
  match env.parsers.tpSlOnly m.body with
  | .error _ => ⟨.settled .abandoned, []⟩
  | .ok levels =>
      match levels, view.channelWaits with
      | some levels, true => ⟨.settled .attached, [.attachLevels levels]⟩
      | _, _ =>
          match env.parsers.partialAnyFormat m.body with
          | .error _ => ⟨.settled .abandoned, []⟩
          | .ok (some p) => env.holdOrResolve view p
          | .ok none => env.readPlain ch m view

/-- `classify_and_parse`. -/
def classify : Progress :=
  match env.parsers.learnedRules ch.name m.body with
  | some p => ⟨.parsed p, []⟩
  | none =>
      if env.settings.secondMessage then env.readSecondMessage ch m view
      else env.readPlain ch m view

def readSignal : Progress :=
  match env.parsers.slAdjustmentRules ch.name m.body with
  | some newStopLoss => ⟨.settled (.adjustStop newStopLoss (!view.stopClaimed)), [.claimStop]⟩
  | none =>
      if textMatchesAny m.body env.settings.lexicons.exclusion then ⟨.settled .excluded, []⟩
      else env.classify ch m view

def instantTrigger : Parse (Direction × Option ℚ) :=
  ((env.parsers.instantEntry m.body).orElse (env.parsers.gd2InstantEntry m.body)).orElse
    (env.parsers.lexiconDirectionTrigger m.body)

def recordInstant (direction : Direction) (price : Option ℚ) : Progress :=
  let stale := env.isStaleInstant m
  ⟨.settled (.instant direction price stale),
    [.insertRow m.body (some direction) RowLevels.blank
      (if stale then .instantHistorical else .instantPending)]⟩

/-- From the instant-entry gate on: a message not seen before, or promoted. -/
def readNew : Progress :=
  if env.settings.immediateMarketEntry then
    match env.instantTrigger m with
    | .error _ => ⟨.settled .abandoned, []⟩
    | .ok (some (direction, price)) => env.recordInstant m direction price
    | .ok none => env.readSignal ch m view
  else env.readSignal ch m view

/-- The parse of `handle_signal_edit`, which chooses by the channel's format. -/
def reparse : Parse Parsed :=
  if ch.gd2 then env.parsers.gd2Signal m.body
  else (env.parsers.goldSignal m.body).orElse (env.parsers.gd2Signal m.body)

def takesFollowUp : TgStatus → Bool
  | .instantActivated | .instantPending | .activated | .new => true
  | _ => false

/-- The part of `handle_signal_edit` after a parse succeeded. -/
def applyEdit (row : TgRow) (p : Parsed) : Progress :=
  if row.direction = some p.direction then
    let update : InboxWrite := .updateReparsed m.body p.levels
    if row.status = .pendingFollowup then
      let reading := env.readNew ch m view
      ⟨reading.stage, update :: reading.writes⟩
    else if takesFollowUp row.status then ⟨.settled (.edited (.followUp p)), [update]⟩
    else ⟨.settled (.edited .nothing), [update]⟩
  else if row.status = .new then
    ⟨.settled (.edited .nothing), [.applyCorrection p.direction p.levels m.body]⟩
  else ⟨.settled (.edited .nothing), [.setRawText m.body]⟩

def editByAi (row : TgRow) : Progress :=
  match env.askAi m view with
  | (.signal p, writes) =>
      let reading := env.applyEdit ch m view row p
      ⟨reading.stage, writes ++ reading.writes⟩
  | (.stop newStopLoss, writes) => ⟨.settled (.adjustStop newStopLoss (!view.stopClaimed)), writes⟩
  | (_, writes) => ⟨.settled .dropped, writes⟩

def isInstant : TgStatus → Bool
  | .instantActivated | .instantPending | .instantHistorical => true
  | _ => false

def instantFix : Parse (Direction × Option ℚ) :=
  if ch.gd2 then env.parsers.gd2InstantEntry m.body else env.parsers.instantEntry m.body

/-- `handle_signal_edit`. -/
def handleSignalEdit (row : TgRow) : Progress :=
  if m.body = row.rawText then ⟨.settled .unchanged, []⟩
  else
    match env.reparse ch m with
    | .error _ => ⟨.settled .abandoned, []⟩
    | .ok (some p) => env.applyEdit ch m view row p
    | .ok none =>
        if isInstant row.status then
          match env.instantFix ch m with
          | .error _ => ⟨.settled .abandoned, []⟩
          | .ok (some (direction, _)) =>
              if row.direction = some direction then
                ⟨.settled (.edited .nothing), [.setRawText m.body]⟩
              else
                ⟨.settled (.edited ((row.direction.map .flatten).getD .nothing)),
                  [.correctDirection direction m.body]⟩
          | .ok none => env.editByAi ch m view row
        else env.editByAi ch m view row

def skips : Bool :=
  decide (m.id = 0 ∨ m.body = "") ||
    env.settings.excludeHighRisk && contains "high risk".toList (lower m.body.toList) ||
    !ch.enabled || env.settings.ignoreMedia && m.hasMedia ||
    env.settings.ignoreForwarded && m.forwarded

/-- One message of the loop, on a channel that is watched, up to the point where
a parsed signal is rewritten and recorded. -/
def lookOn : Progress :=
  if env.skips ch m then ⟨.settled .ignored, []⟩
  else if env.settings.closeAllParsing &&
      textMatchesAny m.body env.settings.lexicons.closeAll then
    ⟨.settled (.trigger .closeAll (!view.claimed .closeAll)), [.claim .closeAll]⟩
  else if env.settings.riskFreeBeParsing &&
      textMatchesAny m.body env.settings.lexicons.riskFreeBe then
    ⟨.settled (.trigger .riskFreeBe (!view.claimed .riskFreeBe)), [.claim .riskFreeBe]⟩
  else
    match view.row with
    | some row => env.handleSignalEdit ch m view row
    | none => env.readNew ch m view

def finish (progress : Progress) : Reading :=
  match progress.stage with
  | .settled verdict => ⟨verdict, progress.writes⟩
  | .parsed p =>
      let reading := env.record ch m p
      ⟨reading.verdict, progress.writes ++ reading.writes⟩

def readOn : Reading := env.finish ch m (env.lookOn ch m view)

end ScanEnv

structure Inbox where
  rows : Table TgRow TgRow.tgMessageId
  triggers : List (ℕ × Trigger)
  stops : List ℕ
  holds : Table Hold Hold.tgMessageId
  aiChecked : List (ℕ × String)
  unrecognised : List ℕ

namespace TgRow

def setRawText (rawText : String) : Assign TgRow.tgMessageId where
  apply r := { r with rawText := rawText }
  keeps _ := rfl

def correctDirection (direction : Direction) (rawText : String) : Assign TgRow.tgMessageId where
  apply r := { r with direction := some direction, rawText := rawText }
  keeps _ := rfl

def updateReparsed (rawText : String) (levels : RowLevels) : Assign TgRow.tgMessageId where
  apply r :=
    { r with
      rawText := rawText
      levels := levels
      status := if r.status = .pendingFollowup then .new else r.status }
  keeps _ := rfl

def applyCorrection (direction : Direction) (levels : RowLevels) (rawText : String) :
    Assign TgRow.tgMessageId where
  apply r := { r with direction := some direction, levels := levels, rawText := rawText }
  keeps _ := rfl

def mark (status : TgStatus) (signalId : Option String) : Assign TgRow.tgMessageId where
  apply r := { r with status := status, signalId := signalId.or r.signalId }
  keeps _ := rfl

end TgRow

namespace Hold

def resolve : Assign Hold.tgMessageId where
  apply h := { h with waiting := false }
  keeps _ := rfl

def attach (levels : FollowUpLevels) : Assign Hold.tgMessageId where
  apply h := { h with levels := some levels }
  keeps _ := rfl

def waitsOn (channel : String) (h : Hold) : Bool :=
  decide (h.channel = channel) && h.waiting && h.levels.isNone

end Hold

namespace Inbox

def empty : Inbox := ⟨Table.empty, [], [], Table.empty, [], []⟩

variable (s : Inbox)

def newestWaiting (channel : String) : Option Hold :=
  newest Hold.firstSeenAt (s.holds.rows.filter (Hold.waitsOn channel))

def view (ch : ChannelConfig) (m : Message) : InboxView where
  row := s.rows.find m.id
  claimed t := decide ((m.id, t) ∈ s.triggers)
  stopClaimed := decide (m.id ∈ s.stops)
  hold := (s.holds.find m.id).filter Hold.waiting
  channelWaits := (s.newestWaiting ch.name).isSome
  aiChecked := decide ((m.id, m.body) ∈ s.aiChecked)

def updateRow (id : ℕ) (f : Assign TgRow.tgMessageId) : Inbox :=
  { s with rows := s.rows.update id f }

def apply (now : ℚ) (ch : ChannelConfig) (m : Message) : InboxWrite → Inbox
  | .insertRow rawText direction levels status =>
      { s with
        rows := s.rows.insertOrIgnore
          ⟨m.id, m.groupId, rawText, direction, levels, none, status⟩ }
  | .setRawText rawText => s.updateRow m.id (TgRow.setRawText rawText)
  | .correctDirection direction rawText =>
      s.updateRow m.id (TgRow.correctDirection direction rawText)
  | .updateReparsed rawText levels => s.updateRow m.id (TgRow.updateReparsed rawText levels)
  | .applyCorrection direction levels rawText =>
      s.updateRow m.id (TgRow.applyCorrection direction levels rawText)
  | .claim t => { s with triggers := s.triggers.insert (m.id, t) }
  | .claimStop => { s with stops := s.stops.insert m.id }
  | .noteAi text => { s with aiChecked := s.aiChecked.insert (m.id, text) }
  | .noteUnrecognised => { s with unrecognised := s.unrecognised.insert m.id }
  | .insertHold =>
      { s with holds := s.holds.insertOrIgnore ⟨m.id, ch.name, now, none, true⟩ }
  | .resolveHold => { s with holds := s.holds.update m.id Hold.resolve }
  | .attachLevels levels =>
      match s.newestWaiting ch.name with
      | some h => { s with holds := s.holds.update h.tgMessageId (Hold.attach levels) }
      | none => s
  | .mark status signalId => s.updateRow m.id (TgRow.mark status signalId)

def applyAll (now : ℚ) (ch : ChannelConfig) (m : Message) (writes : List InboxWrite) : Inbox :=
  writes.foldl (fun s w => s.apply now ch m w) s

/-- One message of the loop: the tables it leaves and what was decided. -/
def read (env : ScanEnv) (m : Message) : Inbox × Verdict :=
  match env.channelOf m.groupId with
  | none => (s, .ignored)
  | some ch =>
      let reading := env.readOn ch m (s.view ch m)
      (s.applyAll env.now ch m reading.writes, reading.verdict)

end Inbox

/-- Parsers to which no text is a signal. -/
def Parsers.silent : Parsers where
  instantEntry _ := .ok none
  gd2InstantEntry _ := .ok none
  lexiconDirectionTrigger _ := .ok none
  slAdjustmentRules _ _ := none
  learnedRules _ _ := none
  tpSlOnly _ := .ok none
  partialAnyFormat _ := .ok none
  limitOrderSignal _ := .ok none
  isFormatAbSignal _ _ := false
  isGd2Message _ := false
  foreignCurrency _ := false
  foreignDirection _ := none
  goldSignal _ := .ok none
  gd2Signal _ := .ok none
  gd2Partial _ := .ok none
  formatAbPartial _ := .ok none

/-- Immediate entry and auto-execution on, every other switch as shipped, and
the lexicons cut to one phrase each. -/
def ScanSettings.shipped : ScanSettings where
  autoExecute := true
  excludeHighRisk := false
  immediateMarketEntry := true
  ignoreMedia := false
  ignoreForwarded := false
  closeAllParsing := true
  riskFreeBeParsing := true
  levels := ⟨true, true, false, fallbackSlPips⟩
  secondMessage := false
  matchWindowSec := 120
  maxSignalAge := 240
  lexicons := ⟨["CLOSE ALL"], ["RISK FREE"], ["EDUCATION"], ["XAU"]⟩

/-- Every group is watched under its own id, with no template and no AI. -/
def ScanEnv.shipped (parsers : Parsers) (now : ℚ) : ScanEnv where
  now := now
  settings := ScanSettings.shipped
  parsers := parsers
  channelOf group := some ⟨group, true, false, ""⟩
  templateOf _ := none
  ai _ := .unavailable

end Forex
