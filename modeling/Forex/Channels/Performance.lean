import Forex.Channels.Aliases
import Forex.Support.Decimal
import Mathlib.Logic.Function.Basic

/-!
`channel_performance`: one row a channel, with its statistics and the settings of its
strategy and its pause. Three writers upsert by the canonical name of a source, the
readers of the trading paths look a source up, and a rename folds the rows of the old
name into the new one.
-/

namespace Forex
open Support

/-- A row, without its key. -/
structure PerformanceRow where
  lotMult : ℚ
  winRate : ℚ
  sampleN : ℕ
  netPnl : ℚ
  paused : Bool
  manualOverride : Bool
  strategyOverride : Option String
  autoStrategy : Bool
  updatedAt : ℚ
deriving DecidableEq, Repr

/-- The defaults of the columns. -/
def PerformanceRow.empty : PerformanceRow := ⟨1, 0, 0, 0, false, false, none, false, 0⟩

/-- The table, by its primary key. -/
abbrev Performance := String → Option PerformanceRow

/-- `CANONICAL_CHANNELS` in any process: what a name leads to leads to itself. -/
structure AliasTable where
  entries : ChannelAliases
  settled : entries.Settled

def AliasTable.ofSource : AliasTable :=
  ⟨canonicalChannels, ChannelAliases.settled_canonicalChannels⟩

/-- What the trade count reads of a row of `vantage_simulated_trades`. -/
structure StampedTrade where
  isOpen : Bool
  tgSource : Option String
deriving DecidableEq, Repr

structure ChannelDesk where
  performance : Performance
  aliases : AliasTable
  trades : List StampedTrade

/-- What the recomputation reads of a row of the scorecard. -/
structure ScoreRow where
  source : String
  wins : ℕ
  losses : ℕ
  winRate : ℚ
  payoffRr : ℚ
  netPnl : ℚ
deriving DecidableEq, Repr

def channelMinSample : ℕ := 8
def channelPausePf : ℚ := 0
def channelNoAutoPause : List String := ["manual_market"]
def channelTrustMinSamples : ℕ := 20
def channelTrustMinWr : ℚ := 50

/-- `_channel_profit_factor`. -/
def ScoreRow.profitFactor (r : ScoreRow) : ℚ :=
  let wr := r.winRate / 100
  if r.payoffRr ≤ 0 then 0
  else if 1 ≤ wr then 99
  else roundTo 3 (wr * r.payoffRr / (1 - wr))

/-- The lot multiplier, and whether the channel is paused for its results. -/
def ScoreRow.verdict (r : ScoreRow) (src : String) : ℚ × Bool :=
  if r.wins + r.losses < channelMinSample ∨ src ∈ channelNoAutoPause then (1, false)
  else if r.profitFactor < channelPausePf then (1 / 2, true)
  else if r.winRate < 55 then (1, false)
  else (13 / 10, false)

/-- What the three criteria of `get_channel_trust` say of a row. -/
def PerformanceRow.trusted (r : PerformanceRow) : Bool :=
  decide (channelTrustMinSamples ≤ r.sampleN ∧ channelTrustMinWr ≤ r.winRate ∧ 0 < r.netPnl)

/-- The lot multiplier and the pause that a row says. -/
def lotMultOf : Option PerformanceRow → ℚ × Bool
  | none => (1, false)
  | some row => (if row.lotMult = 0 then 1 else row.lotMult, row.paused)

def strategyOf : Option PerformanceRow → Option String
  | none => none
  | some row => if row.autoStrategy then some "auto" else row.strategyOverride

/-- `f"Telegram Auto ({source})"`. -/
def wrapped (source : String) : String := String.ofList (decorated source.toList)

namespace ChannelDesk
variable (s : ChannelDesk)

def canonical (source : String) : String := Forex.canonical s.aliases.entries source

/-- The row of the channel that a source resolves to. -/
def rowOf (source : String) : Option PerformanceRow := s.performance (s.canonical source)

def upsert (name : String) (f : PerformanceRow → PerformanceRow) : ChannelDesk :=
  { s with
    performance :=
      Function.update s.performance name (some (f ((s.performance name).getD .empty))) }

/-- One pass of the loop of `recompute_channel_performance`, with the sources that it
reports as newly paused. -/
def recomputeRow (now : ℚ) (out : ChannelDesk × List String) (r : ScoreRow) :
    ChannelDesk × List String :=
  let s := out.1
  let src := s.canonical r.source
  let verdict := r.verdict src
  let row := (s.performance src).getD .empty
  let paused := if row.manualOverride then row.paused else verdict.2
  (s.upsert src fun row =>
      { row with
        lotMult := verdict.1
        winRate := r.winRate
        sampleN := r.wins + r.losses
        netPnl := r.netPnl
        paused := paused
        updatedAt := now },
    if !row.manualOverride && verdict.2 && !row.paused then out.2 ++ [src] else out.2)

def recomputeChannelPerformance (scorecard : List ScoreRow) (now : ℚ) :
    ChannelDesk × List String :=
  scorecard.foldl (recomputeRow now) (s, [])

def setChannelPaused (source : String) (paused : Bool) (now : ℚ) : ChannelDesk :=
  s.upsert (s.canonical source) fun row =>
    { row with paused := paused, manualOverride := true, updatedAt := now }

def setChannelStrategyOverride (source : String) (strategy : Option String) (auto : Bool)
    (now : ℚ) : ChannelDesk :=
  s.upsert (s.canonical source) fun row =>
    { row with strategyOverride := strategy, autoStrategy := auto, updatedAt := now }

/-- `get_channel_lot_mult`. -/
def getChannelLotMult (source : String) : ℚ × Bool :=
  if source = "" then (1, false) else lotMultOf (s.rowOf source)

def getChannelStrategyOverride (source : String) : Option String :=
  if source = "" then none else strategyOf (s.rowOf source)

/-- The table has a row under this very name that passes the criteria. -/
def trustsRow (name : String) : Bool := (s.performance name).any PerformanceRow.trusted

/-- `get_channel_trust`: the source as it is spelled, and in the wrapper. -/
def getChannelTrust (source : String) : Bool :=
  decide (source ≠ "") && [source, wrapped source].any s.trustsRow

/-- The names that the alias table leads to a canonical name. -/
def variants (canon : String) : List String :=
  (s.aliases.entries.map Prod.fst).filter fun name =>
    decide (s.aliases.entries.get name = some canon)

/-- The open trades stamped with one of these names. -/
def openStamped (names : List String) : ℕ :=
  s.trades.countP fun t => t.isOpen && t.tgSource.any fun source => decide (source ∈ names)

def getOpenTradeCountForChannel (source : String) : ℕ :=
  let canon := s.canonical source
  match s.variants canon with
  | [] => s.openStamped [canon, source]
  | name :: names => s.openStamped (name :: names)

/-- `_fold_renamed_row` on `channel_performance`: only a strategy that is set is carried
over to a row that is there, with its flag. -/
def foldRenamedRow (performance : Performance) (old new : String) : Performance :=
  match performance old with
  | none => performance
  | some row =>
      let kept := match performance new with
        | none => row
        | some there =>
            if row.strategyOverride.isSome then
              { there with
                strategyOverride := row.strategyOverride
                autoStrategy := row.autoStrategy }
            else there
      Function.update (Function.update performance new (some kept)) old none

/-- `sync_channel_rename`, with no statement failing. -/
def syncChannelRename (oldName newName : String) : ChannelDesk :=
  match renameNames s.aliases.entries oldName newName with
  | none => s
  | some names =>
      let first := foldRenamedRow s.performance names.old names.new
      { performance :=
          if names.canon = names.old then first else foldRenamedRow first names.canon names.new
        aliases := ⟨names.moveAliases s.aliases.entries, s.aliases.settled.moveAliases names⟩
        trades := s.trades.map fun t =>
          if t.tgSource = some names.canon ∨ t.tgSource = some names.old then
            { t with tgSource := some names.new }
          else t }

end ChannelDesk
end Forex
