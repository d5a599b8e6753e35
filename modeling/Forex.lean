import Forex.Support.Run
import Forex.Support.Decimal
import Forex.Support.Table
import Forex.Support.Walk
import Forex.Broker.Terminal
import Forex.Ledger.Schema
import Forex.Ledger.TradeRepo
import Forex.Broker.Comments
import Forex.Ledger.ProfitSync
import Forex.Ledger.Closers
import Forex.Ledger.Conservation
import Forex.Ledger.FinalProfit
import Forex.Close.CloseTrade
import Forex.Close.TpLadder
import Forex.Close.Confirmed
import Forex.Close.LadderConfirmed
import Forex.Close.WholeTrade
import Forex.Reconcile.Pollers
import Forex.Reconcile.FailedReads
import Forex.Reconcile.SyncCycle
import Forex.Reconcile.MissStreak
import Forex.Reconcile.ClosedVolume
import Forex.Reconcile.TicketTracking
import Forex.Reconcile.Orphans
import Forex.Reconcile.PlaceholderRepair
import Forex.Cluster.Handover
import Forex.Monitor.Dispatch
import Forex.Monitor.Cycle
import Forex.Send.Classified
import Forex.Broker.Dedup
import Forex.Send.OpenTrade
import Forex.Ea.LegEvents
import Forex.Ea.DeadGrid
import Forex.Signals.Desk
import Forex.Signals.SlotCap
import Forex.Signals.SoleTrade
import Forex.Signals.Watcher
import Forex.Signals.ZoneRace
import Forex.Signals.Resting
import Forex.Signals.RestingBook
import Forex.Signals.RestingRow
import Forex.Reconcile.Diff
import Forex.Send.Sites
import Forex.Send.Accounted
import Forex.Telegram.Inbox
import Forex.Telegram.Channels
import Forex.Telegram.Orders
import Forex.Telegram.Scan
import Forex.Telegram.Stages
import Forex.Telegram.Routes
import Forex.Telegram.FollowUp
import Forex.Telegram.Edits
import Forex.Telegram.Views
import Forex.Telegram.Rescan
import Forex.Telegram.Settled
import Forex.Telegram.Batch
import Forex.Risk.CircuitBreaker
import Forex.Risk.Basket
import Forex.Risk.BreakerRace
import Forex.Reconcile.Partition
import Forex.Cluster.Acks
import Forex.Cluster.SettingsSync
import Forex.Strategy.EaLadder
import Forex.Strategy.LadderRun
import Forex.Strategy.LadderOnce
import Forex.Strategy.LadderStop
import Forex.Support.Flow
import Forex.Broker.ModifyPosition
import Forex.Strategy.StopDesk
import Forex.Strategy.Handlers
import Forex.Strategy.Ratchet
import Forex.Strategy.StopEvents
import Forex.Strategy.BrokerStop
import Forex.Support.Nest
import Forex.Risk.Schedule
import Forex.Risk.ScheduleGate
import Forex.Risk.Governor
import Forex.Cluster.Forwarding
import Forex.Store.Transaction
import Forex.Store.ChannelRename
import Forex.Store.AccountRegistry
import Forex.Signals.GapFire
import Forex.Signals.Rearm
import Forex.Cluster.ConsolidatedLedger
import Forex.Support.Position
import Forex.Backtest.TemplateLadder
import Forex.Backtest.TemplateWalk
import Forex.Backtest.BarPessimism
import Forex.Reversal.ProOutcome
import Forex.Backtest.LadderLive
import Forex.Backtest.LadderAbreast
import Forex.Send.RecordedSize
import Forex.Signals.GapRevalidation
import Forex.Support.Message
import Forex.Signals.RetryBudget
import Forex.Reversal.LiveExecute
import Forex.Reversal.LiveOnce
import Forex.Reversal.LiveOutcome
import Forex.Reversal.LiveMirrors
import Forex.Reversal.Manage
import Forex.Reversal.Books
import Forex.Reversal.Balance
import Forex.Reversal.Profile
import Forex.Channels.Aliases
import Forex.Channels.Performance
import Forex.Channels.Renames
import Forex.Channels.Spelling
import Forex.Support.Loop
import Forex.Support.Smoothing
import Forex.Backtest.Atr
import Forex.Backtest.AtrLive
import Forex.Backtest.Simulators
import Forex.Backtest.RunBacktest
import Forex.Backtest.WalkEnds
import Forex.Backtest.NoLookAhead
import Forex.Strategy.BreakevenLevel
import Forex.Strategy.SafetyNet
import Forex.Telegram.Holds
import Forex.Telegram.SecondMessage
import Forex.Telegram.Realignment
import Forex.Send.Lookup
import Forex.Reversal.IctPatterns
import Forex.Reversal.EngineAtr
import Forex.Reversal.UnicornSetup
import Forex.Support.Clusters
import Forex.Reversal.LiquidityPools
import Forex.Reversal.LevelDetector
import Forex.Reversal.AsiaSession
import Forex.Reversal.LevelMerge
import Forex.Reversal.SignalLevels
import Forex.Channels.Scorecard
import Forex.Reversal.VirtualLadder
import Forex.Support.Parts
import Forex.Backtest.Accounting
import Forex.Backtest.SimulatorBooks
import Forex.Backtest.LadderAccounting
import Forex.Backtest.TradeAccounts
import Forex.Telegram.RiskFree
import Forex.Strategy.FollowUpLevels
import Forex.Support.Rounding
import Forex.Risk.Sizing
import Forex.Risk.SizingPolicy
import Forex.Telegram.InstantStop
import Forex.Signals.ResolvedLot
import Forex.Telegram.TpAutocorrect
import Forex.Broker.Sides
import Forex.Strategy.ScalpTrail
import Forex.Strategy.StopBehind
import Forex.Parser.Totality
import Forex.Parser.Gd2Classes
import Forex.Broker.StopClamp
import Forex.Signals.CloseTable
import Forex.Backtest.TemplateResolution
import Forex.Strategy.SwingStop
import Forex.Reconcile.Signature
import Forex.Reversal.RoundNumbers
import Forex.Support.Blocks
import Forex.Support.Overlap
import Forex.Support.Tiling
import Forex.Market.PurgedFolds
import Forex.Market.UniquenessWeights
import Forex.Market.ExitReplay
import Forex.Market.VolumeProfile
import Forex.Market.TradingWeek
import Forex.Monitor.EaLink
import Forex.Monitor.BridgeWatchdog
import Forex.Signals.ClosedMarketQueue
import Forex.Support.Throttle
import Forex.Market.Adx
import Forex.Strategy.AdaptiveParams
import Forex.Strategy.DpmHandler
