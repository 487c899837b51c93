import ArbitrageBot.Risk.DailyDrawdown
import ArbitrageBot.Risk.Recovery
import ArbitrageBot.Contract.CallTrace
import ArbitrageBot.Contract.Custody
import ArbitrageBot.System.KillSwitch
import ArbitrageBot.System.Hydration
import ArbitrageBot.System.FatalReport
import ArbitrageBot.System.Persistence
import ArbitrageBot.Risk.RateLimit
import ArbitrageBot.System.ConfiguredKill
import ArbitrageBot.System.LiveArming
import ArbitrageBot.System.Attempts
import ArbitrageBot.System.Restart
import ArbitrageBot.Backtest.History
import ArbitrageBot.Backtest.Accounting
import ArbitrageBot.Backtest.Agreement
import ArbitrageBot.Backtest.HealthContext
import ArbitrageBot.Backtest.Tolerance
import ArbitrageBot.Backtest.LegacyNegatives
import ArbitrageBot.Backtest.Run
import ArbitrageBot.Readiness.KpiGate
import ArbitrageBot.Readiness.Ranking
import ArbitrageBot.Readiness.Report
import ArbitrageBot.Readiness.Standings
import ArbitrageBot.Readiness.DailySummary
import ArbitrageBot.QuoteEngine.PaperTrading
import ArbitrageBot.QuoteEngine.EdgePersistence
import ArbitrageBot.QuoteEngine.EdgeRounding
import ArbitrageBot.System.Freshness
import ArbitrageBot.System.Unavailability
import ArbitrageBot.System.Instability
import ArbitrageBot.System.GasTelemetry
import ArbitrageBot.Health.Migration
import ArbitrageBot.Health.Windows
import ArbitrageBot.Health.LatestListing
import ArbitrageBot.Health.VenueHealth
import ArbitrageBot.Health.VenueReport
import ArbitrageBot.System.Cooldown
import ArbitrageBot.System.Overview
import ArbitrageBot.System.TradeLedger
import ArbitrageBot.System.PnlLedger
import ArbitrageBot.System.Progress
import ArbitrageBot.System.OperatorPauses
import ArbitrageBot.System.DrawdownStop
import ArbitrageBot.Contract.Authority
import ArbitrageBot.System.BalanceProbe
import ArbitrageBot.System.Seeding
import ArbitrageBot.Exchanges.V3Pool
import ArbitrageBot.Exchanges.RoundTrip
import ArbitrageBot.Exchanges.MockMarket
import ArbitrageBot.System.PersistedText
import ArbitrageBot.System.Evidence
import ArbitrageBot.System.PromotionEvidence
import ArbitrageBot.Risk.Isolation
import ArbitrageBot.Contract.Completeness
import ArbitrageBot.Dashboard.Trends
