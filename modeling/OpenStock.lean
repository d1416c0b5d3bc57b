import OpenStock.Assistant.Symbols
import OpenStock.CorporateActions.Invalidation
import OpenStock.CorporateActions.Retries
import OpenStock.DataAvailability.Service
import OpenStock.Ingestion.SelectionTies
import OpenStock.Ingestion.CurrentProjection
import OpenStock.Maintenance.Stranding
import OpenStock.Providers.FanOut
import OpenStock.Queue.Joining
import OpenStock.Queue.Schema
import OpenStock.Queue.RecordedExecutions
import OpenStock.Ranking.PromotionGate
import OpenStock.Providers.CacheBackends
import OpenStock.Providers.CacheKeys
import OpenStock.Providers.CredentialSafety
import OpenStock.Providers.HealthHistory
import OpenStock.Providers.OhlcvValidator
import OpenStock.Providers.RoundRobin
import OpenStock.Workspaces.Turns
import OpenStock.Workspaces.Concurrency
import OpenStock.Providers.EventEvidence
import OpenStock.ClosedLoop.RepairRuns
import OpenStock.ClosedLoop.DeploymentRuns
import OpenStock.Sandbox.GuardPromises
import OpenStock.SymbolMemory.LookAhead
import OpenStock.SymbolMemory.Following
import OpenStock.CorporateActions.Revisions
import OpenStock.Outcomes.CurrentAggregates
import OpenStock.Outcomes.Extremes
import OpenStock.CorporateActions.RetriedRebuild
import OpenStock.Ranking.RankCorrelations
import OpenStock.Ranking.ReplayArithmetic
import OpenStock.Ranking.ScoreClasses
import OpenStock.Ranking.Watchlist
import OpenStock.SymbolMemory.Locks
import OpenStock.Commands.Grammar
import OpenStock.CurrentSymbol.OhlcvRanges
import OpenStock.CurrentSymbol.Truthfulness
import OpenStock.Features.FullHistory
import OpenStock.Features.Gates
import OpenStock.Ingestion.GapEvidence
import OpenStock.Maintenance.Daily
import OpenStock.Queue.Pruning
import OpenStock.Queue.Service
import OpenStock.Workspaces.Cleaning
import OpenStock.Workspaces.InterruptedMigration
import OpenStock.Workspaces.ReadBack
import OpenStock.Workspaces.Retention
import OpenStock.SymbolMemory.MutateAndCompact
