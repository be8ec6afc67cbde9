import DSProd.Library.Dict
import DSProd.Library.Run
import DSProd.Library.Instants
import DSProd.Storage.PathCache
import DSProd.Storage.Interface
import DSProd.Storage.StaticTree
import DSProd.SiteStats.Core
import DSProd.SiteStats.Judging
import DSProd.Crab.JobCount
import DSProd.Crab.JobManager
import DSProd.SiteStats.Baseline
import DSProd.SiteStats.Cap
import DSProd.SiteStats.Escalation
import DSProd.Watchdog.Flags
import DSProd.Watchdog.Healthy
import DSProd.Crab.Conservation
import DSProd.Library.Pool
import DSProd.Library.Rounding
import DSProd.Production.Accounted
import DSProd.Crab.WaveGate
import DSProd.Watchdog.Budgets
import DSProd.SiteStats.Persistence
import DSProd.Crab.RepeatedStalls
import DSProd.Crab.StopReason
import DSProd.Production.Repair
import DSProd.Tasks.Construction
import DSProd.Storage.Publishing
import DSProd.Storage.OwnWrites
import DSProd.Tasks.SharedRuns
import DSProd.Crab.ReleaseClock
import DSProd.Crab.Overtaking
import DSProd.SiteStats.Loading
import DSProd.Storage.Removing
import DSProd.Storage.Verifying
import DSProd.Production.PruneReport
import DSProd.Production.Backfilling
import DSProd.Tasks.Narrowing
import DSProd.Env.Marking
import DSProd.Watchdog.Heartbeat
import DSProd.Crab.SiteSelection
import DSProd.Crab.JobConfig
import DSProd.Tasks.Resources
import DSProd.Gridpacks.Fetching
import DSProd.Crab.WaveSizes
import DSProd.Crab.Spared
import DSProd.Crab.SiteList
import DSProd.Crab.Exclusion
import DSProd.Production.Prepared
import DSProd.Crab.Completeness
import DSProd.Storage.Spoken
import DSProd.Crab.FailureReports
import DSProd.Storage.Printed
import DSProd.Crab.PayloadLog
import DSProd.Crab.CodeTarball
import DSProd.Storage.VomsProxy
