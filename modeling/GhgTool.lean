import GhgTool.Loop
import GhgTool.Table
import GhgTool.Blocks
import GhgTool.Tally
import GhgTool.Text
import GhgTool.EmissionRecord
import GhgTool.FactorCatalog
import GhgTool.CalcModule
import GhgTool.Scope1
import GhgTool.Scope2
import GhgTool.Scope3
import GhgTool.Scope3FixedFactors
import GhgTool.CalcOrchestrator
import GhgTool.EmissionsTable
import GhgTool.CalcPersistence
import GhgTool.LedgerInsert
import GhgTool.Persistable
import GhgTool.DualTrack
import GhgTool.Dimensions
import GhgTool.FactorAvailability
import GhgTool.Correction
import GhgTool.Runs
import GhgTool.SqlLogic
import GhgTool.LedgerTrigger
import GhgTool.EmissionsRouter
import GhgTool.Rerun
import GhgTool.ReadCommitted
import GhgTool.KeyedRows
import GhgTool.CalcInput
import GhgTool.CalcInsert
import GhgTool.Chains
import GhgTool.CorrectionChain
import GhgTool.Idempotency
import GhgTool.TenantIndependence
import GhgTool.AuthState
import GhgTool.AuthRouter
import GhgTool.UsersRouter
import GhgTool.AuthSystem
import GhgTool.AuthInvariant
import GhgTool.RefreshRotation
import GhgTool.SessionLiveness
import GhgTool.Revocation
import GhgTool.UserRow
import GhgTool.SecondFactor
import GhgTool.IssuedAuthority
import GhgTool.Erasure
import GhgTool.LastAdmin
import GhgTool.TotpInterleaving
import GhgTool.OtpReplay
import GhgTool.ChallengeInterleaving
import GhgTool.FactorPublish
import GhgTool.TwoEyes
import GhgTool.ProposedContent
import GhgTool.HalfUp
import GhgTool.Plan
import GhgTool.FallibleSort
import GhgTool.Dict
import GhgTool.AutoCalc
import GhgTool.PreviewSides
import GhgTool.AutoCalcHandlers
import GhgTool.AutoCalcAgreement
import GhgTool.PreviewLookups
import GhgTool.StreamPairing
import GhgTool.DualRunPairing
import GhgTool.RunPlan
import GhgTool.GoEvidence
import GhgTool.RowCoverage
import GhgTool.RowOrder
import GhgTool.TrackCoherence
import GhgTool.YoyStats
import GhgTool.Reconciliation
import GhgTool.MassConservation
import GhgTool.ScopeTotals
import GhgTool.Pagination
import GhgTool.FactorVintage
import GhgTool.Provenance
import GhgTool.EtlFrames
import GhgTool.SynthRows
import GhgTool.DqGates
import GhgTool.StagingWriter
import GhgTool.GroupedSums
import GhgTool.IntensityView
import GhgTool.Cat3Reconciliation
import GhgTool.EtlOrchestrator
import GhgTool.GateCoverage
import GhgTool.SynthClosure
import GhgTool.KeyedInsert
import GhgTool.ExcelImport
import GhgTool.TenantScoping
import GhgTool.SlidingWindow
import GhgTool.RateLimit
import GhgTool.TokenLifetime
import GhgTool.RowTriggers
import GhgTool.ChartAnnotations
import GhgTool.SbtiTargets
import GhgTool.SeedLoader
import GhgTool.GoVersions
import GhgTool.DraftFactors
import GhgTool.PreviewInsert
import GhgTool.UnitLaw
import GhgTool.SbtiTrajectory
import GhgTool.IntensityLaw
import GhgTool.Materiality
import GhgTool.Neighbours
import GhgTool.YoyDeltas
import GhgTool.Hotspots
import GhgTool.HotspotAnalysis
import GhgTool.Cat12Routes
import GhgTool.LabelFragments
import GhgTool.DecimalContext
import GhgTool.PreviewPrecision
import GhgTool.PrecisionLimits
import GhgTool.PreviewFailures
import GhgTool.PreviewLossless
import GhgTool.PrecisionTotals
import GhgTool.Rewriting
import GhgTool.DsnNormalisers
import GhgTool.DqFindings
import GhgTool.FactorMigrations
import GhgTool.MetadataDefaulting
import GhgTool.Deviation
import GhgTool.OutlierGate
import GhgTool.ReportWorkbook
import GhgTool.RowSecurity
import GhgTool.SecuredRuns
import GhgTool.RlsPolicies
import GhgTool.TenantIsolation
import GhgTool.RoleRename
import GhgTool.KpiFeed
import GhgTool.Base64
import GhgTool.Reports
import GhgTool.ExportJobs
import GhgTool.IdempotencyCleanup
import GhgTool.AuditRetention
import GhgTool.LoginPage
import GhgTool.ReportSnapshots
