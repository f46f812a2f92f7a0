import SystemSettings.Program
import SystemSettings.Policy
import SystemSettings.Platform
import SystemSettings.DateTimeModel
import SystemSettings.ModelOutcome
import SystemSettings.ModelSession
import SystemSettings.LockBalance
import SystemSettings.PersistBeforePublish
import SystemSettings.Reentrancy
import SystemSettings.Cli
import SystemSettings.CliSection
import SystemSettings.NativeClock
import SystemSettings.LocalityState
import SystemSettings.Reconciliation
import SystemSettings.Recovery
import SystemSettings.ReferenceCoordinate
import SystemSettings.Decimal
import SystemSettings.HomePresenter
import SystemSettings.OperationExclusion
import SystemSettings.PayloadBounds
import SystemSettings.PayloadCopy
import SystemSettings.Preview
import SystemSettings.ServiceLifetime
import SystemSettings.CliCommit
import SystemSettings.CliSetters
import SystemSettings.CliTransaction
import SystemSettings.CommonManifest
import SystemSettings.FileTree
import SystemSettings.FileWalk
import SystemSettings.ManifestAgreement
import SystemSettings.ObserverCoverage
import SystemSettings.ShellCommand
import SystemSettings.TrustedProgram
import SystemSettings.LocalityHistory
import SystemSettings.ZoneTable
import SystemSettings.ModulePages
import SystemSettings.LocationSearch
import SystemSettings.NormalizedDefault
import SystemSettings.WindowsStoreAtomic
import SystemSettings.PanelControls
import SystemSettings.RecoveryRetry
import SystemSettings.ManualDraftClock
import SystemSettings.ManualTimeGrammar
import SystemSettings.CivilCalendar
import SystemSettings.ManualDateTime
import SystemSettings.ZoneList
import SystemSettings.TreeComparison
import SystemSettings.DiskTree
import SystemSettings.TreeRemoval
import SystemSettings.LocalityRoundTrip
import SystemSettings.AdvisoryLock
import SystemSettings.LockContention
import SystemSettings.SearchPanel
import SystemSettings.NewestSearch
import SystemSettings.HomePolicyWatch
import SystemSettings.CallHistory
import SystemSettings.NativeInstaller
import SystemSettings.InstallerOrder
import SystemSettings.NativeStore
import SystemSettings.DesktopMirror
import SystemSettings.SourceAssetBuilder
import SystemSettings.ReleaseAssets
import SystemSettings.BuilderConfinement
import SystemSettings.TreeTimes
import SystemSettings.PreviewTimer
import SystemSettings.WindowsLock
import SystemSettings.HomeStatus
import SystemSettings.HomeClock
import SystemSettings.LinuxTheme
