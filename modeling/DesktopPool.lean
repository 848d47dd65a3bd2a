import DesktopPool.Number.Binary
import DesktopPool.Number.Shortest
import DesktopPool.Number.Text
import DesktopPool.Number.Read
import DesktopPool.Fault
import DesktopPool.Text.Blank
import DesktopPool.Text.Unicode
import DesktopPool.Text.Cells
import DesktopPool.Text.Quoted
import DesktopPool.Value.Basic
import DesktopPool.Value.Text
import DesktopPool.Value.Number
import DesktopPool.Value.Keywords
import DesktopPool.Json.Read
import DesktopPool.Json.Write
import DesktopPool.Host.Name
import DesktopPool.Node
import DesktopPool.Capacity.Scaling
import DesktopPool.Capacity.Plan
import DesktopPool.Secret
import DesktopPool.Command
import DesktopPool.Retry.Settings
import DesktopPool.Retry.Backoff
import DesktopPool.Config.Sections
import DesktopPool.Config.Settings
import DesktopPool.Setup.Script
import DesktopPool.AzCli.Calls
import DesktopPool.AzCli.Compute
import DesktopPool.AzCli.Directory
import DesktopPool.AzCli.Executor
import DesktopPool.AzCli.Scripted
import DesktopPool.Cli.Console
import DesktopPool.Cli.Grammar
import DesktopPool.Cli.Run
import DesktopPool.Cli.Table
import DesktopPool.Config.Store
import DesktopPool.Disk
import DesktopPool.Host.Session
import DesktopPool.Main
import DesktopPool.Pass.Classify
import DesktopPool.Pass.Events
import DesktopPool.Pass.Lifecycle
import DesktopPool.Pass.Reconcile
import DesktopPool.Pass.Reservations
import DesktopPool.Service
import DesktopPool.Simulation
import DesktopPool.Slot.Group
import DesktopPool.Text.Sort
import DesktopPool.Toml.Chars
import DesktopPool.Toml.Document
import DesktopPool.Toml.Fresh
import DesktopPool.Toml.Layout
import DesktopPool.Toml.Read
import DesktopPool.Value.Access
import DesktopPool.Value.Equal
import DesktopPool.World.Basic
import DesktopPool.World.Scene
import DesktopPool.World.Setup
import DesktopPool.Proofs.Pass.Run
import DesktopPool.Proofs.Pass.Trace
import DesktopPool.Proofs.Value.Faults
import DesktopPool.Proofs.Value.Whole
import DesktopPool.Proofs.Pass.Phases
import DesktopPool.Proofs.Pass.Locking
import DesktopPool.Proofs.Pass.Faults
import DesktopPool.Proofs.World.Services
import DesktopPool.Proofs.Pass.Fatal
import DesktopPool.Proofs.Pass.Accounting
import DesktopPool.Proofs.Host.Names
import DesktopPool.Proofs.Pass.Deletions
import DesktopPool.Proofs.Setup.Literals
import DesktopPool.Proofs.Config.ReadBack
import DesktopPool.Proofs.Config.SaveLoad
import DesktopPool.Proofs.Concurrency.Steps
import DesktopPool.Proofs.Concurrency.Erasures
import DesktopPool.Proofs.Concurrency.FanOut
import DesktopPool.Proofs.Pass.Exclusion
import DesktopPool.Proofs.Convergence.Calm
import DesktopPool.Proofs.Convergence.Pool
import DesktopPool.Proofs.Convergence.Stages
import DesktopPool.Proofs.Host.Classification
import DesktopPool.Proofs.Number.Quotient
import DesktopPool.Proofs.Capacity.Target
import DesktopPool.Proofs.Reservations.Rebuild
import DesktopPool.Proofs.AzCli.Secrets
import DesktopPool.Proofs.Convergence.Closing
import DesktopPool.Proofs.Convergence.Survey
import DesktopPool.Proofs.Convergence.Converge
import DesktopPool.Proofs.Convergence.Settling
import DesktopPool.Proofs.Host.Grammar
import DesktopPool.Proofs.Pass.Stepwise
import DesktopPool.Proofs.Reservations.Workloads
import DesktopPool.Proofs.Number.Doubling
import DesktopPool.Proofs.Retry.Schedule
import DesktopPool.Proofs.Convergence.Idempotence
import DesktopPool.Proofs.AzCli.Masking
import DesktopPool.Proofs.AzCli.SlotNames
import DesktopPool.Proofs.Retry.Simulation
import DesktopPool.Proofs.AzCli.Attempts
import DesktopPool.Proofs.AzCli.Clock
import DesktopPool.Proofs.AzCli.Polling
import DesktopPool.Proofs.AzCli.Readiness
import DesktopPool.Proofs.AzCli.ScriptRuns
import DesktopPool.Proofs.AzCli.Deadlines
