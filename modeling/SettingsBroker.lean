import SettingsBroker.Broker.Session
import SettingsBroker.PlanSource.Calls
import SettingsBroker.Proofs.Broker.Calm
import SettingsBroker.Proofs.Broker.Convergence
import SettingsBroker.Proofs.Broker.Freshness
import SettingsBroker.Proofs.Broker.Ledger
import SettingsBroker.Proofs.Broker.Rebuilds
import SettingsBroker.Proofs.Broker.Reports
import SettingsBroker.Proofs.Broker.Visits
import SettingsBroker.Proofs.Cache.Contents
import SettingsBroker.Proofs.Cache.Provenance
import SettingsBroker.Proofs.Cache.Waiters
import SettingsBroker.Proofs.Graph.Affected
import SettingsBroker.Proofs.Plan.Changed
import SettingsBroker.Proofs.Broker.Arrivals
import SettingsBroker.Proofs.Rereading
import SettingsBroker.Proofs.Plan.Calls
import SettingsBroker.Proofs.Windows
import SettingsBroker.Proofs.Cache.Alone
import SettingsBroker.Proofs.Stored
import SettingsBroker.Proofs.Graph.Walk
import SettingsBroker.Proofs.Plan.Settings
import SettingsBroker.Proofs.CommandLine
import SettingsBroker.Proofs.ChangeBatch
import SettingsBroker.Proofs.Delegate
import SettingsBroker.Proofs.CompileDatabase
import SettingsBroker.Proofs.Cache.Invalidation
import SettingsBroker.Proofs.Graph.Repeated
import SettingsBroker.Proofs.Spellings
import SettingsBroker.Proofs.Cache.Refresh
import SettingsBroker.Proofs.Extension
import SettingsBroker.Proofs.Fallback
