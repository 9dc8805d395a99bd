import Teleport.Ai.Tools.CommandExec
import Teleport.Backend.Bytes
import Teleport.Backend.ExpiringMap
import Teleport.Backend.Pgbk.Config
import Teleport.Backend.Pgbk.Table
import Teleport.Backend.Pgbk.Backend
import Teleport.Backend.Pgbk.Verify.Refinement
import Teleport.Backend.Pgbk.Verify.Effects
import Teleport.Backend.Pgbk.Verify.Retry
import Teleport.Backend.Pgbk.Verify.NilSlices
import Teleport.Backend.Pgbk.Verify.Serial
import Teleport.Backend.Pgbk.Verify.Runs
import Teleport.Backend.Pgbk.New
import Teleport.Teleterm.Daemon.Gateways
import Teleport.Teleterm.Daemon.Relogin
import Teleport.Teleterm.Daemon.Lifecycle
import Teleport.Teleterm.Daemon.Verify.Registry
import Teleport.Teleterm.Daemon.Verify.Failures
import Teleport.Teleterm.Daemon.Verify.Frame
import Teleport.Teleterm.Daemon.Verify.Modals
import Teleport.Teleterm.Daemon.Verify.Lifecycle
