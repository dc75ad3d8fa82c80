import ChillerGateway.Config.File
import ChillerGateway.Gateway.Operator
import ChillerGateway.Main
import ChillerGateway.Metrics.Exposition
import ChillerGateway.Net.Tls
import ChillerGateway.Proofs.Config.Changes
import ChillerGateway.Proofs.Config.Devices
import ChillerGateway.Proofs.Device.Agreement
import ChillerGateway.Proofs.Device.Chunks
import ChillerGateway.Proofs.Device.CommandLines
import ChillerGateway.Proofs.Device.Confirmation
import ChillerGateway.Proofs.Device.LateAnswers
import ChillerGateway.Proofs.Device.NextQuery
import ChillerGateway.Proofs.Device.Pacing
import ChillerGateway.Proofs.Gateway.Accounts
import ChillerGateway.Proofs.Gateway.Budget
import ChillerGateway.Proofs.Gateway.ConfirmedSetpoints
import ChillerGateway.Proofs.Gateway.Cuts
import ChillerGateway.Proofs.Gateway.Down
import ChillerGateway.Proofs.Gateway.Isolation
import ChillerGateway.Proofs.Gateway.ReadOnly
import ChillerGateway.Proofs.Gateway.Silenced
import ChillerGateway.Proofs.Gateway.Unauthorized
import ChillerGateway.Proofs.Gateway.Watched
import ChillerGateway.Proofs.Gateway.Wire
import ChillerGateway.Proofs.RateLimiter.LateCalls
import ChillerGateway.Proofs.RateLimiter.Memory
import ChillerGateway.Proofs.ReplyLine
import ChillerGateway.Proofs.Schedule.Layout
import ChillerGateway.Proofs.Schedule.Progress
import ChillerGateway.Proofs.Schedule.Reload
import ChillerGateway.Proofs.Schedule.Runs
import ChillerGateway.Proofs.Schedule.SafeTargets
import ChillerGateway.Proofs.Watchdog.Backoff
