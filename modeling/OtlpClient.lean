import OtlpClient.Model.WellTyped
import OtlpClient.Model.Leaves
import OtlpClient.Encoding.Json
import OtlpClient.Encoding.Protobuf
import OtlpClient.Encoding.Agree
import OtlpClient.Encoding.Dumps
import OtlpClient.Encoding.Accepted
import OtlpClient.Encoding.Strict
import OtlpClient.Encoding.Lossless
import OtlpClient.Encoding.Decode
import OtlpClient.Encoding.Response
import OtlpClient.Encoding.Rendering
import OtlpClient.Config.Env
import OtlpClient.Config.Signals
import OtlpClient.Config.Limits
import OtlpClient.Config.Endpoints
import OtlpClient.Config.HeaderText
import OtlpClient.Outcomes
import OtlpClient.Proto.Coerce
import OtlpClient.Errors
import OtlpClient.Retry
import OtlpClient.Retry.Schedule
import OtlpClient.Support.Exact
import OtlpClient.Retry.Overflow
import OtlpClient.Support.History
import OtlpClient.Support.Raising
import OtlpClient.Transport.Http
import OtlpClient.Client
import OtlpClient.Client.Protocol
import OtlpClient.Client.Reports
import OtlpClient.Client.Headers
import OtlpClient.Client.Budget
import OtlpClient.Credentials.Machine
import OtlpClient.Credentials.Minting
import OtlpClient.Credentials.Replies
import OtlpClient.Credentials.Atomic
import OtlpClient.Credentials.Caching
import OtlpClient.Credentials.Basic
import OtlpClient.Processor.Machine
import OtlpClient.Processor.Coherence
import OtlpClient.Processor.Conservation
import OtlpClient.Processor.Order
import OtlpClient.Processor.Shutdown
import OtlpClient.Processor.Exported
import OtlpClient.Processor.DataPoints
import OtlpClient.Processor.Quiescence
import OtlpClient.Processor.Wakeup
import OtlpClient.Processor.Cancellation
import OtlpClient.Processor.Health
import OtlpClient.Processor.Warnings
import OtlpClient.Processor.Budget
import OtlpClient.Support.Refinement
import OtlpClient.Processor.Board
import OtlpClient.Processor.Flushed
import OtlpClient.Processor.Progress
import OtlpClient.Proto.Lexical
import OtlpClient.Encoding.Body
import OtlpClient.Client.Delivery
import OtlpClient.Processor.Delivery
import OtlpClient.Client.Outage
import OtlpClient.Support.Ranks
import OtlpClient.Support.Relational
import OtlpClient.Credentials.Exports
import OtlpClient.Credentials.Progress
import OtlpClient.Config.Environment
import OtlpClient.Client.Interchange
import OtlpClient.Support.Urlparse
import OtlpClient.Config.OwnEndpoints
import OtlpClient.Transport.Target
import OtlpClient.Client.Create
import OtlpClient.Client.Lifetime
import OtlpClient.Model.Builders
import OtlpClient.Encoding.Built
