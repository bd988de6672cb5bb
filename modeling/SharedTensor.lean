import SharedTensor.Descriptor.Json
import SharedTensor.Host.Holdings
import SharedTensor.Library
import SharedTensor.Session.Step
import SharedTensor.Proofs.Client
import SharedTensor.Proofs.Client.Effect
import SharedTensor.Proofs.Tally
import SharedTensor.Proofs.Client.Balance
import SharedTensor.Proofs.Client.Run
import SharedTensor.Proofs.Client.Account
import SharedTensor.Proofs.Client.Keep
import SharedTensor.Proofs.Client.Statistics
import SharedTensor.Proofs.Client.Release
import SharedTensor.Proofs.Layout
import SharedTensor.Proofs.Layout.Count
import SharedTensor.Proofs.Read
import SharedTensor.Proofs.Client.Extent
import SharedTensor.Proofs.Interchange
import SharedTensor.Proofs.Export
import SharedTensor.Proofs.Drop
import SharedTensor.Proofs.Kinds
import SharedTensor.Proofs.Import
import SharedTensor.Proofs.Client.RoundTrip
import SharedTensor.Proofs.Session
import SharedTensor.Proofs.Client.Failure
import SharedTensor.Proofs.Client.Change
import SharedTensor.Proofs.Client.Preserve
import SharedTensor.Proofs.Layout.Walk
import SharedTensor.Proofs.Client.Strided
import SharedTensor.Proofs.Client.Lifetime
import SharedTensor.Proofs.Client.Validity
import SharedTensor.Proofs.View
import SharedTensor.Proofs.Client.View
import SharedTensor.Proofs.Client.Export
import SharedTensor.Proofs.Client.Carry
import SharedTensor.Proofs.Client.Chain
import SharedTensor.Proofs.Client.Checked
import SharedTensor.Proofs.Client.NullData
import SharedTensor.Proofs.Json.Token
import SharedTensor.Proofs.Json
import SharedTensor.Proofs.Json.Members
import SharedTensor.Proofs.Config
import SharedTensor.Proofs.Disk
import SharedTensor.Proofs.Config.Manager
import SharedTensor.Proofs.Config.Desk
import SharedTensor.Proofs.Config.Watch
import SharedTensor.Proofs.Layout.Span
import SharedTensor.Proofs.Reach
import SharedTensor.Proofs.Pool
import SharedTensor.Proofs.Create
import SharedTensor.Proofs.Config.Alignment
import SharedTensor.Proofs.Client.Path
import SharedTensor.Proofs.Client.Cascade
import SharedTensor.Proofs.Layout.RowMajor
import SharedTensor.Proofs.Layout.WordWalk
import SharedTensor.Proofs.Gather
import SharedTensor.Proofs.Client.Contiguous
import SharedTensor.Proofs.BufferSize
import SharedTensor.Proofs.Client.Allocation
import SharedTensor.Proofs.OfList
import SharedTensor.Proofs.Client.OfList
import SharedTensor.Proofs.Text.Decimal
import SharedTensor.Proofs.ElementType.Name
import SharedTensor.Proofs.ElementType.TypeString
import SharedTensor.Proofs.ElementType.Exchange
import SharedTensor.Proofs.Descriptor.Json
import SharedTensor.Proofs.Device
import SharedTensor.Proofs.Config.Partial
