import RecordExchange.Main
import RecordExchange.Proofs.Ring.Unread
import RecordExchange.Text.Duration
import RecordExchange.Workbench
import RecordExchange.Proofs.Ring.Fifo
import RecordExchange.Proofs.Ring.Transit
import RecordExchange.Proofs.Ring.Chunks
import RecordExchange.Proofs.Ring.LongTransfer
import RecordExchange.Proofs.Outlet
import RecordExchange.Proofs.Overflow.Tiers
import RecordExchange.Proofs.Queue.Lanes
import RecordExchange.Proofs.Queue.Outlets
import RecordExchange.Proofs.Reading
import RecordExchange.Proofs.Exchange.Run
import RecordExchange.Proofs.Exchange.Producing
import RecordExchange.Proofs.Exchange.Steps
import RecordExchange.Proofs.Exchange.Runs
import RecordExchange.Proofs.Exchange.Received
import RecordExchange.Proofs.Exchange.AbandonedRead
import RecordExchange.Proofs.Exchange.Delivery
import RecordExchange.Proofs.Commons.Registry
import RecordExchange.Proofs.Commons.References
import RecordExchange.Proofs.Commons.Sleeping
import RecordExchange.Proofs.Commons.Closed
import RecordExchange.Proofs.Commons.Handles
import RecordExchange.Proofs.Commons.Cursors
import RecordExchange.Proofs.Commons.Finishing
import RecordExchange.Proofs.Commons.Unbinding
import RecordExchange.Proofs.Host.Deserted
import RecordExchange.Proofs.Scene.Sections
import RecordExchange.Proofs.Scene.Standoff
import RecordExchange.Proofs.Command.Running
import RecordExchange.Proofs.Commons.Admission
import RecordExchange.Proofs.Commons.Claiming
import RecordExchange.Proofs.Commons.Refusals
import RecordExchange.Proofs.Commons.Visits
import RecordExchange.Proofs.Commons.Ownership
import RecordExchange.Proofs.Commons.Traffic
import RecordExchange.Proofs.Commons.Pausing
import RecordExchange.Proofs.Commons.Polling
import RecordExchange.Proofs.Segment.Attaching
import RecordExchange.Proofs.Segment.Entries
