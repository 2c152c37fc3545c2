import Harbor.Lease.Advertiser
import Harbor.Main
import Harbor.Session.Mailbox
import Harbor.Site
import Harbor.Proofs.Lease.Leases
import Harbor.Proofs.Lease.Messages
import Harbor.Proofs.Lease.History
import Harbor.Proofs.Lease.Exchange
import Harbor.Proofs.Session.History
import Harbor.Proofs.Text.Decimal
import Harbor.Proofs.Frame.Lines
import Harbor.Proofs.Session.RoundTrip
import Harbor.Proofs.Files.Reading
import Harbor.Proofs.Session.Calls
import Harbor.Proofs.Frame.Streams
import Harbor.Proofs.Session.Pipelining
import Harbor.Proofs.Frame.Refusals
import Harbor.Proofs.Session.Conversation
import Harbor.Session.Office
import Harbor.Proofs.Session.Keeper
import Harbor.Proofs.Files.Listing
import Harbor.Proofs.Transfer.RoundTrip
import Harbor.Proofs.Transfer.Fetching
import Harbor.Proofs.Transfer.Saving
import Harbor.Proofs.Files.Written
import Harbor.Proofs.Transfer.Directories
import Harbor.Proofs.Files.Beneath
import Harbor.Proofs.Confinement
import Harbor.Proofs.Transfer.Truncation
import Harbor.Proofs.Session.Readable
import Harbor.Proofs.Lease.Datagrams
import Harbor.Proofs.Transfer.Pipelining
import Harbor.Proofs.Session.Bindings
import Harbor.Proofs.Transfer.Effects
import Harbor.Lease.Traffic
import Harbor.Proofs.Lease.Expiry
import Harbor.Proofs.Lease.Scans
import Harbor.Proofs.Lease.FirstFit
import Harbor.Proofs.Lease.GrantedPorts
import Harbor.Proofs.Lease.Advertising
import Harbor.Proofs.Lease.Fleets
import Harbor.Proofs.Session.Storage
import Harbor.Proofs.Transfer.Readable
import Harbor.Proofs.Session.Footprints
import Harbor.Proofs.Lease.Renewals
import Harbor.Proofs.Session.Unanswered
import Harbor.Proofs.Transfer.Conversation
import Harbor.Proofs.Transfer.Flattening
import Harbor.Proofs.Frame.Limits
import Harbor.Proofs.Frame.Content
import Harbor.Proofs.Progress
