import Btle.Library.Machine
import Btle.Library.LittleEndian
import Btle.Library.Paging
import Btle.Library.Hex
import Btle.Library.Throwing
import Btle.Client.Protocol
import Btle.Client.Memory
import Btle.Client.Encode
import Btle.Client.Parse
import Btle.Client.Att
import Btle.Client.Steps
import Btle.Client.ResponseMatching
import Btle.Client.Malformed
import Btle.Client.Collecting
import Btle.Client.Database
import Btle.Client.Pages
import Btle.Client.Discovery
import Btle.Client.Completeness
import Btle.Library.Nested
import Btle.Library.Skipping
import Btle.Library.Recording
import Btle.Client.Bookkeeping
import Btle.Client.Notifications
import Btle.Client.ReadErrors
import Btle.Client.Slots
import Btle.Client.Restarts
import Btle.Client.Isolation
import Btle.Client.Listing
import Btle.Client.Entries
import Btle.Server.Buffer
import Btle.Server.Uuid
import Btle.Server.UuidKeys
import Btle.Server.UuidIdentity
import Btle.Server.World
import Btle.Server.Attributes
import Btle.Server.Pushes
import Btle.Server.HandleTable
import Btle.Library.Looping
import Btle.Server.Handlers
import Btle.Server.Encoders
import Btle.Server.Replies
import Btle.Server.Outcomes
import Btle.Server.Tolerance
import Btle.Server.Answers
import Btle.Server.Limits
import Btle.Server.MtuInForce
import Btle.Server.AccessControl
import Btle.Server.Negotiation
import Btle.Server.ReadBack
import Btle.Server.Construction
import Btle.Server.Layout
import Btle.Server.Registration
import Btle.Server.Peripheral
import Btle.Server.Assignment
import Btle.Library.Turns
import Btle.Server.Indications
import Btle.Server.Updates
import Btle.Library.Relating
import Btle.Library.Twins
import Btle.Server.Mirrors
import Btle.Server.Refilled
import Btle.Server.Uninitialised
import Btle.Server.Confidentiality
import Btle.Library.Memo
import Btle.Server.UuidInputs
import Btle.Server.UuidObjects
import Btle.Server.UuidHistories
import Btle.Server.UuidGrammar
import Btle.Library.Records
import Btle.Library.Utf16
import Btle.Server.Advertising
import Btle.Library.Lifetimes
import Btle.Native.Central
import Btle.Native.Connection
import Btle.Native.Lifecycle
import Btle.Server.UuidGrowth
import Btle.Gatt.Finding
import Btle.Gatt.CharacteristicLists
import Btle.Server.Searching
import Btle.Client.RangeLayout
import Btle.Library.Stepping
import Btle.Client.ReadPointer
import Btle.Wire.Requests
import Btle.Wire.Replies
import Btle.Wire.Handles
import Btle.Wire.Values
import Btle.Wire.Groups
import Btle.Wire.Types
import Btle.Client.Listeners
import Btle.Server.Placement
import Btle.Server.Moving
import Btle.Server.Mandatory
import Btle.Server.ServiceUuids
import Btle.Server.Subscriptions
import Btle.Server.UuidRoundTrip
import Btle.Native.Hci
import Btle.Native.Writes
import Btle.Library.Narrowing
import Btle.Native.Numbers
import Btle.Native.Options
import Btle.Client.Decoding
import Btle.Wire.Arguments
import Btle.Library.Duplex
import Btle.Client.Asking
import Btle.Wire.Serving
import Btle.Wire.Session
import Btle.Wire.Tracking
import Btle.Wire.Matching
import Btle.Wire.Deliveries
import Btle.Wire.Snapshots
import Btle.Library.Calling
import Btle.Native.Syscalls
import Btle.Native.Btio
import Btle.Native.Descriptors
import Btle.Native.SocketCalls
import Btle.Library.Shares
import Btle.Native.Endpoints
import Btle.Native.Sockets
import Btle.Native.ReadingBack
import Btle.Native.Opening
import Btle.Client.Arrivals
import Btle.Wire.Callbacks
import Btle.Wire.Ownership
import Btle.Wire.LiveRecords
