import FireboltClient.Binary64
import FireboltClient.SortedAssoc
import FireboltClient.Json
import FireboltClient.Decoder
import FireboltClient.Schema
import FireboltClient.Transducer
import FireboltClient.OwnedStore
import FireboltClient.Types
import FireboltClient.JsonTypes
import FireboltClient.Helpers
import FireboltClient.JsonData
import FireboltClient.DecoderSpecs
import FireboltClient.Decoders
import FireboltClient.Requests
import FireboltClient.Interfaces
import FireboltClient.Api
import FireboltClient.Getters
import FireboltClient.Events
import FireboltClient.OpenRpc
import FireboltClient.RoundTrip
import FireboltClient.Acceptance
import FireboltClient.Payloads
import FireboltClient.Numbers
import FireboltClient.Lists
import FireboltClient.History
import FireboltClient.Enumerators
import FireboltClient.Preconditions
import FireboltClient.Session
import FireboltClient.Delivery
import FireboltClient.Disconnect
import FireboltClient.Reuse
import FireboltClient.Replies
import FireboltClient.Remote
import FireboltClient.Topics
import FireboltClient.Changes
import FireboltClient.Lifetimes
import FireboltClient.Connections
import FireboltClient.Validity
import FireboltClient.Isolation
import FireboltClient.Polling
import FireboltClient.Client
import FireboltClient.Compatibility
