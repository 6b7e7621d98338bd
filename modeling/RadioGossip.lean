import RadioGossip.Acknowledgement
import RadioGossip.Bytes
import RadioGossip.CommandLine
import RadioGossip.Contact.Basic
import RadioGossip.Contact.Kind
import RadioGossip.Flood.Cache
import RadioGossip.Flood.Engine
import RadioGossip.Frame.Scanner
import RadioGossip.Frame.Wrapping
import RadioGossip.Ip.Address
import RadioGossip.Ip.Host
import RadioGossip.Ip.Text
import RadioGossip.Json.Parsing
import RadioGossip.Json.Printing
import RadioGossip.Json.Token
import RadioGossip.Json.Value
import RadioGossip.Link.Address
import RadioGossip.Link.Dialling
import RadioGossip.Link.Error
import RadioGossip.Link.Settings
import RadioGossip.Link.Stream
import RadioGossip.Main
import RadioGossip.Mesh.Basic
import RadioGossip.Message.Basic
import RadioGossip.Message.Path
import RadioGossip.Message.PayloadKind
import RadioGossip.Node.Basic
import RadioGossip.Node.Binding
import RadioGossip.Peer.Basic
import RadioGossip.Peer.Outbox
import RadioGossip.Reconciliation.Exchange
import RadioGossip.Reconciliation.Update
import RadioGossip.Service.Basic
import RadioGossip.Service.Loopback
import RadioGossip.Service.OnAir
import RadioGossip.Settings.Basic
import RadioGossip.Settings.Document
import RadioGossip.Station.Basic
import RadioGossip.Text.Blank
import RadioGossip.Text.Digits
import RadioGossip.Text.Line
import RadioGossip.Text.Quoted
import RadioGossip.Text.Unprintable
import RadioGossip.Text.Utf8
import RadioGossip.Wire.Error
import RadioGossip.Wire.Reader
import RadioGossip.Proofs.ContactRecords
import RadioGossip.Proofs.StationIdentity
import RadioGossip.Proofs.MessageRecords
import RadioGossip.Proofs.AckRecords
import RadioGossip.Proofs.Framing
import RadioGossip.Proofs.LineNoise
import RadioGossip.Proofs.FoundFrames
import RadioGossip.Proofs.Copies
import RadioGossip.Proofs.Decisions
import RadioGossip.Proofs.Deliveries
import RadioGossip.Proofs.Outlines
import RadioGossip.Proofs.Launching
import RadioGossip.Proofs.Spreading
import RadioGossip.Proofs.Readiness
import RadioGossip.Proofs.FloodCoverage
import RadioGossip.Proofs.Requests
import RadioGossip.Proofs.AcceptanceWindow
import RadioGossip.Proofs.Reactions
import RadioGossip.Proofs.Quiescence
import RadioGossip.Proofs.Provenance
import RadioGossip.Proofs.Merging
import RadioGossip.Proofs.Reconcilers
import RadioGossip.Proofs.CatchingUp
import RadioGossip.Proofs.Contents
import RadioGossip.Proofs.Accounts
import RadioGossip.Proofs.Acknowledgements
import RadioGossip.Proofs.Ledgers
import RadioGossip.Proofs.WireIdentity
import RadioGossip.Proofs.Supplements
import RadioGossip.Proofs.Meetings
import RadioGossip.Proofs.HopPlans
import RadioGossip.Proofs.Reception
import RadioGossip.Proofs.Reach
import RadioGossip.Proofs.OldestFirst
import RadioGossip.Proofs.PayloadFormats
import RadioGossip.Proofs.IndexedCache
import RadioGossip.Proofs.FloodReach
import RadioGossip.Proofs.Answering
import RadioGossip.Proofs.Lifecycles
import RadioGossip.Proofs.Draining
import RadioGossip.Proofs.Bindings
import RadioGossip.Proofs.SettingsDocuments
import RadioGossip.Proofs.SameEntry
import RadioGossip.Proofs.Refusals
import RadioGossip.Proofs.Asking
import RadioGossip.Proofs.ContactIdentity
import RadioGossip.Proofs.PathElements
import RadioGossip.Proofs.Sizes
