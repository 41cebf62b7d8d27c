import LiveTelemetry.Main
import LiveTelemetry.Proofs.Channel.Belated
import LiveTelemetry.Proofs.Channel.Conservation
import LiveTelemetry.Proofs.Channel.Decision
import LiveTelemetry.Proofs.Channel.Description
import LiveTelemetry.Proofs.Channel.Edges
import LiveTelemetry.Proofs.Channel.Overlap
import LiveTelemetry.Proofs.Channel.Reconnection
import LiveTelemetry.Proofs.Channel.Rejection
import LiveTelemetry.Proofs.Channel.Routing
import LiveTelemetry.Proofs.Channel.ShownState
import LiveTelemetry.Proofs.Channel.Subscription
import LiveTelemetry.Proofs.Client.Interruption
import LiveTelemetry.Proofs.Client.Secrecy
import LiveTelemetry.Proofs.Client.Sufficiency
import LiveTelemetry.Proofs.Control.Calls
import LiveTelemetry.Proofs.Control.Endpoint
import LiveTelemetry.Proofs.Link.Buffer
import LiveTelemetry.Proofs.Link.Notification
import LiveTelemetry.Proofs.Link.Restriction
import LiveTelemetry.Proofs.Link.Totals
import LiveTelemetry.Proofs.Message.Wire
import LiveTelemetry.Proofs.Reading.Equivalence
import LiveTelemetry.Proofs.Reading.History
import LiveTelemetry.Proofs.Reading.Replay
import LiveTelemetry.Proofs.Schema.RoundTrip
import LiveTelemetry.Proofs.Settings.FreeText
import LiveTelemetry.Schema.OfText
