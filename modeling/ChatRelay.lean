import ChatRelay.Gateway.Handle
import ChatRelay.Json.Writer
import ChatRelay.Log.Event
import ChatRelay.Proofs.Abort
import ChatRelay.Proofs.Batch.Accounting
import ChatRelay.Proofs.Batch.Addressed
import ChatRelay.Proofs.Batch.Ended
import ChatRelay.Proofs.Batch.Formed
import ChatRelay.Proofs.Batch.Handled
import ChatRelay.Proofs.Batch.Isolation
import ChatRelay.Proofs.Batch.Item
import ChatRelay.Proofs.Batch.Parcel
import ChatRelay.Proofs.Batch.Stop
import ChatRelay.Proofs.Batch.Suited
import ChatRelay.Proofs.Connector.Address
import ChatRelay.Proofs.Connector.Attempt
import ChatRelay.Proofs.Connector.Breach
import ChatRelay.Proofs.Connector.Course
import ChatRelay.Proofs.Connector.Ending
import ChatRelay.Proofs.Connector.Hint
import ChatRelay.Proofs.Connector.Outcome
import ChatRelay.Proofs.Connector.Pause
import ChatRelay.Proofs.Connector.Posting
import ChatRelay.Proofs.Connector.Protocol
import ChatRelay.Proofs.Connector.Trial
import ChatRelay.Proofs.Connector.Usual
import ChatRelay.Proofs.Content.Action
import ChatRelay.Proofs.Content.Alike
import ChatRelay.Proofs.Content.Conformance
import ChatRelay.Proofs.Content.Conservation
import ChatRelay.Proofs.Content.Field
import ChatRelay.Proofs.Content.Grammar
import ChatRelay.Proofs.Content.Reading
import ChatRelay.Proofs.Content.Refusal
import ChatRelay.Proofs.Content.Selection
import ChatRelay.Proofs.Content.Shapes
import ChatRelay.Proofs.Control
import ChatRelay.Proofs.Envelope.Body
import ChatRelay.Proofs.Envelope.Building
import ChatRelay.Proofs.Envelope.Finite
import ChatRelay.Proofs.Envelope.Flags
import ChatRelay.Proofs.Envelope.PlainText
import ChatRelay.Proofs.Gateway.Echo
import ChatRelay.Proofs.Gateway.Questions
import ChatRelay.Proofs.Gateway.Status
import ChatRelay.Proofs.Json.Levels
import ChatRelay.Proofs.Json.Same
import ChatRelay.Proofs.Lookup
import ChatRelay.Proofs.Number.Digits
import ChatRelay.Proofs.Number.Power
import ChatRelay.Proofs.Schema.Fits
import ChatRelay.Proofs.Schema.Flag
import ChatRelay.Proofs.Session
import ChatRelay.Proofs.Session.Search
import ChatRelay.Proofs.Survey.Answers
import ChatRelay.Proofs.Survey.Encoding
import ChatRelay.Proofs.Survey.Line
import ChatRelay.Proofs.Survey.Malformed
import ChatRelay.Proofs.Survey.ResponseId
import ChatRelay.Proofs.Text.Cleaning
import ChatRelay.Proofs.Text.Pattern
import ChatRelay.Proofs.Text.Trimming
import ChatRelay.Proofs.Tool.Accounting
import ChatRelay.Proofs.Tool.Ending
import ChatRelay.Proofs.Tool.Form
import ChatRelay.Proofs.Tool.Nulls
import ChatRelay.Proofs.Tool.Parcel
import ChatRelay.Proofs.Tool.Workflow
import ChatRelay.Proofs.Trigger
import ChatRelay.Proofs.Uniform
