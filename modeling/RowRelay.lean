import RowRelay.App.Run
import RowRelay.Main
import RowRelay.Relay.Script
import RowRelay.Proofs.Relay.Delivery
import RowRelay.Proofs.Relay.Round
import RowRelay.Proofs.Relay.Batch
import RowRelay.Proofs.Bytes
import RowRelay.Proofs.DeadLetter.Store
import RowRelay.Proofs.Relay.Acknowledge
import RowRelay.Proofs.DeadLetter.History
import RowRelay.Proofs.Json.Text
import RowRelay.Proofs.Json.Members
import RowRelay.Proofs.Json.Numeral
import RowRelay.Proofs.Json.Record
import RowRelay.Proofs.Relay.Course
import RowRelay.Proofs.Relay.Steady
import RowRelay.Proofs.Relay.Position
import RowRelay.Proofs.Relay.Stopping
import RowRelay.Proofs.Relay.Worlds
import RowRelay.Proofs.BigQuery.Attempts
import RowRelay.Proofs.Relay.Keys
import RowRelay.Proofs.Relay.Truthful
import RowRelay.Proofs.Json.Grammar
import RowRelay.Proofs.Json.Spelling
import RowRelay.Proofs.Json.Skip
import RowRelay.Proofs.PubSub.Answer
import RowRelay.Proofs.BigQuery.Payload
import RowRelay.Proofs.Relay.Bodies
import RowRelay.Proofs.DeadLetter.KeyOrder
import RowRelay.Proofs.Setup.TextSettings
import RowRelay.Proofs.Setup.NumberSettings
import RowRelay.Proofs.DeadLetter.Retention
import RowRelay.Proofs.Relay.Abreast
import RowRelay.Proofs.Relay.AckPolicies
import RowRelay.Proofs.Relay.FailurePolicies
import RowRelay.Proofs.Base64.Canonical
import RowRelay.Proofs.BigQuery.Retries
import RowRelay.Proofs.Relay.Waiting
import RowRelay.Proofs.Relay.Totals
import RowRelay.Proofs.Setup.Spellings
import RowRelay.Proofs.Setup.Acceptance
import RowRelay.Proofs.Setup.Overrides
import RowRelay.Proofs.DeadLetter.Loading
import RowRelay.Proofs.DeadLetter.Readback
