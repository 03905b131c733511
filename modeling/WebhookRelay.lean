import WebhookRelay.Application
import WebhookRelay.Binary64
import WebhookRelay.Binary64.Places
import WebhookRelay.Binary64.Shortest
import WebhookRelay.Binary64.Text
import WebhookRelay.Card
import WebhookRelay.CommandLine
import WebhookRelay.CommandLine.Help
import WebhookRelay.Delivery
import WebhookRelay.Dictionary
import WebhookRelay.Event
import WebhookRelay.Fault
import WebhookRelay.Filter
import WebhookRelay.Hash.Hmac
import WebhookRelay.Hash.Sha256
import WebhookRelay.Header
import WebhookRelay.Json
import WebhookRelay.Json.Display
import WebhookRelay.Json.Order
import WebhookRelay.Json.Reader
import WebhookRelay.Json.Writer
import WebhookRelay.Log.Message
import WebhookRelay.Log.Output
import WebhookRelay.Log.Record
import WebhookRelay.Log.Threshold
import WebhookRelay.Main
import WebhookRelay.Pattern
import WebhookRelay.Pattern.Class
import WebhookRelay.Pattern.Reader
import WebhookRelay.Pattern.Replacement
import WebhookRelay.Pattern.Shape
import WebhookRelay.Query
import WebhookRelay.Query.Arithmetic
import WebhookRelay.Query.Datum
import WebhookRelay.Query.Eval
import WebhookRelay.Query.Memory
import WebhookRelay.Query.Operator
import WebhookRelay.Query.Path
import WebhookRelay.Query.Reader
import WebhookRelay.Query.Sorting
import WebhookRelay.Query.Token
import WebhookRelay.Settings
import WebhookRelay.Signature
import WebhookRelay.Start
import WebhookRelay.Template
import WebhookRelay.Text.Blank
import WebhookRelay.Text.Digit
import WebhookRelay.Text.Identifier
import WebhookRelay.Text.Integer
import WebhookRelay.Text.InversionList
import WebhookRelay.Text.LowerCase
import WebhookRelay.Text.Printable
import WebhookRelay.Text.Quoted
import WebhookRelay.Text.SameLetter
import WebhookRelay.Text.Split
import WebhookRelay.Text.UpperCase
import WebhookRelay.Text.Word
import WebhookRelay.Validation
import WebhookRelay.Proofs.Query.Agreement
import WebhookRelay.Proofs.Query.Addressing
import WebhookRelay.Proofs.Application.Admission
import WebhookRelay.Proofs.Application.Answer
import WebhookRelay.Proofs.Application.Authentication
import WebhookRelay.Proofs.Application.Card
import WebhookRelay.Proofs.Application.Decision
import WebhookRelay.Proofs.Application.Ending
import WebhookRelay.Proofs.Application.Identity
import WebhookRelay.Proofs.Application.Secrecy
import WebhookRelay.Proofs.Json.RoundTrip
import WebhookRelay.Proofs.Json.Scanning
import WebhookRelay.Proofs.Text.LowerCase
import WebhookRelay.Proofs.Header.Joining
import WebhookRelay.Proofs.Application.HandingOn
import WebhookRelay.Proofs.Application.Paths
import WebhookRelay.Proofs.Query.Errors
import WebhookRelay.Proofs.Query.Confinement
import WebhookRelay.Proofs.Query.Evaluation
import WebhookRelay.Proofs.Query.Intersection
import WebhookRelay.Proofs.Query.Reporting
import WebhookRelay.Proofs.Template.Pairing
import WebhookRelay.Proofs.Template.Sharing
import WebhookRelay.Proofs.Query.Subscripts
import WebhookRelay.Proofs.Signature.Acceptance
import WebhookRelay.Proofs.Json.Reading
import WebhookRelay.Proofs.Query.Text
import WebhookRelay.Proofs.Validation.Spelling
import WebhookRelay.Proofs.Card.RoundTrip
import WebhookRelay.Proofs.Header.Forwarding
import WebhookRelay.Proofs.Application.Relevance
import WebhookRelay.Proofs.Delivery.Waiting
import WebhookRelay.Proofs.Settings.Loading
import WebhookRelay.Proofs.Settings.EventFilters
import WebhookRelay.Proofs.Application.Recording
import WebhookRelay.Proofs.Log.History
import WebhookRelay.Proofs.CommandLine.Reading
import WebhookRelay.Proofs.Start.HandOver
import WebhookRelay.Proofs.Query.NormalForm
