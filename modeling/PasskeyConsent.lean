import PasskeyConsent.Text.Blank
import PasskeyConsent.Text.Numeral
import PasskeyConsent.Text.Split
import PasskeyConsent.Text.Printable
import PasskeyConsent.Text.Quoted
import PasskeyConsent.Bytes.Basic
import PasskeyConsent.Bytes.Base64url
import PasskeyConsent.Bytes.Sha256
import PasskeyConsent.Number.Binary64
import PasskeyConsent.Number.Shortest
import PasskeyConsent.Json.Basic
import PasskeyConsent.Json.Printer
import PasskeyConsent.Json.Document
import PasskeyConsent.Json.Codec
import PasskeyConsent.Calendar.Instant
import PasskeyConsent.Duration
import PasskeyConsent.Error
import PasskeyConsent.Operation
import PasskeyConsent.Policy.Basic
import PasskeyConsent.Chain.Block
import PasskeyConsent.Credential.Record
import PasskeyConsent.Freshness.Challenge
import PasskeyConsent.Request.Payload
import PasskeyConsent.Request.Digest
import PasskeyConsent.Request.Basic
import PasskeyConsent.Response
import PasskeyConsent.Channel.Control
import PasskeyConsent.Text.Word
import PasskeyConsent.Text.Alphanumeric
import PasskeyConsent.Redaction
import PasskeyConsent.Transfer
import PasskeyConsent.Credential.Salts
import PasskeyConsent.Collections.Table
import PasskeyConsent.Nonce.Sequencer
import PasskeyConsent.Session.Ledger
import PasskeyConsent.Channel.Lane
import PasskeyConsent.Channel.Queue
import PasskeyConsent.Channel.Mailbox
import PasskeyConsent.Channel.Hub
import PasskeyConsent.Credential.Ceremony
import PasskeyConsent.Confirmation.State
import PasskeyConsent.Concurrency.Flow
import PasskeyConsent.Concurrency.Host
import PasskeyConsent.Concurrency.Effect
import PasskeyConsent.Nonce.Turn
import PasskeyConsent.Freshness.Binding
import PasskeyConsent.Credential.Collection
import PasskeyConsent.Channel.Handover
import PasskeyConsent.Confirmation.Steps
import PasskeyConsent.Confirmation.Operations
import PasskeyConsent.Confirmation.Handle
import PasskeyConsent.Concurrency.Wallet
import PasskeyConsent.Rehearsal.Script
import PasskeyConsent.Rehearsal.Cast
import PasskeyConsent.Rehearsal.Run
import PasskeyConsent.Rehearsal.Waiting
import PasskeyConsent.Rehearsal.Jobs
import PasskeyConsent.Url.Percent
import PasskeyConsent.Url.Ipv4
import PasskeyConsent.Url.Ipv6
import PasskeyConsent.Url.Punycode
import PasskeyConsent.Url.Folding
import PasskeyConsent.Url.Composition
import PasskeyConsent.Url.Nonspacing
import PasskeyConsent.Url.Direction
import PasskeyConsent.Url.Joiner
import PasskeyConsent.Url.Domain
import PasskeyConsent.Url.Basic
import PasskeyConsent.Chain.Endpoint
import PasskeyConsent.Chain.Client
import PasskeyConsent.Toml.Basic
import PasskeyConsent.Toml.Text
import PasskeyConsent.Toml.Number
import PasskeyConsent.Toml.Reader
import PasskeyConsent.Settings.Basic
import PasskeyConsent.Settings.Path
import PasskeyConsent.Settings.File
import PasskeyConsent.Config.Environment
import PasskeyConsent.Config.Dotenv
import PasskeyConsent.Config.Basic
import PasskeyConsent.Config.Home
import PasskeyConsent.Error.Kind
import PasskeyConsent.Proofs.Concurrency.Run
import PasskeyConsent.Proofs.Concurrency.Contract
import PasskeyConsent.Proofs.Channel.Hub
import PasskeyConsent.Proofs.Confirmation.Topics
import PasskeyConsent.Proofs.Json.Members
import PasskeyConsent.Proofs.Response.Message
import PasskeyConsent.Proofs.Confirmation.Account
import PasskeyConsent.Proofs.Confirmation.Taking
import PasskeyConsent.Proofs.Confirmation.Answer
import PasskeyConsent.Proofs.Confirmation.Tenure
import PasskeyConsent.Proofs.Confirmation.Rollback
import PasskeyConsent.Proofs.Nonce.Turn
import PasskeyConsent.Proofs.Confirmation.Flows
import PasskeyConsent.Proofs.Nonce.Uniqueness
import PasskeyConsent.Proofs.Channel.Seeds
import PasskeyConsent.Proofs.Concurrency.Likeness
import PasskeyConsent.Proofs.Concurrency.Simulation
import PasskeyConsent.Proofs.Confirmation.Disclosure
import PasskeyConsent.Proofs.Concurrency.Composition
import PasskeyConsent.Proofs.Confirmation.Signing
import PasskeyConsent.Proofs.Confirmation.Signature
import PasskeyConsent.Proofs.Confirmation.Onward
import PasskeyConsent.Proofs.Confirmation.Settlement
import PasskeyConsent.Proofs.Confirmation.Correlation
import PasskeyConsent.Proofs.Confirmation.Cancellation
import PasskeyConsent.Proofs.Nonce.Lifetime
import PasskeyConsent.Proofs.Nonce.Lag
import PasskeyConsent.Proofs.Nonce.Ownership
import PasskeyConsent.Proofs.Nonce.Rebinding
import PasskeyConsent.Proofs.Confirmation.Booking
import PasskeyConsent.Proofs.Confirmation.Coherence
import PasskeyConsent.Proofs.Confirmation.Discipline
import PasskeyConsent.Proofs.Confirmation.Binding
import PasskeyConsent.Proofs.Confirmation.Attribution
import PasskeyConsent.Proofs.Confirmation.Keypairs
import PasskeyConsent.Proofs.Confirmation.Presentation
import PasskeyConsent.Proofs.Confirmation.Intent
import PasskeyConsent.Proofs.Confirmation.Consent
import PasskeyConsent.Proofs.Session.Accounting
import PasskeyConsent.Proofs.Session.Returns
import PasskeyConsent.Proofs.Session.Budget
import PasskeyConsent.Proofs.Session.Restitution
import PasskeyConsent.Proofs.Confirmation.Approval
import PasskeyConsent.Proofs.Channel.Usage
import PasskeyConsent.Proofs.Channel.Custody
import PasskeyConsent.Proofs.Channel.Delivery
import PasskeyConsent.Proofs.Channel.Handshake
import PasskeyConsent.Proofs.Confirmation.Supply
import PasskeyConsent.Proofs.Confirmation.Leftover
import PasskeyConsent.Proofs.Session.Disturbance
import PasskeyConsent.Proofs.Settings.Address
import PasskeyConsent.Proofs.Settings.Listing
import PasskeyConsent.Proofs.Config.Priority
import PasskeyConsent.Proofs.Session.TimeToLive
import PasskeyConsent.Proofs.Channel.Serialization
import PasskeyConsent.Proofs.Redaction.Sweep
import PasskeyConsent.Proofs.Redaction.Rules
import PasskeyConsent.Proofs.Redaction.Stability
import PasskeyConsent.Proofs.Redaction.Prefix
import PasskeyConsent.Proofs.Redaction.Assignments
import PasskeyConsent.Proofs.Confirmation.Endings
import PasskeyConsent.Proofs.Confirmation.Wording
import PasskeyConsent.Proofs.Confirmation.Identity
import PasskeyConsent.Proofs.Confirmation.Restraint
import PasskeyConsent.Proofs.Confirmation.Form
import PasskeyConsent.Proofs.Freshness.Preimage
import PasskeyConsent.Proofs.Request.LocalChallenge
import PasskeyConsent.Proofs.Request.MessageDigest
import PasskeyConsent.Proofs.Confirmation.Batch
import PasskeyConsent.Proofs.Nonce.Broadcast
import PasskeyConsent.Proofs.Nonce.Reservation
import PasskeyConsent.Proofs.Request.IntentDigest
import PasskeyConsent.Proofs.Request.Grammar
import PasskeyConsent.Proofs.Nonce.GivingBack
import PasskeyConsent.Proofs.Nonce.Calls
import PasskeyConsent.Proofs.Nonce.Places
import PasskeyConsent.Proofs.Nonce.Sharing
import PasskeyConsent.Proofs.Channel.Waiting
import PasskeyConsent.Proofs.Calendar.Days
import PasskeyConsent.Proofs.Calendar.Reading
import PasskeyConsent.Proofs.Json.Carrying
import PasskeyConsent.Proofs.Response.Crossing
import PasskeyConsent.Proofs.Collections.Runs
import PasskeyConsent.Proofs.Transfer.Entries
import PasskeyConsent.Proofs.Redaction.Patterns
import PasskeyConsent.Proofs.Redaction.Completeness
import PasskeyConsent.Proofs.Concurrency.Trace
import PasskeyConsent.Proofs.Freshness.Provider
import PasskeyConsent.Proofs.Credential.Assertion
import PasskeyConsent.Proofs.Settings.Saving
import PasskeyConsent.Proofs.Chain.Replies
