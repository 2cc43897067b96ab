import RentalGuard.Audit.Event
import RentalGuard.Audit.EventId
import RentalGuard.Audit.Json
import RentalGuard.Audit.Metadata
import RentalGuard.Audit.Record
import RentalGuard.Bank.Bic
import RentalGuard.Bank.BicCountry
import RentalGuard.Bank.Checksum
import RentalGuard.Bank.Compact
import RentalGuard.Bank.Iban
import RentalGuard.Bank.IbanLength
import RentalGuard.Calendar.Date
import RentalGuard.Calendar.Instant
import RentalGuard.Calendar.Timestamp
import RentalGuard.Calendar.TimestampReader
import RentalGuard.Card.Brand
import RentalGuard.Card.Expiry
import RentalGuard.Card.Luhn
import RentalGuard.Card.Number
import RentalGuard.Codec.Base64
import RentalGuard.Codec.Hex
import RentalGuard.Company
import RentalGuard.Digest.Hmac
import RentalGuard.Digest.Sha512
import RentalGuard.Distinct
import RentalGuard.Failure
import RentalGuard.Json.Basic
import RentalGuard.Json.Document
import RentalGuard.Json.Embedded
import RentalGuard.Json.Number
import RentalGuard.Json.Reader
import RentalGuard.Json.Record
import RentalGuard.Json.Token
import RentalGuard.Json.Writer
import RentalGuard.Log
import RentalGuard.Payment.EntryReader
import RentalGuard.Payment.Fault
import RentalGuard.Payment.Method
import RentalGuard.Phone.Country
import RentalGuard.Phone.Number
import RentalGuard.Problem
import RentalGuard.Scope.Answer
import RentalGuard.Scope.Inherit
import RentalGuard.Scope.Moments
import RentalGuard.Scope.Operation
import RentalGuard.Scope.Program
import RentalGuard.Scope.Run
import RentalGuard.Scope.Trace
import RentalGuard.Scope.World
import RentalGuard.Settings.Logging
import RentalGuard.Settings.Payment
import RentalGuard.Sql.Condition
import RentalGuard.Sql.Query
import RentalGuard.Tenancy.Claims
import RentalGuard.Tenancy.Context
import RentalGuard.Tenancy.Filter
import RentalGuard.Tenancy.Guard
import RentalGuard.Tenancy.History
import RentalGuard.Tenancy.Ownership
import RentalGuard.Tenancy.Records
import RentalGuard.Tenancy.Session
import RentalGuard.Text.AsciiUppercase
import RentalGuard.Text.Blank
import RentalGuard.Text.Hex
import RentalGuard.Text.Hidden
import RentalGuard.Text.Lookup
import RentalGuard.Text.Numeral
import RentalGuard.Text.Order
import RentalGuard.Text.Parts
import RentalGuard.Text.Quoted
import RentalGuard.Text.Uppercase
import RentalGuard.Webhook.Header
import RentalGuard.Webhook.Verifier
import RentalGuard.Proofs.Sql.ConditionText
import RentalGuard.Proofs.Tenancy.QueryFilter
import RentalGuard.Proofs.Tenancy.SessionPolicy
import RentalGuard.Proofs.Scope.Isolation
import RentalGuard.Proofs.Scope.Uninterrupted
import RentalGuard.Proofs.Scope.Replay
import RentalGuard.Proofs.Audit.Trail
import RentalGuard.Proofs.Tenancy.Refusal
import RentalGuard.Proofs.Tenancy.Grants
import RentalGuard.Proofs.Scope.Requests
import RentalGuard.Proofs.Scope.Inheritance
import RentalGuard.Proofs.Webhook.Spelling
import RentalGuard.Proofs.Webhook.Standing
import RentalGuard.Proofs.Webhook.Window
import RentalGuard.Proofs.Webhook.Binding
import RentalGuard.Proofs.Bank.CheckDigits
import RentalGuard.Proofs.Bank.Rewriting
import RentalGuard.Proofs.Payment.NormalForm
import RentalGuard.Sql.Statement
import RentalGuard.Proofs.Calendar.Days
import RentalGuard.Proofs.Calendar.Timestamps
import RentalGuard.Proofs.Payment.WiderRules
import RentalGuard.Proofs.Tenancy.Placeholders
import RentalGuard.Proofs.Json.Records
import RentalGuard.Proofs.Json.EmbeddedTexts
import RentalGuard.Proofs.Json.Documents
import RentalGuard.Proofs.Json.Strings
import RentalGuard.Proofs.Json.Numbers
import RentalGuard.Proofs.Json.Tokens
import RentalGuard.Proofs.Json.Texts
import RentalGuard.Proofs.Json.ReadNumbers
import RentalGuard.Proofs.Json.Forms
import RentalGuard.Proofs.Audit.EventIds
import RentalGuard.Proofs.Audit.StoredEvents
import RentalGuard.Proofs.Tenancy.JsonForms
import RentalGuard.Proofs.Card.CheckDigit
import RentalGuard.Proofs.Bank.TypingErrors
import RentalGuard.Proofs.Audit.Deliveries
import RentalGuard.Proofs.Tenancy.Batches
import RentalGuard.Tenancy.SharedLists
import RentalGuard.Proofs.Tenancy.SharedLists
import RentalGuard.Proofs.Tenancy.LastWrites
import RentalGuard.Proofs.Bank.Sandbox
import RentalGuard.Proofs.Calendar.Months
import RentalGuard.Proofs.Card.Validity
import RentalGuard.Proofs.Phone.Grammar
import RentalGuard.Proofs.Phone.Rails
import RentalGuard.Proofs.Bank.BankCodeForm
import RentalGuard.Proofs.Bank.Presentation
import RentalGuard.Proofs.Bank.Disclosure
import RentalGuard.Proofs.Settings.Components
import RentalGuard.Proofs.Card.Brands
import RentalGuard.Proofs.Json.FieldOrder
import RentalGuard.Proofs.Audit.LogEntries
