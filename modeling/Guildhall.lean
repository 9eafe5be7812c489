import Guildhall.Bearer
import Guildhall.Bulletin
import Guildhall.Calendar
import Guildhall.Catalogue
import Guildhall.Claims
import Guildhall.Codec.Base64Url
import Guildhall.Codec.Der
import Guildhall.Digest.Hmac
import Guildhall.Digest.Sha2
import Guildhall.Failure
import Guildhall.Gateway
import Guildhall.Gateway.Body
import Guildhall.Gateway.Endpoint
import Guildhall.Gateway.Gate
import Guildhall.Gateway.Response
import Guildhall.Gateway.Target
import Guildhall.Input
import Guildhall.Input.Named
import Guildhall.Journal.Context
import Guildhall.Journal.Entry
import Guildhall.Journal.Level
import Guildhall.Journal.Setup
import Guildhall.Journal.Template
import Guildhall.Json.Reader
import Guildhall.Json.Writer
import Guildhall.Launch
import Guildhall.Lifecycle
import Guildhall.Main
import Guildhall.Market
import Guildhall.Number.Binary64
import Guildhall.Number.Quantity
import Guildhall.Number.Rounding
import Guildhall.Number.Shortest
import Guildhall.Number.Written
import Guildhall.Policy
import Guildhall.Proofs.Arguments
import Guildhall.Proofs.Arrival
import Guildhall.Proofs.Ascii
import Guildhall.Proofs.Atomicity
import Guildhall.Proofs.Base64Url
import Guildhall.Proofs.Bearer
import Guildhall.Proofs.Calendar
import Guildhall.Proofs.Calm
import Guildhall.Proofs.Clash
import Guildhall.Proofs.Confidentiality
import Guildhall.Proofs.Domain
import Guildhall.Proofs.Escape
import Guildhall.Proofs.Input
import Guildhall.Proofs.Keys
import Guildhall.Proofs.Ledger
import Guildhall.Proofs.Mediation
import Guildhall.Proofs.Registration
import Guildhall.Proofs.Reporting
import Guildhall.Proofs.RoundTrip
import Guildhall.Proofs.Session
import Guildhall.Proofs.Statistics
import Guildhall.Proofs.Subject
import Guildhall.Registry
import Guildhall.Report
import Guildhall.Scoreboard
import Guildhall.Service
import Guildhall.Service.Named
import Guildhall.Settings
import Guildhall.Settings.Loading
import Guildhall.Signature
import Guildhall.Stop
import Guildhall.Store
import Guildhall.Store.Address
import Guildhall.Store.Engine
import Guildhall.Store.Maintenance
import Guildhall.Store.Record
import Guildhall.Store.Session
import Guildhall.Store.Statement
import Guildhall.Text.Blank
import Guildhall.Text.Digit
import Guildhall.Text.Encoding
import Guildhall.Text.Hex
import Guildhall.Text.Numeral
import Guildhall.Text.Part
import Guildhall.Text.Percent
import Guildhall.Text.Printable
import Guildhall.Text.Quoted
import Guildhall.Text.Surrogate
import Guildhall.Text.Upper
import Guildhall.Text.Utf8
import Guildhall.Token
import Guildhall.Token.Issuer
import Guildhall.Token.Key
import Guildhall.Token.KeyFile
import Guildhall.Token.Secret
import Guildhall.Treasury
import Guildhall.Value
import Guildhall.Wardrobe
import Guildhall.Proofs.Privilege
import Guildhall.Proofs.Verification
import Guildhall.Proofs.Lifetime
import Guildhall.Proofs.Commuting
import Guildhall.Proofs.Purchase
import Guildhall.Proofs.Secrecy
import Guildhall.Proofs.Vacancy
import Guildhall.Proofs.Forwarding
import Guildhall.Proofs.Outfit
import Guildhall.Proofs.Refund
import Guildhall.Proofs.Merging
import Guildhall.Proofs.Totals
import Guildhall.Proofs.Decision
import Guildhall.Proofs.Listing
import Guildhall.Proofs.Removal
import Guildhall.Proofs.Authentication
import Guildhall.Proofs.Address
import Guildhall.Proofs.Grammar
import Guildhall.Proofs.WholeNumber
import Guildhall.Proofs.Passage
import Guildhall.Proofs.Timestamps
import Guildhall.Proofs.Loading
import Guildhall.Proofs.Redaction
import Guildhall.Proofs.Fields
import Guildhall.Proofs.Scoping
import Guildhall.Proofs.OneLine
import Guildhall.Proofs.LogLine
import Guildhall.Proofs.Refusal
import Guildhall.Proofs.Housekeeping
import Guildhall.Proofs.Layers
import Guildhall.Proofs.JsonNumber
import Guildhall.Proofs.Bodies
import Guildhall.Proofs.Caching
