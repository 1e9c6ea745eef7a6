import MarketDesk.Book.Snapshot
import MarketDesk.Book.Store
import MarketDesk.Currency
import MarketDesk.Decimal.Basic
import MarketDesk.Decimal.Text
import MarketDesk.Dictionary
import MarketDesk.Http
import MarketDesk.Json.Basic
import MarketDesk.Json.Decode
import MarketDesk.Json.Printer
import MarketDesk.Json.Reader
import MarketDesk.Json.Record
import MarketDesk.Json.Value
import MarketDesk.Proofs.Book.ExactTotals
import MarketDesk.Proofs.Book.FlatBooks
import MarketDesk.Proofs.Book.Json
import MarketDesk.Proofs.Book.Keys
import MarketDesk.Proofs.Book.Totals
import MarketDesk.Proofs.Currency.Grammar
import MarketDesk.Proofs.Currency.Spelling
import MarketDesk.Proofs.Currency.Symbols
import MarketDesk.Proofs.Decimal.Exact
import MarketDesk.Proofs.Decimal.Normal
import MarketDesk.Proofs.Decimal.Rounding
import MarketDesk.Proofs.Decimal.Text
import MarketDesk.Proofs.Dictionary
import MarketDesk.Proofs.Http.Encoding
import MarketDesk.Proofs.Http.FirstSet
import MarketDesk.Proofs.Http.Query
import MarketDesk.Proofs.Json.Decode
import MarketDesk.Proofs.Json.Grammar
import MarketDesk.Proofs.Json.Listing
import MarketDesk.Proofs.Json.Printed
import MarketDesk.Proofs.Json.Reading
import MarketDesk.Proofs.Json.Record
import MarketDesk.Proofs.Json.Revision
import MarketDesk.Proofs.Json.Token
import MarketDesk.Proofs.RateLimiter.Periods
import MarketDesk.Proofs.RateLimiter.Prediction
import MarketDesk.Proofs.RateLimiter.Run
import MarketDesk.Proofs.RateLimiter.Throughput
import MarketDesk.Proofs.Settings.EnvFile
import MarketDesk.Proofs.Settings.Environment
import MarketDesk.Proofs.Settings.Json
import MarketDesk.Proofs.Signature
import MarketDesk.Proofs.Text.Blank
import MarketDesk.Proofs.Text.Capitals
import MarketDesk.Proofs.Text.Case
import MarketDesk.Proofs.Text.CaseTable
import MarketDesk.Proofs.Text.Numeral
import MarketDesk.Proofs.Text.Percent
import MarketDesk.Proofs.Text.Utf8
import MarketDesk.Proofs.Time.Rfc3339
import MarketDesk.Proofs.Venue.Accounting
import MarketDesk.Proofs.Venue.Classification
import MarketDesk.Proofs.Venue.Command
import MarketDesk.Proofs.Venue.Depth
import MarketDesk.Proofs.Venue.Exchange
import MarketDesk.Proofs.Venue.Failure
import MarketDesk.Proofs.Venue.Ingestion
import MarketDesk.Proofs.Venue.Instruments
import MarketDesk.Proofs.Venue.Keys
import MarketDesk.Proofs.Venue.OrderNumbers
import MarketDesk.Proofs.Venue.Pairs
import MarketDesk.Proofs.Venue.Placement
import MarketDesk.Proofs.Venue.Rejection
import MarketDesk.Proofs.Venue.Request
import MarketDesk.Proofs.Venue.Responses
import MarketDesk.Proofs.Venue.SessionStep
import MarketDesk.Proofs.Venue.SharedKeys
import MarketDesk.Proofs.Venue.SignedPayload
import MarketDesk.Proofs.Venue.Spelling
import MarketDesk.Proofs.Venue.SymbolHistory
import MarketDesk.Proofs.Venue.Traffic
import MarketDesk.RateLimiter
import MarketDesk.Settings.Basic
import MarketDesk.Settings.EnvFile
import MarketDesk.Settings.Environment
import MarketDesk.Settings.Folder
import MarketDesk.Signature
import MarketDesk.Text.Alphanumeric
import MarketDesk.Text.Basic
import MarketDesk.Text.Case
import MarketDesk.Text.CaseTable
import MarketDesk.Text.Printable
import MarketDesk.Text.Utf8
import MarketDesk.Time
import MarketDesk.Venue.Account
import MarketDesk.Venue.Client
import MarketDesk.Venue.Depth
import MarketDesk.Venue.Error
import MarketDesk.Venue.Instruments
import MarketDesk.Venue.Operation
import MarketDesk.Venue.Order
import MarketDesk.Venue.OrderReport
import MarketDesk.Venue.Session
