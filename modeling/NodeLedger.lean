import NodeLedger.Amount
import NodeLedger.Calendar
import NodeLedger.Category
import NodeLedger.Decimal.Arithmetic
import NodeLedger.Decimal.Basic
import NodeLedger.Decimal.Printer
import NodeLedger.Decimal.Reader
import NodeLedger.Entry.Basic
import NodeLedger.Entry.OffChain
import NodeLedger.Entry.OnChain
import NodeLedger.Failure
import NodeLedger.Fee
import NodeLedger.Json.Reader
import NodeLedger.Json.Writer
import NodeLedger.Node.Block
import NodeLedger.Node.Bookkeeper
import NodeLedger.Node.Channel
import NodeLedger.Node.History
import NodeLedger.Node.Payment
import NodeLedger.Node.Source
import NodeLedger.Node.Wallet
import NodeLedger.Numeral.Binary64
import NodeLedger.Numeral.Integer
import NodeLedger.Pattern.Basic
import NodeLedger.Pattern.Matcher
import NodeLedger.Pattern.Parser
import NodeLedger.Period
import NodeLedger.Price.Basic
import NodeLedger.Price.CoinCap
import NodeLedger.Price.CoinDesk
import NodeLedger.Price.CoinGecko
import NodeLedger.Price.Coinbase
import NodeLedger.Price.Config
import NodeLedger.Price.Granularity
import NodeLedger.Price.Retry
import NodeLedger.Price.Source
import NodeLedger.Price.Window
import NodeLedger.Proofs.Calendar.Days
import NodeLedger.Proofs.Calendar.Text
import NodeLedger.Proofs.Decimal.Exact
import NodeLedger.Proofs.Decimal.Rounding
import NodeLedger.Proofs.Decimal.Spelling
import NodeLedger.Proofs.Entry.Category
import NodeLedger.Proofs.Entry.Event
import NodeLedger.Proofs.Entry.Fee
import NodeLedger.Proofs.Entry.Valued
import NodeLedger.Proofs.Node.Aggregation
import NodeLedger.Proofs.Node.Balance
import NodeLedger.Proofs.Node.BlockBytes
import NodeLedger.Proofs.Node.BlockTime
import NodeLedger.Proofs.Node.Caching
import NodeLedger.Proofs.Node.Calls
import NodeLedger.Proofs.Node.Cause
import NodeLedger.Proofs.Node.Decoded
import NodeLedger.Proofs.Node.Destinations
import NodeLedger.Proofs.Node.Events
import NodeLedger.Proofs.Node.FeeWalk
import NodeLedger.Proofs.Node.Funding
import NodeLedger.Proofs.Node.Groups
import NodeLedger.Proofs.Node.Inward
import NodeLedger.Proofs.Node.Memory
import NodeLedger.Proofs.Node.Payments
import NodeLedger.Proofs.Node.Pending
import NodeLedger.Proofs.Node.Reconciliation
import NodeLedger.Proofs.Node.RecordedFee
import NodeLedger.Proofs.Node.References
import NodeLedger.Proofs.Node.Respelled
import NodeLedger.Proofs.Node.Sequence
import NodeLedger.Proofs.Node.Sweeps
import NodeLedger.Proofs.Numeral.Decimal
import NodeLedger.Proofs.Numeral.HalfEven
import NodeLedger.Proofs.Numeral.Hexadecimal
import NodeLedger.Proofs.Numeral.Quotient
import NodeLedger.Proofs.Order.StableSort
import NodeLedger.Proofs.Price.Attempts
import NodeLedger.Proofs.Price.Cause
import NodeLedger.Proofs.Price.CoinCap
import NodeLedger.Proofs.Price.CoinDesk
import NodeLedger.Proofs.Price.CoinGecko
import NodeLedger.Proofs.Price.Coinbase
import NodeLedger.Proofs.Price.Conversion
import NodeLedger.Proofs.Price.Custom
import NodeLedger.Proofs.Price.FiatValue
import NodeLedger.Proofs.Price.Outside
import NodeLedger.Proofs.Price.Reach
import NodeLedger.Proofs.Price.Requests
import NodeLedger.Proofs.Price.Search
import NodeLedger.Proofs.Price.Series
import NodeLedger.Proofs.Price.Shutdown
import NodeLedger.Proofs.Price.Times
import NodeLedger.Proofs.Price.Window
import NodeLedger.Proofs.Record.Reordered
import NodeLedger.Proofs.Record.Respelled
import NodeLedger.Proofs.Report.Balance
import NodeLedger.Proofs.Report.Block
import NodeLedger.Proofs.Report.Categories
import NodeLedger.Proofs.Report.Cause
import NodeLedger.Proofs.Report.Circular
import NodeLedger.Proofs.Report.CircularEntries
import NodeLedger.Proofs.Report.Conservation
import NodeLedger.Proofs.Report.History
import NodeLedger.Proofs.Report.InferredOpening
import NodeLedger.Proofs.Report.Inward
import NodeLedger.Proofs.Report.Opening
import NodeLedger.Proofs.Report.PaidToSelf
import NodeLedger.Proofs.Report.PaymentEntries
import NodeLedger.Proofs.Report.Pricing
import NodeLedger.Proofs.Report.Receives
import NodeLedger.Proofs.Report.Reordered
import NodeLedger.Proofs.Report.Shape
import NodeLedger.Proofs.Report.SharedFunding
import NodeLedger.Proofs.Report.Splitting
import NodeLedger.Proofs.Report.Steady
import NodeLedger.Proofs.Report.Times
import NodeLedger.Proofs.Report.Unpriced
import NodeLedger.Proofs.Request.Categories
import NodeLedger.Proofs.Request.Prices
import NodeLedger.Proofs.Service.Boundary
import NodeLedger.Proofs.Service.CustomPrices
import NodeLedger.Proofs.Service.Rates
import NodeLedger.Proofs.Service.Report
import NodeLedger.Proofs.Service.Unconfirmed
import NodeLedger.Proofs.Service.Unpriced
import NodeLedger.Proofs.Session.Frame
import NodeLedger.Proofs.Session.Mirror
import NodeLedger.Proofs.Session.Simulation
import NodeLedger.Proofs.Session.Steady
import NodeLedger.Proofs.Session.Unlogged
import NodeLedger.Proofs.Table
import NodeLedger.Proofs.Text.Digit
import NodeLedger.Record.Channel
import NodeLedger.Record.Forward
import NodeLedger.Record.Invoice
import NodeLedger.Record.Json
import NodeLedger.Record.Payment
import NodeLedger.Record.Settlement
import NodeLedger.Record.Transaction
import NodeLedger.Report.Node
import NodeLedger.Report.OffChain
import NodeLedger.Report.OnChain
import NodeLedger.Report.Records
import NodeLedger.Report.TxidIndex
import NodeLedger.Request
import NodeLedger.Request.Json
import NodeLedger.Service
import NodeLedger.Session
import NodeLedger.Settings
import NodeLedger.Table
import NodeLedger.Text.Blank
import NodeLedger.Text.CaseMapping
import NodeLedger.Text.CharClass
import NodeLedger.Text.CharacterName
import NodeLedger.Text.Digit
import NodeLedger.Text.Name
import NodeLedger.Text.Printable
import NodeLedger.Text.Quoted
import NodeLedger.Text.Word
import NodeLedger.Value
import NodeLedger.Value.Access
import NodeLedger.Value.Key
