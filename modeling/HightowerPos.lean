import HightowerPos.Async.Wp
import HightowerPos.Async.Protocol
import HightowerPos.Async.Serial
import HightowerPos.Async.Mortal
import HightowerPos.Async.Threads
import HightowerPos.Async.Crew
import HightowerPos.Async.Rely
import HightowerPos.Async.Refusal
import HightowerPos.Async.Transact
import HightowerPos.Async.Stretch
import HightowerPos.Async.Monitor
import HightowerPos.Async.Orderly
import HightowerPos.Data.Table
import HightowerPos.Data.Tally
import HightowerPos.Data.Attempts
import HightowerPos.Data.Assign
import HightowerPos.Data.Collect
import HightowerPos.Data.Rounding
import HightowerPos.Data.Binary64
import HightowerPos.Data.Numeral
import HightowerPos.Data.Columns
import HightowerPos.Data.Keyed
import HightowerPos.Python.Decimal
import HightowerPos.Python.Quantize
import HightowerPos.Python.Text
import HightowerPos.Python.Csv
import HightowerPos.Python.Utf8
import HightowerPos.Python.Digits
import HightowerPos.Python.DecimalText
import HightowerPos.Python.Float
import HightowerPos.Python.Datetime
import HightowerPos.Models
import HightowerPos.Errors
import HightowerPos.Clients.Sentry
import HightowerPos.Clients.Heeded
import HightowerPos.Clients.Windcave
import HightowerPos.Clients.WindcavePost
import HightowerPos.Clients.WindcaveReply
import HightowerPos.Clients.Fabric
import HightowerPos.World
import HightowerPos.Services.Pricing
import HightowerPos.Services.FabricPriceSync
import HightowerPos.Services.Till
import HightowerPos.Services.TillPdf
import HightowerPos.Services.FabricOutbox
import HightowerPos.Services.Checkout
import HightowerPos.Services.Refund
import HightowerPos.Services.Reconciliation
import HightowerPos.Services.Receipt
import HightowerPos.Services.Users
import HightowerPos.Service
import HightowerPos.Prices.Cents
import HightowerPos.Prices.Writes
import HightowerPos.Prices.Staleness
import HightowerPos.Prices.BadRows
import HightowerPos.Routes
import HightowerPos.Footprint
import HightowerPos.Commit
import HightowerPos.Settled
import HightowerPos.Transactions.Turn
import HightowerPos.Users.LastActive
import HightowerPos.Users.Barrier
import HightowerPos.Users.OpenTills
import HightowerPos.Users.Sessions
import HightowerPos.Sale.Stored
import HightowerPos.Sale.Tax
import HightowerPos.Register.Cart
import HightowerPos.Register.CartStore
import HightowerPos.Register.CartInvariant
import HightowerPos.Register.TillModals
import HightowerPos.Register.Totals
import HightowerPos.Register.Client
import HightowerPos.Register.Shop
import HightowerPos.Register.Serving
import HightowerPos.Register.Served
import HightowerPos.Register.Sound
import HightowerPos.Register.OnePayment
import HightowerPos.Drawer.Books
import HightowerPos.Drawer.Ledger
import HightowerPos.Drawer.CashRefund
import HightowerPos.Drawer.CashSales
import HightowerPos.Drawer.Variance
import HightowerPos.Drawer.Amounts
import HightowerPos.Drawer.Closing
import HightowerPos.Drawer.Audit
import HightowerPos.Transactions.Links
import HightowerPos.Transactions.Enqueued
import HightowerPos.Transactions.Polling
import HightowerPos.Transactions.Told
import HightowerPos.Transactions.Tenders
import HightowerPos.Transactions.Authorised
import HightowerPos.Transactions.Cancellable
import HightowerPos.Transactions.Refusals
import HightowerPos.Transactions.Replay
import HightowerPos.Sale.Protocol
import HightowerPos.Sale.Arithmetic
import HightowerPos.Sale.NonNegative
import HightowerPos.Sale.Absorbing
import HightowerPos.Sale.PaidOnce
import HightowerPos.Sale.Approved
import HightowerPos.Refunds.Protocol
import HightowerPos.Refunds.Bounded
import HightowerPos.Receipts.Width
import HightowerPos.Receipts.Adds
import HightowerPos.Outbox.Spared
import HightowerPos.Outbox.Stranded
import HightowerPos.Outbox.Accounting
import HightowerPos.PrintAgent.Agent
import HightowerPos.PrintAgent.Wire
import HightowerPos.PrintAgent.Answers
import HightowerPos.Prices.PriceList
import HightowerPos.Outbox.Fairness
import HightowerPos.Transactions.Sweep
