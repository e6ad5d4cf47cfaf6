import FlashSale.AdmissionQueue
import FlashSale.Calendar
import FlashSale.Config.Arguments
import FlashSale.Config.CommandLine
import FlashSale.Config.Setting
import FlashSale.Database.Ledger
import FlashSale.Database.Migration
import FlashSale.Database.Pool
import FlashSale.Database.Query
import FlashSale.Database.Statement
import FlashSale.Dialogue
import FlashSale.Duration
import FlashSale.Error
import FlashSale.Event
import FlashSale.Http.Body
import FlashSale.Http.MediaType
import FlashSale.Http.Router
import FlashSale.Json.Quoted
import FlashSale.Json.Record
import FlashSale.Json.Token
import FlashSale.Json.Value
import FlashSale.Key
import FlashSale.KeyValue.Address
import FlashSale.KeyValue.Reply
import FlashSale.KeyValue.Store
import FlashSale.KeyValue.Url
import FlashSale.KeyValue.Wire
import FlashSale.Ledger
import FlashSale.Main
import FlashSale.Order.Basic
import FlashSale.Order.Json
import FlashSale.Order.Row
import FlashSale.Order.Status
import FlashSale.Proofs.AdmissionQueue.Slots
import FlashSale.Proofs.AdmissionQueue.Stream
import FlashSale.Proofs.Ledger.Balance
import FlashSale.Proofs.Ledger.Commit
import FlashSale.Proofs.Reservations.Counters
import FlashSale.Proofs.Reservations.Markers
import FlashSale.Proofs.Sale.Account
import FlashSale.Proofs.Sale.Accounting
import FlashSale.Proofs.Sale.Action
import FlashSale.Proofs.Sale.Conservation
import FlashSale.Proofs.Sale.Deed
import FlashSale.Proofs.Sale.Drain
import FlashSale.Proofs.Sale.Duplicates
import FlashSale.Proofs.Sale.Inventory
import FlashSale.Proofs.Sale.Markings
import FlashSale.Proofs.Sale.Orders
import FlashSale.Proofs.Sale.Outside
import FlashSale.Proofs.Sale.Oversell
import FlashSale.Proofs.Sale.Passage
import FlashSale.Proofs.Sale.Pipeline
import FlashSale.Proofs.Sale.Posting
import FlashSale.Proofs.Sale.Promptness
import FlashSale.Proofs.Sale.Service
import FlashSale.Proofs.Sale.Soundness
import FlashSale.Proofs.Sale.Stock
import FlashSale.Proofs.Sale.Turn
import FlashSale.Proofs.Sale.Waiting
import FlashSale.Proofs.Table
import FlashSale.Purchase
import FlashSale.Rehearsal.Command
import FlashSale.Rehearsal.Script
import FlashSale.Rehearsal.Session
import FlashSale.Reply
import FlashSale.Reservations
import FlashSale.Sale.Run
import FlashSale.Sale.State
import FlashSale.Sale.Step
import FlashSale.Sale.Task
import FlashSale.Settlement
import FlashSale.Table
import FlashSale.Text.Blank
import FlashSale.Text.Digits
import FlashSale.Text.Escape
import FlashSale.Text.Number
import FlashSale.Text.Utf8
import FlashSale.Timestamp.Basic
import FlashSale.Timestamp.Text
import FlashSale.Uuid
import FlashSale.Word
import FlashSale.Proofs.Sale.Attention
import FlashSale.Proofs.Sale.Attendance
import FlashSale.Proofs.Sale.Exchange
import FlashSale.Proofs.Sale.Replies
import FlashSale.Proofs.Sale.Line
import FlashSale.Proofs.Sale.Delivery
import FlashSale.Proofs.Sale.Closing
import FlashSale.Proofs.Sale.Backpressure
import FlashSale.Proofs.Ledger.Allocation
import FlashSale.Proofs.Sale.Books
import FlashSale.Proofs.Sale.Pool
import FlashSale.Proofs.Sale.Draining
import FlashSale.Proofs.Sale.Refinement
import FlashSale.Proofs.Database.Server
import FlashSale.Proofs.Database.Rows
import FlashSale.Proofs.Database.Session
import FlashSale.Proofs.Ledger.Replies
import FlashSale.Proofs.Database.Requests
import FlashSale.Proofs.Database.Agreement
import FlashSale.Proofs.KeyValue.Digest
import FlashSale.Proofs.KeyValue.Server
import FlashSale.Proofs.KeyValue.Session
import FlashSale.Proofs.KeyValue.Agreement
import FlashSale.Proofs.Calendar
import FlashSale.Proofs.Text.Digits
import FlashSale.Proofs.Timestamp
import FlashSale.Proofs.Uuid
import FlashSale.Proofs.Json.Quoted
import FlashSale.Proofs.Json.Record
import FlashSale.Proofs.Json.RoundTrip
import FlashSale.Proofs.Reservations.Imprint
import FlashSale.Proofs.Sale.Buying
import FlashSale.Proofs.Sale.Lasting
import FlashSale.Proofs.Sale.EndToEnd
import FlashSale.Proofs.Ledger.History
import FlashSale.Proofs.Ledger.Serial
import FlashSale.Proofs.Ledger.Atomicity
import FlashSale.Proofs.Sale.Records
import FlashSale.Proofs.Sale.Revision
import FlashSale.Proofs.Sale.Bystanders
import FlashSale.Proofs.Sale.Process
import FlashSale.Proofs.Sale.Deadline
import FlashSale.Proofs.Database.Transaction
import FlashSale.Proofs.Reservations.Calls
import FlashSale.Proofs.Reservations.Tally
import FlashSale.Proofs.Reservations.Sweeping
import FlashSale.Proofs.Sale.Plain
import FlashSale.Proofs.Http.Responses
import FlashSale.Proofs.Sale.Web
import FlashSale.Proofs.Http.Handler
import FlashSale.Proofs.Json.Grammar
import FlashSale.Proofs.Json.Reading
import FlashSale.Proofs.Json.Fields
import FlashSale.Proofs.Text.Number
import FlashSale.Proofs.Config.CommandLine
import FlashSale.Proofs.Config.Precedence
import FlashSale.Proofs.Purchase.Course
import FlashSale.Proofs.Sale.Abandoning
import FlashSale.Proofs.Settlement.Course
import FlashSale.Proofs.Sale.Settlements
import FlashSale.Proofs.Order.Forms
import FlashSale.Proofs.AdmissionQueue.Depth
import FlashSale.Proofs.Sale.Crowd
