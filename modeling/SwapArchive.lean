import SwapArchive.Text.Ascii
import SwapArchive.Text.Blank
import SwapArchive.Text.Integer
import SwapArchive.Text.LowerCase
import SwapArchive.Text.Quoted
import SwapArchive.Text.Utf8
import SwapArchive.Decimal.Literal
import SwapArchive.Decimal.Style
import SwapArchive.Json.Printer
import SwapArchive.Json.Record
import SwapArchive.Failure
import SwapArchive.Log
import SwapArchive.Calendar
import SwapArchive.Swap.Json
import SwapArchive.Config.Json
import SwapArchive.Store.Listing
import SwapArchive.Store.Opening
import SwapArchive.Source.Client
import SwapArchive.Fetch.Run
import SwapArchive.Shard.Sync
import SwapArchive.Series.Csv
import SwapArchive.Series.Shards
import SwapArchive.CommandLine.Document
import SwapArchive.Main
import SwapArchive.Proofs.Store.Writing
import SwapArchive.Proofs.Fetch.Course
import SwapArchive.Proofs.Fetch.Pages
import SwapArchive.Proofs.Fetch.Completeness
import SwapArchive.Proofs.Fetch.Resumption
import SwapArchive.Proofs.Fetch.Span
import SwapArchive.Proofs.Calendar
import SwapArchive.Proofs.Calendar.Order
import SwapArchive.Proofs.Store.Path
import SwapArchive.Proofs.Store.Opening
import SwapArchive.Proofs.Store.Reopening
import SwapArchive.Proofs.Store.Decoding
import SwapArchive.Proofs.Store.Sessions
import SwapArchive.Proofs.Shard.Names
import SwapArchive.Proofs.Shard.Plan
import SwapArchive.Proofs.Shard.Hour
import SwapArchive.Proofs.Shard.Paths
import SwapArchive.Proofs.Shard.Directory
import SwapArchive.Proofs.Shard.Calls
import SwapArchive.Proofs.Json.Text
import SwapArchive.Proofs.Text.Integer
import SwapArchive.Proofs.Json.Record
import SwapArchive.Proofs.Json.Items
import SwapArchive.Proofs.Swap.Json
import SwapArchive.Proofs.Store.Scan
import SwapArchive.Proofs.Shard.Listing
import SwapArchive.Proofs.Series.Reading
import SwapArchive.Proofs.Series.Trades
import SwapArchive.Proofs.Shard.Complete
import SwapArchive.Proofs.Series.Archive
import SwapArchive.Proofs.Fetch.Turns
import SwapArchive.Proofs.Fetch.Accounts
import SwapArchive.Proofs.Fetch.Restart
import SwapArchive.Proofs.Fetch.FullSeconds
import SwapArchive.Proofs.Fetch.Stages
import SwapArchive.Proofs.Series.Candles
import SwapArchive.Proofs.Series.Aggregation
import SwapArchive.Proofs.Store.RoundTrip
import SwapArchive.Proofs.Source.Answer
import SwapArchive.Proofs.Fetch.Validity
import SwapArchive.Proofs.Fetch.Retries
import SwapArchive.Proofs.Retry.Delay
import SwapArchive.Proofs.Decimal.Order
import SwapArchive.Proofs.Series.Extremes
import SwapArchive.Proofs.Series.Latest
import SwapArchive.Proofs.Series.Building
import SwapArchive.Proofs.Store.Batches
import SwapArchive.Proofs.Retry.Outcomes
import SwapArchive.Proofs.Series.Arrangement
import SwapArchive.Proofs.Series.Rolling
import SwapArchive.Proofs.Series.Lines
import SwapArchive.Proofs.Text.Ascii
import SwapArchive.Proofs.Series.Orientation
