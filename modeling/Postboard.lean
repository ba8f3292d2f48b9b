import Postboard.Command.FileTree
import Postboard.Main
import Postboard.Session.Action
import Postboard.Session.View
import Postboard.Snapshot.Json
import Postboard.Proofs.Collector.Built
import Postboard.Proofs.Collector.Held
import Postboard.Proofs.Command.Built
import Postboard.Proofs.Command.Paging
import Postboard.Proofs.Command.Shuffled
import Postboard.Proofs.Filter.Assembled
import Postboard.Proofs.Filter.Compiled
import Postboard.Proofs.Filter.Counts
import Postboard.Proofs.Filter.Days
import Postboard.Proofs.Filter.Literal
import Postboard.Proofs.Filter.Pickers
import Postboard.Proofs.Gzip.Limit
import Postboard.Proofs.Gzip.Room
import Postboard.Proofs.Gzip.Stored
import Postboard.Proofs.Json.Fields
import Postboard.Proofs.Json.Grammar
import Postboard.Proofs.Json.Integers
import Postboard.Proofs.Json.Members
import Postboard.Proofs.Json.RoundTrip
import Postboard.Proofs.Json.Written
import Postboard.Proofs.Pager.Counting
import Postboard.Proofs.Pager.Saturation
import Postboard.Proofs.Post.Imported
import Postboard.Proofs.Request.Created
import Postboard.Proofs.Request.Disjunction
import Postboard.Proofs.Request.Escape
import Postboard.Proofs.Request.Pattern
import Postboard.Proofs.Request.Query
import Postboard.Proofs.Session.Agreement
import Postboard.Proofs.Session.Emptiness
import Postboard.Proofs.Session.Interference
import Postboard.Proofs.Session.Latest
import Postboard.Proofs.Session.Pages
import Postboard.Proofs.Session.Turns
import Postboard.Proofs.Session.Walk
import Postboard.Proofs.Snapshot.Acceptance
import Postboard.Proofs.Snapshot.Codec
import Postboard.Proofs.Snapshot.RoundTrip
import Postboard.Proofs.Statistics.Partition
import Postboard.Proofs.Store.Arrangement
import Postboard.Proofs.Store.Narrowing
import Postboard.Proofs.Store.Order
import Postboard.Proofs.Store.Received
import Postboard.Proofs.Text.ByteOrder
import Postboard.Proofs.Text.Decimal
import Postboard.Proofs.Text.LowerCase
import Postboard.Proofs.Text.Parts
import Postboard.Proofs.Text.Percent
import Postboard.Proofs.Text.Search
import Postboard.Proofs.Text.Squeeze
import Postboard.Proofs.Text.Trim
import Postboard.Proofs.Text.Wildcard
import Postboard.Proofs.Time.Civil
import Postboard.Proofs.Time.Layout
import Postboard.Proofs.Time.Profile
import Postboard.Proofs.Time.Spellings
import Postboard.Proofs.Time.Written
