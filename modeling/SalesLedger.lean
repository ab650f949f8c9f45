import SalesLedger.Insight.Pipeline
import SalesLedger.Main
import SalesLedger.Parameters.Direct
import SalesLedger.Proofs.CalendarWindows
import SalesLedger.Proofs.ColumnNames
import SalesLedger.Proofs.Conversing
import SalesLedger.Proofs.Counting
import SalesLedger.Proofs.Degrading
import SalesLedger.Proofs.DirectReading
import SalesLedger.Proofs.Extending
import SalesLedger.Proofs.FileNames
import SalesLedger.Proofs.Inventory
import SalesLedger.Proofs.Isolation
import SalesLedger.Proofs.Latest
import SalesLedger.Proofs.Limits
import SalesLedger.Proofs.NoData
import SalesLedger.Proofs.NormalForm
import SalesLedger.Proofs.Normalizing
import SalesLedger.Proofs.Offsets
import SalesLedger.Proofs.OwnNames
import SalesLedger.Proofs.PeriodSpelling
import SalesLedger.Proofs.Retrying
import SalesLedger.Proofs.RoundTrip
import SalesLedger.Proofs.Shaping
import SalesLedger.Proofs.Sorting
import SalesLedger.Proofs.Spelling
import SalesLedger.Proofs.Strictness
import SalesLedger.Proofs.Summaries
import SalesLedger.Proofs.Sums
import SalesLedger.Proofs.Trends
import SalesLedger.Proofs.TwoColumns
import SalesLedger.Proofs.Unreadable
import SalesLedger.Proofs.Wrapping
import SalesLedger.Proofs.YearToDate
