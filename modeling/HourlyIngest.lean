import HourlyIngest.Database.Script
import HourlyIngest.Json.Reader
import HourlyIngest.Main
import HourlyIngest.Observation.Decode
import HourlyIngest.Progress
import HourlyIngest.Proofs.Csv.RoundTrip
import HourlyIngest.Proofs.Csv.Unclosed
import HourlyIngest.Proofs.Database.Arrival
import HourlyIngest.Proofs.Database.Tally
import HourlyIngest.Proofs.Sql.Binding
import HourlyIngest.Proofs.Sweep.Conservation
import HourlyIngest.Proofs.Sweep.Deletion
import HourlyIngest.Proofs.Sweep.Forecast
import HourlyIngest.Run
import HourlyIngest.Proofs.Sweep.Strict
import HourlyIngest.Proofs.FileSystem.Variant
import HourlyIngest.Proofs.Sweep.Isolation
import HourlyIngest.Proofs.Database.Greeting
import HourlyIngest.Proofs.FileSystem.Writing
import HourlyIngest.Proofs.Sweep.Completion
import HourlyIngest.Proofs.Sweep.Commitment
import HourlyIngest.Proofs.Run.Course
import HourlyIngest.Proofs.Run.ExitStatus
import HourlyIngest.Proofs.Setting.Overlay
import HourlyIngest.Proofs.Setting.Precedence
import HourlyIngest.Proofs.Csv.Defect
import HourlyIngest.Proofs.Csv.Place
import HourlyIngest.Proofs.Number.Numeral
import HourlyIngest.Proofs.Number.Rounding
import HourlyIngest.Proofs.Setting.Field
import HourlyIngest.Proofs.Setting.Variable
import HourlyIngest.Proofs.Json.Numeral
import HourlyIngest.Proofs.Toml.Numeral
import HourlyIngest.Proofs.Setting.Whole
import HourlyIngest.Proofs.Csv.Boundary
import HourlyIngest.Proofs.Sql.Layout
import HourlyIngest.Proofs.FileSystem.Enumeration
import HourlyIngest.Proofs.FileSystem.Order
import HourlyIngest.Proofs.Text.Suffix
import HourlyIngest.Proofs.SourceFile.Listing
import HourlyIngest.Proofs.Sweep.Account
import HourlyIngest.Proofs.Sweep.Summary
import HourlyIngest.Proofs.Sweep.Gain
import HourlyIngest.Proofs.Json.RoundTrip
import HourlyIngest.Proofs.Report.RoundTrip
import HourlyIngest.Proofs.Connection.Pairs
import HourlyIngest.Proofs.Connection.Coded
import HourlyIngest.Proofs.Connection.Parameters
import HourlyIngest.Proofs.Connection.Spelling
import HourlyIngest.Proofs.Connection.Timeout
import HourlyIngest.Proofs.Setting.Conversion
import HourlyIngest.Proofs.Setting.Rule
import HourlyIngest.Proofs.CommandLine.Spelling
import HourlyIngest.Proofs.CommandLine.Meaning
import HourlyIngest.Proofs.Observation.Complete
import HourlyIngest.Proofs.SourceFile.Ending
