import Crontab.LogLevel
import Crontab.Service.Routes
import Crontab.Main
import Crontab.Calendar.Iso.Reader
import Crontab.Proofs.Schedule.Crossing
import Crontab.Proofs.Schedule.Due
import Crontab.Proofs.Schedule.PlainWalk
import Crontab.Proofs.Schedule.NextRuns
import Crontab.Proofs.Evaluation
import Crontab.Proofs.Field.Grammar
import Crontab.Proofs.Field.Expansion
import Crontab.Proofs.Field.Reading
import Crontab.Proofs.Prose.Description
import Crontab.Proofs.Expression
import Crontab.Proofs.Report
import Crontab.Proofs.Field.Faults
import Crontab.Proofs.Paging
import Crontab.Proofs.Schedule.Windows
import Crontab.Proofs.Outcome
import Crontab.Proofs.Schedule.Heatmap
import Crontab.Proofs.Field.Blame
import Crontab.Proofs.Service.Routes
import Crontab.Proofs.Words
import Crontab.Proofs.Field.Table
import Crontab.Proofs.Field.Capitals
import Crontab.Proofs.LetterCase
import Crontab.Proofs.Calendar.Months
import Crontab.Proofs.Schedule.Recurrence
import Crontab.Proofs.CommandLine.Output
import Crontab.Proofs.CommandLine.NoRuns
import Crontab.Proofs.Quotation
import Crontab.Proofs.CommandLine.Lines
