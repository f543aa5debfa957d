import Crontab.Calendar.Iso
import Crontab.Catalogue
import Crontab.Json
import Crontab.Report
import Crontab.Schedule.Heatmap

/-!
# Results as JSON

The JSON form of readings, reports, windows, heatmaps and the catalogue. The text of a timestamp is
left to the caller, since an offset has two spellings.
-/

namespace Crontab

/-- A number of things. -/
def Json.count (n : Nat) : Json := .int n

/-- A list of timestamps in the given spelling. -/
def Json.times (time : Timestamp → String) (ts : List Timestamp) : Json :=
  .arr (ts.map fun t => .str (time t))

def Reading.toJson (r : Reading) : Json :=
  .obj [
    ("name", .str r.domain.label),
    ("expression", .str r.text),
    ("values", .arr (r.values.map .int)),
    ("valid", .bool r.isValid),
    ("min", .int r.domain.lo),
    ("max", .int r.domain.hi),
    ("description", .str r.description),
    ("error", .str? (r.refusal?.map (·.message))),
    ("error_kind", .str? (r.refusal?.map (·.kind.label)))]

def Report.toJson (time : Timestamp → String) (r : Report) : Json :=
  .obj [
    ("expression", .str r.expression),
    ("is_valid", .bool r.isValid),
    ("error", .str? (r.problem?.map (·.message))),
    ("error_kind", .str? (r.problem?.map (·.kind.label))),
    ("fields", .arr (r.fields.map (·.toJson))),
    ("description", .str r.description),
    ("next_occurrences", .times time r.runs),
    ("reference", .str (time r.reference))]

def Example.toJson (e : Example) : Json :=
  .obj [
    ("expression", .str e.expression),
    ("label", .str e.label),
    ("description", .str e.description)]

def HeatCell.toJson (c : HeatCell) : Json :=
  .obj [("hour", .count c.hour), ("day", .count c.weekday), ("count", .count c.count)]

/-- The bounds of a window as members of a larger object. -/
def Window.members (time : Timestamp → String) (w : Window) : List (String × Json) :=
  [("from_dt", .str (time w.start)), ("to_dt", .str (time w.stop))]

def Domain.toJson (d : Domain) : Json :=
  .obj [
    ("name", .str d.label),
    ("min", .int d.lo),
    ("max", .int d.hi),
    ("symbolic_names", if d.names.isEmpty then .null else .arr (d.names.map .str)),
    ("size", .int d.size)]

end Crontab
