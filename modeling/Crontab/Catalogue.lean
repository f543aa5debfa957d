/-!
# The catalogue of common expressions
-/

namespace Crontab

/-- An expression with a title and an explanation. -/
structure Example where
  expression : String
  label : String
  description : String
deriving DecidableEq, Repr

def catalogue : List Example := [
  ⟨"* * * * *", "Every Minute", "Runs every minute of every day"⟩,
  ⟨"0 * * * *", "Every Hour", "Runs at the start of every hour"⟩,
  ⟨"0 0 * * *", "Daily at Midnight", "Runs once a day at 00:00"⟩,
  ⟨"0 9 * * 1-5", "Weekdays at 9 AM", "Runs at 9 AM Monday through Friday"⟩,
  ⟨"0 0 * * 0", "Weekly on Sunday", "Runs every Sunday at midnight"⟩,
  ⟨"0 0 1 * *", "Monthly (1st)", "Runs on the 1st of every month"⟩,
  ⟨"0 0 1 1 *", "Yearly (Jan 1)", "Runs once a year on January 1st"⟩,
  ⟨"*/15 * * * *", "Every 15 Minutes", "Runs every 15 minutes"⟩,
  ⟨"0 */2 * * *", "Every 2 Hours", "Runs every 2 hours on the hour"⟩,
  ⟨"30 4 1,15 * *", "1st & 15th at 4:30 AM", "Runs at 4:30 AM on the 1st and 15th"⟩,
  ⟨"0 22 * * 1-5", "Weekdays at 10 PM", "Runs at 10 PM Monday through Friday"⟩,
  ⟨"0 0 * * 6,0", "Weekends at Midnight", "Runs at midnight on Saturday and Sunday"⟩]

end Crontab
