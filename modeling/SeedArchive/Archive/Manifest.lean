import SeedArchive.Archive.Timestamp
import SeedArchive.Settings

namespace SeedArchive

/-- What an archive tells about itself. -/
structure Manifest where
  exportedAt : Timestamp
  accounts : Nat
  templates : Nat
  deriving DecidableEq

namespace Manifest

def formatVersion : String := "2.0"

/-- The label of the line that says when an archive was made. -/
def dateLabel : String := "Export Date: "

/-- The kinds of records that are never exported. -/
def absent : List String := [
  "Journal Entries: 0 records",
  "Transactions: 0 records",
  "Clients: 0 records",
  "Projects: 0 records",
  "Invoices: 0 records",
  "Employees: 0 records",
  "Payroll Runs: 0 records",
  "Users: 0 records",
  "Documents: 0 files",
  "Audit Logs: 0 records"]

def lines (m : Manifest) (s : Settings) : List String :=
  ["# Data Export Manifest",
    "",
    dateLabel ++ m.exportedAt.text,
    "Application: " ++ s.applicationName,
    "Format Version: " ++ formatVersion,
    "",
    "## Company Information",
    "Name: " ++ s.companyName,
    "NPWP: " ++ s.companyNpwp,
    "",
    "## Export Contents",
    "- Chart of Accounts: " ++ toString m.accounts ++ " records",
    "- Journal Templates: " ++ toString m.templates ++ " records"] ++
  absent.map ("- " ++ ·) ++
  ["",
    "## Notes",
    "This is a seed data export containing only:",
    "- Chart of Accounts (" ++ s.coaLabel ++ ")",
    "- Journal Templates (" ++ s.templatesLabel ++ ")",
    "",
    "All other tables are empty placeholders."]

def text (m : Manifest) (s : Settings) : String :=
  String.join ((m.lines s).map (· ++ "\n"))

end Manifest

end SeedArchive
