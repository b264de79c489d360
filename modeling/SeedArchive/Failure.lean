import SeedArchive.Archive.Build
import SeedArchive.Archive.Report
import SeedArchive.Files.Replace
import SeedArchive.Seed.Finding
import SeedArchive.Settings

namespace SeedArchive

/-- The kinds of failures that a user is told apart. -/
inductive Category
  | configuration
  | files
  | json
  | validation
  | archive
  | missingInput
  deriving DecidableEq, Repr

/-- What a message starts with. -/
def Category.heading : Category → String
  | .configuration => "Configuration error: "
  | .files => "I/O error: "
  | .json => "JSON error: "
  | .validation => "Validation error: "
  | .archive => "Archive error: "
  | .missingInput => "Seed file not found: "

/-- Why the program cannot do what it was asked to do. -/
inductive Failure
  | noCurrentDirectory (error : SystemError)
  | settingsUnread (error : SystemError)
  | settings (fault : Settings.Fault)
  | absent (path : String)
  | unopened (path : String) (error : SystemError)
  | unread (path : String) (error : SystemError)
  | malformed (path : String) (refusal : Json.Refusal)
  | findings (found : List Finding)
  | oversized (entry : OversizedEntry)
  | report (fault : ReportFault)
  | unlikeLayout (archive : String) (missing unexpected : Nat)
  | replace (fault : ReplaceFault)

namespace Failure

def category : Failure → Category
  | .noCurrentDirectory _ => .configuration
  | .settingsUnread _ => .files
  | .settings _ => .configuration
  | .absent _ => .missingInput
  | .unopened _ _ => .files
  | .unread _ _ => .json
  | .malformed _ _ => .json
  | .findings _ => .validation
  | .oversized _ => .archive
  | .report _ => .archive
  | .unlikeLayout _ _ _ => .archive
  | .replace _ => .files

end Failure

def Settings.Fault.text : Settings.Fault → String
  | .malformed refusal => s!"Failed to parse settings file: {refusal.text}"
  | .blankOutput => "outputFile must not be empty"

def ReportFault.text : ReportFault → String
  | .unopened fault => fault.text
  | .malformed entry fault => s!"Malformed CSV in {entry}: {fault.text}"
  | .damaged entry damage => s!"Malformed CSV in {entry}: {damage.text}"

def findingsText (found : List Finding) : String :=
  s!"{found.length} problem(s) in seed data: " ++ "; ".intercalate (found.map Finding.text)

namespace Failure

def text : Failure → String
  | .noCurrentDirectory e => s!"Could not determine current directory: {e.text}"
  | .settingsUnread e => s!"Failed to read settings file: {e.text}"
  | .settings fault => fault.text
  | .absent path => path
  | .unopened path e => s!"Failed to open {path}: {e.text}"
  | .unread path e => s!"Failed to parse {path}: {e.text}"
  | .malformed path refusal => s!"Failed to parse {path}: {refusal.text}"
  | .findings found => findingsText found
  | .oversized entry => s!"Failed to write entry {entry.name}: Large file option has not been set"
  | .report fault => fault.text
  | .unlikeLayout archive missing unexpected =>
    s!"{archive} does not match the import layout ({missing} missing, {unexpected} unexpected)"
  | .replace fault => fault.text

def message (f : Failure) : String :=
  f.category.heading ++ f.text

end Failure

end SeedArchive
