import SeedArchive.Archive.Listing
import SeedArchive.Command.Build

namespace SeedArchive

/-- What a run of the program ends with: its exit code, what it prints, and what it prints as an
error. -/
structure Outcome where
  code : Nat
  output : String := ""
  error : String := ""
  deriving DecidableEq, Repr

/-- What surrounds a run: the directory that the environment names, the current directory, and the
time. -/
structure Surroundings where
  named? : Option String
  current : Except SystemError String
  now : Timestamp

namespace Outcome

def ofLines (lines : List String) : Outcome :=
  { code := 0, output := String.join (lines.map (· ++ "\n")) }

/-- Fails after the lines are printed. -/
def failed (lines : List String) (f : Failure) : Outcome :=
  { ofLines lines with code := 1, error := s!"Error: {f.message}\n" }

def misuse : Outcome :=
  { code := 2, error := "error: invalid arguments\n\nFor more information, try '--help'.\n" }

def version : Outcome :=
  ofLines ["seed-export 0.1.0"]

def help : Outcome :=
  ofLines [
    "Build an accounting import archive from seed files",
    "",
    "Usage: seed-export [OPTIONS]",
    "       seed-export build [OPTIONS]",
    "       seed-export inspect [ARCHIVE]",
    "",
    "Options:",
    "      --coa <PATH>        Chart of accounts JSON (default: templates/coa.json)",
    "      --templates <PATH>  Journal templates JSON (default: templates/journal-templates.json)",
    "  -o, --output <PATH>     Archive to write (default: outputFile from settings)",
    "      --strict            Refuse to build when the seed data has integrity problems",
    "  -h, --help              Print help",
    "  -V, --version           Print version"]

end Outcome

/-- The lines that tell of a report, and why it is a failure if it is one. -/
def reportLines (archive : String) (r : Report) : List String × Option Failure :=
  let lines := [s!"Archive: {archive}", "", r.listing]
  if r.layoutMatches then
    (lines ++ ["", s!"Layout OK: {r.entries.length} entries"], none)
  else (lines, some (.unlikeLayout archive r.missing.length r.unexpected.length))

def Surroundings.workspace (s : Surroundings) : Except Failure Workspace :=
  match s.named? with
  | some base => .ok ⟨base⟩
  | none => (s.current.map Workspace.mk).mapError .noCurrentDirectory

variable {m : Type → Type} [Monad m] {Handle : Type} [Disk m Handle]

/-- Builds, and tells of it. -/
def answerBuild (w : Workspace) (settings : Settings) (now : Timestamp) (o : BuildOptions) :
    ExceptT Failure m Outcome := do
  let summary ← build w settings now o
  return .ofLines summary.lines

/-- Reads the settings and does what the request says. -/
def answer (w : Workspace) (now : Timestamp) (request : Request) : ExceptT Failure m Outcome := do
  let settings ← loadSettings w
  match request with
  | .build o => answerBuild w settings now o
  | .inspect archive? => do
    let archive := archive?.getD settings.outputFile
    let report ← inspectFile (w.resolve archive)
    return match reportLines archive report with
      | (lines, none) => .ofLines lines
      | (lines, some failure) => .failed lines failure
  | .byDefault o => answerBuild w settings now o
  | .version => return .version
  | .help => return .help
  | .misuse => return .misuse

/-- Runs the program. Without a sensible request nothing is read. -/
def run (s : Surroundings) (arguments : List String) : m Outcome :=
  match Arguments.read arguments with
  | .misuse => return .misuse
  | .version => return .version
  | .help => return .help
  | request =>
    match s.workspace with
    | .error failure => return .failed [] failure
    | .ok w => do
      match ← (answer w s.now request).run with
      | .ok outcome => return outcome
      | .error failure => return .failed [] failure

end SeedArchive
