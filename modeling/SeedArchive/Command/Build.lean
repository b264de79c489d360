import SeedArchive.Command.Arguments
import SeedArchive.Workspace

namespace SeedArchive

/-- What a build did. `output` is the path as the user gave it. -/
structure BuildSummary where
  output : String
  writtenTo : String
  accounts : Nat
  templates : Nat
  entries : Nat
  findings : Nat
  deriving DecidableEq, Repr

namespace BuildOptions

def coaPath (o : BuildOptions) (w : Workspace) : String :=
  o.coa?.elim w.coaFile w.resolve

def templatesPath (o : BuildOptions) (w : Workspace) : String :=
  o.templates?.elim w.templatesFile w.resolve

def output (o : BuildOptions) (settings : Settings) : String :=
  o.output?.getD settings.outputFile

end BuildOptions

variable {m : Type → Type} [Monad m] {Handle : Type} [Disk m Handle]

/-- Loads a seed, checks it, and writes its archive. -/
def build (w : Workspace) (settings : Settings) (now : Timestamp) (o : BuildOptions) :
    ExceptT Failure m BuildSummary := do
  let seed ← loadSeed (o.coaPath w) (o.templatesPath w)
  let findings ← ExceptT.mk (pure ((seed.check o.strict).mapError .findings))
  let archive ← ExceptT.mk (pure ((seed.build settings now).mapError .oversized))
  let output := o.output settings
  let writtenTo := w.resolve output
  ExceptT.mk do
    let outcome ← (replaceFile writtenTo { bytes := archive.bytes } : ExceptT _ m Unit)
    return outcome.mapError .replace
  return {
    output
    writtenTo
    accounts := archive.accounts
    templates := archive.templates
    entries := archive.entries.length
    findings }

namespace BuildSummary

def lines (s : BuildSummary) : List String :=
  [s!"Created {s.output}",
    s!"  - {s.accounts} chart of accounts",
    s!"  - {s.templates} journal templates"] ++
  (if s.findings = 0 then []
    else [s!"  - {s.findings} seed data warning(s); rerun with --strict to fail on them"]) ++
  ["",
    s!"Import via: Settings > Import Data > Upload {s.output}"]

end BuildSummary

end SeedArchive
