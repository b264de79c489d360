import SeedArchive.Json.Record
import SeedArchive.Text.Blank

namespace SeedArchive

/-- What the user may set. Every field has a stock value. -/
structure Settings where
  applicationName : String := "Aplikasi Akunting"
  companyName : String := "PT Artivisi Intermedia"
  companyNpwp : String := "-"
  coaLabel : String := "Artivisi IT Services COA v2.1"
  templatesLabel : String := "Artivisi templates v2.1"
  outputFile : String := "artivisi-seed-data.zip"
  deriving DecidableEq, Repr

namespace Settings

def record : Json.Record Settings where
  name := "struct Settings"
  blank := {}
  fields := [
    .string "applicationName" fun s x => { x with applicationName := s },
    .string "companyName" fun s x => { x with companyName := s },
    .string "companyNpwp" fun s x => { x with companyNpwp := s },
    .string "coaLabel" fun s x => { x with coaLabel := s },
    .string "templatesLabel" fun s x => { x with templatesLabel := s },
    .string "outputFile" fun s x => { x with outputFile := s }]

/-- Why a settings document is refused. -/
inductive Fault
  | malformed (refusal : Json.Refusal)
  | blankOutput

/-- Reads a settings document. The output file has to have a visible name. -/
def ofDocument (document : List UInt8) : Except Fault Settings := do
  let s ← (Json.decode .held record.read document).mapError .malformed
  if blank s.outputFile then throw .blankOutput
  return s

end Settings

end SeedArchive
