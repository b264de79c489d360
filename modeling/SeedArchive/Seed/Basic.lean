import SeedArchive.Seed.Template

namespace SeedArchive

/-- What an archive is built from. -/
structure Seed where
  accounts : List Account := []
  templates : List JournalTemplate := []
  deriving DecidableEq, Repr

end SeedArchive
