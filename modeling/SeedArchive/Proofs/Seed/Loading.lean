import SeedArchive.Workspace
import SeedArchive.Proofs.Control.Except

namespace SeedArchive

theorem run_readOrFail (path : String) (failure : Unread → Failure) (m : Machine) :
    (readOrFail path failure : ExceptT Failure (StateM Machine) (List UInt8)).run m =
      (((m.contents path).mapError .broken).mapError failure, m) := by
  rfl

theorem run_present (path : String) (m : Machine) :
    ((Disk.present path : StateM Machine Bool) : ExceptT Failure (StateM Machine) Bool).run m =
      (.ok (m.find path).toOption.isSome, m) := by
  rfl

theorem present_of_contents {m : Machine} {path : String} {document : List UInt8}
    (h : m.contents path = .ok document) : (m.find path).toOption.isSome := by
  obtain ⟨found, hfind, -⟩ := bind_eq_ok_iff.mp h
  rw [hfind]
  rfl

/-- What the document at a path of a machine reads as. -/
def Machine.recordAt {α : Type} (m : Machine) (r : Json.Record α) (path : String) :
    Except Failure α :=
  if (m.find path).toOption.isSome then
    match m.contents path with
    | .ok document => (Json.decode .streamed r.read document).mapError (.malformed path)
    | .error e => .error (.unread path e)
  else .error (.absent path)

theorem recordAt_of_contents {α : Type} (r : Json.Record α) {m : Machine} {path : String}
    {document : List UInt8} (h : m.contents path = .ok document) :
    m.recordAt r path = (Json.decode .streamed r.read document).mapError (.malformed path) := by
  rw [Machine.recordAt, if_pos (present_of_contents h), h]

/-- Reading leaves the machine as it is. -/
theorem run_loadRecord {α : Type} (r : Json.Record α) (path : String) (m : Machine) :
    (loadRecord r path : ExceptT Failure (StateM Machine) α).run m = (m.recordAt r path, m) := by
  rw [loadRecord, run_bind, run_present, Machine.recordAt]
  dsimp only
  split
  · rw [run_bind, run_readOrFail]
    cases m.contents path <;> rfl
  · rfl

def Machine.seedAt (m : Machine) (coa templates : String) : Except Failure Seed := do
  let accounts ← m.recordAt Account.chart coa
  let templates ← m.recordAt JournalTemplate.catalog templates
  return { accounts, templates }

theorem run_loadSeed (coa templates : String) (m : Machine) :
    (loadSeed coa templates : ExceptT Failure (StateM Machine) Seed).run m =
      (m.seedAt coa templates, m) := by
  rw [loadSeed, run_bind, run_loadRecord, Machine.seedAt]
  cases m.recordAt Account.chart coa with
  | error e => rfl
  | ok accounts =>
    dsimp only
    rw [run_bind, run_loadRecord]
    cases m.recordAt JournalTemplate.catalog templates <;> rfl

theorem run_loadSettings (w : Workspace) (m : Machine) :
    ∃ settings, (loadSettings w : ExceptT Failure (StateM Machine) Settings).run m =
      (settings, m) := by
  rw [loadSettings, run_bind, run_present]
  dsimp only
  split
  · rw [run_bind, run_readOrFail]
    cases m.contents w.settingsFile with
    | error e => exact ⟨_, rfl⟩
    | ok document =>
      dsimp only [mapError_ok]
      split <;> exact ⟨_, rfl⟩
  · exact ⟨_, rfl⟩

theorem run_inspectFile {m : Machine} {path : String} {bytes : List UInt8}
    (h : m.contents path = .ok bytes) :
    (inspectFile path : ExceptT Failure (StateM Machine) Report).run m =
      ((Report.ofArchive bytes).mapError .report, m) := by
  rw [inspectFile, run_bind, run_present]
  dsimp only
  rw [if_pos (present_of_contents h), run_bind, run_readOrFail, h]
  rfl

end SeedArchive
