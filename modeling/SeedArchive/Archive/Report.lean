import SeedArchive.Archive.Layout
import SeedArchive.Csv.Records
import SeedArchive.Zip.Entry

namespace SeedArchive

/-- What an entry of an archive turns out to be. Only tables have rows. -/
structure EntryReport where
  name : String
  rows : Option Nat
  size : Nat
  packed : Nat
  deriving DecidableEq, Repr

/-- What an archive turns out to be, beside the layout. -/
structure Report where
  entries : List EntryReport
  missing : List String
  unexpected : List String
  layoutMatches : Bool
  deriving DecidableEq, Repr

/-- Why an archive cannot be reported on. -/
inductive ReportFault
  | unopened (fault : Zip.Fault)
  | malformed (entry : String) (fault : Csv.Fault)
  | damaged (entry : String) (damage : Zip.Damage)
  deriving DecidableEq

/-- Tables are the entries whose names end like this. -/
def tableEnding : String := ".csv"

def isTable (name : String) : Bool :=
  tableEnding.toList.isSuffixOf name.toList

/-- The number of rows of a table. If its bytes are damaged, a fault in the records before comes
first. -/
def countRows (name : String) (c : Zip.Contents) : Except ReportFault Nat :=
  match c.damage with
  | none =>
    match Csv.read c.bytes with
    | .ok rows => .ok rows.length
    | .error fault => .error (.malformed name fault)
  | some damage =>
    match Csv.checked (Csv.records c.bytes).ended with
    | .ok _ => .error (.damaged name damage)
    | .error fault => .error (.malformed name fault)

def EntryReport.of (e : Zip.Entry) : Except ReportFault EntryReport :=
  match e.source with
  | .error fault => .error (.unopened fault)
  | .ok source =>
    if isTable e.name then
      (countRows e.name (source.contents e.checksum)).map fun n =>
        ⟨e.name, some n, e.size, e.packed⟩
    else .ok ⟨e.name, none, e.size, e.packed⟩

def EntryReport.ofEach : List Zip.Entry → Except ReportFault (List EntryReport)
  | [] => .ok []
  | e :: rest => do
    let report ← EntryReport.of e
    let more ← ofEach rest
    return report :: more

namespace Report

/-- Compares the names of entries with the layout. -/
def ofReports (entries : List EntryReport) : Report :=
  let found := entries.map EntryReport.name
  { entries
    missing := Layout.names.filter fun n => n ∉ found
    unexpected := found.filter fun n => n ∉ Layout.names
    layoutMatches := found = Layout.names }

/-- Goes through the entries in order and stops at the first that cannot be read. -/
def ofEntries (entries : List Zip.Entry) : Except ReportFault Report :=
  (EntryReport.ofEach entries).map ofReports

def ofArchive (archive : List UInt8) : Except ReportFault Report :=
  match Zip.read archive with
  | .error fault => .error (.unopened fault)
  | .ok entries => ofEntries entries

/-- The rows of the first entry of a name. -/
def rowsOf (r : Report) (name : String) : Option Nat :=
  (r.entries.find? fun e => e.name = name).bind EntryReport.rows

end Report

end SeedArchive
