/-
# The store of reports

The reports that a client has received, one for each identifier.  A report that comes
again replaces the earlier one and goes to the end, so that a replay after a new
connection refreshes the store and doubles nothing.
-/
import ReportRelay.Group.Report

namespace ReportRelay

/-- The received reports. -/
structure Store where
  /-- The reports in the order of their last arrival. -/
  reports : List GroupedReport
  /-- The number of changes. -/
  revision : Nat
  deriving Repr

namespace Store

/-- A store without reports. -/
def empty : Store := ⟨[], 0⟩

/-- The name of a store among consumers of reports. -/
def name : String := "report-store"

/-- Adds a report at the end in place of the one with its identifier. -/
def add (store : Store) (report : GroupedReport) : Store :=
  ⟨store.reports.eraseP (fun r => r.id == report.id) ++ [report], store.revision + 1⟩

/-- The identifiers of the reports. -/
def ids (store : Store) : List String := store.reports.map GroupedReport.id

/-- The report with an identifier. -/
def get? (store : Store) (id : String) : Option GroupedReport :=
  store.reports.find? fun r => r.id == id

end Store

end ReportRelay
