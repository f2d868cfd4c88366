/-
# A store keeps the last arrivals

After any reports have been added to an empty store, it holds those after which no other with
the same identifier has come, in their order (`reports_foldl_add`).  So a stretch of reports
that comes twice in a row leaves the store as if it had come once, whatever came before and
comes after (`lastArrivals_again`).
-/
import Mathlib.Data.List.Induction
import ReportRelay.Store

namespace ReportRelay

/-! ## Last arrivals -/

/-- Tells whether a report with an identifier is among reports. -/
def hasId (reports : List GroupedReport) (id : String) : Bool := reports.any fun r => r.id == id

/-- The reports after which no other with the same identifier comes. -/
def lastArrivals : List GroupedReport → List GroupedReport
  | [] => []
  | report :: reports =>
    if hasId reports report.id then lastArrivals reports else report :: lastArrivals reports

/-- An identifier is among the reports of two lists if it is in one of them. -/
@[simp] theorem hasId_append (reports more : List GroupedReport) (id : String) :
    hasId (reports ++ more) id = (hasId reports id || hasId more id) :=
  List.any_append

/-- The identifier of a report is among any that it is one of. -/
theorem hasId_of_mem {reports : List GroupedReport} {report : GroupedReport}
    (h : report ∈ reports) : hasId reports report.id = true :=
  List.any_eq_true.mpr ⟨report, h, beq_self_eq_true _⟩

/-- Last arrivals are arrivals. -/
theorem mem_of_mem_lastArrivals {reports : List GroupedReport} {report : GroupedReport}
    (h : report ∈ lastArrivals reports) : report ∈ reports := by
  induction reports with
  | nil => exact h
  | cons first reports ih =>
      rw [lastArrivals] at h
      split at h
      · exact List.mem_cons_of_mem _ (ih h)
      · rcases List.mem_cons.mp h with rfl | h
        · exact List.mem_cons_self
        · exact List.mem_cons_of_mem _ (ih h)

/-- Later reports take the place of the earlier ones with their identifiers. -/
theorem lastArrivals_append (reports more : List GroupedReport) :
    lastArrivals (reports ++ more)
      = (lastArrivals reports).filter (fun r => !hasId more r.id) ++ lastArrivals more := by
  induction reports with
  | nil => rfl
  | cons report reports ih =>
      rw [List.cons_append, lastArrivals, lastArrivals, hasId_append]
      cases hreports : hasId reports report.id with
      | true => simpa using ih
      | false =>
          cases hmore : hasId more report.id <;> simp [hmore, ih]

/-- No two last arrivals have one identifier. -/
theorem nodup_ids_lastArrivals (reports : List GroupedReport) :
    ((lastArrivals reports).map GroupedReport.id).Nodup := by
  induction reports with
  | nil => exact List.nodup_nil
  | cons report reports ih =>
      rw [lastArrivals]
      split
      · exact ih
      · next hid =>
          rw [List.map_cons, List.nodup_cons]
          refine ⟨fun hmem => hid ?_, ih⟩
          obtain ⟨other, hother, heq⟩ := List.mem_map.mp hmem
          rw [← heq]
          exact hasId_of_mem (mem_of_mem_lastArrivals hother)

/-! ## The store -/

/-- Among reports with different identifiers there is one to be taken out, or none. -/
theorem eraseP_eq_filter {reports : List GroupedReport}
    (hnodup : (reports.map GroupedReport.id).Nodup) (id : String) :
    reports.eraseP (fun r => r.id == id) = reports.filter fun r => !(r.id == id) := by
  induction reports with
  | nil => rfl
  | cons report reports ih =>
      rw [List.map_cons, List.nodup_cons] at hnodup
      by_cases hid : report.id = id
      · have hrest : reports.filter (fun r => !(r.id == id)) = reports := by
          refine List.filter_eq_self.mpr fun other hother => ?_
          rw [Bool.not_eq_true', beq_eq_false_iff_ne]
          intro heq
          exact hnodup.1 (hid ▸ heq ▸ List.mem_map_of_mem hother)
        simp [hid, hrest]
      · simp [hid, ih hnodup.2]

/-- **A store holds the last arrivals.** -/
theorem reports_foldl_add (reports : List GroupedReport) :
    (reports.foldl Store.add Store.empty).reports = lastArrivals reports := by
  induction reports using List.reverseRecOn with
  | nil => rfl
  | append_singleton reports report ih =>
      have hsame : (lastArrivals reports).filter (fun r => !hasId [report] r.id)
          = (lastArrivals reports).filter fun r => !(r.id == report.id) := by
        refine List.filter_congr fun other _ => ?_
        rw [hasId, List.any_cons, List.any_nil, Bool.or_false, Bool.beq_comm]
      rw [List.foldl_append, List.foldl_cons, List.foldl_nil, Store.add, ih,
        eraseP_eq_filter (nodup_ids_lastArrivals reports), lastArrivals_append, hsame]
      rfl

/-! ## Reports that come again -/

/-- What comes later is all that matters of the last arrivals before. -/
theorem lastArrivals_append_congr {reports others : List GroupedReport}
    (h : lastArrivals reports = lastArrivals others) (more : List GroupedReport) :
    lastArrivals (reports ++ more) = lastArrivals (others ++ more) := by
  rw [lastArrivals_append, lastArrivals_append, h]

/-- **Reports that come again at once leave the last arrivals as they are**, whatever comes
before and after. -/
theorem lastArrivals_again (before again after : List GroupedReport) :
    lastArrivals (before ++ again ++ (again ++ after))
      = lastArrivals (before ++ again ++ after) := by
  -- of the first copy, all reports are replaced by those of the second
  have hagain : (lastArrivals again).filter (fun r => !hasId (again ++ after) r.id) = [] := by
    refine List.filter_eq_nil_iff.mpr fun r hr => ?_
    simp [hasId_of_mem (mem_of_mem_lastArrivals hr)]
  rw [List.append_assoc before again after, lastArrivals_append (before ++ again),
    lastArrivals_append before (again ++ after), lastArrivals_append before again,
    List.filter_append, hagain, List.append_nil, List.filter_filter]
  congr 1
  refine List.filter_congr fun r _ => ?_
  rw [hasId_append]
  cases hasId again r.id <;> simp

end ReportRelay
