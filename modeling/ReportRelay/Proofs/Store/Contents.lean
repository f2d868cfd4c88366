/-
# What a store holds

After any reports have been added to an empty store, it holds the last report of each identifier,
in the order in which these have arrived (`contents_of_added`).  `Store.add` takes out one report at
most, so this rests on the identifiers in a store being different, which adding keeps.
-/
import Mathlib.Data.Finset.Card
import Mathlib.Data.List.Dedup
import ReportRelay.Proofs.Store.LastArrivals

namespace ReportRelay

/-! ## Identifiers -/

/-- An identifier is among reports if one of them has it. -/
theorem hasId_iff {reports : List GroupedReport} {id : String} :
    hasId reports id = true ↔ id ∈ reports.map GroupedReport.id := by
  simp [hasId]

/-- The last arrivals have the identifiers of all arrivals. -/
theorem mem_ids_lastArrivals {reports : List GroupedReport} {id : String} :
    id ∈ (lastArrivals reports).map GroupedReport.id ↔ id ∈ reports.map GroupedReport.id := by
  induction reports with
  | nil => rfl
  | cons report reports ih =>
      rw [lastArrivals, List.map_cons, List.mem_cons]
      split
      · next hlater =>
          -- the report is gone, but a later one has its identifier
          have hmem := hasId_iff.mp hlater
          rw [ih]
          exact ⟨Or.inr, fun h => h.elim (fun heq => heq ▸ hmem) fun hid => hid⟩
      · rw [List.map_cons, List.mem_cons, ih]

/-- There are as many last arrivals as identifiers. -/
theorem length_lastArrivals (reports : List GroupedReport) :
    (lastArrivals reports).length = (reports.map GroupedReport.id).toFinset.card := by
  have hids : (reports.map GroupedReport.id).toFinset
      = ((lastArrivals reports).map GroupedReport.id).toFinset := by
    ext id
    rw [List.mem_toFinset, List.mem_toFinset, mem_ids_lastArrivals]
  rw [hids, List.toFinset_card_of_nodup (nodup_ids_lastArrivals reports), List.length_map]

/-! ## Looking up -/

/-- Of the last arrivals, the one with an identifier is the last of all arrivals with it. -/
theorem find?_lastArrivals (reports : List GroupedReport) (id : String) :
    (lastArrivals reports).find? (fun r => r.id == id)
      = (reports.filter fun r => r.id == id).getLast? := by
  induction reports with
  | nil => rfl
  | cons report reports ih =>
      rw [lastArrivals]
      by_cases hid : report.id = id
      · subst hid
        rw [List.filter_cons_of_pos (by simp), List.getLast?_cons]
        split
        · next hlater =>
            -- a later report comes in its place
            obtain ⟨other, hother, heq⟩ := List.any_eq_true.mp hlater
            have hmem : other ∈ reports.filter fun r => r.id == report.id :=
              List.mem_filter.mpr ⟨hother, heq⟩
            obtain ⟨last, hlast⟩ := Option.isSome_iff_exists.mp
              (List.getLast?_isSome.mpr (List.ne_nil_of_mem hmem))
            rw [ih, hlast, Option.getD_some]
        · next hlater =>
            have hnone : (reports.filter fun r => r.id == report.id) = [] :=
              List.filter_eq_nil_iff.mpr fun other hother heq =>
                hlater (List.any_eq_true.mpr ⟨other, hother, heq⟩)
            rw [hnone, List.find?_cons_of_pos (by simp)]
            rfl
      · rw [List.filter_cons_of_neg (by simpa using hid), ← ih]
        split
        · rfl
        · exact List.find?_cons_of_neg (by simpa using hid)

/-! ## The contents -/

/-- Every addition is a change. -/
theorem revision_foldl_add (store : Store) (added : List GroupedReport) :
    (added.foldl Store.add store).revision = store.revision + added.length := by
  induction added generalizing store with
  | nil => rfl
  | cons report added ih =>
      have hadd : (store.add report).revision = store.revision + 1 := rfl
      rw [List.foldl_cons, ih, hadd, List.length_cons, Nat.add_assoc, Nat.add_comm 1]

/-- **A store holds the last report of each identifier, in the order of the last arrivals.**  It
holds the reports that have been added, without those after which another with the same identifier
has been; no two have one identifier, looking an identifier up gives the last report that was added
with it, and none if there was none, there are as many reports as identifiers were added, and every
addition counts as a change. -/
theorem contents_of_added (added : List GroupedReport) :
    let store := added.foldl Store.add .empty
    store.reports = lastArrivals added ∧
      store.ids.Nodup ∧
      (∀ id, store.get? id = (added.filter fun r => r.id == id).getLast?) ∧
      store.reports.length = (added.map GroupedReport.id).toFinset.card ∧
      store.revision = added.length := by
  intro store
  have hreports : store.reports = lastArrivals added := reports_foldl_add added
  refine ⟨hreports, ?_, fun id => ?_, ?_, ?_⟩
  · rw [Store.ids, hreports]
    exact nodup_ids_lastArrivals added
  · rw [Store.get?, hreports]
    exact find?_lastArrivals added id
  · rw [hreports]
    exact length_lastArrivals added
  · exact (revision_foldl_add .empty added).trans (Nat.zero_add _)

end ReportRelay
