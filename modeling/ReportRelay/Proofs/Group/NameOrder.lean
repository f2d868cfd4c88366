/-
# The order of names is a total order

Whatever the folding of characters is, names are compared by a total order, under which only a
name and itself are equal.  So sorting tests by it is a stable sort: it permutes the tests, puts
them into order, and leaves tests of which neither precedes the other as they were.
-/
import ReportRelay.Group.Build

namespace ReportRelay

namespace NameOrder

/-! ## The order -/

/-- A comparison by way of a function is as lawful as the one it goes back to. -/
theorem transCmp_on {α β : Type} (cmp : β → β → Ordering) [Std.TransCmp cmp] (f : α → β) :
    Std.TransCmp fun a b => cmp (f a) (f b) where
  eq_swap := Std.OrientedCmp.eq_swap
  isLE_trans := Std.TransCmp.isLE_trans

/-- What two lists begin with in common does not matter for their order. -/
theorem compareLex_append_left {α : Type} {cmp : α → α → Ordering} [Std.ReflCmp cmp]
    (front rest other : List α) :
    List.compareLex cmp (front ++ rest) (front ++ other) = List.compareLex cmp rest other := by
  induction front with
  | nil => rfl
  | cons item front ih =>
      have hitem : cmp item item = .eq := Std.ReflCmp.compare_self
      rw [List.cons_append, List.cons_append, List.compareLex_cons_cons, ih, hitem]
      rfl

instance transCmp_compareChars : Std.TransCmp compareChars :=
  inferInstanceAs (Std.TransCmp (compareOn Char.toNat))

instance transCmp_compareNames (fold : Char → List Char) : Std.TransCmp (compareNames fold) := by
  have hfolded := transCmp_on (List.compareLex compareChars) (folded fold)
  have htext := transCmp_on (List.compareLex compareChars) String.toList
  exact inferInstanceAs (Std.TransCmp (compareLex
    (fun a b => List.compareLex compareChars (folded fold a) (folded fold b))
    (fun a b => List.compareLex compareChars (String.toList a) (String.toList b))))

instance lawfulEqCmp_compareChars : Std.LawfulEqCmp compareChars where
  compare_self := by
    intro a
    show compare a.toNat a.toNat = .eq
    exact Std.ReflCmp.compare_self
  eq_of_compare := by
    intro a b h
    apply Char.toNat_inj.mp
    exact Std.LawfulEqOrd.eq_of_compare h

/-- Only a name and itself compare as equal: the exact text decides where the folded forms do
not. -/
theorem compareNames_eq_iff (fold : Char → List Char) {a b : String} :
    compareNames fold a b = .eq ↔ a = b := by
  constructor
  · intro h
    rw [compareNames, Ordering.then_eq_eq] at h
    have htext : List.compareLex compareChars a.toList b.toList = .eq := h.2
    apply String.toList_inj.mp
    exact Std.LawfulEqCmp.eq_of_compare htext
  · rintro rfl
    rw [compareNames, Ordering.then_eq_eq]
    exact ⟨Std.ReflCmp.compare_self, Std.ReflCmp.compare_self⟩

/-- The order is antisymmetric. -/
theorem precedes_antisymm (fold : Char → List Char) {a b : String} (hab : precedes fold a b)
    (hba : precedes fold b a) : a = b := by
  apply (compareNames_eq_iff fold).mp
  have hswap : compareNames fold b a = (compareNames fold a b).swap := Std.OrientedCmp.eq_swap
  rw [precedes, hswap] at hba
  rw [precedes] at hab
  cases hcmp : compareNames fold a b with
  | lt => simp [hcmp] at hba
  | eq => rfl
  | gt => simp [hcmp] at hab

/-- The order is transitive. -/
theorem precedes_trans (fold : Char → List Char) {a b c : String} (hab : precedes fold a b)
    (hbc : precedes fold b c) : precedes fold a c :=
  Std.TransCmp.isLE_trans hab hbc

/-- The order is total. -/
theorem precedes_total (fold : Char → List Char) (a b : String) :
    (precedes fold a b || precedes fold b a) = true := by
  have hswap : compareNames fold b a = (compareNames fold a b).swap := Std.OrientedCmp.eq_swap
  rw [precedes, precedes, hswap]
  cases compareNames fold a b <;> rfl

/-- A name may stand before itself. -/
theorem precedes_self (fold : Char → List Char) (name : String) : precedes fold name name := by
  rw [precedes, (compareNames_eq_iff fold).mpr rfl]
  rfl

/-- The order of tests by their names is transitive. -/
theorem byName_trans (fold : Char → List Char) (a b c : TestResult)
    (hab : precedes fold a.name b.name = true) (hbc : precedes fold b.name c.name = true) :
    precedes fold a.name c.name = true :=
  precedes_trans fold hab hbc

/-- The order of tests by their names is total. -/
theorem byName_total (fold : Char → List Char) (a b : TestResult) :
    (precedes fold a.name b.name || precedes fold b.name a.name) = true :=
  precedes_total fold a.name b.name

/-- The order in which tests are shown is transitive. -/
theorem shown_trans (a b c : TestResult) (hab : shown a.name b.name = true)
    (hbc : shown b.name c.name = true) : shown a.name c.name = true :=
  byName_trans Text.lower a b c hab hbc

/-- The order in which tests are shown is total. -/
theorem shown_total (a b : TestResult) :
    (shown a.name b.name || shown b.name a.name) = true :=
  byName_total Text.lower a b

/-- The order in which tests are shown is antisymmetric on their names. -/
theorem shown_antisymm {a b : String} (hab : shown a b = true) (hba : shown b a = true) :
    a = b := by
  rw [shown] at hab hba
  exact precedes_antisymm Text.lower hab hba

end NameOrder

/-! ## Sorting -/

/-- Sorting permutes the tests. -/
theorem sortTests_perm (tests : List TestResult) : (sortTests tests).Perm tests :=
  List.mergeSort_perm _ _

/-- Sorted tests are in order. -/
theorem sortTests_pairwise (tests : List TestResult) :
    (sortTests tests).Pairwise fun a b => NameOrder.shown a.name b.name = true :=
  List.pairwise_mergeSort NameOrder.shown_trans NameOrder.shown_total tests

/-- Sorting is stable: a test that stands before another and may do so stays before it. -/
theorem sortTests_stable {tests : List TestResult} {a b : TestResult}
    (hab : NameOrder.shown a.name b.name) (h : [a, b].Sublist tests) :
    [a, b].Sublist (sortTests tests) :=
  List.pair_sublist_mergeSort NameOrder.shown_trans NameOrder.shown_total hab h

end ReportRelay
