/-
# The arrangement of tests by their names

Whatever the folding of characters is, names are in a total order in which those of one folded
form stand together, and by the bytes of their texts among themselves.  So there is one way to
arrange tests by their names that leaves the tests of one name in their order, and every stable
sort finds it (`Arranges.iff_mergeSort`).  It is what a report is grouped by.
-/
import ReportRelay.Proofs.Group.ByteOrder
import ReportRelay.Proofs.Group.Reordering

namespace ReportRelay

namespace NameOrder

variable (fold : Char → List Char) {a b c : String}

/-! ## Names of one folded form -/

/-- A name stands before another only if its folded form does or is the same. -/
theorem folded_isLE_of_precedes (h : precedes fold a b) :
    (List.compareLex compareChars (folded fold a) (folded fold b)).isLE := by
  rw [precedes, compareNames] at h
  cases hcmp : List.compareLex compareChars (folded fold a) (folded fold b) with
  | lt => rfl
  | eq => rfl
  | gt =>
      rw [hcmp] at h
      cases h

/-- Between names of one folded form there are only names of the same form. -/
theorem folded_eq_of_between (hac : folded fold a = folded fold c) (hab : precedes fold a b)
    (hbc : precedes fold b c) : folded fold b = folded fold a := by
  have hleft := folded_isLE_of_precedes fold hab
  have hright := folded_isLE_of_precedes fold hbc
  rw [← hac] at hright
  have heq : List.compareLex compareChars (folded fold b) (folded fold a) = .eq :=
    Std.OrientedCmp.isLE_antisymm hright hleft
  exact Std.LawfulEqCmp.eq_of_compare heq

/-- Names of one folded form are compared by the bytes of their texts. -/
theorem compareNames_of_folded_eq (h : folded fold a = folded fold b) :
    compareNames fold a b = List.compareLex compare (bytes a) (bytes b) := by
  have hfolded : List.compareLex compareChars (folded fold b) (folded fold b) = .eq :=
    Std.ReflCmp.compare_self
  rw [compareNames, h, hfolded, compareLex_bytes]
  rfl

end NameOrder

/-! ## Arrangements -/

/-- Tests arranged by their names: they are the given tests, each name may stand before those
after it, and the tests of one name have kept their order. -/
structure Arranges (fold : Char → List Char) (tests arranged : List TestResult) : Prop where
  perm : arranged.Perm tests
  ascending : arranged.Pairwise fun a b => NameOrder.precedes fold a.name b.name = true
  stable : ∀ name, testsOf name arranged = testsOf name tests

/-- Sorted tests are arranged. -/
theorem arranges_mergeSort (fold : Char → List Char) (tests : List TestResult) :
    Arranges fold tests (tests.mergeSort fun a b => NameOrder.precedes fold a.name b.name) where
  perm := List.mergeSort_perm tests _
  ascending := List.pairwise_mergeSort (NameOrder.byName_trans fold)
    (NameOrder.byName_total fold) tests
  stable := fun name => testsOf_mergeSort fold name tests

/-- **There is one arrangement of tests.** -/
theorem Arranges.iff_mergeSort {fold : Char → List Char} {tests arranged : List TestResult} :
    Arranges fold tests arranged ↔
      arranged = tests.mergeSort fun a b => NameOrder.precedes fold a.name b.name := by
  have hsorted := arranges_mergeSort fold tests
  constructor
  · intro h
    apply eq_of_testsOf_eq h.ascending hsorted.ascending
    intro name
    rw [h.stable, hsorted.stable]
  · rintro rfl
    exact hsorted

/-- **Names are in a total order, and tests have one arrangement by it.**  Whatever characters are
folded to, exchanging two names reverses how they compare, the order is transitive and total, and
only a name and itself compare as equal.  Names of one folded form are compared by the bytes of
their texts, and all names between them have that form too.  There is exactly one arrangement of
tests by their names that leaves those of one name in their order, which is what sorting gives,
and a report is grouped by it. -/
theorem names_arranged (fold : Char → List Char) :
    ((∀ a b, NameOrder.compareNames fold b a = (NameOrder.compareNames fold a b).swap) ∧
      (∀ a b c, NameOrder.precedes fold a b → NameOrder.precedes fold b c →
        NameOrder.precedes fold a c) ∧
      (∀ a b c, NameOrder.compareNames fold a b = .lt → NameOrder.compareNames fold b c = .lt →
        NameOrder.compareNames fold a c = .lt) ∧
      (∀ a b, NameOrder.precedes fold a b ∨ NameOrder.precedes fold b a) ∧
      ∀ a b, NameOrder.compareNames fold a b = .eq ↔ a = b) ∧
    ((∀ a b, NameOrder.folded fold a = NameOrder.folded fold b →
        NameOrder.compareNames fold a b
          = List.compareLex compare (NameOrder.bytes a) (NameOrder.bytes b)) ∧
      ∀ a b c, NameOrder.folded fold a = NameOrder.folded fold c →
        NameOrder.precedes fold a b → NameOrder.precedes fold b c →
          NameOrder.folded fold b = NameOrder.folded fold a) ∧
    (∀ tests arranged, Arranges fold tests arranged ↔
      arranged = tests.mergeSort fun a b => NameOrder.precedes fold a.name b.name) ∧
    ∀ report grouped, Report.group report = .ok grouped → ∀ arranged,
      Arranges Text.lower report.tests arranged → grouped.root = .ofSorted arranged := by
  refine ⟨⟨fun a b => Std.OrientedCmp.eq_swap, fun a b c => NameOrder.precedes_trans fold,
    fun a b c => Std.TransCmp.lt_trans, fun a b => ?_,
    fun a b => NameOrder.compareNames_eq_iff fold⟩,
    ⟨fun a b => NameOrder.compareNames_of_folded_eq fold,
      fun a b c => NameOrder.folded_eq_of_between fold⟩,
    fun tests arranged => Arranges.iff_mergeSort, fun report grouped hgroup arranged h => ?_⟩
  · rw [← Bool.or_eq_true]
    exact NameOrder.precedes_total fold a b
  · rw [Report.root_eq hgroup, Arranges.iff_mergeSort.mp h]
    rfl

/-- The capital `I` with a dot above is folded to two characters, as which the small one may be
written.  The bytes tell the two names apart, no other folded form comes between them, and the
two tests with the capital keep their order. -/
theorem names_arranged_of_lengthened :
    let small := "i\u0307"
    let capital := "\u0130"
    let report : Report := ⟨"r", 1, none,
      [⟨capital, .success, []⟩, ⟨small, .failed, []⟩, ⟨capital, .skipped, []⟩], []⟩
    (NameOrder.folded Text.lower small = NameOrder.folded Text.lower capital ∧
      NameOrder.compareNames Text.lower small capital = .lt ∧
      ∀ name, NameOrder.precedes Text.lower small name →
        NameOrder.precedes Text.lower name capital →
          NameOrder.folded Text.lower name = NameOrder.folded Text.lower small) ∧
    ∃ grouped, report.group = .ok grouped ∧ grouped.root = .ofSorted
      [⟨small, .failed, []⟩, ⟨capital, .success, []⟩, ⟨capital, .skipped, []⟩] := by
  intro small capital report
  have hfolded : NameOrder.folded Text.lower small = NameOrder.folded Text.lower capital := by
    decide +kernel
  obtain ⟨-, ⟨-, hbetween⟩, -, hgroup⟩ := names_arranged Text.lower
  refine ⟨⟨hfolded, by decide +kernel, fun name => hbetween small name capital hfolded⟩,
    _, rfl, hgroup report _ rfl _ ⟨.swap _ _ _, by decide +kernel, fun name => ?_⟩⟩
  by_cases hsmall : small = name
  · subst hsmall
    rfl
  · simp [report, hsmall]

end ReportRelay
