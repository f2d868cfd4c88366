/-
# The order of sibling groups

The groups below a group stand in the order of their first tests, which are compared by their
full names.  In those names a slash follows the segment of the group.  So a segment that goes on
from another with a character before the slash, as `a-b` goes on from `a`, puts its group before
the group of the shorter segment, although the shorter name is the first by itself.  And of two
segments that differ in case only, it is the rest of the names after the slash that decides.

`group_siblings` tells when the groups below a group stand in the order of their own names: these
two cases are all that can go wrong.
-/
import ReportRelay.Proofs.Group.Names

namespace ReportRelay

/-! ## Slashes in folded names -/

namespace Text

/-- Folding moves no character to the place of the slash. -/
theorem lowerCode_eq_slash {ranges : List CaseRange} {code : Nat}
    (hranges : ∀ range ∈ ranges, (47 : Int) < range.first + range.shift)
    (h : lowerCode ranges code = 47) : code = 47 := by
  induction ranges with
  | nil => exact h
  | cons range ranges ih =>
      rw [List.forall_mem_cons] at hranges
      rw [lowerCode] at h
      split at h
      · exact h
      · next hfirst =>
          split at h
          · have hrange := hranges.1
            omega
          · exact ih hranges.2 h

/-- The slash is the character of its code point alone. -/
theorem eq_of_ofNat_eq_slash {code : Nat} (h : Char.ofNat code = '/') : code = 47 := by
  by_cases hvalid : code.isValidChar
  · have hcode : (Char.ofNat code).toNat = code := by
      rw [Char.ofNat, dif_pos hvalid]
      rfl
    rw [← hcode, h]
    rfl
  · have hzero : (Char.ofNat code).toNat = 0 := by
      rw [Char.ofNat, dif_neg hvalid]
      rfl
    rw [h] at hzero
    cases hzero

/-- Only the slash has a slash in its folded form. -/
theorem slash_mem_lower_iff (c : Char) : '/' ∈ lower c ↔ c = '/' := by
  rw [lower]
  split
  · next hc =>
      subst hc
      decide
  · rw [List.mem_singleton]
    constructor
    · intro h
      apply Char.toNat_inj.mp
      have hranges : ∀ range ∈ caseRanges, (47 : Int) < range.first + range.shift := by
        decide +kernel
      exact lowerCode_eq_slash hranges (eq_of_ofNat_eq_slash h.symm)
    · rintro rfl
      decide

end Text

namespace NameOrder

/-- A name without slashes has none in its folded form. -/
theorem slash_notMem_folded {name : String} (h : '/' ∉ name.toList) :
    '/' ∉ folded Text.lower name := by
  rw [folded, List.mem_flatMap]
  rintro ⟨c, hc, hslash⟩
  rw [Text.slash_mem_lower_iff] at hslash
  exact h (hslash ▸ hc)

/-! ## Texts that begin alike -/

/-- A text that stands before another, and does not begin it, does so whatever follows. -/
theorem compareLex_append_of_lt {text other : List Char}
    (h : List.compareLex compareChars text other = .lt) (hbegins : ¬text <+: other)
    (rest more : List Char) :
    List.compareLex compareChars (text ++ rest) (other ++ more) = .lt := by
  induction text generalizing other with
  | nil => exact absurd List.nil_prefix hbegins
  | cons c text ih =>
      cases other with
      | nil => cases h
      | cons d other =>
          rw [List.compareLex_cons_cons, Ordering.then_eq_lt] at h
          rw [List.cons_append, List.cons_append, List.compareLex_cons_cons, Ordering.then_eq_lt]
          rcases h with h | ⟨heq, h⟩
          · exact Or.inl h
          · obtain rfl := Std.LawfulEqCmp.eq_of_compare heq
            refine Or.inr ⟨heq, ih h fun hprefix => hbegins ?_⟩
            exact (List.prefix_cons_inj c).mpr hprefix

/-- Names that begin alike are compared by what comes after that. -/
theorem compareNames_of_front (fold : Char → List Char) {a b : String}
    {front left right : List Char} (ha : a.toList = front ++ left)
    (hb : b.toList = front ++ right) :
    compareNames fold a b
      = (List.compareLex compareChars (left.flatMap fold) (right.flatMap fold)).then
          (List.compareLex compareChars left right) := by
  rw [compareNames, folded, folded, ha, hb, List.flatMap_append, List.flatMap_append,
    compareLex_append_left, compareLex_append_left]

/-- Groups below one group are compared by their segments. -/
theorem compareNames_childName (fold : Char → List Char) (parent segment other : String) :
    compareNames fold (childName parent segment) (childName parent other)
      = compareNames fold segment other := by
  rw [childName, childName]
  split
  · rfl
  · have hfront : ∀ name, (parent ++ "/" ++ name).toList = (parent ++ "/").toList ++ name.toList :=
      fun _ => String.toList_append
    exact compareNames_of_front fold (hfront segment) (hfront other)

/-! ## Names below two segments -/

/-- A segment goes on from another, as folded, with a character that stands before the slash. -/
def Undercuts (longer shorter : String) : Prop :=
  ∃ c rest, folded Text.lower longer = folded Text.lower shorter ++ c :: rest ∧
    compareChars c '/' = .lt

section BelowSegments

variable {front left right : List Char} {segment other a b : String}

/-- Names below two segments, of which the second undercuts the first, stand the other way
around. -/
theorem compareNames_of_undercuts (ha : a.toList = front ++ (segment.toList ++ '/' :: left))
    (hb : b.toList = front ++ (other.toList ++ '/' :: right)) (h : Undercuts other segment) :
    compareNames Text.lower a b = .gt := by
  obtain ⟨c, rest, hother, hc⟩ := h
  have hswap : compareChars '/' c = (compareChars c '/').swap := Std.OrientedCmp.eq_swap
  rw [hc] at hswap
  rw [compareNames_of_front Text.lower ha hb, List.flatMap_append, List.flatMap_append]
  show (List.compareLex compareChars (folded Text.lower segment ++ '/' :: _)
    (folded Text.lower other ++ _)).then _ = .gt
  rw [hother, List.append_assoc, compareLex_append_left, List.cons_append,
    List.compareLex_cons_cons, hswap]
  rfl

/-- Names below two segments stand as these do, unless the segments differ in case only or the
second undercuts the first. -/
theorem compareNames_of_not_undercuts (ha : a.toList = front ++ (segment.toList ++ '/' :: left))
    (hb : b.toList = front ++ (other.toList ++ '/' :: right))
    (hlt : compareNames Text.lower segment other = .lt)
    (hfolded : folded Text.lower segment ≠ folded Text.lower other) (hslash : '/' ∉ other.toList)
    (h : ¬Undercuts other segment) : compareNames Text.lower a b = .lt := by
  have hsegments : List.compareLex compareChars (folded Text.lower segment)
      (folded Text.lower other) = .lt := by
    rw [compareNames, Ordering.then_eq_lt] at hlt
    rcases hlt with hlt | ⟨heq, -⟩
    · exact hlt
    · exact absurd (Std.LawfulEqCmp.eq_of_compare heq) hfolded
  rw [compareNames_of_front Text.lower ha hb, List.flatMap_append, List.flatMap_append,
    Ordering.then_eq_lt]
  left
  show List.compareLex compareChars (folded Text.lower segment ++ '/' :: _)
    (folded Text.lower other ++ _) = .lt
  by_cases hbegins : folded Text.lower segment <+: folded Text.lower other
  · obtain ⟨more, hmore⟩ := hbegins
    cases more with
    | nil => exact absurd (by rw [← hmore, List.append_nil]) hfolded
    | cons c rest =>
        -- the slash after the first segment is compared with the character that goes on from it
        have hc : compareChars '/' c = .lt := by
          have hswap : compareChars c '/' = (compareChars '/' c).swap := Std.OrientedCmp.eq_swap
          cases hcmp : compareChars '/' c with
          | lt => rfl
          | eq =>
              obtain rfl := Std.LawfulEqCmp.eq_of_compare hcmp
              apply absurd _ (slash_notMem_folded hslash)
              rw [← hmore]
              exact List.mem_append_right _ List.mem_cons_self
          | gt =>
              rw [hcmp] at hswap
              exact absurd ⟨c, rest, hmore.symm, hswap⟩ h
        rw [← hmore, List.append_assoc, compareLex_append_left, List.cons_append,
          List.compareLex_cons_cons, hc]
        rfl
  · exact compareLex_append_of_lt hsegments hbegins _ _

end BelowSegments

end NameOrder

/-! ## Names below a path -/

/-- The text of a path, with a slash after each segment. -/
def leading (path : List String) : List Char :=
  path.flatMap fun segment => segment.toList ++ ['/']

/-- The text of a path that goes on begins with its segments and their slashes. -/
theorem toList_intercalate_append (path : List String) {rest : List String} (hrest : rest ≠ []) :
    ("/".intercalate (path ++ rest)).toList = leading path ++ ("/".intercalate rest).toList := by
  induction path with
  | nil => rfl
  | cons segment path ih =>
      have hne : path ++ rest ≠ [] := List.append_ne_nil_of_right_ne_nil _ hrest
      rw [List.cons_append, String.intercalate_cons_of_ne_nil hne, String.toList_append,
        String.toList_append, ih, leading, leading, List.flatMap_cons]
      simp only [List.append_assoc]
      rfl

/-- A name whose directory a path leads to begins with the segments of the path, each with a slash
after it. -/
theorem toList_of_leads {path : List String} {segment name : String}
    (h : path ++ [segment] <+: directory name) :
    ∃ rest, name.toList = leading path ++ (segment.toList ++ '/' :: rest) := by
  obtain ⟨more, hmore⟩ := h
  have hname := intercalate_segments name
  rw [← List.dropLast_concat_getLast (segments_ne_nil name)] at hname
  change "/".intercalate (directory name ++ [_]) = name at hname
  rw [← hmore, List.append_assoc, List.append_assoc] at hname
  refine ⟨("/".intercalate (more ++ [(segments name).getLast (segments_ne_nil name)])).toList, ?_⟩
  conv_lhs => rw [← hname]
  rw [toList_intercalate_append path (List.append_ne_nil_of_left_ne_nil (List.cons_ne_nil _ _) _),
    List.singleton_append, String.intercalate_cons_of_ne_nil (by simp), String.toList_append,
    String.toList_append, List.append_assoc]
  rfl

/-! ## The order of the segments below a path -/

/-- Some test below a segment stands before all tests below another one. -/
def StandsFirst (tests : List TestResult) (path : List String) (segment other : String) : Prop :=
  ∃ first ∈ tests, path ++ [segment] <+: directory first.name ∧
    ∀ test ∈ tests, path ++ [other] <+: directory test.name →
      NameOrder.shown first.name test.name = true

section Segments

variable {tests : List TestResult} {path : List String} {segment other : String}

/-- Of two segments, only one stands first. -/
theorem StandsFirst.antisymm (h : StandsFirst tests path segment other)
    (hother : StandsFirst tests path other segment) : segment = other := by
  obtain ⟨first, hfirst, hleads, hbefore⟩ := h
  obtain ⟨second, hsecond, hleads', hbefore'⟩ := hother
  have hname : first.name = second.name :=
    NameOrder.shown_antisymm (hbefore second hsecond hleads') (hbefore' first hfirst hleads)
  rw [hname] at hleads
  have hpaths := (List.prefix_of_prefix_length_le hleads hleads' (by simp)).eq_of_length (by simp)
  simpa using hpaths

/-- A test that is shown last changes nothing about the segments before. -/
theorem StandsFirst.concat {test : TestResult} (h : StandsFirst tests path segment other)
    (hlast : ∀ before ∈ tests, NameOrder.shown before.name test.name = true) :
    StandsFirst (tests ++ [test]) path segment other := by
  obtain ⟨first, hfirst, hleads, hbefore⟩ := h
  refine ⟨first, List.mem_append_left _ hfirst, hleads, fun next hnext hother => ?_⟩
  rcases List.mem_append.mp hnext with hnext | hnext
  · exact hbefore next hnext hother
  · rw [List.mem_singleton] at hnext
    exact hnext ▸ hlast first hfirst

/-- **The segments below a path stand in the order of their first tests.** -/
theorem pairwise_nextSegments
    (hsorted : tests.Pairwise fun a b => NameOrder.shown a.name b.name = true) :
    (nextSegments path tests).Pairwise (StandsFirst tests path) := by
  -- the tests come in order, so a segment that is new with the last test stands after all others
  induction tests using List.reverseRecOn with
  | nil => exact List.Pairwise.nil
  | append_singleton tests test ih =>
      rw [List.pairwise_append] at hsorted
      obtain ⟨hbefore, -, hlast⟩ := hsorted
      have hlast : ∀ before ∈ tests, NameOrder.shown before.name test.name = true :=
        fun before hmem => hlast before hmem test (List.mem_singleton_self test)
      have hold := (ih hbefore).imp fun h => StandsFirst.concat h hlast
      cases hsegment : segmentAfter? path (directory test.name) with
      | none => rwa [nextSegments_of_none hsegment]
      | some fresh =>
          rw [nextSegments_of_some hsegment]
          split
          · exact hold
          · next hfresh =>
              refine List.pairwise_append.mpr ⟨hold, List.pairwise_singleton _ _, ?_⟩
              intro segment hmem other hother
              rw [List.mem_singleton] at hother
              subst hother
              obtain ⟨first, hfirst, hleads⟩ := mem_nextSegments.mp hmem
              refine ⟨first, List.mem_append_left _ hfirst, hleads, fun next hnext hnew => ?_⟩
              rcases List.mem_append.mp hnext with hnext | hnext
              · exact absurd (mem_nextSegments.mpr ⟨next, hnext, hnew⟩) hfresh
              · rw [List.mem_singleton] at hnext
                exact hnext ▸ hlast first hfirst

/-- The segments are ascending if the lesser of any two stands first. -/
theorem ascending_nextSegments_iff
    (hsorted : tests.Pairwise fun a b => NameOrder.shown a.name b.name = true) :
    ((nextSegments path tests).Pairwise fun a b => NameOrder.compareNames Text.lower a b = .lt)
      ↔ ∀ segment ∈ nextSegments path tests, ∀ other ∈ nextSegments path tests,
          NameOrder.compareNames Text.lower segment other = .lt →
            StandsFirst tests path segment other := by
  have hfirst : (nextSegments path tests).Pairwise (StandsFirst tests path) :=
    pairwise_nextSegments hsorted
  have hswap : ∀ a b, NameOrder.compareNames Text.lower b a
      = (NameOrder.compareNames Text.lower a b).swap := fun _ _ => Std.OrientedCmp.eq_swap
  constructor
  · intro hascending segment hsegment other hother
    have hself : ∀ a ∈ nextSegments path tests,
        NameOrder.compareNames Text.lower a a = .lt → StandsFirst tests path a a := by
      intro a _ hlt
      rw [(NameOrder.compareNames_eq_iff Text.lower).mpr rfl] at hlt
      cases hlt
    have hsooner : (nextSegments path tests).Pairwise fun a b =>
        NameOrder.compareNames Text.lower a b = .lt → StandsFirst tests path a b := by
      refine hfirst.imp ?_
      intro a b hab _
      exact hab
    have hlater : (nextSegments path tests).Pairwise fun a b =>
        NameOrder.compareNames Text.lower b a = .lt → StandsFirst tests path b a := by
      refine hascending.imp fun {a b} hab hlt => ?_
      rw [hswap, hab] at hlt
      cases hlt
    exact hsooner.forall_of_forall_of_flip hself hlater hsegment hother
  · intro h
    have hnodup : (nextSegments path tests).Nodup := nodup_eraseDups _
    refine (hfirst.and hnodup).imp_of_mem fun {a b} ha hb hab => ?_
    obtain ⟨hab, hne⟩ := hab
    cases hcmp : NameOrder.compareNames Text.lower a b with
    | lt => rfl
    | eq => exact absurd ((NameOrder.compareNames_eq_iff Text.lower).mp hcmp) hne
    | gt =>
        have hlt : NameOrder.compareNames Text.lower b a = .lt := by
          rw [hswap, hcmp]
          rfl
        exact absurd (hab.antisymm (h b hb a ha hlt)) hne

/-- **The lesser of two segments stands first, unless the other one undercuts it** or they differ
in case only. -/
theorem standsFirst_iff (hsegment : segment ∈ nextSegments path tests)
    (hother : other ∈ nextSegments path tests)
    (hlt : NameOrder.compareNames Text.lower segment other = .lt) :
    StandsFirst tests path segment other ↔ ¬NameOrder.Undercuts other segment ∧
      (NameOrder.folded Text.lower segment = NameOrder.folded Text.lower other →
        StandsFirst tests path segment other) := by
  obtain ⟨first, hfirst, hleads⟩ := mem_nextSegments.mp hsegment
  obtain ⟨second, hsecond, hleads'⟩ := mem_nextSegments.mp hother
  constructor
  · intro h
    refine ⟨fun hundercuts => ?_, fun _ => h⟩
    obtain ⟨first, hfirst, hleads, hbefore⟩ := h
    have hshown := hbefore second hsecond hleads'
    obtain ⟨left, hleft⟩ := toList_of_leads hleads
    obtain ⟨right, hright⟩ := toList_of_leads hleads'
    rw [NameOrder.shown, NameOrder.precedes,
      NameOrder.compareNames_of_undercuts hleft hright hundercuts] at hshown
    cases hshown
  · rintro ⟨hnot, hcase⟩
    by_cases hfolded : NameOrder.folded Text.lower segment = NameOrder.folded Text.lower other
    · exact hcase hfolded
    · refine ⟨first, hfirst, hleads, fun test htest htestLeads => ?_⟩
      have hslash : '/' ∉ other.toList :=
        slash_notMem_of_leads htestLeads other (List.mem_append_right _ List.mem_cons_self)
      obtain ⟨left, hleft⟩ := toList_of_leads hleads
      obtain ⟨right, hright⟩ := toList_of_leads htestLeads
      rw [NameOrder.shown, NameOrder.precedes,
        NameOrder.compareNames_of_not_undercuts hleft hright hlt hfolded hslash hnot]
      rfl

/-- Which segment stands first does not depend on the order of the tests. -/
theorem standsFirst_congr {others : List TestResult} (h : tests.Perm others) :
    StandsFirst tests path segment other ↔ StandsFirst others path segment other := by
  simp only [StandsFirst, h.mem_iff]

end Segments

/-! ## Grouped reports -/

/-- **The groups below a group stand in the order of their first tests**, and just then in the
order of their own names, if of any two the segment of the lesser is not undercut by that of the
other, and stands first where the two differ in case only. -/
theorem group_siblings {report : Report} {grouped : GroupedReport}
    (h : report.group = .ok grouped) :
    grouped.root.nodes.map Prod.snd = grouped.root.preorder ∧
    ∀ path group, (path, group) ∈ grouped.root.nodes →
      let below := group.groups.map fun child => segmentBelow group.name child.name
      group.groups.map TestGroup.name = below.map (childName group.name) ∧
      below.Pairwise (StandsFirst report.tests path) ∧
      ((group.groups.map TestGroup.name).Pairwise
          (fun a b => NameOrder.compareNames Text.lower a b = .lt) ↔
        ∀ segment ∈ below, ∀ other ∈ below,
          NameOrder.compareNames Text.lower segment other = .lt →
            ¬NameOrder.Undercuts other segment ∧
            (NameOrder.folded Text.lower segment = NameOrder.folded Text.lower other →
              StandsFirst report.tests path segment other)) := by
  refine ⟨TestGroup.map_snd_nodesAt [] grouped.root, fun path group hnode => ?_⟩
  intro below
  have hgroup : TestGroup.IsTrie (sortTests report.tests) path group :=
    (Report.isTrie_root h).of_mem_nodesAt hnode
  have hbelow : below = nextSegments path (sortTests report.tests) := hgroup.map_segmentBelow
  have hfirst : ∀ segment other, StandsFirst (sortTests report.tests) path segment other
      ↔ StandsFirst report.tests path segment other :=
    fun _ _ => standsFirst_congr (sortTests_perm report.tests)
  have hsorted := sortTests_pairwise report.tests
  refine ⟨?_, ?_, ?_⟩
  · rw [hgroup.groups_eq, hbelow]
  · rw [hbelow]
    exact (pairwise_nextSegments hsorted).imp fun h => (hfirst _ _).mp h
  · rw [hgroup.groups_eq, List.pairwise_map, hbelow]
    simp only [NameOrder.compareNames_childName]
    rw [ascending_nextSegments_iff hsorted]
    refine forall₂_congr fun segment hsegment => forall₂_congr fun other hother => ?_
    refine forall_congr' fun hlt => ?_
    rw [standsFirst_iff hsegment hother hlt, hfirst]

/-- Groups in the order of their names, two of which differ in case only: none of their segments
undercuts another one, and the lesser of the two stands first. -/
theorem group_siblings_of_mixed_case :
    let report : Report := ⟨"r", 1, none,
      [⟨"a/x", .success, []⟩, ⟨"B/y", .failed, []⟩, ⟨"b/z", .success, []⟩], []⟩
    ∃ grouped, report.group = .ok grouped ∧
      grouped.root.groups.map TestGroup.name = ["a", "B", "b"] ∧
      ¬NameOrder.Undercuts "B" "a" ∧ StandsFirst report.tests [] "B" "b" := by
  intro report
  have hgroup := Report.group_of_sorted (show checkVersion report.minversion = .ok () from rfl)
    (show report.tests.Pairwise _ by decide)
  obtain ⟨-, -, hascending⟩ := (group_siblings hgroup).2 [] _ (TestGroup.mem_nodesAt_self [] _)
  have hlesser := hascending.mp (by decide)
  have hundercuts := (hlesser "a" (by decide) "B" (by decide) (by decide)).1
  have hcase := (hlesser "B" (by decide) "b" (by decide) (by decide)).2 (by decide)
  exact ⟨_, hgroup, rfl, hundercuts, hcase⟩

/-- A group whose name goes on with a hyphen from that of another one stands before that one, so
the groups below the root are not in the order of their names. -/
theorem siblings_of_hyphen :
    let report : Report := ⟨"r", 1, none,
      [⟨"a-b/t", .success, []⟩, ⟨"a/t", .success, []⟩], []⟩
    ∃ grouped, report.group = .ok grouped ∧
      grouped.root.groups.map TestGroup.name = ["a-b", "a"] ∧
      ¬∀ group ∈ grouped.root.preorder, (group.groups.map TestGroup.name).Pairwise
        fun a b => NameOrder.compareNames Text.lower a b = .lt := by
  intro report
  have hgroup := Report.group_of_sorted (show checkVersion report.minversion = .ok () from rfl)
    (show report.tests.Pairwise _ by decide)
  refine ⟨_, hgroup, rfl, fun h => ?_⟩
  have hroot : TestGroup.ofSorted report.tests ∈ (TestGroup.ofSorted report.tests).preorder := by
    rw [← TestGroup.map_snd_nodesAt []]
    exact List.mem_map_of_mem (TestGroup.mem_nodesAt_self [] _)
  have hascending := h _ hroot
  revert hascending
  decide

end ReportRelay
