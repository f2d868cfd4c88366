/-
# Writing a report back

A report that was read from a document is written as a document that restates it: defaults are
filled in, an outcome is written as its word, and whatever else the document says is said again
(`Report.Restates`).  Reading what was written gives the same report, and so it is written and
grouped the same (`reports_written_back`).

No key is named twice in what is written, be it the report, a test, the grouped report or a group
(`Members.NamedOnce`), so no member is lost when members are put in order.
-/
import ReportRelay.Proofs.Group.Statuses
import ReportRelay.Proofs.Report.Kept

namespace ReportRelay

/-! ## Documents that say the same -/

/-- A test result that was written says what the given one says: its name is there, its outcome is
a word, and every other field is as it was. -/
structure TestResult.Restates (given written : Json) : Prop where
  name : written.get? "name" = some ((given.get? "name").getD (.string ""))
  status : ∃ status : TestStatus, written.get? "status" = some (.string status.name) ∧
    (given.get? "status" = some (.string status.name) ∨
      given.get? "status" = some (.object [(status.name, .null)]))
  others : ∀ key, key ≠ "name" → key ≠ "status" → written.get? key = given.get? key

/-- A report that was written says what the given one says: its version and its tests are there, a
creation time is if it is not null, and every other field is as it was. -/
structure Report.Restates (given written : Json) : Prop where
  minversion : written.get? "minversion" = some ((given.get? "minversion").getD (.ofWord 0))
  createdAt : ∀ time, written.get? "createdAt" = some time
    ↔ given.get? "createdAt" = some time ∧ time ≠ .null
  tests : ∃ givenTests writtenTests,
    (given.get? "tests" = some (.array givenTests) ∨
      given.get? "tests" = none ∧ givenTests = []) ∧
    written.get? "tests" = some (.array writtenTests) ∧
    List.Forall₂ TestResult.Restates givenTests writtenTests
  others : ∀ key, key ≠ "minversion" → key ≠ "createdAt" → key ≠ "tests" →
    written.get? key = given.get? key

/-- An outcome that was read is a word, or stands as the only key of an object. -/
theorem TestStatus.of_ofJson? {value : Json} {status : TestStatus}
    (h : TestStatus.ofJson? value = some status) :
    value = .string status.name ∨ value = .object [(status.name, .null)] := by
  have hword : ∀ word, TestStatus.ofName? word = some status → word = status.name := by
    intro word hword
    unfold TestStatus.ofName? at hword
    split_ifs at hword with hsuccess hfailed hskipped
    · cases hword
      exact hsuccess
    · cases hword
      exact hfailed
    · cases hword
      exact hskipped
  unfold TestStatus.ofJson? at h
  split at h
  · exact Or.inl (congrArg Json.string (hword _ h))
  · exact Or.inr (by rw [hword _ h])
  · cases h

/-- A field that may be absent is read as its default or as the value that is there. -/
theorem fieldOr_eq_some {α : Type} {absent result : α} {read : Json → Option α}
    {field : Option Json} (h : fieldOr absent read field = some result) :
    (field = none ∧ result = absent) ∨ ∃ value, field = some value ∧ read value = some result := by
  cases field with
  | none =>
      cases h
      exact Or.inl ⟨rfl, rfl⟩
  | some value => exact Or.inr ⟨value, rfl, h⟩

/-- A test result that was read is written as a document that says the same. -/
theorem TestResult.restates {document : Json} {test : TestResult} (hordered : document.Ordered)
    (h : TestResult.ofJson? document = some test) : TestResult.Restates document test.toJson := by
  have hkept := TestResult.kept_of_ofJson? hordered h
  obtain ⟨members, rfl, hname, hstatus, hextra⟩ := TestResult.eq_of_ofJson? h
  refine ⟨?_, ⟨test.status, ?_, ?_⟩, fun key hkey hkey' => ?_⟩
  · rw [hkept.get?_toJson, if_pos rfl]
    show _ = some ((Members.get? members "name").getD _)
    rcases fieldOr_eq_some hname with ⟨hnone, heq⟩ | ⟨value, hsome, hread⟩
    · rw [hnone, heq]
      rfl
    · cases value <;> cases hread
      rw [hsome]
      rfl
  · rw [hkept.get?_toJson, if_neg (by decide), if_pos rfl]
  · obtain ⟨value, hvalue, hread⟩ := Option.bind_eq_some_iff.mp hstatus
    show Members.get? members "status" = _ ∨ Members.get? members "status" = _
    rw [hvalue]
    rcases TestStatus.of_ofJson? hread with rfl | rfl
    · exact Or.inl rfl
    · exact Or.inr rfl
  · rw [hkept.get?_toJson, if_neg hkey, if_neg hkey', hextra, Members.get?_without,
      if_neg (by simp [fields, hkey, hkey'])]
    rfl

/-- A report that was read is written as a document that says the same. -/
theorem Report.restates {document : Json} {report : Report} (hordered : document.Ordered)
    (h : Report.ofJson? document = some report) : Report.Restates document report.toJson := by
  have hkept := Report.kept_of_ofJson? hordered h
  obtain ⟨members, rfl, hid, hversion, htests, hcreated, hextra⟩ := Report.eq_of_ofJson? h
  obtain ⟨-, hvalues⟩ := Json.ordered_object_iff.mp hordered
  refine ⟨?_, fun time => ?_, ?_, fun key hkey hkey' hkey'' => ?_⟩
  · rw [hkept.get?_minversion]
    show _ = some ((Members.get? members "minversion").getD _)
    rcases fieldOr_eq_some hversion with ⟨hnone, heq⟩ | ⟨value, hsome, hread⟩
    · rw [hnone, heq]
      rfl
    · obtain ⟨n, lower, upper, rfl, rfl⟩ := word?_eq_some.mp hread
      rw [hsome]
      rfl
  · rw [hkept.get?_createdAt, hcreated]
    show _ ↔ Members.get? members "createdAt" = some time ∧ _
    unfold createdAtOf
    split
    · next hnull =>
        rw [hnull]
        constructor
        · intro hnone
          cases hnone
        · rintro ⟨heq, hne⟩
          cases heq
          exact absurd rfl hne
    · next hnot =>
        refine ⟨fun heq => ⟨heq, ?_⟩, And.left⟩
        rintro rfl
        exact hnot heq
  · obtain ⟨items, hfield, hall⟩ :=
      tests_of_field (fun value hvalue => hvalues _ (Members.mem_of_get? hvalue)) htests
    refine ⟨items, _, hfield, hkept.get?_tests, ?_⟩
    rw [List.forall₂_map_right_iff]
    exact hall.imp fun item test hread => TestResult.restates hread.1 hread.2
  · by_cases hfield : key ∈ fields
    · have hkeyid : key = "id" := by
        simpa [fields, hkey, hkey', hkey''] using hfield
      subst hkeyid
      obtain ⟨value, hvalue, hread⟩ := Option.bind_eq_some_iff.mp hid
      cases value <;> cases hread
      rw [hkept.get?_id]
      exact hvalue.symm
    · rw [hkept.get?_other hfield, hextra, Members.get?_without, if_neg hfield]
      rfl

/-! ## Grouped reports -/

/-- The members of a group of tests. -/
def TestGroup.members (group : TestGroup) : Members :=
  [("name", .string group.name), ("status", .string group.status.name),
    ("statusReason", .string group.status.reason),
    ("tests", .array (group.tests.map TestResult.toJson)),
    ("groups", .array (group.groups.map TestGroup.toJson)), ("numTests", .ofNat group.tally.tests),
    ("numAttempted", .ofNat group.tally.attempted), ("numSuccess", .ofNat group.tally.success),
    ("numFailed", .ofNat group.tally.failed), ("numSkipped", .ofNat group.tally.skipped)]

/-- The groups of a list are written each on its own. -/
theorem TestGroup.toJsonAll_eq_map (groups : List TestGroup) :
    TestGroup.toJsonAll groups = groups.map TestGroup.toJson := by
  induction groups with
  | nil => rfl
  | cons group groups ih => rw [toJsonAll, ih, List.map_cons]

/-- A group is written with these members. -/
theorem TestGroup.toJson_eq (group : TestGroup) : group.toJson = .ofMembers group.members := by
  cases group with
  | mk name status tally tests groups =>
      rw [toJson, toJsonAll_eq_map]
      rfl

/-- A group names no key twice. -/
theorem TestGroup.namedOnce {group : TestGroup} (htests : ∀ test ∈ group.tests, test.Kept)
    (hgroups : ∀ child ∈ group.groups, child.toJson.Ordered) : group.members.NamedOnce := by
  constructor
  · show ["name", "status", "statusReason", "tests", "groups", "numTests", "numAttempted",
      "numSuccess", "numFailed", "numSkipped"].Nodup
    decide
  · have hall : ∀ test ∈ group.tests, test.toJson.Ordered :=
      fun test htest => (htests test htest).ordered_toJson
    have harray := hgroups
    rw [← List.forall_mem_map, ← Json.ordered_array_iff] at hall harray
    simp [members, Json.Ordered.string, Json.ofNat, Json.ofWord, Json.Ordered.number, hall, harray]

mutual

/-- A group is written as a document in order. -/
theorem TestGroup.ordered_toJson : (group : TestGroup) →
    (∀ test ∈ group.allTests, test.Kept) → group.toJson.Ordered
  | ⟨name, status, tally, tests, groups⟩, h => by
      rw [TestGroup.allTests_eq, List.forall_mem_append, List.forall_mem_flatMap] at h
      rw [TestGroup.toJson_eq]
      exact Json.ordered_ofMembers (TestGroup.namedOnce h.1 (TestGroup.ordered_groups groups h.2)).2

/-- The groups of a list are written as documents in order. -/
theorem TestGroup.ordered_groups : (groups : List TestGroup) →
    (∀ group ∈ groups, ∀ test ∈ group.allTests, test.Kept) →
    ∀ group ∈ groups, group.toJson.Ordered
  | [], _ => by simp
  | group :: groups, h => by
      rw [List.forall_mem_cons] at h ⊢
      exact ⟨TestGroup.ordered_toJson group h.1, TestGroup.ordered_groups groups h.2⟩

end

/-- Every group of a tree names no key twice. -/
theorem TestGroup.namedOnce_of_mem {root group : TestGroup}
    (htests : ∀ test ∈ root.allTests, test.Kept) (hgroup : group ∈ root.preorder) :
    group.members.NamedOnce ∧ ∀ test ∈ group.tests, Members.NamedOnce test.members := by
  have hbelow : ∀ test ∈ group.allTests, test.Kept :=
    fun test htest => htests test (TestGroup.allTests_subset hgroup htest)
  rw [TestGroup.allTests_eq, List.forall_mem_append, List.forall_mem_flatMap] at hbelow
  exact ⟨TestGroup.namedOnce hbelow.1 (TestGroup.ordered_groups _ hbelow.2),
    fun test htest => (hbelow.1 test htest).namedOnce⟩

/-- A report that is accepted keeps its other fields. -/
theorem Report.extra_eq {report : Report} {grouped : GroupedReport}
    (h : report.group = .ok grouped) : grouped.extra = report.extra := by
  rw [Report.group] at h
  cases hversion : checkVersion report.minversion with
  | error fault =>
      rw [hversion] at h
      cases h
  | ok _ =>
      rw [hversion] at h
      cases h
      rfl

/-- The members of a grouped report for the fields that are read. -/
def GroupedReport.typed (grouped : GroupedReport) : Members :=
  [("id", .string grouped.id), ("minversion", .ofWord grouped.minversion),
    ("createdAt", grouped.createdAt.toJson), ("tests", grouped.root.toJson)]

/-- A report that has been grouped names no key twice, and neither do the groups of its tree. -/
theorem Report.Kept.namedOnce_group {report : Report} {grouped : GroupedReport} (h : report.Kept)
    (hgroup : report.group = .ok grouped) :
    Members.NamedOnce grouped.members ∧
      ∀ group ∈ grouped.root.preorder, group.members.NamedOnce ∧
        ∀ test ∈ group.tests, Members.NamedOnce test.members := by
  have htests : ∀ test ∈ grouped.root.allTests, test.Kept := fun test htest =>
    h.tests test ((sortTests_perm report.tests).mem_iff.mp
      ((Report.isTrie_root hgroup).allTests_perm.mem_iff.mp htest))
  refine ⟨?_, fun group => TestGroup.namedOnce_of_mem htests⟩
  have htime : grouped.createdAt.toJson.Ordered := by
    cases grouped.createdAt with
    | known t => exact .string _
    | unknown => exact .null
  have hroot := TestGroup.ordered_toJson grouped.root htests
  have htyped : Members.NamedOnce grouped.typed := by
    constructor
    · show ["id", "minversion", "createdAt", "tests"].Nodup
      decide
    · simp [GroupedReport.typed, Json.Ordered.string, Json.ofWord, Json.Ordered.number, htime,
        hroot]
  have hfields : ∀ member ∈ grouped.typed, member.1 ∈ Report.fields := by
    simp [GroupedReport.typed, Report.fields]
  have hmembers : grouped.members = grouped.typed ++ report.extra := by
    rw [← Report.extra_eq hgroup]
    rfl
  rw [hmembers]
  exact Members.namedOnce_append htyped hfields h.ascending h.others h.ordered

/-! ## Reading and writing -/

/-- A document that has the form of a report of a supported version is decoded as that report. -/
theorem Report.decode_of_form {document : Json} {report : Report}
    (h : Report.ofJson? document = some report)
    (hold : ¬supportedVersion < report.minversion) : Report.decode document = .ok report := by
  unfold Report.decode checkVersion
  rw [peekVersion_of_form h, if_neg hold, firstStatusFault?_of_form h, h]
  rfl

/-- **A report is written back as it was read.**  Reading what was written gives the report again,
and so it is written and grouped the same.  What was written says what the document says, but for
defaults, a creation time of null and other spellings of an outcome; and neither the report nor its
tests, nor the grouped report with its groups and their tests, name a key twice. -/
theorem reports_written_back {document : Json} (hordered : document.Ordered) {report : Report}
    (h : Report.decode document = .ok report) :
    Report.decode report.toJson = .ok report ∧
    (Report.decode report.toJson).map Report.toJson = .ok report.toJson ∧
    GroupedReport.ofJson report.toJson = GroupedReport.ofJson document ∧
    Report.Restates document report.toJson ∧
    report.toJson.Ordered ∧
    (Members.NamedOnce report.members ∧
      ∀ test ∈ report.tests, Members.NamedOnce test.members) ∧
    ∃ grouped, GroupedReport.ofJson document = .ok grouped ∧
      Members.NamedOnce grouped.members ∧
      ∀ group ∈ grouped.root.preorder, group.members.NamedOnce ∧
        ∀ test ∈ group.tests, Members.NamedOnce test.members := by
  obtain ⟨hform, hold⟩ := Report.of_decode h
  have hkept := Report.kept_of_ofJson? hordered hform
  have hback := hkept.ofJson?_toJson
  have hdecode : Report.decode report.toJson = .ok report := Report.decode_of_form hback hold
  obtain ⟨grouped, hgrouped⟩ := Report.exists_group hold
  refine ⟨hdecode, ?_, ?_, Report.restates hordered hform, hkept.ordered_toJson,
    ⟨hkept.namedOnce, fun test htest => (hkept.tests test htest).namedOnce⟩,
    grouped, ?_, hkept.namedOnce_group hgrouped⟩
  · rw [hdecode]
    rfl
  · rw [ofJson_of_form hback, ofJson_of_form hform]
  · rw [ofJson_of_form hform, hgrouped]

/-- A report with fields of the names that its tests have, and a test with one that a report has;
the outcome is spelled as an object, and defaults are left out. -/
def borrowedNames : Json :=
  .object [("createdAt", .null), ("groups", .array []), ("id", .string "r"),
    ("status", .string "later"),
    ("tests", .array [.object [("createdAt", .number (.ofWord 18446744073709551615)),
      ("status", .object [("failed", .null)])]])]

/-- The report with the borrowed names is read and written back. -/
theorem reports_written_back_with_borrowed_names : ∃ report,
    (borrowedNames.Ordered ∧ Report.decode borrowedNames = .ok report) ∧
      Report.decode report.toJson = .ok report ∧
      Report.Restates borrowedNames report.toJson := by
  have houtcome : (Json.object [("failed", .null)]).Ordered :=
    Json.ordered_object_iff.mpr ⟨by decide, by simp [Json.Ordered.null]⟩
  have htest : (Json.object [("createdAt", .number (.ofWord 18446744073709551615)),
      ("status", .object [("failed", .null)])]).Ordered :=
    Json.ordered_object_iff.mpr ⟨by decide, by simp [Json.Ordered.number, houtcome]⟩
  have hordered : borrowedNames.Ordered :=
    Json.ordered_object_iff.mpr ⟨by decide, by
      simp [Json.Ordered.null, Json.Ordered.string, Json.ordered_array_iff, htest]⟩
  have hdecode : Report.decode borrowedNames = .ok _ := rfl
  obtain ⟨hback, -, -, hrestates, -⟩ := reports_written_back hordered hdecode
  exact ⟨_, ⟨hordered, hdecode⟩, hback, hrestates⟩

end ReportRelay
