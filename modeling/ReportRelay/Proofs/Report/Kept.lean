/-
# What a report keeps

A report keeps the fields of its document that are not read, apart from those that are: they are in
order, and never name a field of the report (`Report.Kept`).  So nothing is named twice when both
are written side by side, each field is found in what was written, and the report is read back from
it (`Report.Kept.ofJson?_toJson`).
-/
import Mathlib.Data.List.Forall2
import Mathlib.Data.List.Nodup
import ReportRelay.Proofs.Json.Members
import ReportRelay.Proofs.Report.Refusal

namespace ReportRelay

/-! ## What is kept -/

/-- The other fields of a test result are in order and none of those that are read. -/
structure TestResult.Kept (test : TestResult) : Prop where
  ascending : Members.Ascending test.extra
  others : ∀ member ∈ test.extra, member.1 ∉ TestResult.fields
  ordered : ∀ member ∈ test.extra, member.2.Ordered

/-- The other fields of a report are in order and none of those that are read, and so are those of
its tests; a creation time that is kept is not null. -/
structure Report.Kept (report : Report) : Prop where
  ascending : Members.Ascending report.extra
  others : ∀ member ∈ report.extra, member.1 ∉ Report.fields
  ordered : ∀ member ∈ report.extra, member.2.Ordered
  createdAt : ∀ time, report.createdAt = some time → time ≠ .null ∧ time.Ordered
  tests : ∀ test ∈ report.tests, test.Kept

/-- What is left of members without some keys does not name these. -/
theorem Members.notMem_of_mem_without {members : Members} {keys : List String}
    {member : String × Json} (h : member ∈ Members.without members keys) :
    member ∈ members ∧ member.1 ∉ keys := by
  simpa [Members.without] using h

/-- A test result that was read keeps the other fields of its document. -/
theorem TestResult.eq_of_ofJson? {document : Json} {test : TestResult}
    (h : TestResult.ofJson? document = some test) : ∃ members, document = .object members ∧
      fieldOr "" Json.string? (Members.get? members "name") = some test.name ∧
      (Members.get? members "status").bind TestStatus.ofJson? = some test.status ∧
      test.extra = Members.without members fields := by
  cases document with
  | object members =>
      simp only [TestResult.ofJson?, Option.bind_eq_bind, Option.bind_eq_some_iff] at h
      obtain ⟨name, hname, status, hstatus, hresult⟩ := h
      cases hresult
      exact ⟨members, rfl, hname, Option.bind_eq_some_iff.mpr hstatus, rfl⟩
  | _ => cases h

/-- A report that was read keeps the other fields of its document. -/
theorem Report.eq_of_ofJson? {document : Json} {report : Report}
    (h : Report.ofJson? document = some report) : ∃ members, document = .object members ∧
      (Members.get? members "id").bind Json.string? = some report.id ∧
      fieldOr 0 Json.word? (Members.get? members "minversion") = some report.minversion ∧
      fieldOr [] TestResult.listOfJson? (Members.get? members "tests") = some report.tests ∧
      report.createdAt = createdAtOf (Members.get? members "createdAt") ∧
      report.extra = Members.without members fields := by
  cases document with
  | object members =>
      simp only [Report.ofJson?, Option.bind_eq_bind, Option.bind_eq_some_iff] at h
      obtain ⟨id, hid, minversion, hversion, tests, htests, hreport⟩ := h
      cases hreport
      exact ⟨members, rfl, Option.bind_eq_some_iff.mpr hid, hversion, htests, rfl, rfl⟩
  | _ => cases h

/-- A list of readings is made of the readings of its items. -/
theorem mapM_eq_some_iff {α β : Type} {read : α → Option β} {items : List α} {results : List β} :
    items.mapM read = some results
      ↔ List.Forall₂ (fun item result => read item = some result) items results := by
  induction items generalizing results with
  | nil =>
      cases results with
      | nil => simp
      | cons result results => simp
  | cons item items ih =>
      rw [List.mapM_cons]
      constructor
      · intro h
        simp only [Option.bind_eq_bind, Option.bind_eq_some_iff] at h
        obtain ⟨result, hitem, later, hitems, heq⟩ := h
        cases heq
        exact .cons hitem (ih.mp hitems)
      · rintro (_ | ⟨hitem, hitems⟩)
        simp [hitem, ih.mpr hitems]

/-- What stands on the right of a relation of lists is related to something on the left. -/
theorem exists_of_forall₂ {α β : Type} {R : α → β → Prop} {items : List α} {results : List β}
    (h : List.Forall₂ R items results) {result : β} (hresult : result ∈ results) :
    ∃ item ∈ items, R item result := by
  induction h with
  | nil => cases hresult
  | cons hitem _ ih =>
      rcases List.mem_cons.mp hresult with rfl | hresult
      · exact ⟨_, List.mem_cons_self, hitem⟩
      · obtain ⟨item, hmem, hrelated⟩ := ih hresult
        exact ⟨item, List.mem_cons_of_mem _ hmem, hrelated⟩

/-- The tests of a report are read from the items of a list in order, or there is no list and no
test. -/
theorem tests_of_field {field : Option Json} {tests : List TestResult}
    (hordered : ∀ value, field = some value → value.Ordered)
    (h : fieldOr [] TestResult.listOfJson? field = some tests) :
    ∃ items, (field = some (.array items) ∨ field = none ∧ items = []) ∧
      List.Forall₂ (fun item test => item.Ordered ∧ TestResult.ofJson? item = some test)
        items tests := by
  cases field with
  | none =>
      cases h
      exact ⟨[], Or.inr ⟨rfl, rfl⟩, .nil⟩
  | some value =>
      obtain ⟨items, hitems, hresults⟩ := Option.bind_eq_some_iff.mp h
      cases value <;> cases hitems
      have harray := Json.ordered_array_iff.mp (hordered _ rfl)
      exact ⟨items, Or.inl rfl,
        (List.forall₂_and_left _ _).mpr ⟨harray, mapM_eq_some_iff.mp hresults⟩⟩

/-- A test result that was read from a document in order keeps the rest of it. -/
theorem TestResult.kept_of_ofJson? {document : Json} {test : TestResult}
    (hordered : document.Ordered) (h : TestResult.ofJson? document = some test) : test.Kept := by
  obtain ⟨members, rfl, -, -, hextra⟩ := TestResult.eq_of_ofJson? h
  obtain ⟨hkeys, hvalues⟩ := Json.ordered_object_iff.mp hordered
  have hmem : ∀ member ∈ test.extra, member ∈ members ∧ member.1 ∉ fields := fun member h =>
    Members.notMem_of_mem_without (hextra ▸ h)
  exact ⟨hextra ▸ hkeys.without fields, fun member h => (hmem member h).2,
    fun member h => hvalues member (hmem member h).1⟩

/-- A report that was read from a document in order keeps the rest of it. -/
theorem Report.kept_of_ofJson? {document : Json} {report : Report}
    (hordered : document.Ordered) (h : Report.ofJson? document = some report) : report.Kept := by
  obtain ⟨members, rfl, -, -, htests, hcreated, hextra⟩ := Report.eq_of_ofJson? h
  obtain ⟨hkeys, hvalues⟩ := Json.ordered_object_iff.mp hordered
  have hmem : ∀ member ∈ report.extra, member ∈ members ∧ member.1 ∉ fields := fun member h =>
    Members.notMem_of_mem_without (hextra ▸ h)
  refine ⟨hextra ▸ hkeys.without fields, fun member h => (hmem member h).2,
    fun member h => hvalues member (hmem member h).1, fun time htime => ?_, fun test htest => ?_⟩
  · rw [hcreated] at htime
    unfold createdAtOf at htime
    split at htime
    · cases htime
    · next hnot =>
        refine ⟨?_, hvalues _ (Members.mem_of_get? htime)⟩
        rintro rfl
        exact hnot htime
  · obtain ⟨items, -, hall⟩ :=
      tests_of_field (fun value hvalue => hvalues _ (Members.mem_of_get? hvalue)) htests
    obtain ⟨item, -, hordered, hread⟩ := exists_of_forall₂ hall htest
    exact TestResult.kept_of_ofJson? hordered hread

/-! ## What is written -/

/-- Members that are written side by side name no key twice, and neither does any of their
values. -/
def Members.NamedOnce (members : Members) : Prop :=
  (members.map Prod.fst).Nodup ∧ ∀ member ∈ members, member.2.Ordered

/-- An object is in order if its values are. -/
theorem Json.ordered_ofMembers {members : Members} (h : ∀ member ∈ members, member.2.Ordered) :
    (Json.ofMembers members).Ordered :=
  .object (Members.ascending_ofList members) fun member hmember =>
    h member (Members.mem_of_mem_ofList hmember)

/-- Typed members beside others that are kept apart from them name no key twice. -/
theorem Members.namedOnce_append {front extra : Members} {keys : List String}
    (hfront : front.NamedOnce) (hkeys : ∀ member ∈ front, member.1 ∈ keys)
    (hextra : extra.Ascending) (hothers : ∀ member ∈ extra, member.1 ∉ keys)
    (hordered : ∀ member ∈ extra, member.2.Ordered) : Members.NamedOnce (front ++ extra) := by
  refine ⟨?_, List.forall_mem_append.mpr ⟨hfront.2, hordered⟩⟩
  rw [List.map_append, List.nodup_append']
  refine ⟨hfront.1, hextra.nodup, fun key hmem hother => ?_⟩
  obtain ⟨member, hmember, rfl⟩ := List.mem_map.mp hmem
  obtain ⟨other, hmem, heq⟩ := List.mem_map.mp hother
  exact hothers other hmem (heq ▸ hkeys member hmember)

/-- An outcome is read back from its word. -/
theorem TestStatus.ofName?_name (status : TestStatus) :
    TestStatus.ofName? status.name = some status := by
  cases status <;> rfl

namespace TestResult

variable {test : TestResult}

/-- The members of a test result for the fields that are read. -/
def typed (test : TestResult) : Members :=
  [("name", .string test.name), ("status", test.status.toJson)]

/-- A test result names no key twice. -/
theorem Kept.namedOnce (h : test.Kept) : Members.NamedOnce test.members := by
  have htyped : Members.NamedOnce test.typed := by
    constructor
    · show ["name", "status"].Nodup
      decide
    · simp [typed, TestStatus.toJson, Json.Ordered.string]
  have hfields : ∀ member ∈ test.typed, member.1 ∈ fields := by simp [typed, fields]
  exact Members.namedOnce_append htyped hfields h.ascending h.others h.ordered

/-- A test result is written as a document in order. -/
theorem Kept.ordered_toJson (h : test.Kept) : test.toJson.Ordered :=
  Json.ordered_ofMembers h.namedOnce.2

/-- The keys of a test result have the values that it is written with. -/
theorem Kept.get?_toJson (h : test.Kept) (key : String) :
    test.toJson.get? key = if key = "name" then some (.string test.name)
      else if key = "status" then some (.string test.status.name)
      else Members.get? test.extra key := by
  show Members.get? (Members.ofList test.members) key = _
  rw [Members.get?_ofList h.namedOnce.1, TestResult.members, Members.get?_cons, Members.get?_cons]
  rfl

/-- A test result is read back from what it is written as. -/
theorem Kept.ofJson?_toJson (h : test.Kept) : ofJson? test.toJson = some test := by
  have hname := h.get?_toJson "name"
  have hstatus := h.get?_toJson "status"
  have hextra : Members.without (Members.ofList (test.typed ++ test.extra)) fields = test.extra :=
    Members.without_ofList h.namedOnce.1 (by simp [typed, fields]) h.ascending h.others
  rw [if_pos rfl] at hname
  rw [if_neg (by decide), if_pos rfl] at hstatus
  change Members.get? (Members.ofList test.members) "name" = _ at hname
  change Members.get? (Members.ofList test.members) "status" = _ at hstatus
  change Members.without (Members.ofList test.members) fields = _ at hextra
  show ofJson? (.object (Members.ofList test.members)) = _
  rw [ofJson?, hname, hstatus, hextra]
  simp [fieldOr, Json.string?, TestStatus.ofJson?, TestStatus.ofName?_name]

end TestResult

/-- Test results are read back from what they are written as. -/
theorem TestResult.listOfJson?_toJson {tests : List TestResult} (h : ∀ test ∈ tests, test.Kept) :
    TestResult.listOfJson? (.array (tests.map TestResult.toJson)) = some tests := by
  show (tests.map TestResult.toJson).mapM TestResult.ofJson? = some tests
  rw [mapM_eq_some_iff, List.forall₂_map_left_iff, List.forall₂_same]
  exact fun test htest => (h test htest).ofJson?_toJson

/-- A word is read back as a version. -/
theorem Json.word?_ofWord (n : UInt64) : (Json.ofWord n).word? = some n :=
  word?_eq_some.mpr ⟨_, _, _, rfl, rfl⟩

namespace Report

variable {report : Report}

/-- The members of a report for the fields that are read. -/
def typed (report : Report) : Members :=
  ("id", .string report.id) :: ("minversion", .ofWord report.minversion)
    :: report.createdAt.toList.map (fun time => ("createdAt", time))
    ++ [("tests", .array (report.tests.map TestResult.toJson))]

/-- A report is written with the fields that are read in front. -/
theorem members_eq (report : Report) : report.members = report.typed ++ report.extra := by
  simp [members, typed]

/-- The members for the fields that are read are in this order, with or without a creation time. -/
theorem typed_eq (report : Report) : report.typed
    = match report.createdAt with
      | some time => [("id", .string report.id), ("minversion", .ofWord report.minversion),
          ("createdAt", time), ("tests", .array (report.tests.map TestResult.toJson))]
      | none => [("id", .string report.id), ("minversion", .ofWord report.minversion),
          ("tests", .array (report.tests.map TestResult.toJson))] := by
  unfold typed
  cases report.createdAt <;> rfl

/-- The fields that are read are named by the members for them. -/
theorem mem_fields_of_mem_typed {member : String × Json} (h : member ∈ report.typed) :
    member.1 ∈ fields := by
  have hall : ∀ member ∈ report.typed, member.1 ∈ fields := by
    rw [typed_eq]
    cases report.createdAt <;> simp [fields]
  exact hall member h

/-- A report names no key twice. -/
theorem Kept.namedOnce (h : report.Kept) : Members.NamedOnce report.members := by
  have htests : (Json.array (report.tests.map TestResult.toJson)).Ordered := by
    rw [Json.ordered_array_iff, List.forall_mem_map]
    exact fun test htest => (h.tests test htest).ordered_toJson
  have htyped : Members.NamedOnce report.typed := by
    rw [typed_eq]
    cases hcreated : report.createdAt with
    | none =>
        refine ⟨?_, by simp [Json.Ordered.string, Json.Ordered.number, Json.ofWord, htests]⟩
        show ["id", "minversion", "tests"].Nodup
        decide
    | some time =>
        have htime := (h.createdAt time hcreated).2
        refine ⟨?_, by simp [Json.Ordered.string, Json.Ordered.number, Json.ofWord, htests, htime]⟩
        show ["id", "minversion", "createdAt", "tests"].Nodup
        decide
  rw [members_eq]
  exact Members.namedOnce_append htyped (fun _ => mem_fields_of_mem_typed) h.ascending h.others
    h.ordered

/-- A report is written as a document in order. -/
theorem Kept.ordered_toJson (h : report.Kept) : report.toJson.Ordered :=
  Json.ordered_ofMembers h.namedOnce.2

/-- A field that is read has the value that it is written with. -/
theorem Kept.get?_typed (h : report.Kept) {key : String} {value : Json}
    (hmem : (key, value) ∈ report.typed) : report.toJson.get? key = some value := by
  show Members.get? (Members.ofList report.members) key = _
  rw [Members.get?_ofList h.namedOnce.1]
  refine Members.get?_of_mem h.namedOnce.1 ?_
  rw [members_eq]
  exact List.mem_append_left _ hmem

/-- A report is written with its identifier. -/
theorem Kept.get?_id (h : report.Kept) :
    report.toJson.get? "id" = some (.string report.id) :=
  h.get?_typed (List.mem_append_left _ List.mem_cons_self)

/-- A report is written with its version. -/
theorem Kept.get?_minversion (h : report.Kept) :
    report.toJson.get? "minversion" = some (.ofWord report.minversion) :=
  h.get?_typed (by simp [typed])

/-- A report is written with its tests. -/
theorem Kept.get?_tests (h : report.Kept) :
    report.toJson.get? "tests" = some (.array (report.tests.map TestResult.toJson)) :=
  h.get?_typed (by simp [typed])

/-- A report is written with the creation time that it has. -/
theorem Kept.get?_createdAt (h : report.Kept) :
    report.toJson.get? "createdAt" = report.createdAt := by
  cases hcreated : report.createdAt with
  | some time => exact h.get?_typed (by simp [typed_eq, hcreated])
  | none =>
      have hfront : Members.get? report.typed "createdAt" = none := by
        rw [typed_eq, hcreated]
        exact Members.get?_eq_none (by simp)
      have hback : Members.get? report.extra "createdAt" = none :=
        Members.get?_eq_none fun member hmember heq =>
          h.others member hmember (heq ▸ by decide)
      show Members.get? (Members.ofList report.members) "createdAt" = _
      rw [Members.get?_ofList h.namedOnce.1, members_eq, Members.get?_append, hfront, hback]
      rfl

/-- A report is written with the other fields that it has. -/
theorem Kept.get?_other (h : report.Kept) {key : String} (hkey : key ∉ fields) :
    report.toJson.get? key = Members.get? report.extra key := by
  have hfront : Members.get? report.typed key = none :=
    Members.get?_eq_none fun member hmember heq => hkey (heq ▸ mem_fields_of_mem_typed hmember)
  show Members.get? (Members.ofList report.members) key = _
  rw [Members.get?_ofList h.namedOnce.1, members_eq, Members.get?_append, hfront, Option.none_or]

/-- A report is read back from what it is written as. -/
theorem Kept.ofJson?_toJson (h : report.Kept) : ofJson? report.toJson = some report := by
  have hid := h.get?_id
  have hversion := h.get?_minversion
  have htests := h.get?_tests
  have hcreated : createdAtOf (report.toJson.get? "createdAt") = report.createdAt := by
    rw [h.get?_createdAt]
    unfold createdAtOf
    split
    · next heq => exact absurd rfl (h.createdAt _ heq).1
    · rfl
  have hextra : Members.without (Members.ofList report.members) fields = report.extra := by
    have hnodup := h.namedOnce.1
    rw [members_eq] at hnodup ⊢
    exact Members.without_ofList hnodup (fun _ => mem_fields_of_mem_typed) h.ascending h.others
  change Members.get? (Members.ofList report.members) _ = _ at hid hversion htests
  change createdAtOf (Members.get? (Members.ofList report.members) _) = _ at hcreated
  show ofJson? (.object (Members.ofList report.members)) = _
  rw [ofJson?, hid, hversion, htests, hcreated, hextra]
  simp [fieldOr, Json.string?, Json.word?_ofWord, TestResult.listOfJson?_toJson h.tests]

end Report

end ReportRelay
