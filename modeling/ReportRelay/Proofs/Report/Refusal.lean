/-
# Why a document is refused

`Report.ofJson?` decides on its own which documents have the form of a report.  Before it is asked,
the version and the outcomes of the tests are looked for in the document as it is.  These looks
never turn away a document that has the form of a report and can be grouped, and let none pass
that has not (`ofJson_of_form`, `ofJson_of_no_form`).

`Refuses` says what each refusal tells of the document, without the functions that look: a version
that is too new whatever else is wrong, else the first test whose outcome is none, else the form.
-/
import ReportRelay.Group.Report

namespace ReportRelay

/-! ## What a document tells -/

/-- A document asks for a version: its field for that is an integer that is not negative. -/
def AsksFor (document : Json) (version : UInt64) : Prop :=
  ∃ n lower upper, document.get? "minversion" = some (.number (.integer n lower upper))
    ∧ n = version.toNat

/-- A test gives as its outcome a word that is the name of none. -/
def Misnames (test : Json) (word : String) : Prop :=
  test.get? "status" = some (.string word) ∧ ∀ status : TestStatus, word ≠ status.name

/-- The name that a test gives; empty if that is no string. -/
def givenName (test : Json) : String :=
  match test.get? "name" with
  | some (.string name) => name
  | _ => ""

/-- A test is the first in the list of a document that misnames its outcome. -/
def FirstMisnamed (document test : Json) (word : String) : Prop :=
  ∃ earlier later, document.get? "tests" = some (.array (earlier ++ test :: later))
    ∧ Misnames test word ∧ ∀ other ∈ earlier, ∀ word, ¬Misnames other word

/-- Why a document is refused: the version comes first, then the outcomes, then the form. -/
inductive Refuses (document : Json) : ReportError → Prop
  /-- The document asks for a version that is too new. -/
  | tooNew {version : UInt64} (hasks : AsksFor document version)
      (hnew : supportedVersion < version) :
      Refuses document (.unsupportedVersion version supportedVersion)
  /-- A test misnames its outcome, and none before it does. -/
  | misnamed {test : Json} {word : String}
      (hversion : ∀ version, AsksFor document version → version ≤ supportedVersion)
      (hfirst : FirstMisnamed document test word) :
      Refuses document (.unknownStatus (givenName test) word)
  /-- The document does not have the form of a report. -/
  | malformed (hversion : ∀ version, AsksFor document version → version ≤ supportedVersion)
      (hnamed : ∀ test word, ¬FirstMisnamed document test word)
      (hform : Report.ofJson? document = none) : Refuses document .malformed

/-! ## The version -/

/-- A word that is read as a version is the integer that stands there. -/
theorem word?_eq_some {value : Json} {version : UInt64} : value.word? = some version ↔
    ∃ n lower upper, value = .number (.integer n lower upper) ∧ n = version.toNat := by
  cases value with
  | number number =>
      cases number with
      | integer n lower upper =>
          simp only [Json.word?, Number.word?, Json.number.injEq, Number.integer.injEq]
          constructor
          · intro h
            split at h
            · next hn =>
                cases h
                have hlt : n.toNat < UInt64.size := by
                  show n.toNat < 18446744073709551616
                  omega
                refine ⟨n, lower, upper, rfl, ?_⟩
                rw [UInt64.toNat_ofNat', Nat.mod_eq_of_lt hlt]
                omega
            · cases h
          · rintro ⟨_, -, -, rfl, rfl⟩
            rw [if_pos (by omega), Int.toNat_natCast, UInt64.ofNat_toNat]
      | float x => simp [Json.word?, Number.word?]
  | _ => simp [Json.word?]

/-- A document asks for the version that a look at it finds. -/
theorem asksFor_iff (document : Json) (version : UInt64) :
    AsksFor document version ↔ (document.get? "minversion").bind Json.word? = some version := by
  rw [Option.bind_eq_some_iff]
  constructor
  · rintro ⟨n, lower, upper, hfield, hn⟩
    exact ⟨_, hfield, word?_eq_some.mpr ⟨n, lower, upper, rfl, hn⟩⟩
  · rintro ⟨value, hfield, hword⟩
    obtain ⟨n, lower, upper, rfl, hn⟩ := word?_eq_some.mp hword
    exact ⟨n, lower, upper, hfield, hn⟩

/-- A look at the version finds a new one exactly if the document asks for it. -/
theorem supportedVersion_lt_peekVersion_iff (document : Json) :
    supportedVersion < peekVersion document
      ↔ ∃ version, AsksFor document version ∧ supportedVersion < version := by
  simp only [asksFor_iff, peekVersion]
  cases (document.get? "minversion").bind Json.word? with
  | none => simp [supportedVersion]
  | some version => simp

/-- A document asks for one version at most. -/
theorem AsksFor.eq_peekVersion {document : Json} {version : UInt64}
    (h : AsksFor document version) : version = peekVersion document := by
  rw [asksFor_iff] at h
  rw [peekVersion, h, Option.getD_some]

/-- A document with no new version asks for none that is new. -/
theorem le_supportedVersion_iff (document : Json) :
    ¬supportedVersion < peekVersion document
      ↔ ∀ version, AsksFor document version → version ≤ supportedVersion := by
  rw [supportedVersion_lt_peekVersion_iff]
  simp only [not_exists, not_and, UInt64.not_lt]

/-! ## The outcomes -/

/-- A word stands for an outcome exactly if it is the name of one. -/
theorem ofName?_eq_none_iff (word : String) :
    TestStatus.ofName? word = none ↔ ∀ status : TestStatus, word ≠ status.name := by
  unfold TestStatus.ofName?
  constructor
  · intro h status
    rintro rfl
    cases status <;> simp [TestStatus.name] at h
  · intro h
    have hsuccess : word ≠ "success" := h .success
    have hfailed : word ≠ "failed" := h .failed
    have hskipped : word ≠ "skipped" := h .skipped
    rw [if_neg hsuccess, if_neg hfailed, if_neg hskipped]

/-- A complaint about a test is that it misnames its outcome. -/
theorem statusFault?_eq_some_iff {test : Json} {fault : ReportError} :
    statusFault? test = some fault
      ↔ ∃ word, Misnames test word ∧ fault = .unknownStatus (givenName test) word := by
  have hname : ((test.get? "name").bind Json.string?).getD "" = givenName test := by
    unfold givenName
    split
    · next name hfield => rw [hfield]; rfl
    · next hfield =>
        cases hget : test.get? "name" with
        | none => rfl
        | some value =>
            cases value with
            | string name => exact absurd hget (hfield name)
            | _ => rfl
  have hword : ∀ word, (test.get? "status").bind Json.string? = some word
      ↔ test.get? "status" = some (.string word) := by
    intro word
    rw [Option.bind_eq_some_iff]
    constructor
    · rintro ⟨value, hfield, hstring⟩
      cases value <;> cases hstring
      exact hfield
    · intro hfield
      exact ⟨_, hfield, rfl⟩
  unfold statusFault?
  simp only [Misnames, ← hword, ← ofName?_eq_none_iff, hname]
  cases (test.get? "status").bind Json.string? with
  | none => simp
  | some word =>
      simp only [Option.some.injEq]
      cases houtcome : TestStatus.ofName? word with
      | none =>
          constructor
          · intro hfault
            cases hfault
            exact ⟨word, ⟨rfl, houtcome⟩, rfl⟩
          · rintro ⟨_, ⟨rfl, -⟩, rfl⟩
            rfl
      | some status =>
          constructor
          · intro hfault
            cases hfault
          · rintro ⟨_, ⟨rfl, hnone⟩, -⟩
            rw [houtcome] at hnone
            cases hnone

/-- There is no complaint about a test that does not misname its outcome. -/
theorem statusFault?_eq_none_iff {test : Json} :
    statusFault? test = none ↔ ∀ word, ¬Misnames test word := by
  rw [Option.eq_none_iff_forall_ne_some]
  constructor
  · intro h word hword
    exact h _ (statusFault?_eq_some_iff.mpr ⟨word, hword, rfl⟩)
  · intro h fault hfault
    obtain ⟨word, hword, -⟩ := statusFault?_eq_some_iff.mp hfault
    exact h word hword

/-- The complaint about a document is that about the first test which misnames its outcome. -/
theorem firstStatusFault?_eq_some_iff {document : Json} {fault : ReportError} :
    firstStatusFault? document = some fault
      ↔ ∃ test word, FirstMisnamed document test word
          ∧ fault = .unknownStatus (givenName test) word := by
  have hitems : ∀ items, (document.get? "tests").bind Json.items? = some items
      ↔ document.get? "tests" = some (.array items) := by
    intro items
    rw [Option.bind_eq_some_iff]
    constructor
    · rintro ⟨value, hfield, hvalue⟩
      cases value <;> cases hvalue
      exact hfield
    · intro hfield
      exact ⟨_, hfield, rfl⟩
  unfold firstStatusFault?
  simp only [FirstMisnamed, ← hitems]
  cases (document.get? "tests").bind Json.items? with
  | none => simp
  | some items =>
      simp only [Option.getD_some, Option.some.injEq, List.findSome?_eq_some_iff,
        statusFault?_eq_some_iff, statusFault?_eq_none_iff]
      constructor
      · rintro ⟨earlier, test, later, hsplit, ⟨word, hword, hfault⟩, hearlier⟩
        exact ⟨test, word, ⟨earlier, later, hsplit, hword, hearlier⟩, hfault⟩
      · rintro ⟨test, word, ⟨earlier, later, hsplit, hword, hearlier⟩, hfault⟩
        exact ⟨earlier, test, later, hsplit, ⟨word, hword, hfault⟩, hearlier⟩

/-- There is no complaint about a document exactly if no test is the first to misname. -/
theorem firstStatusFault?_eq_none_iff {document : Json} :
    firstStatusFault? document = none ↔ ∀ test word, ¬FirstMisnamed document test word := by
  rw [Option.eq_none_iff_forall_ne_some]
  constructor
  · intro h test word hfirst
    exact h _ (firstStatusFault?_eq_some_iff.mpr ⟨test, word, hfirst, rfl⟩)
  · intro h fault hfault
    obtain ⟨test, word, hfirst, -⟩ := firstStatusFault?_eq_some_iff.mp hfault
    exact h test word hfirst

/-! ## The form -/

/-- A report that has been read is a document with fields. -/
theorem Report.ofJson?_eq_some {document : Json} {report : Report}
    (h : Report.ofJson? document = some report) :
    fieldOr 0 Json.word? (document.get? "minversion") = some report.minversion
      ∧ fieldOr [] TestResult.listOfJson? (document.get? "tests") = some report.tests := by
  cases document with
  | object members =>
      simp only [Report.ofJson?, Option.bind_eq_bind, Option.bind_eq_some_iff] at h
      obtain ⟨id, -, minversion, hversion, tests, htests, hreport⟩ := h
      cases hreport
      exact ⟨hversion, htests⟩
  | _ => cases h

/-- The version of a report is the one that a look at the document finds. -/
theorem peekVersion_of_form {document : Json} {report : Report}
    (h : Report.ofJson? document = some report) : peekVersion document = report.minversion := by
  have hversion := (Report.ofJson?_eq_some h).1
  unfold peekVersion
  cases hfield : document.get? "minversion" with
  | none =>
      rw [hfield] at hversion
      exact Option.some.inj hversion
  | some value =>
      rw [hfield] at hversion
      rw [Option.bind_some, show value.word? = some report.minversion from hversion,
        Option.getD_some]

/-- A test result that has been read gives the name of an outcome, if it gives a word. -/
theorem statusFault?_of_form {test : Json} {result : TestResult}
    (h : TestResult.ofJson? test = some result) : statusFault? test = none := by
  rw [statusFault?_eq_none_iff]
  rintro word ⟨hstatus, hnone⟩
  rw [← ofName?_eq_none_iff] at hnone
  cases test with
  | object members =>
      have hfield : Members.get? members "status" = some (.string word) := hstatus
      simp only [TestResult.ofJson?, hfield, Option.bind_eq_bind, Option.bind_some,
        TestStatus.ofJson?, hnone, Option.bind_none] at h
      cases hname : fieldOr "" Json.string? (Members.get? members "name") <;>
        rw [hname] at h <;> cases h
  | _ => cases hstatus

/-- All that a list of readings is made from can be read. -/
theorem exists_of_mapM {α β : Type} {read : α → Option β} {items : List α} {results : List β}
    (h : items.mapM read = some results) {item : α} (hitem : item ∈ items) :
    ∃ result, read item = some result := by
  induction items generalizing results with
  | nil => cases hitem
  | cons first rest ih =>
      simp only [List.mapM_cons, Option.bind_eq_bind, Option.bind_eq_some_iff] at h
      obtain ⟨result, hfirst, later, hrest, -⟩ := h
      rcases List.mem_cons.mp hitem with rfl | hmem
      · exact ⟨result, hfirst⟩
      · exact ih hrest hmem

/-- There is no complaint about the outcomes of a document that has the form of a report. -/
theorem firstStatusFault?_of_form {document : Json} {report : Report}
    (h : Report.ofJson? document = some report) : firstStatusFault? document = none := by
  have htests := (Report.ofJson?_eq_some h).2
  unfold firstStatusFault?
  cases hfield : document.get? "tests" with
  | none => rfl
  | some value =>
      rw [hfield] at htests
      obtain ⟨items, hitems, hresults⟩ := Option.bind_eq_some_iff.mp htests
      rw [Option.bind_some, hitems, Option.getD_some, List.findSome?_eq_none_iff]
      intro item hitem
      obtain ⟨result, hresult⟩ := exists_of_mapM hresults hitem
      exact statusFault?_of_form hresult

/-! ## Both readings -/

/-- A report whose version is too new is not grouped. -/
theorem Report.group_of_tooNew {report : Report} (hnew : supportedVersion < report.minversion) :
    report.group = .error (.unsupportedVersion report.minversion supportedVersion) := by
  unfold Report.group checkVersion
  rw [if_pos hnew]
  rfl

/-- A report whose version is supported is grouped. -/
theorem Report.exists_group {report : Report} (hold : ¬supportedVersion < report.minversion) :
    ∃ grouped, report.group = .ok grouped := by
  unfold Report.group checkVersion
  rw [if_neg hold]
  exact ⟨_, rfl⟩

/-- What becomes of a document, check after check. -/
theorem GroupedReport.ofJson_eq (document : Json) :
    GroupedReport.ofJson document
      = if supportedVersion < peekVersion document then
          .error (.unsupportedVersion (peekVersion document) supportedVersion)
        else
          match firstStatusFault? document with
          | some fault => .error fault
          | none =>
            match Report.ofJson? document with
            | some report => report.group
            | none => .error .malformed := by
  unfold GroupedReport.ofJson Report.decode checkVersion
  split
  · rfl
  · cases firstStatusFault? document with
    | some fault => rfl
    | none => cases Report.ofJson? document <;> rfl

/-- A document that has the form of a report is treated as that report. -/
theorem ofJson_of_form {document : Json} {report : Report}
    (h : Report.ofJson? document = some report) :
    GroupedReport.ofJson document = report.group := by
  rw [GroupedReport.ofJson_eq, peekVersion_of_form h, firstStatusFault?_of_form h, h]
  split
  · next hnew => exact (Report.group_of_tooNew hnew).symm
  · rfl

/-- A document that does not have the form of a report is refused. -/
theorem ofJson_of_no_form {document : Json} (h : Report.ofJson? document = none) :
    ∃ error, GroupedReport.ofJson document = .error error := by
  rw [GroupedReport.ofJson_eq, h]
  split
  · exact ⟨_, rfl⟩
  · cases firstStatusFault? document with
    | some fault => exact ⟨fault, rfl⟩
    | none => exact ⟨.malformed, rfl⟩

/-- A report that is decoded has the form, and a version that is supported. -/
theorem Report.of_decode {document : Json} {report : Report}
    (h : Report.decode document = .ok report) :
    Report.ofJson? document = some report ∧ ¬supportedVersion < report.minversion := by
  have hform : Report.ofJson? document = some report ∧
      ¬supportedVersion < peekVersion document := by
    unfold Report.decode checkVersion at h
    split at h
    · cases h
    · next hold =>
        cases hfault : firstStatusFault? document with
        | some fault =>
            rw [hfault] at h
            cases h
        | none =>
            rw [hfault] at h
            cases hread : Report.ofJson? document with
            | none =>
                rw [hread] at h
                cases h
            | some read =>
                rw [hread] at h
                cases h
                exact ⟨rfl, hold⟩
  exact ⟨hform.1, peekVersion_of_form hform.1 ▸ hform.2⟩

/-- A document is refused exactly for what it tells. -/
theorem ofJson_eq_error_iff (document : Json) (error : ReportError) :
    GroupedReport.ofJson document = .error error ↔ Refuses document error := by
  rw [GroupedReport.ofJson_eq]
  constructor
  · intro h
    split at h
    · next hnew =>
        cases h
        obtain ⟨version, hasks, hversion⟩ := (supportedVersion_lt_peekVersion_iff document).mp hnew
        rw [← hasks.eq_peekVersion]
        exact .tooNew hasks hversion
    · next hold =>
        have hversion := (le_supportedVersion_iff document).mp hold
        cases hfault : firstStatusFault? document with
        | some fault =>
            rw [hfault] at h
            cases h
            obtain ⟨test, word, hfirst, rfl⟩ := firstStatusFault?_eq_some_iff.mp hfault
            exact .misnamed hversion hfirst
        | none =>
            rw [hfault] at h
            cases hread : Report.ofJson? document with
            | none =>
                rw [hread] at h
                cases h
                exact .malformed hversion (firstStatusFault?_eq_none_iff.mp hfault) hread
            | some report =>
                -- the version has been found to be supported, so the report is grouped
                rw [peekVersion_of_form hread] at hold
                obtain ⟨grouped, hgrouped⟩ := Report.exists_group hold
                simp only [hread, hgrouped] at h
                cases h
  · intro h
    cases h with
    | tooNew hasks hnew =>
        rw [hasks.eq_peekVersion] at hnew ⊢
        rw [if_pos hnew]
    | misnamed hversion hfirst =>
        rw [if_neg ((le_supportedVersion_iff document).mpr hversion),
          firstStatusFault?_eq_some_iff.mpr ⟨_, _, hfirst, rfl⟩]
    | malformed hversion hnamed hform =>
        rw [if_neg ((le_supportedVersion_iff document).mpr hversion),
          firstStatusFault?_eq_none_iff.mpr hnamed, hform]

/-- **Looking at a document before it is read as a report changes nothing but the cause of a
refusal.**  A document that has the form of a report is treated as that report, and any other is
refused; a report that is decoded can be grouped.  The cause of a refusal is what the document
tells: a version that is too new, else the first test that misnames its outcome, else its
form. -/
theorem ofJson_agrees (document : Json) :
    (∀ report, Report.ofJson? document = some report →
      GroupedReport.ofJson document = report.group) ∧
    (Report.ofJson? document = none → ∃ error, GroupedReport.ofJson document = .error error) ∧
    (∀ report, Report.decode document = .ok report →
      ∃ grouped, report.group = .ok grouped ∧ GroupedReport.ofJson document = .ok grouped) ∧
    ∀ error, GroupedReport.ofJson document = .error error ↔ Refuses document error := by
  refine ⟨fun report hform => ofJson_of_form hform, ofJson_of_no_form, ?_,
    ofJson_eq_error_iff document⟩
  intro report hdecode
  obtain ⟨hform, hold⟩ := Report.of_decode hdecode
  obtain ⟨grouped, hgrouped⟩ := Report.exists_group hold
  exact ⟨grouped, hgrouped, (ofJson_of_form hform).trans hgrouped⟩

-- the second test misnames its outcome, and the first does not even have the form of a test
example : GroupedReport.ofJson (.object [("id", .string "r"), ("tests", .array [.null,
    .object [("name", .string "a/b"), ("status", .string "lost")]])])
      = .error (.unknownStatus "a/b" "lost") := rfl

end ReportRelay
