/-
# What is a message

A text is a message if it is JSON and has one of four forms: an object that names its type once,
and its report once if the type asks for one, or an array of the type and what it asks for.
`Message.Spells` states these forms of a value as it is spelled, with repeated keys, and the reader
accepts exactly the texts that have one of them (`parse_iff`).

The frame of a message that was accepted is accepted as this message (`messages_of_text`).  The
report of an accepted text stands inside an object or an array, so there is a level left for the
object of the frame.
-/
import ReportRelay.Proofs.Message.Frame

namespace ReportRelay

namespace Json

variable {text : List Char} {spelled : Spelled}

/-! ## Spellings of a value -/

/-- A value is read as it is spelled wherever it can be read at all. -/
theorem readValue_eq_readSpelled (fuel d : Nat) (text : List Char) :
    readValue fuel d text
      = (readSpelled fuel d text).map fun (spelled, rest) => (spelled.value, rest) := by
  unfold readSpelled
  split
  · next d rest hskip =>
      rw [readValue, hskip, Option.map_map]
      rfl
  · rw [Option.map_map]
    exact Option.map_id'.symm

/-- **A text spells the value that it holds**, and spells something only if it is JSON. -/
theorem parseChars?_eq_spelled? (text : List Char) :
    parseChars? text = (spelled? text).map Spelled.value := by
  unfold parseChars? spelled? complete?
  rw [readValue_eq_readSpelled]
  cases readSpelled (text.length + 1) greatestDepth text with
  | none => rfl
  | some outcome =>
      show (if _ then _ else _) = Option.map _ (if _ then _ else _)
      split <;> rfl

/-- A value that is no array and no object is none. -/
theorem readScalar_ne_object {rest : List Char} {v : Json} (h : readScalar text = some (v, rest))
    (members : Members) : v ≠ .object members := by
  rintro rfl
  have hdepth := (readScalar_shape h).2
  cases hdepth

/-- An object is spelled by its members, and nothing else is. -/
theorem readSpelled_other {fuel d : Nat} {rest : List Char} {v : Json}
    (h : readSpelled fuel (d + 1) text = some (.other v, rest)) (members : Members) :
    v ≠ .object members := by
  unfold readSpelled at h
  split at h
  · obtain ⟨_, -, heq⟩ := Option.map_eq_some_iff.mp h
    cases heq
  · next hbrace =>
      obtain ⟨⟨w, left⟩, hread, heq⟩ := Option.map_eq_some_iff.mp h
      cases heq
      rw [readValue] at hread
      split at hread
      · obtain ⟨_, -, heq⟩ := Option.map_eq_some_iff.mp hread
        cases heq
        exact fun hobject => by cases hobject
      · next hskip => exact absurd hskip (hbrace _ _ rfl)
      · exact readScalar_ne_object hread members

/-- An object that a text holds is spelled by its members. -/
theorem spelled?_other {text : List Char} {v : Json} (h : spelled? text = some (.other v))
    (members : Members) : v ≠ .object members := by
  unfold spelled? complete? at h
  split at h
  · cases h
  · next hread =>
      split at h
      · cases h
        exact readSpelled_other hread members
      · cases h

/-- The members that a text spells leave a level for the object that holds them. -/
theorem spelled?_members {text : List Char} {pairs : List (String × Json)}
    (h : spelled? text = some (.members pairs)) :
    ∀ pair ∈ pairs, pair.2.Ordered ∧ pair.2.depth < greatestDepth := by
  unfold spelled? complete? at h
  split at h
  · cases h
  · next hread =>
      split at h
      · cases h
        unfold readSpelled at hread
        split at hread
        · next d _ hdepth hskip =>
            obtain ⟨⟨read, left⟩, hitems, heq⟩ := Option.map_eq_some_iff.mp hread
            cases heq
            have hshape := forall_mem_of_readItems (of_readMember (readValue_shape _ d)) hitems
            have hgreatest : greatestDepth = d + 1 := hdepth
            intro pair hpair
            obtain ⟨hordered, hle⟩ := hshape pair hpair
            exact ⟨hordered, by omega⟩
        · obtain ⟨_, -, heq⟩ := Option.map_eq_some_iff.mp hread
          cases heq
      · cases h

end Json

/-! ## The forms of a message -/

/-- Members name a key once, with the given value. -/
def NamesOnce (pairs : List (String × Json)) (key : String) (value : Json) : Prop :=
  ∃ before after, pairs = before ++ (key, value) :: after ∧
    ∀ pair ∈ before ++ after, pair.1 ≠ key

namespace Message

/-- A value that is spelled like this is the message. -/
inductive Spells : Json.Spelled → Message → Prop
  /-- An object that names the type of reports once, and one report. -/
  | reportObject {pairs : List (String × Json)} {report : Json}
      (htype : NamesOnce pairs "type" (.string reportType))
      (hreport : NamesOnce pairs "report" report) : Spells (.members pairs) (.newReport report)
  /-- An object that names another type once, and whatever else. -/
  | otherObject {pairs : List (String × Json)} {type : String}
      (htype : NamesOnce pairs "type" (.string type)) (hother : type ≠ reportType) :
      Spells (.members pairs) .unknown
  /-- An array of the type of reports and a report. -/
  | reportArray (report : Json) :
      Spells (.other (.array [.string reportType, report])) (.newReport report)
  /-- An array of another type alone. -/
  | otherArray {type : String} (hother : type ≠ reportType) :
      Spells (.other (.array [.string type])) .unknown

/-- A key has one value among members exactly if they name it once. -/
theorem valuesOf_eq_singleton_iff {pairs : List (String × Json)} {key : String} {value : Json} :
    valuesOf key pairs = [value] ↔ NamesOnce pairs key value := by
  rw [valuesOf, List.map_eq_singleton_iff]
  constructor
  · rintro ⟨⟨name, _⟩, hfilter, rfl⟩
    obtain ⟨before, after, rfl, hbefore, hname, hafter⟩ := List.filter_eq_cons_iff.mp hfilter
    rw [List.filter_eq_nil_iff] at hafter
    obtain rfl : name = key := by simpa using hname
    refine ⟨before, after, rfl, fun pair hpair => ?_⟩
    rcases List.mem_append.mp hpair with hpair | hpair
    · simpa using hbefore pair hpair
    · simpa using hafter pair hpair
  · rintro ⟨before, after, rfl, hothers⟩
    refine ⟨(key, value), List.filter_eq_cons_iff.mpr ⟨before, after, rfl, ?_, by simp, ?_⟩, rfl⟩
    · intro pair hpair
      simpa using hothers pair (List.mem_append_left _ hpair)
    · rw [List.filter_eq_nil_iff]
      intro pair hpair
      simpa using hothers pair (List.mem_append_right _ hpair)

/-- The members of an object are those of a message exactly if they have its form. -/
theorem ofMembers?_eq_some_iff {pairs : List (String × Json)} {message : Message} :
    ofMembers? pairs = some message ↔ Spells (.members pairs) message := by
  unfold ofMembers?
  constructor
  · intro h
    split at h
    · next type htype =>
        rw [valuesOf_eq_singleton_iff] at htype
        split at h
        · next heq =>
            subst heq
            split at h
            · next report hreport =>
                cases h
                exact .reportObject htype (valuesOf_eq_singleton_iff.mp hreport)
            · cases h
        · next hother =>
            cases h
            exact .otherObject htype hother
    · cases h
  · intro h
    cases h with
    | reportObject htype hreport =>
        rw [valuesOf_eq_singleton_iff.mpr htype]
        simp [valuesOf_eq_singleton_iff.mpr hreport]
    | otherObject htype hother =>
        rw [valuesOf_eq_singleton_iff.mpr htype]
        simp [hother]

/-- The items of an array are those of a message exactly if they have its form. -/
theorem ofItems?_eq_some_iff {items : List Json} {message : Message} :
    ofItems? items = some message ↔ Spells (.other (.array items)) message := by
  constructor
  · intro h
    unfold ofItems? at h
    split at h
    · split at h
      · cases h
      · next hother =>
          cases h
          exact .otherArray hother
    · split at h
      · next heq =>
          subst heq
          cases h
          exact .reportArray _
      · cases h
    · cases h
  · intro h
    cases h with
    | reportArray report => rfl
    | otherArray hother => exact if_neg hother

/-- A value is a message exactly if it is spelled like one. -/
theorem ofSpelled?_eq_some_iff {spelled : Json.Spelled} {message : Message} :
    ofSpelled? spelled = some message ↔ Spells spelled message := by
  cases spelled with
  | members pairs => exact ofMembers?_eq_some_iff
  | other value =>
      cases value with
      | array items => exact ofItems?_eq_some_iff
      | _ => exact ⟨fun h => (by cases h), fun h => (by cases h)⟩

/-- The report of a message that a text spells is in order, and leaves a level for the frame. -/
theorem Spells.report_shape {text : List Char} {spelled : Json.Spelled} {report : Json}
    (hspelled : Json.spelled? text = some spelled) (h : Spells spelled (newReport report)) :
    report.Ordered ∧ report.depth < Json.greatestDepth := by
  cases h with
  | reportObject htype hreport =>
      obtain ⟨before, after, rfl, -⟩ := hreport
      have hmem : ("report", report) ∈ before ++ ("report", report) :: after := by simp
      exact Json.spelled?_members hspelled _ hmem
  | reportArray =>
      have hvalue := Json.parseChars?_eq_spelled? text
      rw [hspelled] at hvalue
      obtain ⟨hordered, hdepth⟩ := Json.parseChars?_shape hvalue
      have hpositive : Json.greatestDepth = Json.greatestDepth - 1 + 1 := rfl
      rw [Json.Spelled.value, hpositive, Json.depth_array_le_iff] at hdepth
      rw [Json.Spelled.value, Json.ordered_array_iff] at hordered
      have hle := hdepth report (by simp)
      exact ⟨hordered report (by simp), by omega⟩

/-! ## Reading and writing -/

/-- A text is read as a message exactly if it spells a value of which this is the form. -/
theorem parse_iff (text : String) (message : Message) :
    parse text = .ok message
      ↔ ∃ spelled, Json.spelled? text.toList = some spelled ∧ Spells spelled message := by
  simp only [← ofSpelled?_eq_some_iff]
  unfold parse parseChars Json.spelled? Json.complete?
  cases Json.readSpelled (text.toList.length + 1) Json.greatestDepth text.toList with
  | none => simp
  | some outcome =>
      obtain ⟨spelled, rest⟩ := outcome
      dsimp only
      by_cases hrest : (Json.skipBlanks rest).isEmpty = true
      · rw [if_pos hrest]
        cases hmessage : ofSpelled? spelled <;> simp [hmessage, hrest]
      · rw [if_neg hrest]
        cases hmessage : ofSpelled? spelled <;> simp [hrest]

/-- The message of another type is written as one of another type. -/
theorem parse_frame_unknown : parse unknown.frame = .ok unknown := rfl

/-- Members in which the same members name the type and the report, in whatever order, have the
form of the same message. -/
theorem Spells.perm {pairs pairs' : List (String × Json)} {message : Message}
    (h : Spells (.members pairs) message)
    (hsame : (pairs.filter fun pair => pair.1 = "type" ∨ pair.1 = "report").Perm
      (pairs'.filter fun pair => pair.1 = "type" ∨ pair.1 = "report")) :
    Spells (.members pairs') message := by
  have hvalues : ∀ key, key = "type" ∨ key = "report" → ∀ value,
      NamesOnce pairs key value → NamesOnce pairs' key value := by
    intro key hkey value honce
    have hkeeps : ∀ members : List (String × Json), valuesOf key members
        = valuesOf key (members.filter fun pair => pair.1 = "type" ∨ pair.1 = "report") := by
      intro members
      unfold valuesOf
      rw [List.filter_filter]
      congr 2
      funext pair
      by_cases hpair : pair.1 = key
      · rcases hkey with rfl | rfl <;> simp [hpair]
      · simp [hpair]
    rw [← valuesOf_eq_singleton_iff] at honce ⊢
    have hperm := (hsame.filter fun pair => pair.1 = key).map Prod.snd
    change (valuesOf key _).Perm (valuesOf key _) at hperm
    rw [← hkeeps, ← hkeeps, honce] at hperm
    exact List.singleton_perm.mp hperm |>.symm
  cases h with
  | reportObject htype hreport =>
      exact .reportObject (hvalues _ (by simp) _ htype) (hvalues _ (by simp) _ hreport)
  | otherObject htype hother => exact .otherObject (hvalues _ (by simp) _ htype) hother

/-- A message that was read is read back from its frame. -/
theorem parse_frame_of_parse {text : String} {message : Message} (h : parse text = .ok message)
    (hfloats : ∀ report, message = newReport report → report.FloatsReadBack) :
    parse message.frame = .ok message := by
  cases message with
  | unknown => exact parse_frame_unknown
  | newReport report =>
      obtain ⟨spelled, hspelled, hform⟩ := (parse_iff text _).mp h
      obtain ⟨hordered, hdepth⟩ := hform.report_shape hspelled
      rw [parse_frame hordered (hfloats report rfl), if_pos hdepth]

/-- **Which texts are messages, and that these are written as they are read.**  A text is a message
exactly if it is JSON, which it spells, and has one of the four forms; an object is spelled by its
members, and of these only the ones that name the type or the report count, in whatever order.
A message that was read is read back from its frame, and so it is written the same again. -/
theorem messages_of_text (text : String) :
    (∀ message, parse text = .ok message
      ↔ ∃ spelled, Json.spelled? text.toList = some spelled ∧ Spells spelled message) ∧
    Json.parse? text = (Json.spelled? text.toList).map Json.Spelled.value ∧
    (∀ value, Json.spelled? text.toList = some (.other value) →
      ∀ members, value ≠ .object members) ∧
    (∀ other pairs pairs', Json.spelled? text.toList = some (.members pairs) →
      Json.spelled? other.toList = some (.members pairs') →
      (pairs.filter fun pair => pair.1 = "type" ∨ pair.1 = "report").Perm
        (pairs'.filter fun pair => pair.1 = "type" ∨ pair.1 = "report") →
      ∀ message, parse text = .ok message ↔ parse other = .ok message) ∧
    ∀ message, parse text = .ok message →
      (∀ report, message = newReport report → report.FloatsReadBack) →
      parse message.frame = .ok message ∧
        (parse message.frame).map frame = .ok message.frame := by
  refine ⟨parse_iff text, Json.parseChars?_eq_spelled? _, fun value => Json.spelled?_other, ?_, ?_⟩
  · intro other pairs pairs' htext hother hsame message
    simp only [parse_iff, htext, hother, Option.some.injEq, exists_eq_left']
    exact ⟨fun h => h.perm hsame, fun h => h.perm hsame.symm⟩
  · intro message h hfloats
    have hread := parse_frame_of_parse h hfloats
    rw [hread]
    exact ⟨rfl, rfl⟩

/-- A text with a report before its type, and another member twice. -/
def looseText : String :=
  "\x7b\"via\":1,\"report\":\x7b\"tests\":[\x7b\"name\":\"math/add\",\"seconds\":15e-1,"
    ++ "\"status\":\"success\"\x7d],\"id\":\"nightly\"\x7d,\"via\":2,\"type\":\"new_report\"\x7d"

set_option maxRecDepth 2000 in
/-- The text is the message of the timed report, and is written as its frame. -/
theorem messages_of_loose_text :
    (parse looseText = .ok (newReport timedReport) ∧ timedReport.FloatsReadBack) ∧
      parse (newReport timedReport).frame = .ok (newReport timedReport) ∧
      (parse (newReport timedReport).frame).map frame = .ok (newReport timedReport).frame := by
  obtain ⟨-, -, -, -, hread⟩ := messages_of_text looseText
  refine ⟨⟨rfl, floatsReadBack_timedReport⟩, hread _ rfl ?_⟩
  rintro report ⟨⟩
  exact floatsReadBack_timedReport

end Message

end ReportRelay
