/-
# Frames of reports

The frame of a report is an object around the document, which stands one level deeper in the frame
than in the body that it was published with.  A document that leaves room for that level is read
from its frame as it was published, so the viewer gets what grouping the published document gives.
A body may hold a document that leaves no room; its frame is refused as no JSON
(`decodeFrame_frame`).
-/
import ReportRelay.Client.Frame
import ReportRelay.Message
import ReportRelay.Proofs.Json.ReadBack
import ReportRelay.Server.Route

namespace ReportRelay

/-! ## The object around a document -/

namespace Message

/-- The members of the frame of a report: the type comes first. -/
def reportMembers (document : Json) : Members :=
  [("type", .string reportType), ("report", document)]

/-- The frame of a report is the text of an object. -/
theorem frameChars_newReport (document : Json) :
    frameChars (newReport document)
      = '\x7b' :: (Json.printMembers (reportMembers document) ++ ['\x7d']) :=
  rfl

/-- The members of a frame are read back as a message. -/
theorem ofMembers?_reportMembers (document : Json) :
    ofMembers? (reportMembers document) = some (newReport document) := by
  have htype : valuesOf "type" (reportMembers document) = [.string reportType] := by
    simp [valuesOf, reportMembers]
  have hreport : valuesOf "report" (reportMembers document) = [document] := by
    simp [valuesOf, reportMembers]
  rw [ofMembers?, htype]
  show (if reportType = reportType then _ else _) = _
  rw [if_pos rfl, hreport]

/-- The members of a frame are as deep as the document. -/
theorem depth_reportMembers_le_iff (document : Json) (d : Nat) :
    (∀ member ∈ reportMembers document, member.2.depth ≤ d) ↔ document.depth ≤ d := by
  simp [reportMembers, Json.depth]

/-- The members of a frame have a comma between them. -/
theorem printMembers_reportMembers (document : Json) :
    Json.printMembers (reportMembers document)
      = Json.printMember ("type", .string reportType)
        ++ ',' :: Json.printMember ("report", document) := by
  rw [Json.printMembers_eq_join, reportMembers, List.map_cons, List.map_singleton,
    Json.join_cons_cons, Json.join_singleton]

/-! ## Frames that break off -/

/-- What is looked for in a member of an object that breaks off. -/
theorem misnamesType_printMember (value : List Char → Option (Json × List Char)) (fuel : Nat)
    (named : Bool) (member : String × Json) (rest : List Char) :
    misnamesType value (fuel + 1) named (Json.printMember member ++ rest)
      = if member.1 == "type" && named then true
        else if member.1 == "type" && startsOther (Json.print member.2 ++ rest) then true
        else
          match value (Json.print member.2 ++ rest) with
          | none => false
          | some (_, rest) =>
            match Json.skipBlanks rest with
            | ',' :: rest => misnamesType value fuel (named || member.1 == "type") rest
            | _ => false := by
  rw [misnamesType, Json.readKey_printMember]
  rfl

/-- Members that break off at the document do not misname the type before: it is named once, and
is a string. -/
theorem misnamesType_reportMembers {value : List Char → Option (Json × List Char)}
    {document : Json} (fuel : Nat)
    (htype : ∀ rest, Json.Ends rest →
      value (Json.print (.string reportType) ++ rest) = some (.string reportType, rest))
    (hreport : value (Json.print document ++ ['\x7d']) = none) :
    misnamesType value (fuel + 2) false
      (Json.printMembers (reportMembers document) ++ ['\x7d']) = false := by
  have hcomma := htype (',' :: (Json.printMember ("report", document) ++ ['\x7d']))
    (Json.ends_cons (Or.inl rfl) _)
  have hlast : misnamesType value (fuel + 1) true
      (Json.printMember ("report", document) ++ ['\x7d']) = false := by
    rw [misnamesType_printMember, hreport]
    rfl
  rw [printMembers_reportMembers, List.append_assoc, List.cons_append, misnamesType_printMember,
    hcomma]
  exact hlast

/-- An object that breaks off departs from the form of a message if it misnames its type. -/
theorem departsEarly_object (text : List Char) :
    departsEarly ('\x7b' :: text)
      = misnamesType (Json.readValue (text.length + 2) (Json.greatestDepth - 1)) (text.length + 2)
        false text :=
  rfl

/-- An object is read as it is spelled. -/
theorem readSpelled_object (fuel d : Nat) (text : List Char) :
    Json.readSpelled fuel (d + 1) ('\x7b' :: text)
      = (Json.readItems (Json.readMember (Json.readValue fuel d)) '\x7d' fuel text).map
        fun (pairs, rest) => (.members pairs, rest) :=
  rfl

/-! ## Reading the frame -/

section

variable {document : Json} (hordered : document.Ordered) (hfloats : document.FloatsReadBack)

include hordered hfloats

/-- The members of a frame are read back. -/
theorem isReadBack_reportMembers {fuel : Nat}
    (hfuel : (Json.printMembers (reportMembers document)).length ≤ fuel) :
    ∀ member ∈ reportMembers document, member.2.IsReadBack fuel := by
  intro member hmember
  have hlength := Nat.le_trans (Json.length_value_le hmember) hfuel
  rcases List.mem_cons.mp hmember with rfl | hmember
  · exact Json.isReadBack_string fuel reportType
  · rw [List.mem_singleton.mp hmember] at hlength ⊢
    exact Json.isReadBack hordered hfloats hlength

/-- The object around a document is read back as it is spelled, if there is a level for it. -/
theorem readSpelled_frame {fuel : Nat}
    (hfuel : (Json.printMembers (reportMembers document)).length ≤ fuel) (d : Nat) :
    Json.readSpelled fuel (d + 1) (frameChars (newReport document))
      = if document.depth ≤ d then some (.members (reportMembers document), []) else none := by
  have hitems := Json.readItems_members
    (isReadBack_reportMembers hordered hfloats hfuel) hfuel d []
  rw [frameChars_newReport, readSpelled_object, hitems,
    ite_congr (propext (depth_reportMembers_le_iff document d)) (fun _ => rfl) fun _ => rfl]
  split <;> rfl

/-- A frame of which the document is too deep departs from no form but that of JSON. -/
theorem departsEarly_frame (hdeep : Json.greatestDepth ≤ document.depth) :
    departsEarly (frameChars (newReport document)) = false := by
  have hfuel : (Json.printMembers (reportMembers document)).length
      ≤ (Json.printMembers (reportMembers document) ++ ['\x7d']).length + 2 := by
    rw [List.length_append]
    omega
  have hread := isReadBack_reportMembers hordered hfloats hfuel
  obtain ⟨htype, hreport⟩ := List.forall_mem_cons.mp hread
  have hpos : 0 < Json.greatestDepth := by decide
  have hnot : ¬document.depth ≤ Json.greatestDepth - 1 := by omega
  rw [frameChars_newReport, departsEarly_object]
  refine misnamesType_reportMembers _ (fun rest hrest => ?_) ?_
  · exact (htype _ rest hrest).trans (if_pos (Nat.zero_le _))
  · exact (hreport _ List.mem_cons_self _ _ (Json.ends_cons (by decide) [])).trans (if_neg hnot)

/-- **The frame of a report is read back**, unless its document has the greatest depth. -/
theorem parse_frame :
    parse (newReport document).frame
      = if document.depth < Json.greatestDepth then .ok (newReport document)
        else .error .notJson := by
  have hfuel : (Json.printMembers (reportMembers document)).length
      ≤ (frameChars (newReport document)).length + 1 := by
    rw [frameChars_newReport, List.length_cons, List.length_append]
    omega
  have hspelled : Json.readSpelled _ Json.greatestDepth _ = _ :=
    readSpelled_frame hordered hfloats hfuel (Json.greatestDepth - 1)
  rw [parse, frame, String.toList_ofList, parseChars, hspelled]
  have hpos : 0 < Json.greatestDepth := by decide
  by_cases hshallow : document.depth < Json.greatestDepth
  · rw [if_pos hshallow, if_pos (by omega)]
    have hread : ofSpelled? (Json.Spelled.members (reportMembers document))
        = some (newReport document) := ofMembers?_reportMembers document
    dsimp only
    rw [hread]
    rfl
  · rw [if_neg hshallow, if_neg (by omega)]
    show Except.error (if departsEarly _ then _ else _) = _
    rw [departsEarly_frame hordered hfloats (Nat.le_of_not_lt hshallow)]
    rfl

end

end Message

/-! ## From the body to the viewer -/

/-- A body that is the text of a document holds what the text spells. -/
theorem bodyDocument?_toUTF8 (text : String) : bodyDocument? text.toUTF8 = Json.parse? text := by
  have hdecode : String.fromUTF8? text.toUTF8 = some text :=
    dif_pos text.isValidUTF8
  rw [bodyDocument?, hdecode, Option.bind_some]

/-- A document that a body holds is in order, and not too deep. -/
theorem bodyDocument?_shape {body : ByteArray} {document : Json}
    (h : bodyDocument? body = some document) :
    document.Ordered ∧ document.depth ≤ Json.greatestDepth := by
  obtain ⟨text, -, hparse⟩ := Option.bind_eq_some_iff.mp h
  exact Json.parseChars?_shape hparse

/-- **What the viewer makes of an accepted publication**: what grouping its document gives, unless
the document has the greatest depth, in which case the frame is refused. -/
theorem decodeFrame_frame {body : ByteArray} {document : Json}
    (hbody : bodyDocument? body = some document) (hfloats : document.FloatsReadBack) :
    decodeFrame (Message.newReport document).frame
      = if document.depth < Json.greatestDepth then
          match GroupedReport.ofJson document with
          | .ok report => .ok (some report)
          | .error cause => .error (.schema cause)
        else .error (.protocol .notJson) := by
  obtain ⟨hordered, -⟩ := bodyDocument?_shape hbody
  rw [decodeFrame, Message.parse_frame hordered hfloats]
  by_cases hshallow : document.depth < Json.greatestDepth
  · rw [if_pos hshallow, if_pos hshallow]
    cases hgroup : GroupedReport.ofJson document with
    | error cause => simp only [hgroup]
    | ok report => simp only [hgroup]
  · rw [if_neg hshallow, if_neg hshallow]

/-- The test of the timed report. -/
def timedTest : Json :=
  .object [("name", .string "math/add"),
    ("seconds", .number (.float ⟨false, 0x18000000000000, -52⟩)), ("status", .string "success")]

/-- A report with one test, which took one and a half seconds. -/
def timedReport : Json :=
  .object [("id", .string "nightly"), ("tests", .array [timedTest])]

/-- The numbers of the timed report are read back. -/
theorem floatsReadBack_timedReport : timedReport.FloatsReadBack := by
  have hseconds : Json.FloatsReadBack (.number (.float ⟨false, 0x18000000000000, -52⟩)) := by
    rintro x ⟨⟩
    unfold Number.ReadsBack
    decide +kernel
  simp [timedReport, timedTest, Json.floatsReadBack_object_iff, Json.floatsReadBack_array_iff,
    Json.floatsReadBack_string, hseconds]

/-- The objects of the timed report are in order. -/
theorem ordered_timedReport : timedReport.Ordered := by
  have htest : timedTest.Ordered := by
    refine Json.ordered_object_iff.mpr ⟨by decide, ?_⟩
    simp [Json.Ordered.string, Json.Ordered.number]
  refine Json.ordered_object_iff.mpr ⟨by decide, ?_⟩
  simp [Json.Ordered.string, Json.ordered_array_iff, htest]

/-- The timed report is grouped by the viewer as it was published. -/
theorem decodeFrame_frame_timedReport : ∃ report,
    (bodyDocument? timedReport.render.toUTF8 = some timedReport ∧ timedReport.FloatsReadBack)
      ∧ GroupedReport.ofJson timedReport = .ok report
      ∧ decodeFrame (Message.newReport timedReport).frame = .ok (some report) := by
  have hbody : bodyDocument? timedReport.render.toUTF8 = some timedReport := by
    rw [bodyDocument?_toUTF8, Json.parse?_render ordered_timedReport floatsReadBack_timedReport]
    rfl
  exact ⟨_, ⟨hbody, floatsReadBack_timedReport⟩, rfl,
    decodeFrame_frame hbody floatsReadBack_timedReport⟩

/-! ## The greatest depth -/

/-- Arrays nested in one another, as many as given. -/
def nested : Nat → Json
  | 0 => .null
  | n + 1 => .array [nested n]

/-- Nested arrays are as deep as they are many. -/
theorem depth_nested (n : Nat) : (nested n).depth = n := by
  induction n with
  | zero => rfl
  | succ n ih => rw [nested, Json.depth, Json.itemsDepth, Json.itemsDepth, ih, Nat.max_zero]

/-- Nested arrays hold no object that could be out of order, and no number. -/
theorem nested_shape (n : Nat) : (nested n).Ordered ∧ (nested n).FloatsReadBack := by
  induction n with
  | zero =>
      constructor
      · exact .null
      · rintro x ⟨⟩
  | succ n ih =>
      rw [nested, Json.ordered_array_iff, Json.floatsReadBack_array_iff]
      simpa using ih

/-- A report with a log that is nested as deep as a body may be. -/
def deepReport : Json :=
  .object [("id", .string "deep"), ("log", nested (Json.greatestDepth - 1))]

/-- The deep report has the greatest depth. -/
theorem depth_deepReport : deepReport.depth = Json.greatestDepth := by
  simp only [deepReport, Json.depth, Json.membersDepth, depth_nested]
  decide

/-- The deep report is in order and has no number. -/
theorem deepReport_shape : deepReport.Ordered ∧ deepReport.FloatsReadBack := by
  rw [deepReport, Json.ordered_object_iff, Json.floatsReadBack_object_iff]
  constructor
  · refine ⟨by decide, ?_⟩
    simp [Json.Ordered.string, nested_shape]
  · simp [Json.floatsReadBack_string, nested_shape]

/-- The deep report is accepted and can be grouped, but its frame is refused. -/
theorem decodeFrame_frame_deepReport :
    bodyDocument? deepReport.render.toUTF8 = some deepReport
      ∧ (∃ report, GroupedReport.ofJson deepReport = .ok report)
      ∧ decodeFrame (Message.newReport deepReport).frame = .error (.protocol .notJson) := by
  obtain ⟨hordered, hfloats⟩ := deepReport_shape
  refine ⟨?_, ⟨_, rfl⟩, ?_⟩
  · rw [bodyDocument?_toUTF8, Json.parse?_render hordered hfloats, depth_deepReport, if_pos le_rfl]
  · rw [decodeFrame, Message.parse_frame hordered hfloats, depth_deepReport,
      if_neg (Nat.lt_irrefl _)]

end ReportRelay
