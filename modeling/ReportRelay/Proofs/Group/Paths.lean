/-
# Paths as texts

The text of a path is its segments with slashes between them.  A text is cut at its slashes into
the segments it came from (`segments_intercalate`), so one text leads to another, as the search
for a group asks, exactly if the segments of the one begin those of the other
(`leadsTo_iff`).

The path of the root is empty, and so is its text.  A path that begins with an empty segment is
told apart from it by the segments only, which is why such paths are set aside where groups are
named.
-/
import ReportRelay.Group.Build
import ReportRelay.Group.Find

namespace ReportRelay

/-! ## Cutting at slashes -/

/-- The segments of a text are what slashes cut it into. -/
theorem splitSlashes_eq_splitOn (text : List Char) : splitSlashes text = text.splitOn '/' := by
  induction text with
  | nil => rfl
  | cons c text ih =>
      rw [splitSlashes, List.splitOn_cons_eq_if_modifyHead, ih]
      by_cases hc : c = '/'
      · rw [if_pos hc, if_pos (beq_iff_eq.mpr hc)]
      · rw [if_neg hc, if_neg (fun h => hc (beq_iff_eq.mp h))]
        cases hsplit : text.splitOn '/' with
        | nil => exact absurd hsplit (List.splitOn_ne_nil _ _)
        | cons segment rest => rfl

/-- A text has at least one segment. -/
theorem segments_ne_nil (name : String) : segments name ≠ [] := by
  rw [segments, splitSlashes_eq_splitOn]
  simp

/-- What slashes cut a text into holds no slash. -/
theorem slash_notMem_of_mem_splitSlashes {text segment : List Char}
    (h : segment ∈ splitSlashes text) : '/' ∉ segment := by
  induction text generalizing segment with
  | nil =>
      rw [splitSlashes, List.mem_singleton] at h
      simp [h]
  | cons c text ih =>
      rw [splitSlashes] at h
      split at h
      · rcases List.mem_cons.mp h with rfl | h
        · simp
        · exact ih h
      · next hc =>
          cases hsplit : splitSlashes text with
          | nil =>
              rw [hsplit, List.mem_singleton] at h
              simp [h, Ne.symm hc]
          | cons first rest =>
              rw [hsplit] at h ih
              rcases List.mem_cons.mp h with rfl | h
              · have hfirst := ih List.mem_cons_self
                simp [hfirst, Ne.symm hc]
              · exact ih (List.mem_cons_of_mem _ h)

/-- The segments of a name hold no slash. -/
theorem slash_notMem_segment {name segment : String} (h : segment ∈ segments name) :
    '/' ∉ segment.toList := by
  obtain ⟨chars, hchars, rfl⟩ := List.mem_map.mp h
  rw [String.toList_ofList]
  exact slash_notMem_of_mem_splitSlashes hchars

/-- The segments of a path to a directory hold no slash. -/
theorem slash_notMem_of_leads {path : List String} {name : String}
    (h : path <+: directory name) : ∀ segment ∈ path, '/' ∉ segment.toList := by
  intro segment hsegment
  have hmem : segment ∈ segments name := List.dropLast_subset _ (h.subset hsegment)
  exact slash_notMem_segment hmem

/-! ## Joining with slashes -/

/-- The text of a path is cut into its segments again. -/
theorem segments_intercalate {path : List String} (hne : path ≠ [])
    (hslash : ∀ segment ∈ path, '/' ∉ segment.toList) : segments ("/".intercalate path) = path := by
  have hcut : (['/'].intercalate (path.map String.toList)).splitOn '/' = path.map String.toList :=
    List.splitOn_intercalate '/' (by simpa using hslash) (by simpa using hne)
  rw [segments, String.toList_intercalate, splitSlashes_eq_splitOn]
  show List.map String.ofList (List.splitOn '/' (['/'].intercalate _)) = path
  rw [hcut, List.map_map]
  simp [Function.comp_def]

/-- A name is the text of its segments. -/
theorem intercalate_segments (name : String) : "/".intercalate (segments name) = name := by
  apply String.toList_inj.mp
  rw [String.toList_intercalate, segments, List.map_map, splitSlashes_eq_splitOn]
  have hid : String.toList ∘ String.ofList = id := by
    funext chars
    exact String.toList_ofList
  rw [hid, List.map_id]
  exact List.intercalate_splitOn '/'

/-- Only the empty path and the one with an empty segment alone have an empty text. -/
theorem intercalate_eq_empty_iff {path : List String} :
    "/".intercalate path = "" ↔ path = [] ∨ path = [""] := by
  constructor
  · intro h
    cases path with
    | nil => exact Or.inl rfl
    | cons segment path =>
        cases path with
        | nil => exact Or.inr (by rw [← h, String.intercalate_singleton])
        | cons next path =>
            have hlist := congrArg String.toList h
            rw [String.intercalate_cons_cons] at hlist
            simp at hlist
  · rintro (rfl | rfl) <;> simp

/-- The path of the root and the paths that begin with a segment that is not empty are told apart
by their texts. -/
theorem intercalate_inj {path other : List String}
    (hpath : ∀ segment ∈ path, '/' ∉ segment.toList) (hpathHead : path.head? ≠ some "")
    (hother : ∀ segment ∈ other, '/' ∉ segment.toList) (hotherHead : other.head? ≠ some "")
    (h : "/".intercalate path = "/".intercalate other) : path = other := by
  have hempty : ∀ {left right : List String}, left.head? ≠ some "" →
      "/".intercalate left = "/".intercalate right → right = [] → left = [] := by
    rintro left right hleft heq rfl
    rcases intercalate_eq_empty_iff.mp (heq.trans String.intercalate_nil) with hnil | hone
    · exact hnil
    · exact absurd (by rw [hone]; rfl) hleft
  by_cases hnil : other = []
  · rw [hnil]
    exact hempty hpathHead h hnil
  · have hne : path ≠ [] := fun heq => hnil (hempty hotherHead h.symm heq)
    rw [← segments_intercalate hne hpath, h, segments_intercalate hnil hother]

/-- Below the root, and below a path that begins with a segment that is not empty, the name of a
group is the text of its path. -/
theorem childName_intercalate {path : List String} (hhead : path.head? ≠ some "")
    (segment : String) :
    childName ("/".intercalate path) segment = "/".intercalate (path ++ [segment]) := by
  rw [childName]
  by_cases hpath : path = []
  · subst hpath
    simp
  · have hne : "/".intercalate path ≠ "" := by
      intro hempty
      rcases intercalate_eq_empty_iff.mp hempty with hnil | hone
      · exact hpath hnil
      · exact hhead (by rw [hone]; rfl)
    rw [if_neg hne, String.intercalate_append_of_ne_nil hpath (List.cons_ne_nil _ _),
      String.intercalate_singleton]

/-- Without the empty segments at its beginning, a path does not begin with one. -/
theorem head?_dropWhile_ne (path : List String) : (path.dropWhile (· = "")).head? ≠ some "" := by
  intro h
  have hnot := List.head?_dropWhile_not (fun s : String => decide (s = "")) path
  rw [h] at hnot
  simp at hnot

/-- A path that does not begin with an empty segment has none at its beginning to leave out. -/
theorem dropWhile_of_head?_ne {path : List String} (h : path.head? ≠ some "") :
    path.dropWhile (· = "") = path := by
  cases path with
  | nil => rfl
  | cons segment path =>
      have hne : ¬segment = "" := fun heq => h (congrArg some heq)
      simp [hne]

/-- Empty segments at the beginning of a path are left out of the names of groups. -/
theorem childName_dropWhile (path : List String) (segment : String) :
    childName ("/".intercalate (path.dropWhile (· = ""))) segment
      = "/".intercalate ((path ++ [segment]).dropWhile (· = "")) := by
  have hhead := head?_dropWhile_ne path
  rw [List.dropWhile_append]
  cases hdrop : path.dropWhile (· = "") with
  | nil =>
      -- nothing but empty segments so far, so the name above is empty as that of the root
      rw [List.isEmpty_nil, if_pos rfl, String.intercalate_nil, childName, if_pos rfl]
      by_cases hsegment : segment = "" <;> simp [hsegment]
  | cons first rest =>
      rw [hdrop] at hhead
      rw [List.isEmpty_cons, if_neg Bool.false_ne_true]
      exact childName_intercalate hhead segment

/-! ## Names that lead to others -/

/-- **One name leads to another if its segments begin those of the other.** -/
theorem leadsTo_iff (name path : String) :
    TestGroup.leadsTo name.toList path.toList = true ↔ segments name <+: segments path := by
  rw [TestGroup.leadsTo, Bool.or_eq_true, beq_iff_eq, List.isPrefixOf_iff_prefix]
  constructor
  · rintro (heq | ⟨rest, hrest⟩)
    · exact String.toList_inj.mp heq ▸ List.prefix_rfl
    · rw [segments, segments, ← hrest, List.append_assoc, splitSlashes_eq_splitOn,
        splitSlashes_eq_splitOn]
      show _ <+: List.map String.ofList (List.splitOn '/' (name.toList ++ '/' :: rest))
      rw [List.splitOn_append_cons_self, List.map_append]
      exact List.prefix_append _ _
  · rintro ⟨rest, hrest⟩
    have hpath : path = "/".intercalate (segments name ++ rest) := by
      rw [hrest, intercalate_segments]
    cases rest with
    | nil =>
        left
        rw [hpath, List.append_nil, intercalate_segments]
    | cons next rest =>
        right
        rw [hpath, String.intercalate_append_of_ne_nil (segments_ne_nil name)
          (List.cons_ne_nil _ _), intercalate_segments]
        refine ⟨("/".intercalate (next :: rest)).toList, ?_⟩
        rw [String.toList_append, String.toList_append]
        rfl

end ReportRelay
