/-
# Reading back what was printed

The text of a value is read back as the value, wherever it stands in a longer text, as long as
the value is not nested too deep (`isReadBack`).  The route is that of the printer: a list of items
is read back if each item is (`readItems_join`), and an item that is nested too deep leaves nothing
to be read.
-/
import ReportRelay.Proofs.Json.Shape
import ReportRelay.Proofs.Json.Tokens

namespace ReportRelay

namespace Json

/-! ## Texts with commas between them -/

/-- The texts with commas between them. -/
def join (texts : List (List Char)) : List Char := List.intercalate [','] texts

/-- One text stands alone. -/
theorem join_singleton (text : List Char) : join [text] = text := List.intercalate_singleton

/-- Two texts have a comma between them. -/
theorem join_cons_cons (first second : List Char) (texts : List (List Char)) :
    join (first :: second :: texts) = first ++ ',' :: join (second :: texts) := by
  rw [join, List.intercalate_cons_cons, List.append_assoc]
  rfl

/-- A text is no longer than the texts with commas between them. -/
theorem length_le_join {text : List Char} {texts : List (List Char)} (h : text ∈ texts) :
    text.length ≤ (join texts).length := by
  induction texts with
  | nil => cases h
  | cons first texts ih =>
      cases texts with
      | nil =>
          rw [List.mem_singleton.mp h, join_singleton]
      | cons second texts =>
          rw [join_cons_cons, List.length_append, List.length_cons]
          rcases List.mem_cons.mp h with rfl | h
          · omega
          · have hle := ih h
            omega

/-- Texts that are not empty are no more than the characters of all. -/
theorem length_texts_le_join {texts : List (List Char)} (h : ∀ text ∈ texts, text ≠ []) :
    texts.length ≤ (join texts).length := by
  induction texts with
  | nil => exact Nat.zero_le _
  | cons first texts ih =>
      obtain ⟨hfirst, hrest⟩ := List.forall_mem_cons.mp h
      have hpos := List.length_pos_iff.mpr hfirst
      cases texts with
      | nil =>
          rw [join_singleton]
          exact hpos
      | cons second texts =>
          have hle := ih hrest
          rw [join_cons_cons]
          simp only [List.length_append, List.length_cons] at hle ⊢
          omega

/-- The text of a member. -/
def printMember (member : String × Json) : List Char := quoted member.1 ++ ':' :: print member.2

/-- The items of an array are printed with commas between them. -/
theorem printItems_eq_join (items : List Json) : printItems items = join (items.map print) := by
  induction items with
  | nil => rfl
  | cons item items ih =>
      cases items with
      | nil => exact (join_singleton _).symm
      | cons second items =>
          rw [printItems, ih]
          · exact (join_cons_cons _ _ _).symm
          · exact nofun

/-- The members of an object are printed with commas between them. -/
theorem printMembers_eq_join (members : Members) :
    printMembers members = join (members.map printMember) := by
  induction members with
  | nil => rfl
  | cons member members ih =>
      cases members with
      | nil => exact (join_singleton _).symm
      | cons second members =>
          rw [printMembers, ih]
          · exact (join_cons_cons _ _ _).symm
          · exact nofun

/-- The text of an item is no longer than those of the items it is among. -/
theorem length_item_le {items : List Json} {item : Json} (h : item ∈ items) :
    (print item).length ≤ (printItems items).length := by
  rw [printItems_eq_join]
  exact length_le_join (List.mem_map_of_mem h)

/-- The text of a value is no longer than those of the members it is among. -/
theorem length_value_le {members : Members} {member : String × Json} (h : member ∈ members) :
    (print member.2).length ≤ (printMembers members).length := by
  have hle : (printMember member).length ≤ (join (members.map printMember)).length :=
    length_le_join (List.mem_map_of_mem h)
  rw [printMembers_eq_join]
  rw [printMember, List.length_append, List.length_cons] at hle
  omega

/-! ## Starts of values -/

/-- The text starts as a value or a key does: with no blank and no closing character. -/
def Starts (text : List Char) : Prop :=
  ∃ c tail, text = c :: tail ∧ isBlank c = false ∧ c ≠ ']' ∧ c ≠ '\x7d'

/-- Nothing is skipped before a character that is no blank. -/
theorem skipBlanks_cons {c : Char} (h : isBlank c = false) (tail : List Char) :
    skipBlanks (c :: tail) = c :: tail := by
  apply List.dropWhile_cons_of_neg
  rw [h]
  decide

/-- The text of a number starts with no letter and no quote, and as a value does. -/
theorem starts_number {n : Number} (h : n.ReadsBack) :
    ∃ c tail, numberText n = c :: tail ∧ isBlank c = false ∧
      c ∉ ['"', '[', ']', '\x7b', '\x7d', 'n', 't', 'f'] := by
  obtain ⟨c, tail, htext, hc⟩ := exists_head_of_readNumber h
  refine ⟨c, tail, htext, ?_⟩
  rcases hc with rfl | hdigit
  · decide
  · constructor
    · by_contra hblank
      rw [Bool.not_eq_false, isBlank] at hblank
      simp only [Bool.or_eq_true, decide_eq_true_eq] at hblank
      rcases hblank with ((rfl | rfl) | rfl) | rfl <;> cases hdigit
    · intro hmem
      simp only [List.mem_cons, List.not_mem_nil, or_false] at hmem
      rcases hmem with rfl | rfl | rfl | rfl | rfl | rfl | rfl | rfl <;> cases hdigit

/-! ## Lists of items -/

section

variable {α : Type} {item : List Char → Option (α × List Char)} {text : α → List Char}
  {good : α → Prop} [DecidablePred good] {items : List α} {close : Char}

/-- A list is read back up to its closing character if all items are good, and not at all if one
is not: when each of its items is read back or not for itself. -/
theorem readList_join (hclose : close = ']' ∨ close = '\x7d')
    (hitem : ∀ a ∈ items, ∀ rest, Ends rest →
      item (text a ++ rest) = if good a then some (a, rest) else none)
    (hne : items ≠ []) {fuel : Nat} (hfuel : items.length ≤ fuel) (read : List α)
    (rest : List Char) :
    readList item close fuel read (join (items.map text) ++ close :: rest)
      = if ∀ a ∈ items, good a then some (read.reverse ++ items, rest) else none := by
  have hclosing : ∀ rest, skipBlanks (close :: rest) = close :: rest := by
    rcases hclose with rfl | rfl <;> exact skipBlanks_cons (by decide)
  have hcomma : close ≠ ',' := by
    rcases hclose with rfl | rfl <;> decide
  induction items generalizing fuel read with
  | nil => exact absurd rfl hne
  | cons a items ih =>
      obtain ⟨fuel, rfl⟩ : ∃ m, fuel = m + 1 := ⟨fuel - 1, by rw [List.length_cons] at hfuel; omega⟩
      obtain ⟨ha, hitems⟩ := List.forall_mem_cons.mp hitem
      cases items with
      | nil =>
          have hends : Ends (close :: rest) := ends_cons (Or.inr hclose) rest
          rw [List.map_singleton, join_singleton, readList, ha _ hends]
          by_cases hgood : good a
          · simp [hgood, hclosing, hcomma]
          · simp [hgood]
      | cons second items =>
          have hends : ∀ rest, Ends (',' :: rest) := fun rest => ends_cons (Or.inl rfl) rest
          rw [List.map_cons, List.map_cons, join_cons_cons, List.append_assoc, List.cons_append,
            readList, ha _ (hends _)]
          by_cases hgood : good a
          · have hlater := ih hitems (List.cons_ne_nil _ _)
              (Nat.le_of_succ_le_succ hfuel) (a :: read)
            rw [List.map_cons] at hlater
            rw [if_pos hgood]
            show readList item close fuel (a :: read) _ = _
            rw [hlater]
            simp [hgood]
          · rw [if_neg hgood, if_neg fun hall => hgood (hall a List.mem_cons_self)]

/-- **Items between two brackets are read back** if all are good, and not at all if one is not. -/
theorem readItems_join (hclose : close = ']' ∨ close = '\x7d')
    (hitem : ∀ a ∈ items, ∀ rest, Ends rest →
      item (text a ++ rest) = if good a then some (a, rest) else none)
    (hstarts : ∀ a ∈ items, Starts (text a)) {fuel : Nat}
    (hfuel : (join (items.map text)).length ≤ fuel) (rest : List Char) :
    readItems item close fuel (join (items.map text) ++ close :: rest)
      = if ∀ a ∈ items, good a then some (items, rest) else none := by
  have hlength : items.length ≤ (join (items.map text)).length := by
    rw [← List.length_map text]
    refine length_texts_le_join fun t ht => ?_
    obtain ⟨a, ha, rfl⟩ := List.mem_map.mp ht
    obtain ⟨c, tail, heq, -⟩ := hstarts a ha
    rw [heq]
    exact List.cons_ne_nil _ _
  cases items with
  | nil => rcases hclose with rfl | rfl <;> rfl
  | cons a items =>
      have hlist := readList_join hclose hitem (List.cons_ne_nil _ _)
        (Nat.le_trans hlength hfuel) [] rest
      -- the text of the first item decides that there is one
      obtain ⟨c, tail, hfirst, hblank, hbracket, hbrace⟩ := hstarts a List.mem_cons_self
      obtain ⟨left, htext⟩ : ∃ left, join ((a :: items).map text) ++ close :: rest = c :: left := by
        cases items with
        | nil => exact ⟨_, by rw [List.map_singleton, join_singleton, hfirst, List.cons_append]⟩
        | cons second items =>
            exact ⟨_, by rw [List.map_cons, List.map_cons, join_cons_cons, hfirst,
              List.cons_append, List.cons_append]⟩
      have hother : c ≠ close := by
        rcases hclose with rfl | rfl
        · exact hbracket
        · exact hbrace
      rw [htext] at hlist
      rw [htext, readItems, skipBlanks_cons hblank]
      show (if c = close then _ else _) = _
      rw [if_neg hother, hlist, List.reverse_nil, List.nil_append]

end

/-! ## Values -/

/-- Every number in the value that is no integer is read back. -/
def FloatsReadBack (v : Json) : Prop :=
  ∀ x, IsPart (.number (.float x)) v → (Number.float x).ReadsBack

/-- The numbers of an array are those of its items. -/
theorem floatsReadBack_array_iff {items : List Json} :
    FloatsReadBack (.array items) ↔ ∀ item ∈ items, item.FloatsReadBack := by
  constructor
  · intro h item hitem x hx
    exact h x (.item hitem hx)
  · intro h x hx
    cases hx with
    | item hitem hx => exact h _ hitem x hx

/-- The numbers of an object are those of its members. -/
theorem floatsReadBack_object_iff {members : Members} :
    FloatsReadBack (.object members) ↔ ∀ member ∈ members, member.2.FloatsReadBack := by
  constructor
  · intro h member hmember x hx
    exact h x (.member hmember hx)
  · intro h x hx
    cases hx with
    | member hmember hx => exact h _ hmember x hx

/-- There is no number in a string. -/
theorem floatsReadBack_string (s : String) : FloatsReadBack (.string s) := by
  rintro x ⟨⟩

/-- All numbers of such a value are read back, for integers are in any case. -/
theorem FloatsReadBack.number {n : Number} (h : FloatsReadBack (.number n)) : n.ReadsBack := by
  cases n with
  | integer n lower upper => exact readNumber_integerText n lower upper
  | float x => exact h x .self

/-- The text of a value starts as a value does. -/
theorem starts_print {v : Json} (h : v.FloatsReadBack) : Starts (print v) := by
  cases v with
  | null => exact ⟨'n', _, rfl, by decide⟩
  | bool b =>
      cases b with
      | true => exact ⟨'t', _, rfl, by decide⟩
      | false => exact ⟨'f', _, rfl, by decide⟩
  | number n =>
      obtain ⟨c, tail, htext, hblank, hc⟩ := starts_number h.number
      exact ⟨c, tail, htext, hblank, fun heq => hc (by simp [heq]), fun heq => hc (by simp [heq])⟩
  | string s => exact ⟨'"', _, rfl, by decide⟩
  | array items => exact ⟨'[', _, rfl, by decide⟩
  | object members => exact ⟨'\x7b', _, rfl, by decide⟩

/-- The text of a member starts as a key does. -/
theorem starts_printMember (member : String × Json) : Starts (printMember member) :=
  ⟨'"', _, rfl, by decide⟩

/-- A text that opens neither array nor object is read as another value, whatever the depth. -/
theorem readValue_eq_readScalar {c : Char} (hblank : isBlank c = false) (hbracket : c ≠ '[')
    (hbrace : c ≠ '\x7b') (fuel d : Nat) (tail : List Char) :
    readValue fuel d (c :: tail) = readScalar (c :: tail) := by
  have hskip := skipBlanks_cons hblank tail
  cases d with
  | zero => simp [readValue, hskip, hbracket, hbrace]
  | succ d => simp [readValue, hskip, hbracket, hbrace]

/-- The text of the value is read back as the value, whatever may follow it, if it is not nested
deeper than allowed, and is not read at all if it is. -/
def IsReadBack (fuel : Nat) (v : Json) : Prop :=
  ∀ d rest, Ends rest →
    readValue fuel d (print v ++ rest) = if v.depth ≤ d then some (v, rest) else none

/-- A value that is not nested is read back if it is at every depth. -/
theorem isReadBack_of_flat {fuel : Nat} {v : Json} (hdepth : v.depth = 0)
    (h : ∀ d rest, Ends rest → readValue fuel d (print v ++ rest) = some (v, rest)) :
    v.IsReadBack fuel := by
  intro d rest hrest
  rw [h d rest hrest, if_pos (by omega)]

/-- The text of null is read back. -/
theorem isReadBack_null (fuel : Nat) : null.IsReadBack fuel := by
  apply isReadBack_of_flat rfl
  intro d rest _
  exact readValue_eq_readScalar (by decide) (by decide) (by decide) fuel d _

/-- The text of a truth value is read back. -/
theorem isReadBack_bool (fuel : Nat) (b : Bool) : (bool b).IsReadBack fuel := by
  apply isReadBack_of_flat rfl
  intro d rest _
  cases b with
  | true => exact readValue_eq_readScalar (by decide) (by decide) (by decide) fuel d _
  | false => exact readValue_eq_readScalar (by decide) (by decide) (by decide) fuel d _

/-- The text of a number is read back as a value if it is as a number. -/
theorem isReadBack_number (fuel : Nat) {n : Number} (h : n.ReadsBack) :
    (number n).IsReadBack fuel := by
  apply isReadBack_of_flat rfl
  intro d rest hrest
  obtain ⟨c, tail, htext, hblank, hc⟩ := starts_number h
  simp only [List.mem_cons, List.not_mem_nil, or_false, not_or] at hc
  obtain ⟨hquote, hbracket, -, hbrace, -, hn, ht, hf⟩ := hc
  have hread := readNumber_append h hrest
  show readValue fuel d (numberText n ++ rest) = _
  rw [htext, List.cons_append] at hread ⊢
  rw [readValue_eq_readScalar hblank hbracket hbrace, readScalar, if_neg hquote, if_neg hn,
    if_neg ht, if_neg hf, hread]
  rfl

/-- The text of a string is read back as a value. -/
theorem isReadBack_string (fuel : Nat) (s : String) : (string s).IsReadBack fuel := by
  apply isReadBack_of_flat rfl
  intro d rest _
  have htext : print (.string s) ++ rest = '"' :: (s.toList.flatMap escape ++ '"' :: rest) := by
    simp [print, quoted]
  rw [htext, readValue_eq_readScalar (by decide) (by decide) (by decide), readScalar, if_pos rfl,
    readString_text]
  rfl

/-- The text of an array is read back if those of its items are. -/
theorem isReadBack_array {fuel : Nat} {items : List Json}
    (hitems : ∀ item ∈ items, item.IsReadBack fuel) (hstarts : ∀ item ∈ items, Starts (print item))
    (hfuel : (printItems items).length ≤ fuel) : (array items).IsReadBack fuel := by
  intro d rest _
  have hprint : print (.array items) ++ rest = '[' :: (printItems items ++ ']' :: rest) := by
    simp [print]
  rw [hprint]
  cases d with
  | zero => rfl
  | succ d =>
      rw [printItems_eq_join] at hfuel ⊢
      have hread := readItems_join (Or.inl rfl) (fun item hitem => hitems item hitem d) hstarts
        hfuel rest
      show (readItems (readValue fuel d) ']' fuel _).map _ = _
      rw [hread, ite_congr (propext depth_array_le_iff) (fun _ => rfl) fun _ => rfl]
      split <;> rfl

/-- The key of a member is read back up to its colon. -/
theorem readKey_printMember (member : String × Json) (rest : List Char) :
    readKey (printMember member ++ rest)
      = some (member.1, ':' :: (print member.2 ++ rest)) := by
  have htext : printMember member ++ rest
      = '"' :: (member.1.toList.flatMap escape ++ '"' :: ':' :: (print member.2 ++ rest)) := by
    simp [printMember, quoted]
  rw [htext]
  exact readString_text member.1 _

/-- The text of a member is read back if the text of its value is. -/
theorem readMember_printMember (value : List Char → Option (Json × List Char))
    (member : String × Json) (rest : List Char) :
    readMember value (printMember member ++ rest)
      = (value (print member.2 ++ rest)).map fun (v, left) => ((member.1, v), left) := by
  have hvalue : (afterColon? (':' :: (print member.2 ++ rest))).bind value
      = value (print member.2 ++ rest) := rfl
  rw [readMember, readKey_printMember]
  simp only [hvalue]
  cases value (print member.2 ++ rest) <;> rfl

/-- Members are read back if their values are. -/
theorem readItems_members {fuel : Nat} {members : Members}
    (hvalues : ∀ member ∈ members, member.2.IsReadBack fuel)
    (hfuel : (printMembers members).length ≤ fuel) (d : Nat) (rest : List Char) :
    readItems (readMember (readValue fuel d)) '\x7d' fuel (printMembers members ++ '\x7d' :: rest)
      = if ∀ member ∈ members, member.2.depth ≤ d then some (members, rest) else none := by
  rw [printMembers_eq_join] at hfuel ⊢
  refine readItems_join (Or.inr rfl) (fun member hmember rest hrest => ?_)
    (fun member _ => starts_printMember member) hfuel rest
  rw [readMember_printMember, hvalues member hmember d rest hrest]
  split <;> rfl

/-- The text of an object that is kept in order is read back if those of its values are. -/
theorem isReadBack_object {fuel : Nat} {members : Members} (hkeys : members.Ascending)
    (hvalues : ∀ member ∈ members, member.2.IsReadBack fuel)
    (hfuel : (printMembers members).length ≤ fuel) : (object members).IsReadBack fuel := by
  intro d rest _
  have hprint : print (.object members) ++ rest
      = '\x7b' :: (printMembers members ++ '\x7d' :: rest) := by
    simp [print]
  rw [hprint]
  cases d with
  | zero => rfl
  | succ d =>
      show (readItems (readMember (readValue fuel d)) '\x7d' fuel _).map _ = _
      rw [readItems_members hvalues hfuel,
        ite_congr (propext depth_object_le_iff) (fun _ => rfl) fun _ => rfl]
      split
      · show some (ofMembers members, rest) = _
        rw [ofMembers, hkeys.ofList_eq]
      · rfl

/-- **The text of a value is read back**, when its objects are in order and its numbers are read
back. -/
theorem isReadBack {v : Json} (hordered : v.Ordered) (hfloats : v.FloatsReadBack) {fuel : Nat}
    (hfuel : (print v).length ≤ fuel) : v.IsReadBack fuel := by
  induction v using induction with
  | null => exact isReadBack_null fuel
  | bool b => exact isReadBack_bool fuel b
  | number n => exact isReadBack_number fuel hfloats.number
  | string s => exact isReadBack_string fuel s
  | array items ih =>
      rw [ordered_array_iff] at hordered
      rw [floatsReadBack_array_iff] at hfloats
      have hlength : (printItems items).length ≤ fuel := by
        simp only [print, List.cons_append, List.length_cons, List.length_append] at hfuel
        omega
      refine isReadBack_array (fun item hitem => ?_)
        (fun item hitem => starts_print (hfloats item hitem)) hlength
      exact ih item hitem (hordered item hitem) (hfloats item hitem)
        (Nat.le_trans (length_item_le hitem) hlength)
  | object members ih =>
      obtain ⟨hkeys, hmembers⟩ := ordered_object_iff.mp hordered
      rw [floatsReadBack_object_iff] at hfloats
      have hlength : (printMembers members).length ≤ fuel := by
        simp only [print, List.cons_append, List.length_cons, List.length_append] at hfuel
        omega
      refine isReadBack_object hkeys (fun member hmember => ?_) hlength
      exact ih member hmember (hmembers member hmember) (hfloats member hmember)
        (Nat.le_trans (length_value_le hmember) hlength)

/-- **A rendered value is parsed back** if it is not nested too deep, and is refused if it is. -/
theorem parse?_render {v : Json} (hordered : v.Ordered) (hfloats : v.FloatsReadBack) :
    parse? v.render = if v.depth ≤ greatestDepth then some v else none := by
  have hread := isReadBack hordered hfloats (Nat.le_succ _) greatestDepth [] ends_nil
  rw [List.append_nil] at hread
  rw [parse?, render, String.toList_ofList, parseChars?, hread]
  split <;> rfl

end Json

end ReportRelay
