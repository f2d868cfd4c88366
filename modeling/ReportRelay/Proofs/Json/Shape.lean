/-
# The shape of a value

How deep arrays and objects are nested in a value, which values are parts of it, and whether all
its objects are kept in order.  What the reader builds is in order, and no deeper than it was
allowed to go (`readValue_shape`).
-/
import ReportRelay.Json.Reader

namespace ReportRelay

/-! ## Members in order -/

namespace Members

/-- The keys ascend, so each stands once. -/
def Ascending (members : Members) : Prop := members.Pairwise fun a b => a.1 < b.1

instance (members : Members) : Decidable members.Ascending :=
  inferInstanceAs (Decidable (members.Pairwise fun a b => a.1 < b.1))

/-- Adding a member adds nothing else. -/
theorem mem_insertNew {member other : String × Json} {members : Members}
    (h : other ∈ insertNew member members) : other = member ∨ other ∈ members := by
  induction members with
  | nil => exact Or.inl (List.mem_singleton.mp h)
  | cons first rest ih =>
      unfold insertNew at h
      split at h
      · exact List.mem_cons.mp h
      · split at h
        · exact Or.inr h
        · rcases List.mem_cons.mp h with rfl | h
          · exact Or.inr List.mem_cons_self
          · exact (ih h).imp_right (List.mem_cons_of_mem _)

/-- Adding a member keeps the keys ascending. -/
theorem Ascending.insertNew {members : Members} (h : Ascending members)
    (member : String × Json) : Ascending (insertNew member members) := by
  induction members with
  | nil => exact List.pairwise_singleton _ _
  | cons first rest ih =>
      obtain ⟨hfirst, hrest⟩ := List.pairwise_cons.mp h
      unfold Members.insertNew
      split
      · next hlt =>
          refine List.pairwise_cons.mpr ⟨fun other hother => ?_, h⟩
          rcases List.mem_cons.mp hother with rfl | hother
          · exact hlt
          · exact String.lt_trans hlt (hfirst other hother)
      · next hnot =>
          split
          · exact h
          · next hne =>
              refine List.pairwise_cons.mpr ⟨fun other hother => ?_, ih hrest⟩
              rcases mem_insertNew hother with rfl | hother
              · exact Std.lt_of_le_of_ne hnot (Ne.symm hne)
              · exact hfirst other hother

/-- The members come from the list. -/
theorem mem_of_mem_ofList {member : String × Json} {pairs : List (String × Json)}
    (h : member ∈ ofList pairs) : member ∈ pairs := by
  induction pairs with
  | nil => cases h
  | cons pair pairs ih =>
      rcases mem_insertNew h with rfl | h
      · exact List.mem_cons_self
      · exact List.mem_cons_of_mem _ (ih h)

/-- The keys of members ascend, in whatever order these were listed. -/
theorem ascending_ofList (pairs : List (String × Json)) : Ascending (ofList pairs) := by
  induction pairs with
  | nil => exact List.Pairwise.nil
  | cons pair pairs ih => exact ih.insertNew pair

/-- Members that are listed in order stay as they are. -/
theorem Ascending.ofList_eq {members : Members} (h : Ascending members) :
    ofList members = members := by
  induction members with
  | nil => rfl
  | cons first rest ih =>
      obtain ⟨hfirst, hrest⟩ := List.pairwise_cons.mp h
      show Members.insertNew first (ofList rest) = first :: rest
      rw [ih hrest]
      cases rest with
      | nil => rfl
      | cons second rest =>
          rw [Members.insertNew, if_pos (hfirst second List.mem_cons_self)]

end Members

namespace Json

/-! ## Parts of a value -/

/-- A value is the other one, or stands somewhere in it. -/
inductive IsPart (part : Json) : Json → Prop
  | self : IsPart part part
  | item {items : List Json} {item : Json} (hitem : item ∈ items) (h : IsPart part item) :
      IsPart part (.array items)
  | member {members : Members} {member : String × Json} (hmember : member ∈ members)
      (h : IsPart part member.2) : IsPart part (.object members)

/-- All objects of the value are kept in the order of their keys. -/
inductive Ordered : Json → Prop
  | null : Ordered .null
  | bool (b : Bool) : Ordered (.bool b)
  | number (n : Number) : Ordered (.number n)
  | string (s : String) : Ordered (.string s)
  | array {items : List Json} (h : ∀ item ∈ items, Ordered item) : Ordered (.array items)
  | object {members : Members} (hkeys : members.Ascending)
      (h : ∀ member ∈ members, Ordered member.2) : Ordered (.object members)

/-- An array is in order if its items are. -/
theorem ordered_array_iff {items : List Json} :
    (array items).Ordered ↔ ∀ item ∈ items, item.Ordered := by
  constructor
  · rintro ⟨⟩
    assumption
  · exact .array

/-- An object is in order if its keys ascend and the values of its members are in order. -/
theorem ordered_object_iff {members : Members} :
    (object members).Ordered ↔ members.Ascending ∧ ∀ member ∈ members, member.2.Ordered := by
  constructor
  · rintro ⟨⟩
    exact ⟨‹_›, ‹_›⟩
  · rintro ⟨hkeys, hmembers⟩
    exact .object hkeys hmembers

/-- An item of an array is smaller than the array. -/
theorem sizeOf_item_lt {items : List Json} {item : Json} (h : item ∈ items) :
    sizeOf item < sizeOf (array items) := by
  have hlt : sizeOf item < sizeOf items := List.sizeOf_lt_of_mem h
  rw [array.sizeOf_spec]
  omega

/-- The value of a member of an object is smaller than the object. -/
theorem sizeOf_member_lt {members : Members} {member : String × Json} (h : member ∈ members) :
    sizeOf member.2 < sizeOf (object members) := by
  have hlt : sizeOf member < sizeOf members := List.sizeOf_lt_of_mem h
  have hpair : sizeOf member = 1 + sizeOf member.1 + sizeOf member.2 := rfl
  rw [object.sizeOf_spec]
  omega

/-- **Induction over a value**: over the items of its arrays and the members of its objects. -/
@[elab_as_elim]
theorem induction {P : Json → Prop} (null : P .null) (bool : ∀ b, P (.bool b))
    (number : ∀ n, P (.number n)) (string : ∀ s, P (.string s))
    (array : ∀ items, (∀ item ∈ items, P item) → P (.array items))
    (object : ∀ members : Members, (∀ member ∈ members, P member.2) → P (.object members))
    (value : Json) : P value :=
  match value with
  | .null => null
  | .bool b => bool b
  | .number n => number n
  | .string s => string s
  | .array items => array items fun item _ => induction null bool number string array object item
  | .object members =>
    object members fun member _ => induction null bool number string array object member.2
termination_by sizeOf value
decreasing_by
  · exact sizeOf_item_lt ‹_›
  · exact sizeOf_member_lt ‹_›

/-! ## Depth -/

mutual

/-- How deep arrays and objects are nested in the value. -/
def depth : Json → Nat
  | .null => 0
  | .bool _ => 0
  | .number _ => 0
  | .string _ => 0
  | .array items => itemsDepth items + 1
  | .object members => membersDepth members + 1

/-- How deep arrays and objects are nested in the deepest of the items. -/
def itemsDepth : List Json → Nat
  | [] => 0
  | item :: items => max (depth item) (itemsDepth items)

/-- How deep arrays and objects are nested in the deepest of the members. -/
def membersDepth : List (String × Json) → Nat
  | [] => 0
  | (_, value) :: members => max (depth value) (membersDepth members)

end

/-- No item is deeper than the deepest one. -/
theorem itemsDepth_le_iff {items : List Json} {d : Nat} :
    itemsDepth items ≤ d ↔ ∀ item ∈ items, item.depth ≤ d := by
  induction items with
  | nil => simp [itemsDepth]
  | cons item items ih => rw [itemsDepth, Nat.max_le, ih, List.forall_mem_cons]

/-- No member is deeper than the deepest one. -/
theorem membersDepth_le_iff {members : List (String × Json)} {d : Nat} :
    membersDepth members ≤ d ↔ ∀ member ∈ members, member.2.depth ≤ d := by
  induction members with
  | nil => simp [membersDepth]
  | cons member members ih => rw [membersDepth, Nat.max_le, ih, List.forall_mem_cons]

/-- An array is one deeper than its items. -/
theorem depth_array_le_iff {items : List Json} {d : Nat} :
    (array items).depth ≤ d + 1 ↔ ∀ item ∈ items, item.depth ≤ d := by
  rw [depth, Nat.add_le_add_iff_right, itemsDepth_le_iff]

/-- An object is one deeper than its members. -/
theorem depth_object_le_iff {members : Members} {d : Nat} :
    (object members).depth ≤ d + 1 ↔ ∀ member ∈ members, member.2.depth ≤ d := by
  rw [depth, Nat.add_le_add_iff_right, membersDepth_le_iff]

/-! ## What the reader builds -/

/-- Whatever holds of all items that may be read holds of a list of them. -/
theorem forall_mem_of_readList {α : Type} {P : α → Prop}
    {item : List Char → Option (α × List Char)}
    (hitem : ∀ text a rest, item text = some (a, rest) → P a) {close : Char} {fuel : Nat}
    {read items : List α} {text rest : List Char}
    (h : readList item close fuel read text = some (items, rest)) (hread : ∀ a ∈ read, P a) :
    ∀ a ∈ items, P a := by
  induction fuel generalizing read text with
  | zero => cases h
  | succ fuel ih =>
      rw [readList] at h
      split at h
      · cases h
      · next a left hread' =>
          have hcons : ∀ b ∈ a :: read, P b :=
            List.forall_mem_cons.mpr ⟨hitem _ _ _ hread', hread⟩
          split at h
          · cases h
          · split at h
            · exact ih h hcons
            · split at h
              · cases h
                exact fun b hb => hcons b (List.mem_reverse.mp hb)
              · cases h

/-- Whatever holds of all items that may be read holds of those between two brackets. -/
theorem forall_mem_of_readItems {α : Type} {P : α → Prop}
    {item : List Char → Option (α × List Char)}
    (hitem : ∀ text a rest, item text = some (a, rest) → P a) {close : Char} {fuel : Nat}
    {items : List α} {text rest : List Char}
    (h : readItems item close fuel text = some (items, rest)) : ∀ a ∈ items, P a := by
  unfold readItems at h
  split at h
  · cases h
  · split at h
    · cases h
      exact fun a ha => by cases ha
    · exact forall_mem_of_readList hitem h fun a ha => by cases ha

/-- The value of a member that is read is one that may be read. -/
theorem of_readMember {P : Json → Prop} {value : List Char → Option (Json × List Char)}
    (hvalue : ∀ text v rest, value text = some (v, rest) → P v) (text : List Char)
    (member : String × Json) (rest : List Char)
    (h : readMember value text = some (member, rest)) : P member.2 := by
  unfold readMember at h
  split at h
  · cases h
  · split at h
    · cases h
    · next hbind =>
        cases h
        obtain ⟨_, -, hread⟩ := Option.bind_eq_some_iff.mp hbind
        exact hvalue _ _ _ hread

/-- A value that is no array and no object is in order and not nested. -/
theorem readScalar_shape {text rest : List Char} {v : Json}
    (h : readScalar text = some (v, rest)) : v.Ordered ∧ v.depth = 0 := by
  have hword : ∀ (word : List Char) (value : Json),
      value.Ordered ∧ value.depth = 0 → readWord word value text = some (v, rest) →
        v.Ordered ∧ v.depth = 0 := by
    intro word value hvalue hread
    unfold readWord at hread
    split at hread
    · cases hread
      exact hvalue
    · cases hread
  unfold readScalar at h
  split at h
  · cases h
  · split at h
    · obtain ⟨⟨s, left⟩, -, heq⟩ := Option.map_eq_some_iff.mp h
      cases heq
      exact ⟨.string s, rfl⟩
    · split at h
      · exact hword _ _ ⟨.null, rfl⟩ h
      · split at h
        · exact hword _ _ ⟨.bool true, rfl⟩ h
        · split at h
          · exact hword _ _ ⟨.bool false, rfl⟩ h
          · obtain ⟨⟨n, left⟩, -, heq⟩ := Option.map_eq_some_iff.mp h
            cases heq
            exact ⟨.number n, rfl⟩

/-- **What is read is in order, and no deeper than allowed.** -/
theorem readValue_shape (fuel d : Nat) (text : List Char) (v : Json) (rest : List Char)
    (h : readValue fuel d text = some (v, rest)) : v.Ordered ∧ v.depth ≤ d := by
  -- the depth is used up from the outside, as the reader recurses
  induction d generalizing text v rest with
  | zero =>
      unfold readValue at h
      split at h
      · cases h
      · cases h
      · exact (readScalar_shape h).imp_right Nat.le_of_eq
  | succ d ih =>
      unfold readValue at h
      split at h
      · obtain ⟨⟨items, left⟩, hread, heq⟩ := Option.map_eq_some_iff.mp h
        cases heq
        have hitems := forall_mem_of_readItems ih hread
        exact ⟨.array fun item hitem => (hitems item hitem).1,
          depth_array_le_iff.mpr fun item hitem => (hitems item hitem).2⟩
      · obtain ⟨⟨pairs, left⟩, hread, heq⟩ := Option.map_eq_some_iff.mp h
        cases heq
        have hpairs := forall_mem_of_readItems (of_readMember ih) hread
        have hmembers := fun member hmember => hpairs member (Members.mem_of_mem_ofList hmember)
        exact ⟨.object (Members.ascending_ofList pairs) fun member h => (hmembers member h).1,
          depth_object_le_iff.mpr fun member h => (hmembers member h).2⟩
      · obtain ⟨hordered, hdepth⟩ := readScalar_shape h
        exact ⟨hordered, by omega⟩

/-- A value that a whole text spells is in order, and not too deep. -/
theorem parseChars?_shape {text : List Char} {v : Json} (h : parseChars? text = some v) :
    v.Ordered ∧ v.depth ≤ greatestDepth := by
  unfold parseChars? complete? at h
  split at h
  · cases h
  · next hread =>
      split at h
      · cases h
        exact readValue_shape _ _ _ _ _ hread
      · cases h

end Json

end ReportRelay
