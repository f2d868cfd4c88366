/-
# Members of an object

Members that are kept in order are known by the values of their keys (`Ascending.ext`).  Putting
members in order, and leaving some keys out, has a plain effect on these values
(`get?_ofList`, `get?_without`).
-/
import ReportRelay.Proofs.Json.Shape

namespace ReportRelay.Members

variable {members : Members}

/-! ## Values of keys -/

/-- The value of a key is that of the first member, or that of a later one. -/
theorem get?_cons (member : String × Json) (members : Members) (key : String) :
    get? (member :: members) key = if key = member.1 then some member.2 else get? members key := by
  obtain ⟨name, value⟩ := member
  unfold get?
  rw [List.lookup_cons]
  by_cases hkey : key = name
  · rw [if_pos hkey, beq_iff_eq.mpr hkey]
  · rw [if_neg hkey, beq_eq_false_iff_ne.mpr hkey]

/-- A key has a value only among members that name it. -/
theorem mem_of_get? {key : String} {value : Json} (h : get? members key = some value) :
    (key, value) ∈ members := by
  induction members with
  | nil => cases h
  | cons member members ih =>
      rw [get?_cons] at h
      split at h
      · next hkey =>
          cases h
          rw [hkey]
          exact List.mem_cons_self
      · exact List.mem_cons_of_mem _ (ih h)

/-- A key that is not named has no value. -/
theorem get?_eq_none {key : String} (h : ∀ member ∈ members, member.1 ≠ key) :
    get? members key = none := by
  rw [Option.eq_none_iff_forall_ne_some]
  intro value hvalue
  exact h _ (mem_of_get? hvalue) rfl

/-- The value of a key is that of the member that names it, if no other does. -/
theorem get?_of_mem (h : (members.map Prod.fst).Nodup) {key : String} {value : Json}
    (hmem : (key, value) ∈ members) : get? members key = some value := by
  induction members with
  | nil => cases hmem
  | cons member members ih =>
      rw [List.map_cons, List.nodup_cons] at h
      rw [get?_cons]
      rcases List.mem_cons.mp hmem with rfl | hmem
      · exact if_pos rfl
      · have hother : key ≠ member.1 := by
          rintro rfl
          exact h.1 (List.mem_map.mpr ⟨_, hmem, rfl⟩)
        rw [if_neg hother]
        exact ih h.2 hmem

/-- The value of a key is that of the members in front, or of those behind. -/
theorem get?_append (front back : Members) (key : String) :
    get? (front ++ back) key = (get? front key).or (get? back key) := by
  induction front with
  | nil => rfl
  | cons member front ih =>
      rw [List.cons_append, get?_cons, get?_cons, ih]
      split
      · rw [Option.some_or]
      · rfl

/-! ## Members in order -/

/-- Keys that ascend are different. -/
theorem Ascending.nodup (h : Ascending members) : (members.map Prod.fst).Nodup := by
  rw [List.Nodup, List.pairwise_map]
  exact h.imp String.ne_of_lt

/-- A member is one of those in order exactly if it has the value of its key. -/
theorem Ascending.mem_iff (h : Ascending members) {member : String × Json} :
    member ∈ members ↔ get? members member.1 = some member.2 :=
  ⟨fun hmem => get?_of_mem h.nodup hmem, mem_of_get?⟩

/-- **Members in order are known by the values of their keys.** -/
theorem Ascending.ext {others : Members} (h : Ascending members) (hothers : Ascending others)
    (hsame : ∀ key, get? members key = get? others key) : members = others := by
  have hdistinct : ∀ {list : Members}, Ascending list → list.Nodup := fun hlist =>
    List.Pairwise.imp (fun hlt heq => String.ne_of_lt hlt (congrArg Prod.fst heq)) hlist
  have hperm : members.Perm others := by
    rw [List.perm_ext_iff_of_nodup (hdistinct h) (hdistinct hothers)]
    intro member
    rw [h.mem_iff, hothers.mem_iff, hsame]
  refine hperm.eq_of_pairwise (fun a b _ _ hab hba => ?_) h hothers
  exact absurd (String.lt_trans hab hba) (String.lt_irrefl _)

/-- A member that is added gives its key a value, unless the key has one. -/
theorem Ascending.get?_insertNew (h : Ascending members) (member : String × Json) (key : String) :
    get? (Members.insertNew member members) key
      = (get? members key).or (if key = member.1 then some member.2 else none) := by
  induction members with
  | nil => exact get?_cons member [] key
  | cons first rest ih =>
      obtain ⟨hfirst, hrest⟩ := List.pairwise_cons.mp h
      unfold Members.insertNew
      split
      · next hlt =>
          rw [get?_cons member]
          split
          · next hkey =>
              have hnone : get? (first :: rest) key = none := by
                refine get?_eq_none (List.forall_mem_cons.mpr ⟨?_, fun other hother => ?_⟩)
                · exact hkey ▸ (String.ne_of_lt hlt).symm
                · exact hkey ▸ (String.ne_of_lt (String.lt_trans hlt (hfirst other hother))).symm
              rw [hnone, Option.none_or]
          · rw [Option.or_none]
      · split
        · next heq =>
            rw [get?_cons first, heq]
            split
            · rw [Option.some_or]
            · rw [Option.or_none]
        · rw [get?_cons first, get?_cons first]
          split
          · rw [Option.some_or]
          · exact ih hrest

/-- Members that name no key twice give their keys the same values when put in order. -/
theorem get?_ofList (h : (members.map Prod.fst).Nodup) (key : String) :
    get? (ofList members) key = get? members key := by
  induction members with
  | nil => rfl
  | cons member members ih =>
      rw [List.map_cons, List.nodup_cons] at h
      have hinsert : get? (ofList (member :: members)) key = _ :=
        (ascending_ofList members).get?_insertNew member key
      rw [hinsert, ih h.2, get?_cons]
      split
      · next hkey =>
          have hnone : get? members key = none := by
            refine get?_eq_none fun other hother heq => ?_
            exact h.1 (List.mem_map.mpr ⟨other, hother, heq.trans hkey⟩)
          rw [hnone, Option.none_or]
      · rw [Option.or_none]

/-! ## Leaving keys out -/

/-- A key that is left out has no value, and the others keep theirs. -/
theorem get?_without (members : Members) (keys : List String) (key : String) :
    get? (members.without keys) key = if key ∈ keys then none else get? members key := by
  induction members with
  | nil => exact (ite_self _).symm
  | cons member members ih =>
      rw [without, List.filter_cons]
      change get? (if _ then member :: without members keys else without members keys) key = _
      by_cases hmember : member.1 ∈ keys
      · rw [if_neg (by simpa using hmember), ih, get?_cons]
        by_cases hkey : key = member.1
        · rw [hkey, if_pos hmember, if_pos hmember]
        · rw [if_neg hkey]
      · rw [if_pos (by simpa using hmember), get?_cons, ih, get?_cons]
        by_cases hkey : key = member.1
        · rw [if_pos hkey, if_neg (hkey ▸ hmember), if_pos hkey]
        · rw [if_neg hkey, if_neg hkey]

/-- The keys that are left still ascend. -/
theorem Ascending.without (h : Ascending members) (keys : List String) :
    Ascending (members.without keys) := h.filter _

/-- Members with other keys are those that are left when the keys of the ones in front are left
out. -/
theorem without_ofList {front extra : Members} {keys : List String}
    (hnodup : ((front ++ extra).map Prod.fst).Nodup) (hfront : ∀ member ∈ front, member.1 ∈ keys)
    (hextra : Ascending extra) (hothers : ∀ member ∈ extra, member.1 ∉ keys) :
    without (ofList (front ++ extra)) keys = extra := by
  refine Ascending.ext ((ascending_ofList _).without keys) hextra fun key => ?_
  rw [get?_without, get?_ofList hnodup, get?_append]
  by_cases hkey : key ∈ keys
  · have hnone : get? extra key = none := by
      refine get?_eq_none fun member hmember heq => ?_
      subst heq
      exact hothers member hmember hkey
    rw [if_pos hkey, hnone]
  · have hnone : get? front key = none := by
      refine get?_eq_none fun member hmember heq => ?_
      subst heq
      exact hkey (hfront member hmember)
    rw [if_neg hkey, hnone, Option.none_or]

end ReportRelay.Members
