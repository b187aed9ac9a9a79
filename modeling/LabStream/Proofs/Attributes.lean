import LabStream.Event

namespace LabStream

namespace Attributes

theorem valueOf_insert (attrs : Attributes) (name value other : String) :
    valueOf (attrs.insert name value) other = if name = other then value else attrs.valueOf other := by
  simp [valueOf, Std.ExtTreeMap.getD_insert]

/-- An empty value is not inserted, and reads as it did before. -/
theorem valueOf_insertFilled (attrs : Attributes) (name value other : String) :
    valueOf (attrs.insertFilled name value) other =
      if name = other ∧ value ≠ "" then value else attrs.valueOf other := by
  unfold insertFilled
  split
  next hv => simp [String.isEmpty_iff.mp hv]
  next hv =>
    have hne : value ≠ "" := fun he => hv (String.isEmpty_iff.mpr he)
    simp [valueOf_insert, hne]

@[simp] theorem valueOf_empty (name : String) : valueOf ∅ name = "" := Std.ExtTreeMap.getD_empty

end Attributes

section

variable {κ α : Type} [Ord κ] [Std.TransOrd κ] [Std.LawfulEqOrd κ] [DecidableEq κ]

/-- A map that is made from a list of entries with keys of their own has those entries. -/
theorem getElem?_foldl_insert_eq_some_iff {entries : List (κ × α)} (h : (entries.map Prod.fst).Nodup) {key : κ}
    {value : α} : (entries.foldl (fun (m : Std.ExtTreeMap κ α) p => m.insert p.1 p.2) ∅)[key]? = some value ↔
      (key, value) ∈ entries := by
  rw [← Std.ExtTreeMap.insertMany_list_eq_foldl]
  have hget {value : α} (hmem : (key, value) ∈ entries) :
      ((∅ : Std.ExtTreeMap κ α).insertMany entries)[key]? = some value :=
    Std.ExtTreeMap.getElem?_insertMany_list_of_mem (Std.LawfulEqCmp.compare_eq_iff_eq.mpr rfl)
      ((List.pairwise_map.mp h).imp fun hne => by simpa using hne) hmem
  refine ⟨fun hsome => ?_, hget⟩
  by_cases hkey : key ∈ entries.map Prod.fst
  · obtain ⟨⟨_, other⟩, hmem, rfl⟩ := List.mem_map.mp hkey
    obtain rfl := Option.some.inj ((hget hmem).symm.trans hsome)
    exact hmem
  · rw [Std.ExtTreeMap.getElem?_insertMany_list_of_contains_eq_false (by simpa using hkey)] at hsome
    cases Std.ExtTreeMap.getElem?_empty.symm.trans hsome

/-- A map is made again from the list of its entries. -/
theorem foldl_insert_toList (m : Std.ExtTreeMap κ α) : m.toList.foldl (fun m p => m.insert p.1 p.2) ∅ = m := by
  have hkeys : (m.toList.map Prod.fst).Nodup :=
    List.pairwise_map.mpr (m.distinct_keys_toList.imp fun hne => by simpa using hne)
  refine Std.ExtTreeMap.ext_getElem? fun key => Option.ext fun value => ?_
  rw [getElem?_foldl_insert_eq_some_iff hkeys, Std.ExtTreeMap.mem_toList_iff_getElem?_eq_some]

end

namespace Attributes

/-- Names come in the order of their code points. -/
theorem toList_ordered (attrs : Attributes) :
    attrs.toList.Pairwise fun a b => a.1.toList < b.1.toList := by
  refine attrs.ordered_keys_toList.imp fun {a b} h => ?_
  have hlt : a.1 < b.1 := compareOfLessAndEq_eq_lt.mp h
  exact String.lt_iff.mp hlt

theorem getElem?_insertFilled (attrs : Attributes) (name value other : String) :
    (attrs.insertFilled name value)[other]? =
      if name = other ∧ value ≠ "" then some value else attrs[other]? := by
  unfold insertFilled
  split
  next hv => simp [String.isEmpty_iff.mp hv]
  next hv =>
    have hne : value ≠ "" := fun he => hv (String.isEmpty_iff.mpr he)
    simp [Std.ExtTreeMap.getElem?_insert, hne]

end Attributes

namespace Event

theorem getElem?_shownAttributes (e : Event) (name : String) : e.shownAttributes[name]? =
    if name = "id" ∧ e.actorFullId ≠ "" then some e.actorFullId
    else if name = "name" ∧ e.actorName ≠ "" then some e.actorName
    else e.attributes[name]?.filter (· ≠ "") := by
  have hfilled : (e.attributes.filter fun _ (value : String) => !value.isEmpty)[name]? =
      e.attributes[name]?.filter (· ≠ "") := by
    rw [Std.ExtTreeMap.getElem?_filter']
    refine congrArg (Option.filter · e.attributes[name]?) (funext fun value => ?_)
    by_cases hv : value = "" <;> simp [hv, String.isEmpty_iff]
  simp only [shownAttributes, Attributes.getElem?_insertFilled, hfilled, eq_comm]

/-- What is shown: the actor's full id and name under theirs, all other attributes with a value. -/
theorem mem_shownAttributes_iff (e : Event) (name value : String) :
    (name, value) ∈ e.shownAttributes.toList ↔ value ≠ "" ∧
      if name = "id" ∧ e.actorFullId ≠ "" then value = e.actorFullId
      else if name = "name" ∧ e.actorName ≠ "" then value = e.actorName
      else e.attributes[name]? = some value := by
  rw [Std.ExtTreeMap.mem_toList_iff_getElem?_eq_some, getElem?_shownAttributes]
  split
  next h =>
    constructor
    · rintro ⟨⟩
      exact ⟨h.2, rfl⟩
    · rintro ⟨-, rfl⟩
      rfl
  next =>
    split
    next h =>
      constructor
      · rintro ⟨⟩
        exact ⟨h.2, rfl⟩
      · rintro ⟨-, rfl⟩
        rfl
    next => rw [Option.filter_eq_some_iff, and_comm, decide_eq_true_iff]

end Event

end LabStream
