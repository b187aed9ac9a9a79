import LabStream.TrafficScope
import LabStream.Proofs.Attributes
import Mathlib.Data.List.Sort
import Mathlib.Data.String.Basic

namespace LabStream

namespace Link

/-- Whether traffic may be counted on a link: it has a name and is not the loopback interface. -/
def Eligible (link : Link) : Prop := link.snapshot.name ≠ "" ∧ link.snapshot.name ≠ "lo"

/-- Whether a link is on the fabric: a controller holds it, or its name or its kind shows it. -/
def FacesFabric (link : Link) : Prop :=
  (∃ controller ∈ link.controller, controller ≠ 0) ∨
    (∃ start ∈ ["docker0", "br-", "vnet"], start.toList <+: link.snapshot.name.toList) ∨
    link.snapshot.kind ∈ ["veth", "bridge"]

instance : DecidablePred Eligible := fun _ => inferInstanceAs (Decidable (_ ∧ _))

instance : DecidablePred FacesFabric := fun _ => inferInstanceAs (Decidable (_ ∨ _ ∨ _))

theorem isCounted_iff {link : Link} : link.isCounted ↔ link.Eligible := by
  simp [isCounted, Eligible]

theorem isFabric_iff {link : Link} : link.isFabric ↔ link.FacesFabric := by
  unfold isFabric FacesFabric
  cases link.controller <;> simp [String.startsWith_string_iff, or_assoc]

end Link

/-- Of the links that are eligible, those on the fabric are desired, or all if none is on it. The names by index are
those of all of them. -/
structure InterfaceChoice (links : List Link) (desired : List String) (names : LinkNames) : Prop where
  sorted : desired.Pairwise (· ≤ ·)
  fabric : (∃ link ∈ links, link.Eligible ∧ link.FacesFabric) →
    desired.Perm ((links.filter fun link => link.Eligible ∧ link.FacesFabric).map (·.snapshot.name))
  fallback : (¬ ∃ link ∈ links, link.Eligible ∧ link.FacesFabric) →
    desired.Perm ((links.filter fun link => link.Eligible).map (·.snapshot.name))
  named : ∀ (index : Nat) (name : String), names[index]? = some name ↔
    ∃ link ∈ links, link.Eligible ∧ link.snapshot.index = index ∧ link.snapshot.name = name
  indexed : ∀ name ∈ desired, ∃ index : Nat, names[index]? = some name

namespace InterfaceChoice

variable {links others : List Link} {desired : List String} {names : LinkNames}

theorem of_perm (h : InterfaceChoice links desired names) (hperm : links.Perm others) :
    InterfaceChoice others desired names where
  sorted := h.sorted
  fabric hsome :=
    (h.fabric (by simpa only [hperm.mem_iff] using hsome)).trans ((hperm.filter _).map _)
  fallback hnone :=
    (h.fallback (by simpa only [hperm.mem_iff] using hnone)).trans ((hperm.filter _).map _)
  named index name := by
    rw [h.named]
    simp only [hperm.mem_iff]
  indexed := h.indexed

/-- There is one choice for a list of links. -/
theorem unique {desired' : List String} {names' : LinkNames} (h : InterfaceChoice links desired names)
    (h' : InterfaceChoice links desired' names') : desired = desired' ∧ names = names' := by
  constructor
  · refine List.Perm.eq_of_pairwise' h.sorted h'.sorted ?_
    by_cases hsome : ∃ link ∈ links, link.Eligible ∧ link.FacesFabric
    · exact (h.fabric hsome).trans (h'.fabric hsome).symm
    · exact (h.fallback hsome).trans (h'.fallback hsome).symm
  · refine Std.ExtTreeMap.ext_getElem? fun index => Option.ext fun name => ?_
    rw [h.named, h'.named]

end InterfaceChoice

section

variable {links : List Link}

theorem filter_isCounted : links.filter Link.isCounted = links.filter fun link => link.Eligible :=
  List.filter_congr fun _ _ => by simp [← Link.isCounted_iff]

theorem filter_isFabric : (links.filter Link.isCounted).filter Link.isFabric =
    links.filter fun link => link.Eligible ∧ link.FacesFabric := by
  rw [List.filter_filter]
  exact List.filter_congr fun _ _ => by simp [← Link.isCounted_iff, ← Link.isFabric_iff, Bool.and_comm]

theorem desiredInterfaces_perm (links : List Link) : (desiredInterfaces links).Perm
    ((if ∃ link ∈ links, link.Eligible ∧ link.FacesFabric
      then links.filter fun link => link.Eligible ∧ link.FacesFabric
      else links.filter fun link => link.Eligible).map (·.snapshot.name)) := by
  have hempty : ((links.filter Link.isCounted).filter Link.isFabric).isEmpty ↔
      ¬ ∃ link ∈ links, link.Eligible ∧ link.FacesFabric := by
    rw [filter_isFabric]
    simp
  refine (List.mergeSort_perm _ _).trans (.of_eq (congrArg (List.map _) ?_))
  by_cases hsome : ∃ link ∈ links, link.Eligible ∧ link.FacesFabric
  · rw [if_pos hsome, if_neg fun h => hempty.mp h hsome, filter_isFabric]
  · rw [if_neg hsome, if_pos (hempty.mpr hsome), filter_isCounted]

theorem mem_desiredInterfaces {name : String} (h : name ∈ desiredInterfaces links) :
    ∃ link ∈ links, link.Eligible ∧ link.snapshot.name = name := by
  obtain ⟨link, hlink, rfl⟩ := List.mem_map.mp ((desiredInterfaces_perm links).mem_iff.mp h)
  split at hlink
  next =>
    obtain ⟨hmem, hboth⟩ := List.mem_filter.mp hlink
    exact ⟨link, hmem, (of_decide_eq_true hboth).1, rfl⟩
  next =>
    obtain ⟨hmem, heligible⟩ := List.mem_filter.mp hlink
    exact ⟨link, hmem, of_decide_eq_true heligible, rfl⟩

theorem linkNames_eq_some_iff (h : (links.map (·.snapshot.index)).Nodup) {index : Nat} {name : String} :
    (linkNames links)[index]? = some name ↔
      ∃ link ∈ links, link.Eligible ∧ link.snapshot.index = index ∧ link.snapshot.name = name := by
  have hnodup : (((links.filter Link.isCounted).map fun link =>
      (link.snapshot.index, link.snapshot.name)).map Prod.fst).Nodup := by
    rw [List.map_map]
    exact h.sublist (List.filter_sublist.map _)
  have hfold : linkNames links = ((links.filter Link.isCounted).map fun link =>
      (link.snapshot.index, link.snapshot.name)).foldl (fun names p => names.insert p.1 p.2) ∅ := by
    rw [linkNames, List.foldl_map]
  rw [hfold, getElem?_foldl_insert_eq_some_iff hnodup]
  simp [Link.isCounted_iff, and_assoc]

theorem choice_of_distinct (h : (links.map (·.snapshot.index)).Nodup) :
    InterfaceChoice links (desiredInterfaces links) (linkNames links) where
  sorted := List.pairwise_mergeSort' _ _
  fabric hsome := by simpa only [if_pos hsome] using desiredInterfaces_perm links
  fallback hnone := by simpa only [if_neg hnone] using desiredInterfaces_perm links
  named _ _ := linkNames_eq_some_iff h
  indexed name hname := by
    obtain ⟨link, hlink, hcount, hname⟩ := mem_desiredInterfaces hname
    exact ⟨link.snapshot.index, (linkNames_eq_some_iff h).mpr ⟨link, hlink, hcount, rfl, hname⟩⟩

/-- If the indices of the links are distinct, the interfaces are chosen among them as they should be, and in whatever
order the links come the choice is the same. -/
theorem interfaces_chosen (h : (links.map (·.snapshot.index)).Nodup) :
    InterfaceChoice links (desiredInterfaces links) (linkNames links) ∧
      ∀ others, links.Perm others →
        desiredInterfaces others = desiredInterfaces links ∧ linkNames others = linkNames links := by
  have hchoice := choice_of_distinct h
  refine ⟨hchoice, fun others hperm => ?_⟩
  have hothers : (others.map (·.snapshot.index)).Nodup := (hperm.map _).nodup_iff.mp h
  exact (choice_of_distinct hothers).unique (hchoice.of_perm hperm)

/-- The fabric is preferred, by controller, by name and by kind, and an index stays with a name that is not desired. -/
theorem interfaces_chosen_of_bridge :
    let link (index : Nat) (name kind : String) (controller : Option Nat) : Link :=
      ⟨⟨index, name, "", 1500, "", "up", kind⟩, none, controller⟩
    let links := [link 1 "lo" "device" none, link 2 "eth0" "device" none, link 3 "vethab12" "veth" none,
      link 4 "br-1234" "bridge" none, link 5 "tap0" "tuntap" (some 4)]
    (links.map (·.snapshot.index)).Nodup ∧ desiredInterfaces links = ["br-1234", "tap0", "vethab12"] ∧
      (linkNames links)[2]? = some "eth0" ∧ desiredInterfaces links.reverse = ["br-1234", "tap0", "vethab12"] := by
  intro link links
  have hdistinct : (links.map (·.snapshot.index)).Nodup := by decide
  obtain ⟨hchoice, hperm⟩ := interfaces_chosen hdistinct
  have hdesired : desiredInterfaces links = ["br-1234", "tap0", "vethab12"] := by
    refine List.Perm.eq_of_pairwise' hchoice.sorted (by decide) ?_
    exact (hchoice.fabric (by decide)).trans (by decide)
  refine ⟨hdistinct, hdesired, (hchoice.named 2 "eth0").mpr (by decide), ?_⟩
  rw [(hperm _ links.reverse_perm.symm).1, hdesired]

end

end LabStream
