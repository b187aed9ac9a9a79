import Mathlib.Data.List.Pairwise
import LabStream.LinkMessage
import LabStream.Proofs.Lists

namespace LabStream

/-- The kinds of attributes that say something of a link. -/
inductive AttributeKind where
  | name
  | altName
  | mtu
  | address
  | operState
  | controller
  | info
  | stats64
  | stats32
  deriving DecidableEq

namespace LinkAttribute

def kind? : LinkAttribute → Option AttributeKind
  | name _ => some .name
  | altName _ => some .altName
  | mtu _ => some .mtu
  | address _ => some .address
  | operState _ => some .operState
  | controller _ => some .controller
  | info _ => some .info
  | stats64 _ => some .stats64
  | stats32 _ => some .stats32
  | other => none

def wide? : LinkAttribute → Option LinkCounters
  | stats64 counters => some counters
  | _ => none

def narrow? : LinkAttribute → Option LinkCounters
  | stats32 counters => some counters
  | _ => none

theorem wide?_eq_some_iff {a : LinkAttribute} {c : LinkCounters} : a.wide? = some c ↔ a = .stats64 c := by
  cases a <;> simp [wide?]

end LinkAttribute

namespace LinkMessage

open LinkAttribute

variable {attributes : List LinkAttribute}

/-- At most one attribute of each kind. -/
def OneOfEach (attributes : List LinkAttribute) : Prop := (attributes.filterMap kind?).Nodup

instance : DecidablePred OneOfEach := fun attributes => inferInstanceAs (Decidable (attributes.filterMap kind?).Nodup)

theorem learn_info (link : Link) (kinds : List LinkKind) : learn link (.info kinds) =
    { link with snapshot.kind := (kinds.getLast?.map LinkKind.word).getD link.snapshot.kind } := by
  simp only [learn]
  cases kinds.getLast? <;> rfl

/-- Attributes of two kinds are read into fields of their own. The two sorts of counters share one, but those of 32
bits leave it alone when they come last. -/
theorem learn_comm {a b : LinkAttribute} (h : a.kind? = b.kind? → a.kind? = none) (link : Link) :
    learn (learn link a) b = learn (learn link b) a := by
  cases a <;> cases b
  case name.name | altName.altName | mtu.mtu | address.address | operState.operState | controller.controller |
      info.info | stats64.stats64 | stats32.stats32 =>
    exact absurd (h rfl) nofun
  -- The kind that link info gives is not read off by computation.
  case info.name | info.altName | info.mtu | info.address | info.operState | info.controller | info.stats64 |
      info.stats32 | info.other | name.info | altName.info | mtu.info | address.info | operState.info |
      controller.info | stats64.info | stats32.info | other.info =>
    simp only [learn_info]
    rfl
  all_goals rfl

theorem learn_of_kind?_eq_none {a : LinkAttribute} (h : a.kind? = none) (link : Link) : learn link a = link := by
  cases a with
  | other => rfl
  | _ => cases h

theorem OneOfEach.comm (h : OneOfEach attributes) {a b : LinkAttribute} (ha : a ∈ attributes) (hb : b ∈ attributes)
    (link : Link) : learn (learn link a) b = learn (learn link b) a := by
  have hsymm : Std.Symm fun a b => ∀ link, learn (learn link a) b = learn (learn link b) a :=
    ⟨fun _ _ hab link => (hab link).symm⟩
  have hpairs : attributes.Pairwise fun a b => ∀ link, learn (learn link a) b = learn (learn link b) a := by
    refine (List.pairwise_filterMap.mp h).imp fun hne => learn_comm fun hsame => ?_
    exact Option.eq_none_iff_forall_ne_some.mpr fun k hk => hne k hk k (hsame ▸ hk) rfl
  exact hpairs.forall_of_forall (fun _ _ _ => rfl) ha hb link

theorem link_perm {others : List LinkAttribute} (h : OneOfEach attributes) (hperm : attributes.Perm others)
    (index : Nat) : link ⟨index, others⟩ = link ⟨index, attributes⟩ :=
  (hperm.foldl_eq' (fun _ ha _ hb link => h.comm ha hb link) _).symm

theorem link_filter (index : Nat) (attributes : List LinkAttribute) :
    link ⟨index, attributes.filter (·.kind?.isSome)⟩ = link ⟨index, attributes⟩ := by
  have hfold (start : Link) :
      (attributes.filter (·.kind?.isSome)).foldl learn start = attributes.foldl learn start := by
    induction attributes generalizing start with
    | nil => rfl
    | cons a attributes ih =>
      cases hkind : a.kind? with
      | none => simp [hkind, learn_of_kind?_eq_none hkind, ih]
      | some k => simp [hkind, ih]
  exact hfold _

/-- Counters of 64 bits replace all before them, those of 32 bits count only while there are none. -/
theorem counters_foldl_learn (start : Link) : (attributes.foldl learn start).counters =
    (attributes.filterMap wide?).getLast?.or (start.counters.or (attributes.filterMap narrow?).head?) := by
  induction attributes generalizing start with
  | nil => simp
  | cons a attributes ih =>
    rw [List.foldl_cons, ih]
    cases a with
    | stats64 c =>
      have hwide : (LinkAttribute.stats64 c :: attributes).filterMap wide? = c :: attributes.filterMap wide? := rfl
      rw [hwide, List.getLast?_cons]
      cases (attributes.filterMap wide?).getLast? <;> rfl
    | stats32 c => cases hstart : start.counters <;> simp [learn, wide?, narrow?, hstart]
    | info kinds => rw [learn_info]; rfl
    | _ => rfl

theorem exists_last_wide {c : LinkCounters} (h : .stats64 c ∈ attributes) :
    ∃ before last after, attributes = before ++ .stats64 last :: after ∧ ∀ d, .stats64 d ∉ after := by
  rcases last_of_kind (fun a => (wide? a).isSome) attributes with hnone | ⟨before, a, after, rfl, ha, hafter⟩
  · exact absurd rfl (hnone _ h)
  · obtain ⟨last, hlast⟩ := Option.isSome_iff_exists.mp ha
    obtain rfl := wide?_eq_some_iff.mp hlast
    exact ⟨before, last, after, rfl, fun d hd => hafter _ hd rfl⟩

theorem counters_link_of_last {index : Nat} {before after : List LinkAttribute} {c : LinkCounters}
    (h : ∀ d, .stats64 d ∉ after) : (link ⟨index, before ++ .stats64 c :: after⟩).counters = some c := by
  have hafter : after.filterMap wide? = [] :=
    List.filterMap_eq_nil_iff.mpr fun a ha => Option.eq_none_iff_forall_ne_some.mpr fun d hd =>
      h d (wide?_eq_some_iff.mp hd ▸ ha)
  have hlast : (before ++ .stats64 c :: after).filterMap wide? = before.filterMap wide? ++ [c] := by
    simp [wide?, hafter]
  rw [link, counters_foldl_learn, hlast, List.getLast?_concat, Option.some_or]

/-- If a message has at most one attribute of each kind, their order makes no difference to what is read. Attributes
of no known kind make none in any message. The counters are the last ones of 64 bits wherever there are any. -/
theorem attributes_in_any_order (index : Nat) (attributes : List LinkAttribute) :
    (OneOfEach attributes → ∀ others, attributes.Perm others → link ⟨index, others⟩ = link ⟨index, attributes⟩) ∧
    link ⟨index, attributes.filter (·.kind?.isSome)⟩ = link ⟨index, attributes⟩ ∧
    ∀ c, .stats64 c ∈ attributes → ∃ before last after, attributes = before ++ .stats64 last :: after ∧
      (∀ d, .stats64 d ∉ after) ∧ (link ⟨index, attributes⟩).counters = some last := by
  refine ⟨fun h others hperm => link_perm h hperm index, link_filter index attributes, fun c hc => ?_⟩
  obtain ⟨before, last, after, rfl, hafter⟩ := exists_last_wide hc
  exact ⟨before, last, after, rfl, hafter, counters_link_of_last hafter⟩

/-- Counters of 32 bits before and after those of 64 bits. -/
theorem attributes_in_any_order_of_both_sorts :
    let narrow : LinkAttribute := .stats32 ⟨1, 2, 3, 4⟩
    let wide : LinkAttribute := .stats64 ⟨4294967297, 4294967298, 3, 4⟩
    link ⟨7, [.other, wide, .name "eth1", narrow]⟩ = link ⟨7, [narrow, .name "eth1", wide, .other]⟩ ∧
      (link ⟨7, [narrow, .name "eth1", wide, .other]⟩).counters = some ⟨4294967297, 4294967298, 3, 4⟩ := by
  intro narrow wide
  obtain ⟨hperm, -, hwide⟩ := attributes_in_any_order 7 [narrow, .name "eth1", wide, .other]
  obtain ⟨before, last, after, hlist, -, hcounters⟩ := hwide ⟨4294967297, 4294967298, 3, 4⟩ (by decide)
  have hmem : LinkAttribute.stats64 last ∈ [narrow, .name "eth1", wide, .other] := by simp [hlist]
  have hsame : last = ⟨4294967297, 4294967298, 3, 4⟩ := by simpa [narrow, wide] using hmem
  exact ⟨hperm (by decide) _ (by decide), hsame ▸ hcounters⟩

end LinkMessage

end LabStream
