import Mathlib.Tactic.SplitIfs
import LabStream.Proofs.Attributes
import LabStream.Rehearsal

namespace LabStream

variable {σ : Type}

namespace Enrichment

/-- What a container has for a gap. -/
def offer (c : Container) (key : String) : String :=
  if key = "mgmt_ipv4" then c.mgmtIpv4
  else if key = "mgmt_ipv6" then c.mgmtIpv6
  else if key = "ports" then Port.listing c.ports
  else ""

theorem mem_gapNames_of_offer {c : Container} {key : String} (h : offer c key ≠ "") : key ∈ gapNames := by
  unfold offer at h
  split_ifs at h with h₄ h₆ hports
  · simp [gapNames, h₄]
  · simp [gapNames, h₆]
  · simp [gapNames, hports]
  · exact absurd rfl h

theorem isMissing_iff {attrs : Attributes} {key : String} :
    isMissing attrs key ↔ attrs[key]? = none ∨ attrs[key]? = some "" := by
  rw [isMissing, Attributes.valueOf, Std.ExtTreeMap.getD_eq_getD_getElem?, String.isEmpty_iff]
  cases attrs[key]? <;> simp

theorem isMissing_congr {attrs filled : Attributes} {key : String} (h : filled[key]? = attrs[key]?) :
    isMissing filled key = isMissing attrs key := by
  rw [Bool.eq_iff_iff, isMissing_iff, isMissing_iff, h]

theorem getElem?_fillOne (attrs : Attributes) (name value key : String) : (fillOne attrs name value)[key]? =
    if name = key ∧ isMissing attrs name ∧ value ≠ "" then some value else attrs[key]? := by
  unfold fillOne
  split
  next hm => simp [Attributes.getElem?_insertFilled, hm]
  next hm => simp [hm]

/-- Every gap is filled with what the container has for it, and nothing else is touched. -/
theorem getElem?_fillFrom (attrs : Attributes) (c : Container) (key : String) : (fillFrom attrs c)[key]? =
    if isMissing attrs key ∧ offer c key ≠ "" then some (offer c key) else attrs[key]? := by
  have hother {attrs : Attributes} {name other : String} (hne : name ≠ other) (value : String) :
      isMissing (fillOne attrs name value) other = isMissing attrs other :=
    isMissing_congr (by rw [getElem?_fillOne, if_neg fun h => hne h.1])
  have h₄₆ : isMissing (fillOne attrs "mgmt_ipv4" c.mgmtIpv4) "mgmt_ipv6" = isMissing attrs "mgmt_ipv6" :=
    hother (by decide) _
  have hports : isMissing (fillOne (fillOne attrs "mgmt_ipv4" c.mgmtIpv4) "mgmt_ipv6" c.mgmtIpv6) "ports" =
      isMissing attrs "ports" := (hother (by decide) _).trans (hother (by decide) _)
  rw [fillFrom, getElem?_fillOne, getElem?_fillOne, getElem?_fillOne, h₄₆, hports]
  unfold offer
  by_cases hk₄ : key = "mgmt_ipv4"
  · simp [hk₄]
  by_cases hk₆ : key = "mgmt_ipv6"
  · simp [hk₆]
  by_cases hkports : key = "ports"
  · simp [hkports]
  · simp [hk₄, hk₆, hkports, Ne.symm hk₄, Ne.symm hk₆, Ne.symm hkports]

/-- What is filled from a container once is not filled from it again. -/
theorem fillFrom_fillFrom (attrs : Attributes) (c : Container) :
    fillFrom (fillFrom attrs c) c = fillFrom attrs c := by
  refine Std.ExtTreeMap.ext_getElem? fun key => ?_
  rw [getElem?_fillFrom]
  by_cases h : isMissing attrs key ∧ offer c key ≠ ""
  · have hfilled : (fillFrom attrs c)[key]? = some (offer c key) := by rw [getElem?_fillFrom, if_pos h]
    rw [hfilled, ite_self]
  · have hsame : (fillFrom attrs c)[key]? = attrs[key]? := by rw [getElem?_fillFrom, if_neg h]
    rw [isMissing_congr hsame, if_neg h]

/-- Whether an id is a container's own, the front of it or its short one. -/
def Matches (fullId : String) (c : Container) : Prop :=
  c.id = fullId ∨ fullId.toList <+: c.id.toList ∨ c.shortId = fullId

theorem hasId_iff {fullId : String} {c : Container} : hasId fullId c ↔ Matches fullId c := by
  simp [hasId, Matches, String.startsWith_string_iff, or_assoc]

/-- The container that is selected is a listed one. It matches the id if there is one and a listed container does,
and else it has the name if this is not empty and a listed container has it. -/
structure Selects (containers : List Container) (fullId name : String) (c : Container) : Prop where
  listed : c ∈ containers
  byId : fullId ≠ "" → (∃ d ∈ containers, Matches fullId d) → Matches fullId c
  byName : (fullId = "" ∨ ∀ d ∈ containers, ¬ Matches fullId d) → name ≠ "" →
    (∃ d ∈ containers, name ∈ d.names) → name ∈ c.names

section

variable {containers : List Container} {fullId name key : String} {p : Container → Bool} {c : Container}

theorem find_some (h : (if key.isEmpty then none else containers.find? p) = some c) :
    key ≠ "" ∧ c ∈ containers ∧ p c := by
  obtain ⟨hkey, hfind⟩ := Option.ite_none_left_eq_some.mp h
  exact ⟨fun he => hkey (String.isEmpty_iff.mpr he), List.mem_of_find?_eq_some hfind, List.find?_some hfind⟩

theorem find_none (h : (if key.isEmpty then none else containers.find? p) = none) (hkey : key ≠ "") :
    ∀ d ∈ containers, ¬ p d :=
  List.find?_eq_none.mp (ite_eq_left_iff.mp h fun he => hkey (String.isEmpty_iff.mp he))

theorem selects_of_select (h : select containers fullId name = some c) : Selects containers fullId name c := by
  have unmatched (hno : (if fullId.isEmpty then none else containers.find? (hasId fullId)) = none)
      (hne : fullId ≠ "") : ¬ ∃ d ∈ containers, Matches fullId d := by
    rintro ⟨d, hd, hmatch⟩
    exact find_none hno hne d hd (hasId_iff.mpr hmatch)
  rcases Option.or_eq_some_iff.mp h with hfound | ⟨hnone, hhead⟩
  · rcases Option.or_eq_some_iff.mp hfound with hid | ⟨hno, hname⟩
    · obtain ⟨hne, hmem, hhas⟩ := find_some hid
      refine ⟨hmem, fun _ _ => hasId_iff.mp hhas, fun hnone => ?_⟩
      rcases hnone with he | hall
      · exact absurd he hne
      · exact absurd (hasId_iff.mp hhas) (hall c hmem)
    · obtain ⟨-, hmem, hhas⟩ := find_some hname
      exact ⟨hmem, fun hne hmatch => absurd hmatch (unmatched hno hne), fun _ _ _ => by simpa using hhas⟩
  · obtain ⟨hno, hunnamed⟩ := Option.or_eq_none_iff.mp hnone
    refine ⟨List.mem_of_head? hhead, fun hne hmatch => absurd hmatch (unmatched hno hne), ?_⟩
    rintro - hne ⟨d, hd, hdname⟩
    exact absurd (List.contains_iff_mem.mpr hdname) (find_none hunnamed hne d hd)

theorem exists_select (h : containers ≠ []) : ∃ c, select containers fullId name = some c := by
  obtain ⟨c, rest, rfl⟩ := List.exists_cons_of_ne_nil h
  exact Option.isSome_iff_exists.mp (by simp [select])

end

section

variable {attrs : Attributes} {fullId name : String}

theorem filter?_eq_none_iff : filter? attrs fullId name = none ↔
    (∀ key ∈ gapNames, ¬ isMissing attrs key) ∨ fullId = "" ∧ name = "" := by
  unfold filter?
  by_cases hgap : gapNames.any (isMissing attrs)
  · have hsome : ¬ ∀ key ∈ gapNames, ¬ isMissing attrs key := by simpa using hgap
    rw [or_iff_right hsome]
    by_cases hid : fullId = "" <;> by_cases hname : name = "" <;> simp [hgap, hid, hname]
  · have hnone : ∀ key ∈ gapNames, ¬ isMissing attrs key := by simpa using hgap
    exact iff_of_true (by simp [hgap]) (.inl hnone)

theorem filter?_eq_some {filter : ContainerFilter} (h : filter? attrs fullId name = some filter) :
    filter = if fullId = "" then .byName name else .byId fullId := by
  unfold filter? at h
  by_cases hid : fullId = "" <;> simp_all

theorem fill_fill (found : Except RuntimeFault (List Container)) :
    fill (fill attrs fullId name found) fullId name found = fill attrs fullId name found := by
  cases found with
  | error => rfl
  | ok containers =>
    cases hselect : select containers fullId name with
    | none => simp only [fill, hselect]
    | some c =>
      simp only [fill, hselect]
      exact fillFrom_fillFrom attrs c

theorem fill_unlisted : fill attrs fullId name (.ok []) = attrs := by simp [fill, select]

theorem fill_listed (attrs : Attributes) (fullId name : String) {containers : List Container} (h : containers ≠ []) :
    ∃ c, Selects containers fullId name c ∧ fill attrs fullId name (.ok containers) = fillFrom attrs c := by
  obtain ⟨c, hselect⟩ := exists_select h
  exact ⟨c, selects_of_select hselect, by simp only [fill, hselect]⟩

/-- Whatever is found, an attribute stays as it is, or it was missing and a container has a value for it. -/
theorem getElem?_fill_cases (found : Except RuntimeFault (List Container)) (key : String) :
    (fill attrs fullId name found)[key]? = attrs[key]? ∨ isMissing attrs key ∧
      ∃ c, offer c key ≠ "" ∧ (fill attrs fullId name found)[key]? = some (offer c key) := by
  cases found with
  | error => exact .inl rfl
  | ok containers =>
    by_cases hempty : containers = []
    · exact .inl (by rw [hempty, fill_unlisted])
    · obtain ⟨c, -, hfill⟩ := fill_listed attrs fullId name hempty
      rw [hfill, getElem?_fillFrom]
      split
      next h => exact .inr ⟨h.1, c, h.2, rfl⟩
      next => exact .inl rfl

end

end Enrichment

/-- What a runtime answers when it is asked for a listing. -/
def ContainerRuntime.listing (runtime : ContainerRuntime σ) (world : σ) (filter : ContainerFilter) :
    Except RuntimeFault (List Container) :=
  (runtime.answerList filter (runtime.askList filter world).1).2

namespace Rehearsal

open Enrichment

variable (runtime : ContainerRuntime σ) (attrs : Attributes) (fullId name : String) (host : Traced σ)

theorem enrich_calls : (enrich runtime attrs fullId name host).1.calls =
    host.calls ++ ((filter? attrs fullId name).map Call.list).toList := by
  unfold enrich
  cases filter? attrs fullId name with
  | none => exact (List.append_nil _).symm
  | some filter => rfl

theorem enrich_unasked (h : filter? attrs fullId name = none) :
    enrich runtime attrs fullId name host = (host, attrs) := by
  rw [enrich, h]

theorem enrich_asked {filter : ContainerFilter} (h : filter? attrs fullId name = some filter) :
    (enrich runtime attrs fullId name host).2 = fill attrs fullId name (runtime.listing host.world filter) := by
  rw [enrich, h]
  rfl

theorem getElem?_enrich_cases (key : String) : (enrich runtime attrs fullId name host).2[key]? = attrs[key]? ∨
    isMissing attrs key ∧ ∃ c, offer c key ≠ "" ∧
      (enrich runtime attrs fullId name host).2[key]? = some (offer c key) := by
  cases hfilter : filter? attrs fullId name with
  | none => exact .inl (by rw [enrich_unasked _ _ _ _ _ hfilter])
  | some filter =>
    rw [enrich_asked _ _ _ _ _ hfilter]
    exact getElem?_fill_cases _ key

/-- The same answers change nothing more. -/
theorem enrich_again {again : Traced σ}
    (h : ∀ filter, runtime.listing again.world filter = runtime.listing host.world filter) :
    (enrich runtime (enrich runtime attrs fullId name host).2 fullId name again).2 =
      (enrich runtime attrs fullId name host).2 := by
  cases hagain : filter? (enrich runtime attrs fullId name host).2 fullId name with
  | none => rw [enrich_unasked _ _ _ _ _ hagain]
  | some filter =>
    rw [enrich_asked _ _ _ _ _ hagain, h]
    cases hfilter : filter? attrs fullId name with
    | none =>
      rw [enrich_unasked _ _ _ _ _ hfilter] at hagain
      exact absurd hagain (by rw [hfilter]; nofun)
    | some first =>
      obtain rfl : filter = first := (filter?_eq_some hagain).trans (filter?_eq_some hfilter).symm
      rw [enrich_asked _ _ _ _ _ hfilter]
      exact fill_fill _

end Rehearsal

namespace Forwarder

variable {runtime : ContainerRuntime σ} {crew : Crew σ} {e : RuntimeEvent}

theorem enrich_unasked (he : e.isContainer) (h : Enrichment.filter? e.attributes e.fullId e.name = none) :
    enrich runtime crew e = (crew, .sending (e.toEvent e.attributes crew.instant)) := by
  rw [enrich, if_pos he, h]

theorem enrich_asked {filter : ContainerFilter} (he : e.isContainer)
    (h : Enrichment.filter? e.attributes e.fullId e.name = some filter) :
    let asked := crew.host.perform (.list filter) (runtime.askList filter)
    enrich runtime crew e = ({ crew with host := asked.1 }, .asking e filter (crew.now + asked.2.nanos)) := by
  rw [enrich, if_pos he, h]

/-- A forwarder does to an event about a container what the rehearsal does, if it is answered before anything
else happens. -/
theorem enrich_rehearsed (he : e.isContainer) :
    let enriched := Rehearsal.enrich runtime e.attributes e.fullId e.name crew.host
    (enriched.1 = crew.host ∧ enrich runtime crew e = (crew, .sending (e.toEvent enriched.2 crew.instant))) ∨
    ∃ host filter answerAt, enrich runtime crew e = ({ crew with host }, .asking e filter answerAt) ∧
      ∀ now, answerAt ≤ now → step runtime { crew with host, now } (.asking e filter answerAt) =
        some ({ crew with host := enriched.1, now },
          .sending (e.toEvent enriched.2 (.ofNanos (crew.origin + now)))) := by
  intro enriched
  cases hfilter : Enrichment.filter? e.attributes e.fullId e.name with
  | none =>
    have hsame : enriched = (crew.host, e.attributes) := Rehearsal.enrich_unasked _ _ _ _ _ hfilter
    rw [hsame]
    exact .inl ⟨rfl, enrich_unasked he hfilter⟩
  | some filter =>
    refine .inr ⟨_, filter, _, enrich_asked he hfilter, fun now hnow => ?_⟩
    simp only [step, Hub.reaches, hnow, decide_true, Bool.not_true, Bool.false_eq_true, if_false, enriched,
      Rehearsal.enrich, hfilter, Hub.instant]

end Forwarder

/-- Enrichment changes nothing but gaps, and these only to values. It asks for one listing at most, and for none
if there is no gap or no way to name the container. Without an answer or a container nothing changes; otherwise
every gap gets what one listed container has for it, one that matches the id if there is one, else one with the
name. The same answers change nothing more the next time. Events about containers are enriched just so. -/
theorem Enrichment.only_gaps_filled (runtime : ContainerRuntime σ) (attrs : Attributes) (fullId name : String)
    (host : Traced σ) :
    let enriched := Rehearsal.enrich runtime attrs fullId name host
    (∀ key, enriched.2[key]? ≠ attrs[key]? → key ∈ ["mgmt_ipv4", "mgmt_ipv6", "ports"] ∧
      (attrs[key]? = none ∨ attrs[key]? = some "") ∧ ∃ value, value ≠ "" ∧ enriched.2[key]? = some value) ∧
    (∀ key ∈ attrs, key ∈ enriched.2) ∧
    (∃ asked : Option ContainerFilter,
      enriched.1.calls = host.calls ++ (asked.map Call.list).toList ∧
      (asked = none ↔ (∀ key ∈ gapNames, ¬ isMissing attrs key) ∨ fullId = "" ∧ name = "") ∧
      (asked = none → enriched.2 = attrs) ∧
      ∀ filter, asked = some filter → filter = (if fullId = "" then .byName name else .byId fullId) ∧
        (∀ fault, runtime.listing host.world filter = .error fault → enriched.2 = attrs) ∧
        (runtime.listing host.world filter = .ok [] → enriched.2 = attrs) ∧
        ∀ containers, runtime.listing host.world filter = .ok containers → containers ≠ [] →
          ∃ c, Selects containers fullId name c ∧ ∀ key, enriched.2[key]? =
            if isMissing attrs key ∧ offer c key ≠ "" then some (offer c key) else attrs[key]?) ∧
    (∀ again : Traced σ, (∀ filter, runtime.listing again.world filter = runtime.listing host.world filter) →
      (Rehearsal.enrich runtime enriched.2 fullId name again).2 = enriched.2) ∧
    ∀ (crew : Crew σ) (e : RuntimeEvent), e.isContainer → crew.host = host → e.attributes = attrs →
      e.fullId = fullId → e.name = name →
      (enriched.1 = host ∧ Forwarder.enrich runtime crew e =
        (crew, .sending (e.toEvent enriched.2 crew.instant))) ∨
      ∃ asking filter answerAt, Forwarder.enrich runtime crew e =
          ({ crew with host := asking }, .asking e filter answerAt) ∧
        ∀ now, answerAt ≤ now →
          Forwarder.step runtime { crew with host := asking, now } (.asking e filter answerAt) =
            some ({ crew with host := enriched.1, now },
              .sending (e.toEvent enriched.2 (.ofNanos (crew.origin + now)))) := by
  intro enriched
  refine ⟨fun key hchanged => ?_, fun key hkey => ?_, ⟨filter? attrs fullId name, ?_, filter?_eq_none_iff,
    fun hnone => ?_, fun filter hfilter => ⟨filter?_eq_some hfilter, fun fault hfault => ?_, fun hempty => ?_,
    fun containers hfound hne => ?_⟩⟩, fun again => Rehearsal.enrich_again runtime attrs fullId name host,
    fun crew e he hhost hattrs hid hname => ?_⟩
  · rcases Rehearsal.getElem?_enrich_cases runtime attrs fullId name host key with hsame | ⟨hmissing, c, hoffer, hfilled⟩
    · exact absurd hsame hchanged
    · exact ⟨mem_gapNames_of_offer hoffer, isMissing_iff.mp hmissing, _, hoffer, hfilled⟩
  · rw [Std.ExtTreeMap.mem_iff_isSome_getElem?] at hkey ⊢
    rcases Rehearsal.getElem?_enrich_cases runtime attrs fullId name host key with hsame | ⟨-, c, -, hfilled⟩
    · exact hsame ▸ hkey
    · exact hfilled ▸ rfl
  · exact Rehearsal.enrich_calls runtime attrs fullId name host
  · exact congrArg Prod.snd (Rehearsal.enrich_unasked runtime attrs fullId name host hnone)
  · exact (Rehearsal.enrich_asked runtime attrs fullId name host hfilter).trans (by rw [hfault]; rfl)
  · exact (Rehearsal.enrich_asked runtime attrs fullId name host hfilter).trans (by rw [hempty, fill_unlisted])
  · obtain ⟨c, hselects, hfill⟩ := fill_listed attrs fullId name hne
    refine ⟨c, hselects, fun key => ?_⟩
    have hsame : enriched.2 = fillFrom attrs c := by
      rw [← hfill, ← hfound]
      exact Rehearsal.enrich_asked runtime attrs fullId name host hfilter
    rw [hsame, getElem?_fillFrom]
  · subst hhost hattrs hid hname
    exact Forwarder.enrich_rehearsed he

namespace ScriptedWorld

def router (id name ipv4 : String) : Container :=
  { Container.blank with id, names := [name], mgmtIpv4 := ipv4, ports := [⟨"", 0, 22, "tcp"⟩] }

/-- The first container has the name that is asked for, and the second one has the id. -/
def ofRouters : ScriptedWorld :=
  { empty with filters := false, containers := [router "bb22" "r1" "10.0.0.2/24", router "aa11" "r2" "10.0.0.1/24"] }

theorem only_gaps_filled_by_id :
    let attrs := Attributes.ofPairs [("image", "frr"), ("mgmt_ipv4", "")]
    let enriched := Rehearsal.enrich (runtime "") attrs "aa" "r1" (.start ofRouters)
    enriched.1.calls = [.list (.byId "aa")] ∧ enriched.2["mgmt_ipv4"]? = some "10.0.0.1/24" ∧
      (Rehearsal.enrich (runtime "") enriched.2 "aa" "r1" (.start ofRouters)).2 = enriched.2 := by
  intro attrs enriched
  obtain ⟨-, -, ⟨asked, hcalls, hunasked, -, hasked⟩, hagain, -⟩ :=
    Enrichment.only_gaps_filled (runtime "") attrs "aa" "r1" (.start ofRouters)
  have hgap : ¬ ((∀ key ∈ Enrichment.gapNames, ¬ Enrichment.isMissing attrs key) ∨ "aa" = "" ∧ "r1" = "") := by
    decide +kernel
  obtain ⟨filter, rfl⟩ := Option.ne_none_iff_exists'.mp (mt hunasked.mp hgap)
  obtain ⟨hfilter, -, -, hlisted⟩ := hasked filter rfl
  obtain rfl : filter = .byId "aa" := hfilter
  obtain ⟨c, hc, hfilled⟩ := hlisted ofRouters.containers rfl (by decide)
  have hmatch : Enrichment.hasId "aa" c :=
    Enrichment.hasId_iff.mpr (hc.byId (by decide) ⟨_, List.mem_cons_of_mem _ List.mem_cons_self,
      Enrichment.hasId_iff.mp (by decide +kernel)⟩)
  have hsecond : ∀ d ∈ ofRouters.containers, Enrichment.hasId "aa" d → d.mgmtIpv4 = "10.0.0.1/24" := by
    decide +kernel
  refine ⟨hcalls, (hfilled "mgmt_ipv4").trans ?_, hagain (.start ofRouters) fun _ => rfl⟩
  have hvalue : Enrichment.offer c "mgmt_ipv4" = "10.0.0.1/24" := hsecond c hc.listed hmatch
  rw [hvalue]
  decide +kernel

end ScriptedWorld

end LabStream
