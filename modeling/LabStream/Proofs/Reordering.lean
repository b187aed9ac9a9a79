import LabStream.Proofs.StreamView

namespace LabStream

variable {σ τ : Type}

/-- The container that an order is about. -/
def Crew.Order.key : Crew.Order → String
  | begin c => c.identity
  | stop key => key

namespace Charges

variable {charges : Charges} {hidden : String → Bool} {labLabel : String} {e : RuntimeEvent} {key : String}

theorem enter_update {c : Container} (h : c.identity ≠ key) (w : Option Watcher) :
    enter hidden (Function.update charges key w) c = Function.update (charges.enter hidden c) key w := by
  rw [enter, enter, Function.update_of_ne h]
  split
  · rfl
  · exact Function.update_comm h.symm _ _ _

/-- An event changes nothing about other containers than its own. -/
theorem obey_update (h : (Crew.orderOf labLabel e).map Crew.Order.key ≠ some key) (w : Option Watcher) :
    obey hidden labLabel (Function.update charges key w) e =
      Function.update (charges.obey hidden labLabel e) key w := by
  rw [obey, obey]
  generalize Crew.orderOf labLabel e = order at h ⊢
  rcases order with _ | c | other
  · rfl
  · exact enter_update (fun heq => h (congrArg some heq)) w
  · exact Function.update_comm (fun heq => h (congrArg some heq.symm)) _ _ _

end Charges

namespace StreamSight

/-- The task that sees it, if it is one of those that work side by side. -/
def source? : StreamSight τ → Option Source
  | announcer => some .announcer
  | watcher key _ => some (.watcher key)
  | forwarder _ => some .forwarder
  | sampler _ => some .sampler
  | cancelled | joiner | main _ => none

/-- The container whose watcher begins or ends by an event off the feed. -/
def ordered? (labLabel : String) : StreamSight τ → Option String
  | forwarder (.feed (.event e)) => (Crew.orderOf labLabel e).map Crew.Order.key
  | _ => none

/-- Two sights that have nothing to do with each other: different tasks see them side by side, and neither is an
event by which the watcher that sees the other one begins or ends. -/
structure Apart (labLabel : String) (a b : StreamSight τ) : Prop where
  left : a.source?.isSome
  right : b.source?.isSome
  ne : a.source? ≠ b.source?
  left_order {key : String} : b.source? = some (.watcher key) → a.ordered? labLabel ≠ some key
  right_order {key : String} : a.source? = some (.watcher key) → b.ordered? labLabel ≠ some key

theorem Apart.symm {labLabel : String} {a b : StreamSight τ} (h : a.Apart labLabel b) : b.Apart labLabel a :=
  ⟨h.right, h.left, h.ne.symm, h.right_order, h.left_order⟩

end StreamSight

/-- The same sights in another order, but for those that have to do with each other. -/
inductive Reordered (labLabel : String) : List (StreamSight τ) → List (StreamSight τ) → Prop where
  | refl (seen : List (StreamSight τ)) : Reordered labLabel seen seen
  | cons {seen seen' : List (StreamSight τ)} (sight : StreamSight τ) : Reordered labLabel seen seen' →
    Reordered labLabel (sight :: seen) (sight :: seen')
  | swap {a b : StreamSight τ} (seen : List (StreamSight τ)) : a.Apart labLabel b →
    Reordered labLabel (a :: b :: seen) (b :: a :: seen)
  | trans {seen seen' seen'' : List (StreamSight τ)} : Reordered labLabel seen seen' →
    Reordered labLabel seen' seen'' → Reordered labLabel seen seen''

namespace Reordered

variable {labLabel : String} {seen seen' : List (StreamSight τ)}

theorem append_left (h : Reordered labLabel seen seen') (before : List (StreamSight τ)) :
    Reordered labLabel (before ++ seen) (before ++ seen') := by
  induction before with
  | nil => exact h
  | cons sight _ ih => exact ih.cons sight

/-- A sight that has to do with none of the others can as well come after them. -/
theorem cons_append {sight : StreamSight τ} (h : ∀ other ∈ seen, sight.Apart labLabel other) :
    Reordered labLabel (sight :: seen) (seen ++ [sight]) := by
  induction seen with
  | nil => exact .refl _
  | cons other seen ih =>
    obtain ⟨hother, hrest⟩ := List.forall_mem_cons.mp h
    exact (swap seen hother).trans ((ih hrest).cons other)

end Reordered

/-- The records of one source among others. -/
def ownRecords (source : Source) (records : List (Source × Event)) : List Event :=
  records.filterMap fun record => if record.1 = source then some record.2 else none

theorem ownRecords_append (source : Source) (records more : List (Source × Event)) :
    ownRecords source (records ++ more) = ownRecords source records ++ ownRecords source more := List.filterMap_append

namespace StreamView

variable {setup : StreamSetup σ τ} {hidden : String → Bool} {v : StreamView τ} {a b : StreamSight τ}

theorem after_watcher (v : StreamView τ) (key : String) (sight : WatchSight) :
    v.after setup hidden (.watcher key sight) = { v with
      charges := Function.update v.charges key ((v.charges key).bind fun w =>
        if w.isLeaving then none else some (w.after setup.watchOptions sight)) } := by
  rw [after]
  cases hw : v.charges key with
  | none =>
    have hsame : Function.update v.charges key none = v.charges := by rw [← hw, Function.update_eq_self]
    exact StreamView.ext rfl rfl rfl rfl rfl rfl hsame.symm
  | some w => rfl

theorem after_forwarder_update {key : String} {sight : ForwarderSight}
    (h : (.forwarder sight : StreamSight τ).ordered? setup.options.labLabel ≠ some key) (w : Option Watcher) :
    ({ v with charges := Function.update v.charges key w }).after setup hidden (.forwarder sight) =
      { v.after setup hidden (.forwarder sight) with
        charges := Function.update (v.after setup hidden (.forwarder sight)).charges key w } := by
  refine StreamView.ext rfl rfl rfl rfl rfl rfl ?_
  simp only [after]
  rcases v.forwarder with _ | _ | _ | _ | _ | _ <;> try rfl
  rcases sight with _ | (_ | _ | _ | e) | _ <;> try rfl
  dsimp only
  split
  · rfl
  · exact Charges.obey_update h w

/-- A turn of the forwarder changes nothing about other containers than that of the event that it takes. -/
theorem after_forwarder_charges {key : String} {sight : ForwarderSight}
    (h : (.forwarder sight : StreamSight τ).ordered? setup.options.labLabel ≠ some key) :
    (v.after setup hidden (.forwarder sight)).charges key = v.charges key := by
  have hsame : ({ v with charges := Function.update v.charges key (v.charges key) }).after setup hidden
      (.forwarder sight) = _ := after_forwarder_update h _
  rw [Function.update_eq_self] at hsame
  exact (congrArg (StreamView.charges · key) hsame).trans (Function.update_self _ _ _)

theorem after_watcher_comm {key : String} {sight : WatchSight}
    (h : (StreamSight.watcher key sight).Apart setup.options.labLabel b) :
    (v.after setup hidden (.watcher key sight)).after setup hidden b =
      (v.after setup hidden b).after setup hidden (.watcher key sight) := by
  cases b with
  | cancelled | joiner | main => cases h.right
  | announcer | sampler =>
    rw [after_watcher, after_watcher]
    rfl
  | watcher other _ =>
    have hne : key ≠ other := fun heq => h.ne (by rw [heq]; rfl)
    simp only [after_watcher, Function.update_of_ne hne, Function.update_of_ne hne.symm, Function.update_comm hne]
  | forwarder sight =>
    have horder := h.right_order rfl
    rw [after_watcher, after_watcher, after_forwarder_update horder, after_forwarder_charges horder]

theorem after_comm (h : a.Apart setup.options.labLabel b) :
    (v.after setup hidden a).after setup hidden b = (v.after setup hidden b).after setup hidden a := by
  cases a with
  | cancelled | joiner | main => cases h.left
  | watcher => exact after_watcher_comm h
  | announcer | forwarder | sampler =>
    cases b with
    | cancelled | joiner | main => cases h.right
    | watcher => exact (after_watcher_comm h.symm).symm
    | announcer | forwarder | sampler => first | rfl | exact absurd rfl h.ne

theorem record_after (h : a.Apart setup.options.labLabel b) : (v.after setup hidden a).record b = v.record b := by
  cases a with
  | cancelled | joiner | main => cases h.left
  | watcher key =>
    rw [after_watcher]
    cases b with
    | cancelled | joiner | main => cases h.right
    | watcher other =>
      have hne : other ≠ key := fun heq => h.ne (by rw [heq]; rfl)
      simp only [record, Function.update_of_ne hne]
    | announcer | forwarder | sampler => rfl
  | forwarder sight =>
    cases b with
    | cancelled | joiner | main => cases h.right
    | watcher key => rw [record, record, after_forwarder_charges (h.left_order rfl)]
    | announcer | sampler => rfl
    | forwarder => exact absurd rfl h.ne
  | announcer | sampler =>
    cases b with
    | cancelled | joiner | main => cases h.right
    | watcher | announcer | forwarder | sampler => first | rfl | exact absurd rfl h.ne

theorem record_source {record : Source × Event} (h : record ∈ v.record a) : a.source? = some record.1 := by
  cases a with
  | watcher key =>
    obtain ⟨w, -, hmem⟩ := List.mem_flatMap.mp h
    obtain ⟨event, -, rfl⟩ := List.mem_map.mp hmem
    rfl
  | cancelled | joiner | main => cases h
  | announcer | forwarder | sampler =>
    rw [StreamView.record] at h
    split at h
    · cases h
    · obtain ⟨event, -, rfl⟩ := List.mem_map.mp h
      rfl

theorem ownRecords_record {source : Source} (h : a.source? ≠ some source) : ownRecords source (v.record a) = [] := by
  refine List.filterMap_eq_nil_iff.mpr fun record hmem => if_neg fun heq => h ?_
  rw [record_source hmem, heq]

/-- Streams that cannot be told from each other, with the same records of every single source. -/
structure Alike (x y : StreamView τ × List (Source × Event)) : Prop where
  view : x.1 = y.1
  records : ∀ source, ownRecords source x.2 = ownRecords source y.2

namespace Alike

variable {x y z : StreamView τ × List (Source × Event)} {seen seen' : List (StreamSight τ)}

theorem advance (h : Alike x y) (sight : StreamSight τ) :
    Alike (StreamView.advance setup hidden x sight) (StreamView.advance setup hidden y sight) := by
  refine ⟨congrArg (·.after setup hidden sight) h.view, fun source => ?_⟩
  rw [StreamView.advance, StreamView.advance, ownRecords_append, ownRecords_append, h.records, h.view]

theorem foldl (h : Alike x y) (seen : List (StreamSight τ)) :
    Alike (seen.foldl (StreamView.advance setup hidden) x) (seen.foldl (StreamView.advance setup hidden) y) := by
  induction seen generalizing x y with
  | nil => exact h
  | cons sight seen ih => exact ih (h.advance sight)

theorem swap (h : a.Apart setup.options.labLabel b) (x : StreamView τ × List (Source × Event)) :
    Alike (StreamView.advance setup hidden (StreamView.advance setup hidden x a) b)
      (StreamView.advance setup hidden (StreamView.advance setup hidden x b) a) := by
  refine ⟨after_comm h, fun source => ?_⟩
  simp only [StreamView.advance, ownRecords_append, List.append_assoc, record_after h, record_after h.symm]
  by_cases ha : a.source? = some source
  · have hb : b.source? ≠ some source := fun hb => h.ne (ha.trans hb.symm)
    rw [ownRecords_record hb, List.append_nil, List.nil_append]
  · rw [ownRecords_record ha, List.append_nil, List.nil_append]

theorem trans (h : Alike x y) (h' : Alike y z) : Alike x z :=
  ⟨h.view.trans h'.view, fun source => (h.records source).trans (h'.records source)⟩

/-- The order of sights that have nothing to do with each other makes no difference. -/
theorem reordered (h : Reordered setup.options.labLabel seen seen') :
    Alike x y → Alike (seen.foldl (StreamView.advance setup hidden) x) (seen'.foldl (StreamView.advance setup hidden) y) := by
  induction h generalizing x y with
  | refl seen => exact fun hxy => hxy.foldl seen
  | cons sight _ ih => exact fun hxy => ih (hxy.advance sight)
  | swap seen hapart => exact fun hxy => (((hxy.advance _).advance _).trans (swap hapart y)).foldl seen
  | trans _ _ ih ih' => exact fun hxy => (ih hxy).trans (ih' ⟨rfl, fun _ => rfl⟩)

end Alike

end StreamView

end LabStream
