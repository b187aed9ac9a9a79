import LabStream.EventStream
import LabStream.Part
import LabStream.ScriptedWorld

namespace LabStream

/-- A container that runs and has a name. -/
abbrev Live := { c : Container // c.isRunning ∧ c.identity ≠ "" }

/-- What happens among the containers of a lab, and what their runtime is asked for meanwhile. -/
inductive Moment where
  | began (c : Live)
  | ended (c : Live)
  | asked
  | subscribed (label : String)
  deriving DecidableEq

namespace Moment

def isLife : Moment → Bool
  | began _ | ended _ => true
  | asked | subscribed _ => false

def isAsked : Moment → Bool
  | asked => true
  | began _ | ended _ | subscribed _ => false

/-- The containers that run after a moment. -/
def follow (containers : List Live) : Moment → List Live
  | began c => containers.filter (fun other => other.val.identity ≠ c.val.identity) ++ [c]
  | ended c => containers.filter fun other => other.val.identity ≠ c.val.identity
  | asked | subscribed _ => containers

/-- The containers that run in the end. -/
def running (past : List Moment) : List Live := past.foldl follow []

/-- A message on a container that has a label. -/
def told? (label action : String) (c : Container) : Option RuntimeEvent :=
  if c.labels.contains label then some ⟨"container", action, c.shortId, c.id, c.firstName, c.labels, none⟩
  else none

def event? (label : String) : Moment → Option RuntimeEvent
  | began c => told? label "start" c.val
  | ended c => told? label "die" c.val
  | asked | subscribed _ => none

/-- What a feed tells: all that happens to containers with a label once somebody has subscribed to it. -/
def feed : List Moment → List RuntimeEvent
  | [] => []
  | subscribed label :: later => later.filterMap (event? label)
  | began _ :: later | ended _ :: later | asked :: later => feed later

variable {past more before after : List Moment} {m : Moment} {c : Live} {label : String}

theorem mem_foldl_follow {containers : List Live} (h : c ∈ more.foldl follow containers) :
    c ∈ containers ∨ .began c ∈ more := by
  induction more generalizing containers with
  | nil => exact .inl h
  | cons m more ih =>
    rcases ih h with hmem | hbegan
    · cases m with
      | began other =>
        rcases List.mem_append.mp hmem with hmem | hmem
        · exact .inl (List.mem_filter.mp hmem).1
        · obtain rfl := List.mem_singleton.mp hmem
          exact .inr List.mem_cons_self
      | ended other => exact .inl (List.mem_filter.mp hmem).1
      | asked | subscribed => exact .inl hmem
    · exact .inr (List.mem_cons_of_mem m hbegan)

/-- Who runs in the end ran before, or has begun since. -/
theorem mem_running_append (h : c ∈ running (past ++ more)) : c ∈ running past ∨ .began c ∈ more := by
  rw [running, List.foldl_append] at h
  exact mem_foldl_follow h

theorem feed_skip (h : ∀ m ∈ past, m.isLife ∨ m.isAsked) : feed (past ++ more) = feed more := by
  induction past with
  | nil => rfl
  | cons m past ih =>
    have hrest := ih fun other hother => h other (List.mem_cons_of_mem m hother)
    cases m with
    | began | ended | asked => exact hrest
    | subscribed => simpa [isLife, isAsked] using h _ List.mem_cons_self

theorem isContainer_of_told? {action : String} {container : Container} {e : RuntimeEvent}
    (h : told? label action container = some e) :
    container.labels.contains label ∧ e.isContainer ∧ e.action = action ∧ e.fullId = container.identity := by
  obtain ⟨hlabel, heq⟩ := Option.ite_none_right_eq_some.mp h
  obtain rfl := Option.some.inj heq
  have hkind : lowerAscii "container" = "container" := by decide +kernel
  exact ⟨hlabel, decide_eq_true hkind, rfl, rfl⟩

end Moment

/-- What a runtime knows: what has happened, who ran when it was asked last, and how much of its feed has been
taken. -/
structure Diary where
  past : List Moment
  listed : List Live
  taken : Nat

/-- A world with a diary of the containers in it. -/
structure Lab (ρ : Type) extends Diary where
  rest : ρ

namespace Lab

variable {ρ : Type}

def part : Part (Lab ρ) ρ := ⟨(·.rest), fun rest lab => { lab with rest }⟩

def note (lab : Lab ρ) (m : Moment) : Lab ρ := { lab with past := lab.past ++ [m] }

/-- A runtime that lists who runs when it is asked, and whose feed begins when it is subscribed to. Nobody knows how
long its answers take. -/
def runtime (inner : ContainerRuntime ρ) : ContainerRuntime (Lab ρ) where
  name := inner.name
  askList filter lab :=
    ({ lab with
        past := lab.past ++ [.asked]
        listed := (Moment.running lab.past).filter fun c => ScriptedWorld.shows filter c.val }, .zero)
  answerList _ lab := (lab, .ok (lab.listed.map (·.val)))
  subscribe label lab := (lab.note (.subscribed label), .ok ())
  nextEvent lab := match (Moment.feed lab.past)[lab.taken]? with
    | some e => ({ lab with taken := lab.taken + 1 }, .event e)
    | none => (lab, .pending)
  namespacePath id := part.act (inner.namespacePath id)

end Lab

/-- A setup whose containers are those of a lab. -/
def StreamSetup.inLab {ρ τ : Type} (setup : StreamSetup ρ τ) : StreamSetup (Lab ρ) τ where
  options := setup.options
  runtime := Lab.runtime setup.runtime
  monitor := setup.monitor.within Lab.part
  backend := setup.backend.map (·.within Lab.part)
  services := setup.services
  writer := setup.writer.within Lab.part

end LabStream
