import Mathlib.Data.List.Sort
import Mathlib.Data.String.Basic
import Std.Data.String.ToNat
import LabStream.TcBackend

namespace LabStream

section DirectoryName

end DirectoryName

namespace ProcView

variable (proc : ProcView) (root : String) (hostInode : Option Nat)

/-- The scope of the namespace that a candidate leads to. -/
def scopeOf (inode : Nat) (candidate : String × String) : TrafficScope :=
  ⟨"ns-" ++ toString inode, candidate.2, some (root ++ candidate.1)⟩

/-- Whether a scope is that of the namespace with an inode. -/
def Covers (scope : TrafficScope) (inode : Nat) : Prop :=
  ∃ path, scope.netns = some (root ++ path) ∧ proc.inode path = some inode

/-- The first of some candidates that leads to a namespace. -/
def firstTo (candidates : List (String × String)) (inode : Nat) : Option (String × String) :=
  candidates.find? fun candidate => proc.inode candidate.1 = some inode

variable {proc root hostInode} {candidates : List (String × String)} {candidate : String × String} {inode other : Nat}
  {found : List Nat × List TrafficScope}

theorem inode_of_firstTo (h : proc.firstTo candidates inode = some candidate) :
    proc.inode candidate.1 = some inode := by
  simpa using List.find?_some h

theorem firstTo_append_same (h : proc.inode candidate.1 = some inode) :
    proc.firstTo (candidates ++ [candidate]) inode = (proc.firstTo candidates inode).or (some candidate) := by
  simp [firstTo, h]

theorem firstTo_append_other (h : proc.inode candidate.1 ≠ some inode) :
    proc.firstTo (candidates ++ [candidate]) inode = proc.firstTo candidates inode := by
  simp [firstTo, h]

theorem covers_scopeOf (h : proc.inode candidate.1 = some inode) :
    proc.Covers root (scopeOf root inode candidate) other ↔ inode = other := by
  constructor
  · rintro ⟨path, hpath, hother⟩
    obtain rfl : candidate.1 = path := (String.append_right_inj _).mp (Option.some.inj hpath)
    exact Option.some.inj (h.symm.trans hother)
  · rintro rfl
    exact ⟨candidate.1, rfl, h⟩

/-- The scopes found among some candidates: one for each namespace that is not the host's, with the path and
the label of the first candidate that leads to it. -/
structure Surveyed (proc : ProcView) (root : String) (hostInode : Option Nat)
    (candidates : List (String × String)) (found : List Nat × List TrafficScope)
    (entries : List (Nat × String × String)) : Prop where
  known (inode : Nat) : inode ∈ found.1 ↔ hostInode = some inode ∨ (proc.firstTo candidates inode).isSome
  scopes : found.2 = .host :: entries.map fun entry => scopeOf root entry.1 entry.2
  nodup : (entries.map (·.1)).Nodup
  mem_iff (inode : Nat) (candidate : String × String) :
    (inode, candidate) ∈ entries ↔ hostInode ≠ some inode ∧ proc.firstTo candidates inode = some candidate

namespace Surveyed

variable {entries : List (Nat × String × String)}

variable (proc root hostInode) in
theorem start : Surveyed proc root hostInode [] (hostInode.toList, [TrafficScope.host]) [] where
  known inode := by simp [firstTo, Option.mem_toList]
  scopes := rfl
  nodup := List.nodup_nil
  mem_iff inode candidate := by simp [firstTo]

/-- A candidate that leads to nothing new changes nothing. -/
theorem skip (h : Surveyed proc root hostInode candidates found entries)
    (hold : ∀ inode, proc.inode candidate.1 = some inode → inode ∈ found.1) :
    Surveyed proc root hostInode (candidates ++ [candidate]) found entries := by
  have hsame (inode : Nat) (hhost : hostInode ≠ some inode) :
      proc.firstTo (candidates ++ [candidate]) inode = proc.firstTo candidates inode := by
    by_cases hc : proc.inode candidate.1 = some inode
    · obtain ⟨first, hfirst⟩ := Option.isSome_iff_exists.mp (((h.known inode).mp (hold inode hc)).resolve_left hhost)
      rw [firstTo_append_same hc, hfirst, Option.some_or]
    · exact firstTo_append_other hc
  refine ⟨fun inode => ?_, h.scopes, h.nodup, fun inode first => ?_⟩
  · rw [h.known]
    by_cases hhost : hostInode = some inode
    · simp [hhost]
    · rw [hsame inode hhost]
  · rw [h.mem_iff]
    exact and_congr_right fun hhost => by rw [hsame inode hhost]

/-- A candidate that leads to a namespace not seen before brings in its scope. -/
theorem enter (h : Surveyed proc root hostInode candidates found entries) (hc : proc.inode candidate.1 = some inode)
    (hnew : inode ∉ found.1) :
    Surveyed proc root hostInode (candidates ++ [candidate])
      (inode :: found.1, found.2 ++ [scopeOf root inode candidate]) (entries ++ [(inode, candidate)]) := by
  rw [h.known, not_or] at hnew
  obtain ⟨hhost, hunseen⟩ := hnew
  have hnone : proc.firstTo candidates inode = none := Option.not_isSome_iff_eq_none.mp hunseen
  have hfirst : proc.firstTo (candidates ++ [candidate]) inode = some candidate := by
    rw [firstTo_append_same hc, hnone, Option.none_or]
  have hsame {other : Nat} (hne : other ≠ inode) :
      proc.firstTo (candidates ++ [candidate]) other = proc.firstTo candidates other :=
    firstTo_append_other fun heq => hne (Option.some.inj (heq.symm.trans hc))
  refine ⟨fun other => ?_, ?_, ?_, fun other first => ?_⟩
  · rw [List.mem_cons, h.known]
    by_cases heq : other = inode
    · subst heq
      simp [hfirst]
    · rw [hsame heq]
      simp [heq]
  · rw [h.scopes, List.map_append, List.cons_append, List.map_singleton]
  · have hfresh : inode ∉ entries.map (·.1) := by
      intro hmem
      obtain ⟨⟨_, first⟩, hentry, rfl⟩ := List.mem_map.mp hmem
      have hseen := ((h.mem_iff _ _).mp hentry).2
      rw [hnone] at hseen
      cases hseen
    rw [List.map_append, List.map_singleton, List.nodup_append]
    refine ⟨h.nodup, List.nodup_singleton _, ?_⟩
    rintro a ha b hb rfl
    obtain rfl := List.mem_singleton.mp hb
    exact hfresh ha
  · rw [List.mem_append, List.mem_singleton, h.mem_iff]
    by_cases heq : other = inode
    · subst heq
      simp [hnone, hfirst, hhost, eq_comm]
    · rw [hsame heq]
      simp [heq]

theorem add (h : Surveyed proc root hostInode candidates found entries) (candidate : String × String) :
    ∃ entries, Surveyed proc root hostInode (candidates ++ [candidate]) (proc.addCandidate root found candidate)
      entries := by
  unfold addCandidate
  cases hc : proc.inode candidate.1 with
  | none => exact ⟨entries, h.skip fun inode hsome => absurd hsome (by rw [hc]; nofun)⟩
  | some inode =>
    dsimp only
    split
    next hold =>
      refine ⟨entries, h.skip fun other hsome => ?_⟩
      obtain rfl := Option.some.inj (hc.symm.trans hsome)
      simpa using hold
    next hnew => exact ⟨_, h.enter hc (by simpa using hnew)⟩

theorem foldl (h : Surveyed proc root hostInode candidates found entries) (more : List (String × String)) :
    ∃ entries, Surveyed proc root hostInode (candidates ++ more) (more.foldl (proc.addCandidate root) found)
      entries := by
  induction more generalizing candidates found entries with
  | nil => exact ⟨entries, by simpa using h⟩
  | cons candidate more ih =>
    obtain ⟨_, hadded⟩ := h.add candidate
    simpa using ih hadded

variable {entry : Nat × String × String}

theorem firstTo_of_mem (h : Surveyed proc root hostInode candidates found entries) (he : entry ∈ entries) :
    hostInode ≠ some entry.1 ∧ proc.firstTo candidates entry.1 = some entry.2 :=
  (h.mem_iff entry.1 entry.2).mp he

theorem covers_iff (h : Surveyed proc root hostInode candidates found entries) (he : entry ∈ entries) :
    proc.Covers root (scopeOf root entry.1 entry.2) inode ↔ entry.1 = inode :=
  covers_scopeOf (inode_of_firstTo (h.firstTo_of_mem he).2)

end Surveyed

end ProcView

end LabStream
