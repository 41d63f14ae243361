/-
# The word of the listeners

The listeners hear of connections one after another: a connection is ready, its
readings follow, and it is lost.  `Spoken` says that a sequence of notices is the
beginning of such a report, step by step; `Spoken.cycles` reads the whole report
off, and the counts of its notices follow from that.
-/

import SensorLink.Proofs.Loop.Steering

namespace SensorLink.Link

open Sensor (Kind)

/-- A reading that is taken in. -/
abbrev Taken := Kind × Float

/-- What the listeners are told of a reading. -/
def Taken.notice (r : Taken) : Notice :=
  .reading r.1 r.2

namespace Notice

/-- Whether the listeners are told that a connection is ready. -/
def isReady : Notice → Bool
  | ready => true
  | _ => false

/-- Whether the listeners are told that a connection is lost. -/
def isLost : Notice → Bool
  | lost => true
  | _ => false

/-- What is told of a connection while it lasts. -/
def opening (readings : List Taken) : List Notice :=
  .ready :: readings.map Taken.notice

/-- What is told of a connection from its beginning to its end. -/
def cycle (readings : List Taken) : List Notice :=
  opening readings ++ [.lost]

end Notice

/-- A sequence of notices reports connections one after another; the flag says whether the
report of the last one is still open. -/
inductive Spoken : Bool → List Notice → Prop where
  | silence : Spoken false []
  | ready {word : List Notice} : Spoken false word → Spoken true (word ++ [.ready])
  | reading {word : List Notice} (r : Taken) : Spoken true word → Spoken true (word ++ [r.notice])
  | lost {word : List Notice} : Spoken true word → Spoken false (word ++ [.lost])

namespace Spoken

variable {isOpen : Bool} {word : List Notice}

/-- Readings continue an open report. -/
theorem readings (spoken : Spoken true word) (rs : List Taken) :
    Spoken true (word ++ rs.map Taken.notice) := by
  induction rs generalizing word with
  | nil => simpa using spoken
  | cons r rest ih =>
    have continued := ih (spoken.reading r)
    rwa [List.append_assoc] at continued

/-- A report consists of the reports of the connections that were lost, and of the beginning of
one more report while a connection lasts. -/
theorem cycles (spoken : Spoken isOpen word) :
    ∃ (closed : List (List Taken)) (readings : List Taken),
      word = closed.flatMap Notice.cycle ++ if isOpen then Notice.opening readings else [] := by
  induction spoken with
  | silence => exact ⟨[], [], rfl⟩
  | ready _ ih =>
    obtain ⟨closed, -, rfl⟩ := ih
    exact ⟨closed, [], by simp [Notice.opening]⟩
  | reading r _ ih =>
    obtain ⟨closed, readings, rfl⟩ := ih
    exact ⟨closed, readings ++ [r], by simp [Notice.opening]⟩
  | lost _ ih =>
    obtain ⟨closed, readings, rfl⟩ := ih
    exact ⟨closed ++ [readings], [], by simp [Notice.cycle]⟩

/-- Every loss was preceded by its own readiness, and at most one readiness is still open. -/
theorem count (spoken : Spoken isOpen word) :
    word.countP Notice.isReady = word.countP Notice.isLost + if isOpen then 1 else 0 := by
  induction spoken with
  | silence => rfl
  | ready _ ih => simpa [Notice.isReady, Notice.isLost] using ih
  | reading r _ ih => simpa [Notice.isReady, Notice.isLost, Taken.notice] using ih
  | lost _ ih => simpa [Notice.isReady, Notice.isLost] using ih

end Spoken

end SensorLink.Link
