/-
# Publication

A worker runs queued jobs one at a time, in the order in which they were queued.
A running job may queue more, and a job that fails leaves a record and stops
nothing.  The worker starts with the first job.
-/

import SensorLink.Journal

namespace SensorLink.Publication

/-- A job: what running it shows, the jobs it queues meanwhile, and how it fails, if it does. -/
inductive Job (α : Type) where
  | mk (label : α) (queues : List (Job α)) (failure : Option Failure)

/-- What a worker does. -/
inductive Act (α : Type) where
  | ran (label : α)
  | record (r : Journal.Record)

variable {α : Type}

/-- The record of a failed job. -/
def failureRecord (f : Failure) : Journal.Record where
  level := .error
  source := .publishing
  text := "Unexpected error in deferred execution"
  cause := some f

mutual

/-- The number of a job and all jobs that come of it. -/
def Job.size : Job α → Nat
  | .mk _ queues _ => totalSize queues + 1

/-- The number of jobs and all jobs that come of them. -/
def totalSize : List (Job α) → Nat
  | [] => 0
  | job :: rest => job.size + totalSize rest

end

/-- The jobs of two lists come to as many as those of the lists one after the other. -/
theorem totalSize_append (jobs more : List (Job α)) :
    totalSize (jobs ++ more) = totalSize jobs + totalSize more := by
  induction jobs with
  | nil => simp [totalSize]
  | cons job rest ih => simp [totalSize, ih, Nat.add_assoc]

/-- Run queued jobs, and those they queue, until none is left. -/
def runAll : List (Job α) → List (Act α)
  | [] => []
  | .mk label queues failure :: rest =>
    .ran label :: (failure.map fun f => Act.record (failureRecord f)).toList ++
      runAll (rest ++ queues)
termination_by jobs => totalSize jobs
decreasing_by
  simp only [totalSize_append, totalSize, Job.size]
  omega

/-- Whether the worker has started once jobs were queued. -/
def hasStarted (jobs : List (Job α)) : Bool :=
  !jobs.isEmpty

end SensorLink.Publication
