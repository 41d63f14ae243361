/-
# The publishing worker

Whoever has a job makes sure that the worker's thread lives and then puts the job at the
end of a queue.  The thread takes job after job from the front.  While one runs it may
queue more, in the same way, and when it is over, having failed or not, the queue is told
that one job fewer is unfinished.
-/

import SensorLink.Publication

namespace SensorLink.Publication

variable {α : Type}

namespace Job

/-- What running a job shows. -/
def label : Job α → α
  | .mk label _ _ => label

/-- The jobs that a job queues. -/
def queues : Job α → List (Job α)
  | .mk _ queues _ => queues

@[simp]
theorem queues_mk (label : α) (queues : List (Job α)) (failure : Option Failure) :
    (mk label queues failure).queues = queues :=
  rfl

/-- What the end of a job leaves behind: a record, if it failed. -/
def ending : Job α → List (Act α)
  | .mk _ _ failure => (failure.map fun f => Act.record (failureRecord f)).toList

/-- What a job comes to, without the jobs that it queues. -/
def acts (job : Job α) : List (Act α) :=
  .ran job.label :: job.ending

end Job

/-- A worker: its threads, its queue, and what it has done. -/
structure Worker (α : Type) where
  /-- The live threads, each with what is left of its job, if it is at one. -/
  threads : List (Option (Job α))
  /-- The queued jobs that no thread has taken, in the order in which they were put. -/
  waiting : List (Job α)
  /-- The number of queued jobs that were not reported done. -/
  unfinished : Nat
  acts : List (Act α)

/-- What a thread does next. -/
inductive Move (α : Type) where
  /-- It takes a job from the queue and begins to run it. -/
  | takes (job : Job α)
  /-- Its job queues another. -/
  | queues (job : Job α)
  /-- Its job is over. -/
  | ends

namespace Worker

/-- A worker before the first job. -/
def fresh : Worker α :=
  ⟨[], [], 0, []⟩

/-- Start a thread, unless one lives. -/
def ensureThread (w : Worker α) : Worker α :=
  if w.threads.isEmpty then { w with threads := [none] } else w

/-- Put a job at the end of the queue. -/
def put (w : Worker α) (job : Job α) : Worker α :=
  { w with waiting := w.waiting ++ [job], unfinished := w.unfinished + 1 }

/-- Queue a job. -/
def queueWork (w : Worker α) (job : Job α) : Worker α :=
  w.ensureThread.put job

/-- A thread's job is over.  A report of more jobs than were queued is refused, and the refusal
ends the thread. -/
def endJob (w : Worker α) (i : Nat) (job : Job α) : Worker α :=
  { w with
    threads := if w.unfinished = 0 then w.threads.eraseIdx i else w.threads.set i none
    unfinished := w.unfinished - 1
    acts := w.acts ++ job.ending }

/-- Let a thread go on, unless it waits for a job. -/
def advance (w : Worker α) (i : Nat) : Option (Move α × Worker α) :=
  match w.threads[i]? with
  | none => none
  | some none =>
    match w.waiting with
    | [] => none
    | job :: rest =>
      some (.takes job,
        { w with
          threads := w.threads.set i (some job)
          waiting := rest
          acts := w.acts ++ [.ran job.label] })
  | some (some (.mk label (job :: rest) failure)) =>
    let w := { w with threads := w.threads.set i (some (.mk label rest failure)) }
    some (.queues job, w.queueWork job)
  | some (some (.mk label [] failure)) => some (.ends, w.endJob i (.mk label [] failure))

end Worker

end SensorLink.Publication
