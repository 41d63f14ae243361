/-
# The order of deferred work

Jobs come to the worker from any number of callers and from the jobs it runs, while it is
at work.  Whatever the order of these events, it has one thread at most, which runs the
jobs one after the other in the order in which they were put, each of them once: those
begun and those that wait are together all that were ever put, in that order, and what
the worker did is what the begun jobs come to, one after the other.  A job that fails
leaves its record there and nothing else.

Left to itself the worker gets done with everything.  Every move brings it nearer to rest
by one, so it rests after as many moves as its load says, and it has then done what
`runAll` gives.
-/

import Mathlib
import SensorLink.Publication.Worker

namespace SensorLink.Publication

variable {α : Type}

theorem Job.size_eq (job : Job α) : job.size = totalSize job.queues + 1 := by
  cases job
  rw [Job.size, Job.queues_mk]

/-- The first job is run, and what it queued comes after all others. -/
theorem runAll_cons (job : Job α) (rest : List (Job α)) :
    runAll (job :: rest) = job.acts ++ runAll (rest ++ job.queues) := by
  cases job
  rw [runAll]
  rfl

/-- The jobs that a move puts into the queue. -/
def Move.queued : Move α → List (Job α)
  | .queues job => [job]
  | _ => []

/-- The jobs that a move begins. -/
def Move.begun : Move α → List (Job α)
  | .takes job => [job]
  | _ => []

namespace Worker

/-- What is left of the jobs under way. -/
def running (w : Worker α) : List (Job α) :=
  w.threads.reduceOption

/-- Nothing is left to be done. -/
def AtRest (w : Worker α) : Prop :=
  ∀ i, w.advance i = none

/-- The number of moves until the worker rests: a job is taken and it ends, and each job that comes
of it is queued before. -/
def load (w : Worker α) : Nat :=
  (w.running.map fun job => 3 * totalSize job.queues + 1).sum +
    (w.waiting.map fun job => 3 * totalSize job.queues + 2).sum

/-- What is still to be done if nobody queues anything. -/
def outlook (w : Worker α) : List (Act α) :=
  w.running.flatMap Job.ending ++ runAll (w.waiting ++ w.running.flatMap Job.queues)

/-- The workers that come from one before its first job, with the jobs that were put into the queue
and those that were begun, both in order. -/
inductive Run : List (Job α) → List (Job α) → Worker α → Prop where
  | fresh : Run [] [] fresh
  /-- A caller makes sure that a thread lives. -/
  | ensure {queued begun : List (Job α)} {w : Worker α} :
      Run queued begun w → Run queued begun w.ensureThread
  /-- A caller that did so puts its job. -/
  | put {queued begun : List (Job α)} {w : Worker α} (job : Job α) :
      Run queued begun w → w.threads ≠ [] → Run (queued ++ [job]) begun (w.put job)
  | advance {queued begun : List (Job α)} {w next : Worker α} {move : Move α} (i : Nat) :
      Run queued begun w → w.advance i = some (move, next) →
        Run (queued ++ move.queued) (begun ++ move.begun) next

/-- The worker makes a number of moves while nobody else queues anything. -/
inductive Proceeds : Worker α → Nat → Worker α → Prop where
  | none (w : Worker α) : Proceeds w 0 w
  | move {w next last : Worker α} {move : Move α} {n : Nat} (i : Nat) :
      w.advance i = some (move, next) → Proceeds next n last → Proceeds w (n + 1) last

/-- What a worker with one thread does next. -/
inductive Goes (w : Worker α) : Move α → Worker α → Prop where
  | takes {job : Job α} {rest : List (Job α)} : w.threads = [none] → w.waiting = job :: rest →
      Goes w (.takes job)
        { w with threads := [some job], waiting := rest, acts := w.acts ++ [.ran job.label] }
  | queues {label : α} {job : Job α} {rest : List (Job α)} {failure : Option Failure} :
      w.threads = [some (.mk label (job :: rest) failure)] →
        Goes w (.queues job)
          { w with
            threads := [some (.mk label rest failure)]
            waiting := w.waiting ++ [job]
            unfinished := w.unfinished + 1 }
  | ends {label : α} {failure : Option Failure} : w.threads = [some (.mk label [] failure)] →
      Goes w .ends
        { w with
          threads := if w.unfinished = 0 then [] else [none]
          unfinished := w.unfinished - 1
          acts := w.acts ++ (Job.mk label [] failure).ending }

section Single

variable {w next : Worker α} {move : Move α} {i : Nat}

theorem goes_of_advance (single : w.threads.length ≤ 1)
    (advanced : w.advance i = some (move, next)) : Goes w move next := by
  unfold advance at advanced
  match threads : w.threads, i with
  | [], i => simp [threads] at advanced
  | [_], i + 1 => simp [threads] at advanced
  | _ :: _ :: _, _ => simp [threads] at single
  | [none], 0 =>
    cases queue : w.waiting with
    | nil => simp [threads, queue] at advanced
    | cons job rest =>
      simp only [threads, queue, List.getElem?_cons_zero, List.set_cons_zero,
        Option.some.injEq, Prod.mk.injEq] at advanced
      obtain ⟨rfl, rfl⟩ := advanced
      exact .takes threads queue
  | [some (.mk label [] failure)], 0 =>
    simp only [threads, endJob, List.getElem?_cons_zero, List.set_cons_zero,
      List.eraseIdx_cons_zero, Option.some.injEq, Prod.mk.injEq] at advanced
    obtain ⟨rfl, rfl⟩ := advanced
    exact .ends threads
  | [some (.mk label (job :: rest) failure)], 0 =>
    simp only [threads, List.getElem?_cons_zero, List.set_cons_zero, Option.some.injEq,
      Prod.mk.injEq] at advanced
    obtain ⟨rfl, rfl⟩ := advanced
    exact .queues threads

/-- A thread that does nothing waits for a job. -/
theorem threads_of_atRest {thread : Option (Job α)} (threads : w.threads = [thread])
    (rest : w.AtRest) : thread = none ∧ w.waiting = [] := by
  have still := rest 0
  unfold advance at still
  rw [threads, List.getElem?_cons_zero] at still
  match thread, queue : w.waiting with
  | none, [] => exact ⟨rfl, rfl⟩
  | none, _ :: _ => simp [queue] at still
  | some (.mk _ [] _), _ => simp at still
  | some (.mk _ (_ :: _) _), _ => simp at still

/-- A thread whose job is over has none, whether it lives on or not. -/
theorem reduceOption_idle (p : Prop) [Decidable p] :
    (if p then [] else [(none : Option (Job α))]).reduceOption = [] := by
  split <;> rfl

/-- Every move lightens the load by one. -/
theorem Goes.load (goes : Goes w move next) : next.load + 1 = w.load := by
  cases goes with
  | takes threads queue =>
    simp only [Worker.load, running, threads, queue, List.reduceOption_cons_of_some,
      List.reduceOption_cons_of_none, List.reduceOption_nil, List.map_cons, List.map_nil,
      List.sum_cons, List.sum_nil]
    omega
  | @queues label job rest failure threads =>
    have size := job.size_eq
    simp only [Worker.load, running, threads, List.reduceOption_cons_of_some,
      List.reduceOption_nil, List.map_cons, List.map_nil, List.map_append, List.sum_append,
      List.sum_cons, List.sum_nil, Job.queues_mk, totalSize]
    omega
  | ends threads =>
    simp only [Worker.load, running, threads, reduceOption_idle, List.reduceOption_cons_of_some,
      List.reduceOption_nil, List.map_cons, List.map_nil, List.sum_cons, List.sum_nil,
      Job.queues_mk, totalSize]
    omega

/-- What is done now was to be done before. -/
theorem Goes.outlook (goes : Goes w move next) :
    next.acts ++ next.outlook = w.acts ++ w.outlook := by
  cases goes with
  | takes threads queue =>
    simp [Worker.outlook, running, threads, queue, runAll_cons, Job.acts,
      List.reduceOption_cons_of_some, List.reduceOption_cons_of_none, List.reduceOption_nil]
  | queues threads =>
    simp [Worker.outlook, running, threads, Job.ending,
      List.reduceOption_cons_of_some, List.reduceOption_nil]
  | ends threads =>
    simp [Worker.outlook, running, threads, reduceOption_idle, List.reduceOption_cons_of_some,
      List.reduceOption_nil]

end Single

/-- What a worker has made so far of the jobs that were put into its queue. -/
structure Sound (queued begun : List (Job α)) (w : Worker α) : Prop where
  /-- There is a thread as soon as there is a job, and never a second one. -/
  started : queued ≠ [] → w.threads ≠ []
  single : w.threads.length ≤ 1
  /-- The jobs that were begun and those that wait are the jobs that were put, in order. -/
  order : queued = begun ++ w.waiting
  /-- The queue counts the jobs that wait or run, so it never refuses a report. -/
  counted : w.unfinished = w.waiting.length + w.running.length
  /-- What was done is what the begun jobs come to, one after the other, but for the end of the job
  under way. -/
  told : w.acts ++ w.running.flatMap Job.ending = begun.flatMap Job.acts

namespace Sound

variable {queued begun : List (Job α)} {w next : Worker α} {move : Move α}

theorem fresh : Sound [] [] (fresh : Worker α) where
  single := Nat.zero_le 1
  started := fun nothing => absurd rfl nothing
  order := rfl
  counted := rfl
  told := rfl

theorem ensure (sound : Sound queued begun w) : Sound queued begun w.ensureThread := by
  unfold ensureThread
  split
  · next idle =>
    have threads : w.threads = [] := List.isEmpty_iff.mp idle
    have idles : w.running = [] := by rw [running, threads, List.reduceOption_nil]
    have counted := sound.counted
    have told := sound.told
    rw [idles] at counted told
    exact
      { single := Nat.le_refl 1
        started := fun _ => List.cons_ne_nil _ _
        order := sound.order
        counted
        told }
  · exact sound

theorem put (sound : Sound queued begun w) (alive : w.threads ≠ []) (job : Job α) :
    Sound (queued ++ [job]) begun (w.put job) where
  single := sound.single
  started _ := alive
  order := by rw [sound.order, List.append_assoc]; rfl
  counted := by
    have counted := sound.counted
    simp only [Worker.put, running, List.length_append, List.length_singleton] at counted ⊢
    omega
  told := sound.told

/-- A move keeps the account: the job taken is the first that waits, and what its end leaves is
told with it. -/
theorem goes (sound : Sound queued begun w) (goes : Goes w move next) :
    Sound (queued ++ move.queued) (begun ++ move.begun) next := by
  have counted := sound.counted
  have told := sound.told
  cases goes with
  | takes threads queue =>
    simp only [running, threads, queue, List.reduceOption_cons_of_none, List.reduceOption_nil,
      List.length_cons, List.length_nil, List.flatMap_nil, List.append_nil] at counted told
    exact
      { single := Nat.le_refl 1
        started := fun _ => List.cons_ne_nil _ _
        order := by simp [Move.queued, Move.begun, sound.order, queue]
        counted := by simpa [running, List.reduceOption_cons_of_some] using counted
        told := by simp [Move.begun, running, List.reduceOption_cons_of_some, told, Job.acts] }
  | queues threads =>
    simp only [running, threads, List.reduceOption_cons_of_some, List.reduceOption_nil,
      List.length_cons, List.length_nil] at counted told
    exact
      { single := Nat.le_refl 1
        started := fun _ => List.cons_ne_nil _ _
        order := by simp [Move.queued, Move.begun, sound.order]
        counted := by simp [running, List.reduceOption_cons_of_some, counted]
        told := by
          simpa [Move.begun, running, List.reduceOption_cons_of_some, Job.ending] using told }
  | ends threads =>
    simp only [running, threads, List.reduceOption_cons_of_some, List.reduceOption_nil,
      List.length_cons, List.length_nil] at counted told
    have accepted : w.unfinished ≠ 0 := by omega
    rw [if_neg accepted]
    exact
      { single := Nat.le_refl 1
        started := fun _ => List.cons_ne_nil _ _
        order := by simp [Move.queued, Move.begun, sound.order]
        counted := by simp [running, List.reduceOption_cons_of_none, counted]
        told := by simpa [Move.begun, running, List.reduceOption_cons_of_none] using told }

/-- A worker that rests has no job under way and none that waits. -/
theorem idle_of_atRest (sound : Sound queued begun w) (rest : w.AtRest) :
    w.running = [] ∧ w.waiting = [] := by
  match threads : w.threads with
  | [] =>
    have nothing : queued = [] := by
      by_contra some
      exact sound.started some threads
    have none : w.waiting = [] := (List.append_eq_nil_iff.mp (sound.order.symm.trans nothing)).2
    exact ⟨by rw [running, threads, List.reduceOption_nil], none⟩
  | [thread] =>
    obtain ⟨rfl, none⟩ := threads_of_atRest threads rest
    exact ⟨by rw [running, threads, List.reduceOption_cons_of_none, List.reduceOption_nil], none⟩
  | _ :: _ :: _ =>
    have single := sound.single
    simp [threads] at single

/-- The worker rests when its load is gone. -/
theorem atRest_iff (sound : Sound queued begun w) : w.AtRest ↔ w.load = 0 := by
  constructor
  · intro rest
    obtain ⟨running, waiting⟩ := sound.idle_of_atRest rest
    rw [load, running, waiting]
    rfl
  · intro light i
    match advanced : w.advance i with
    | none => rfl
    | some (move, next) =>
      have lighter := (goes_of_advance sound.single advanced).load
      omega

end Sound

namespace Run

variable {queued begun : List (Job α)} {w last : Worker α} {n : Nat}

theorem sound (run : Run queued begun w) : Sound queued begun w := by
  induction run with
  | fresh => exact .fresh
  | ensure _ ih => exact ih.ensure
  | put job _ alive ih => exact ih.put alive job
  | advance i _ advanced ih => exact ih.goes (goes_of_advance ih.single advanced)

/-- A worker left to itself goes on with its run, and every move counts. -/
theorem proceeds (run : Run queued begun w) (proceeds : Proceeds w n last) :
    (∃ later started, Run (queued ++ later) (begun ++ started) last) ∧ last.load + n = w.load ∧
      last.acts ++ last.outlook = w.acts ++ w.outlook := by
  induction proceeds generalizing queued begun with
  | none w => exact ⟨⟨[], [], by simpa using run⟩, rfl, rfl⟩
  | move i advanced _ ih =>
    have goes := goes_of_advance run.sound.single advanced
    obtain ⟨⟨later, started, further⟩, counted, told⟩ := ih (run.advance i advanced)
    rw [List.append_assoc, List.append_assoc] at further
    exact ⟨⟨_, _, further⟩, by have := goes.load; omega, told.trans goes.outlook⟩

/-- It comes to rest when it has made as many moves as its load says. -/
theorem exists_atRest (run : Run queued begun w) :
    ∃ last, Proceeds w w.load last ∧ last.AtRest := by
  -- the run goes on with every move, so the hypothesis is about all runs of a smaller load
  induction load : w.load generalizing queued begun w with
  | zero => exact ⟨w, .none w, run.sound.atRest_iff.mpr load⟩
  | succ n ih =>
    have busy : ¬w.AtRest := by
      rw [run.sound.atRest_iff]
      omega
    obtain ⟨i, moves⟩ := not_forall.mp busy
    obtain ⟨⟨move, next⟩, advanced⟩ := Option.ne_none_iff_exists'.mp moves
    have lighter := (goes_of_advance run.sound.single advanced).load
    obtain ⟨last, proceeds, rest⟩ := ih (run.advance i advanced) (by omega)
    exact ⟨last, .move i advanced proceeds, rest⟩

/-- A worker that rests has begun and ended everything that was queued. -/
theorem done_of_atRest (run : Run queued begun w) (rest : w.AtRest) :
    begun = queued ∧ w.acts = queued.flatMap Job.acts := by
  obtain ⟨running, waiting⟩ := run.sound.idle_of_atRest rest
  have order := run.sound.order
  have told := run.sound.told
  rw [waiting, List.append_nil] at order
  rw [running, List.flatMap_nil, List.append_nil] at told
  exact ⟨order.symm, by rw [told, order]⟩

end Run

theorem foldl_queueWork_eq (jobs : List (Job α)) : jobs.foldl queueWork fresh =
    ⟨if hasStarted jobs then [none] else [], jobs, jobs.length, []⟩ := by
  induction jobs using List.reverseRecOn with
  | nil => rfl
  | append_singleton jobs job ih =>
    rw [List.foldl_concat, ih]
    cases jobs <;> simp [queueWork, ensureThread, put, hasStarted]

theorem run_foldl_queueWork (jobs : List (Job α)) :
    Run jobs [] (jobs.foldl queueWork fresh) := by
  induction jobs using List.reverseRecOn with
  | nil => exact .fresh
  | append_singleton jobs job ih =>
    rw [List.foldl_concat]
    refine ih.ensure.put job ?_
    unfold ensureThread
    split
    · exact List.cons_ne_nil _ _
    · next alive => exact fun none => alive (List.isEmpty_iff.mpr none)

theorem outlook_foldl_queueWork (jobs : List (Job α)) :
    (jobs.foldl queueWork fresh).outlook = runAll jobs := by
  have idle : (jobs.foldl queueWork fresh).running = [] := by
    rw [foldl_queueWork_eq, running]
    cases jobs <;> rfl
  rw [outlook, idle, foldl_queueWork_eq, List.flatMap_nil, List.flatMap_nil, List.append_nil,
    List.nil_append]

/-- The jobs of a worker are run in order, each once, and all of them. -/
structure Orderly (queued begun : List (Job α)) (w : Worker α) : Prop
    extends Sound queued begun w where
  /-- At rest the worker has run every job. -/
  rested : w.AtRest → begun = queued ∧ w.acts = queued.flatMap Job.acts
  /-- Left to itself it makes no more moves than its load says, and with as many it comes to rest,
  having run every job and those that came of them. -/
  bounded : ∀ n last, Proceeds w n last → n ≤ w.load
  settles : ∃ last later, Proceeds w w.load last ∧ Run (queued ++ later) (queued ++ later) last ∧
    last.AtRest ∧ last.acts = (queued ++ later).flatMap Job.acts

theorem Run.orderly {queued begun : List (Job α)} {w : Worker α} (run : Run queued begun w) :
    Orderly queued begun w where
  toSound := run.sound
  rested := run.done_of_atRest
  bounded n last proceeds := by
    obtain ⟨-, counted, -⟩ := run.proceeds proceeds
    omega
  settles := by
    obtain ⟨last, proceeds, rest⟩ := run.exists_atRest
    obtain ⟨⟨later, started, further⟩, -, -⟩ := run.proceeds proceeds
    obtain ⟨done, acts⟩ := further.done_of_atRest rest
    exact ⟨last, later, proceeds, done ▸ further, rest, acts⟩

/-- A worker that is handed jobs has started if there are any, and left to itself it does what
`runAll` gives. -/
structure RunsAll (jobs : List (Job α)) : Prop where
  threads : (jobs.foldl queueWork fresh).threads = if hasStarted jobs then [none] else []
  acts : ∀ n last, Proceeds (jobs.foldl queueWork fresh) n last → last.AtRest →
    last.acts = runAll jobs

theorem runsAll (jobs : List (Job α)) : RunsAll jobs where
  threads := by rw [foldl_queueWork_eq]
  acts n last proceeds rest := by
    have run := run_foldl_queueWork jobs
    obtain ⟨⟨later, started, further⟩, -, told⟩ := run.proceeds proceeds
    obtain ⟨running, waiting⟩ := further.sound.idle_of_atRest rest
    have nothing : last.outlook = [] := by
      rw [outlook, running, waiting]
      exact runAll.eq_1
    rw [nothing, List.append_nil, outlook_foldl_queueWork, foldl_queueWork_eq] at told
    exact told

end Worker

end SensorLink.Publication
