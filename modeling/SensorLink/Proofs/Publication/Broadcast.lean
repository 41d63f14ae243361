/-
# What the listeners hear

The messages of an interface are among the jobs of the worker.  They are queued one by
one, as the supervisor's effects give rise to them, while the worker runs earlier ones,
while others queue jobs of their own, and while listeners that are told a message queue
more work or fail.  Since the worker runs its jobs in the order in which they were
queued, the listeners hear the messages in the order of the effects: what they have
heard, what waits in the queue and what is yet to be queued are together the messages of
all effects so far.
-/

import SensorLink.Proofs.Interface.Word
import SensorLink.Proofs.Publication.Order

namespace SensorLink.Publication

open Interface (Message messagesOf)
open Link (Effect)
open Worker (Goes Orderly Run RunsAll fresh runsAll)

variable {δ β : Type}

/-- Jobs that show messages of the interface or something else. -/
abbrev Jobs (β : Type) : Type :=
  List (Job (Message ⊕ β))

/-- Neither a job nor anything that comes of it is a message of the interface. -/
inductive Job.Foreign : Job (Message ⊕ β) → Prop where
  | mk (label : β) {queues : Jobs β} (failure : Option Failure) :
      (∀ job ∈ queues, job.Foreign) → Foreign (.mk (.inr label) queues failure)

/-- A job queues nothing that is a message of the interface. -/
def Job.Plain (job : Job (Message ⊕ β)) : Prop :=
  ∀ other ∈ job.queues, other.Foreign

/-- The message that a job tells the listeners. -/
def Job.message? (job : Job (Message ⊕ β)) : Option Message :=
  job.label.getLeft?

/-- The message that the listeners are told. -/
def Act.message? : Act (Message ⊕ β) → Option Message
  | .ran label => label.getLeft?
  | .record _ => none

/-- The messages that the listeners have heard. -/
def Worker.heard (w : Worker (Message ⊕ β)) : List Message :=
  w.acts.filterMap Act.message?

/-- A worker that serves an interface and others: the effects of the supervisor, the messages of
these that are yet to be queued, the jobs that were put and begun, and the worker. -/
inductive Broadcast : List (Effect δ) → List Message → Jobs β → Jobs β →
    Worker (Message ⊕ β) → Prop where
  | fresh : Broadcast [] [] [] [] fresh
  /-- The supervisor has an effect. -/
  | effect {told : List (Effect δ)} {due : List Message} {queued begun : Jobs β}
      {w : Worker (Message ⊕ β)} (e : Effect δ) :
      Broadcast told due queued begun w →
        Broadcast (told ++ [e]) (due ++ messagesOf e) queued begun w
  /-- Somebody makes sure that a thread of the worker lives. -/
  | ensure {told : List (Effect δ)} {due : List Message} {queued begun : Jobs β}
      {w : Worker (Message ⊕ β)} :
      Broadcast told due queued begun w → Broadcast told due queued begun w.ensureThread
  /-- The interface puts its next message.  Listeners that are told it may queue other work, and
  fail. -/
  | publish {told : List (Effect δ)} {due : List Message} {queued begun : Jobs β}
      {w : Worker (Message ⊕ β)} (m : Message) {queues : Jobs β} (failure : Option Failure) :
      Broadcast told (m :: due) queued begun w → w.threads ≠ [] →
        (∀ job ∈ queues, job.Foreign) →
        Broadcast told due (queued ++ [.mk (.inl m) queues failure]) begun
          (w.put (.mk (.inl m) queues failure))
  /-- Somebody else puts a job. -/
  | other {told : List (Effect δ)} {due : List Message} {queued begun : Jobs β}
      {w : Worker (Message ⊕ β)} {job : Job (Message ⊕ β)} :
      Broadcast told due queued begun w → w.threads ≠ [] → job.Foreign →
        Broadcast told due (queued ++ [job]) begun (w.put job)
  | advance {told : List (Effect δ)} {due : List Message} {queued begun : Jobs β}
      {w next : Worker (Message ⊕ β)} {move : Move (Message ⊕ β)} (i : Nat) :
      Broadcast told due queued begun w → w.advance i = some (move, next) →
        Broadcast told due (queued ++ move.queued) (begun ++ move.begun) next

theorem Job.Foreign.message?_eq_none {job : Job (Message ⊕ β)} (foreign : job.Foreign) :
    job.message? = none := by
  cases foreign
  rfl

theorem Job.Foreign.plain {job : Job (Message ⊕ β)} (foreign : job.Foreign) : job.Plain := by
  cases foreign with
  | mk _ _ all => exact all

/-- A job shows its message when it is run, and its end shows none. -/
theorem messages_ending (jobs : Jobs β) :
    (jobs.flatMap Job.ending).filterMap Act.message? = [] := by
  rw [List.filterMap_eq_nil_iff]
  intro act mem
  obtain ⟨⟨_, _, failure⟩, -, here⟩ := List.mem_flatMap.mp mem
  cases failure with
  | none => cases here
  | some f =>
    rw [List.mem_singleton.mp here]
    rfl

theorem messages_acts (jobs : Jobs β) :
    (jobs.flatMap Job.acts).filterMap Act.message? = jobs.filterMap Job.message? := by
  induction jobs with
  | nil => rfl
  | cons job rest ih =>
    have silent : job.ending.filterMap Act.message? = [] := by
      simpa using messages_ending [job]
    have same : (Act.ran job.label).message? = job.message? := rfl
    rw [List.flatMap_cons, List.filterMap_append, ih, Job.acts, List.filterMap_cons, silent, same,
      List.filterMap_cons]
    cases job.message? <;> rfl

/-- The listeners have heard the messages of the jobs that were begun. -/
theorem Worker.Run.heard_eq {queued begun : Jobs β} {w : Worker (Message ⊕ β)}
    (run : Run queued begun w) : w.heard = begun.filterMap Job.message? := by
  rw [← messages_acts, ← run.sound.told, List.filterMap_append, messages_ending, List.append_nil,
    heard]

namespace Broadcast

variable {told : List (Effect δ)} {due : List Message} {queued begun : Jobs β}
  {w : Worker (Message ⊕ β)}

theorem run (broadcast : Broadcast told due queued begun w) : Run queued begun w := by
  induction broadcast with
  | fresh => exact .fresh
  | effect _ _ ih => exact ih
  | ensure _ ih => exact ih.ensure
  | publish _ _ _ alive _ ih => exact ih.put _ alive
  | other _ alive _ ih => exact ih.put _ alive
  | advance i _ advanced ih => exact ih.advance i advanced

/-- Every job of the worker queues nothing but the work of others. -/
def Sparing (w : Worker (Message ⊕ β)) : Prop :=
  ∀ job ∈ w.running ++ w.waiting, job.Plain

theorem Sparing.put {job : Job (Message ⊕ β)} (sparing : Sparing w) (plain : job.Plain) :
    Sparing (w.put job) := by
  intro other mem
  rcases List.mem_append.mp mem with here | here
  · exact sparing other (List.mem_append_left _ here)
  · rcases List.mem_append.mp here with here | here
    · exact sparing other (List.mem_append_right _ here)
    · rw [List.mem_singleton.mp here]
      exact plain

theorem Sparing.ensure (sparing : Sparing w) : Sparing w.ensureThread := by
  unfold Worker.ensureThread
  split
  · exact fun job mem => sparing job (List.mem_append_right _ mem)
  · exact sparing

/-- A move of the worker queues no message. -/
theorem Sparing.goes {next : Worker (Message ⊕ β)} {move : Move (Message ⊕ β)}
    (sparing : Sparing w) (goes : Goes w move next) :
    Sparing next ∧ move.queued.filterMap Job.message? = [] := by
  cases goes with
  | @takes job rest threads queue =>
    refine ⟨fun other mem => sparing other (List.mem_append_right _ ?_), rfl⟩
    rw [queue]
    exact mem
  | @queues label job rest failure threads =>
    have busy : Job.mk label (job :: rest) failure ∈ w.running := by
      simp [Worker.running, threads, List.reduceOption_cons_of_some]
    have all := sparing _ (List.mem_append_left _ busy)
    have foreign : job.Foreign := all job List.mem_cons_self
    refine ⟨fun other mem => ?_, ?_⟩
    · rcases List.mem_append.mp mem with here | here
      · rw [List.mem_singleton.mp here]
        exact fun further mem => all further (List.mem_cons_of_mem job mem)
      · rcases List.mem_append.mp here with here | here
        · exact sparing other (List.mem_append_right _ here)
        · rw [List.mem_singleton.mp here]
          exact foreign.plain
    · rw [Move.queued, List.filterMap_cons_none foreign.message?_eq_none, List.filterMap_nil]
  | ends threads =>
    refine ⟨fun other mem => sparing other (List.mem_append_right _ ?_), rfl⟩
    rcases List.mem_append.mp mem with here | here
    · rw [Worker.running, Worker.reduceOption_idle] at here
      cases here
    · exact here

theorem sparing (broadcast : Broadcast told due queued begun w) : Sparing w := by
  induction broadcast with
  | fresh => exact fun _ mem => nomatch mem
  | effect _ _ ih => exact ih
  | ensure _ ih => exact ih.ensure
  | publish _ _ _ _ foreign ih => exact ih.put foreign
  | other _ _ foreign ih => exact ih.put foreign.plain
  | advance _ before advanced ih =>
    exact (ih.goes (Worker.goes_of_advance before.run.sound.single advanced)).1

/-- The messages that were queued and those that are due are the messages of the effects. -/
theorem account (broadcast : Broadcast told due queued begun w) :
    queued.filterMap Job.message? ++ due = told.flatMap messagesOf := by
  induction broadcast with
  | fresh => rfl
  | effect e _ ih =>
    rw [← List.append_assoc, ih, List.flatMap_append, List.flatMap_singleton]
  | ensure _ ih => exact ih
  | publish m _ _ _ _ ih =>
    rw [← ih, List.filterMap_append, List.append_assoc]
    rfl
  | other _ _ foreign ih =>
    rw [← ih, List.filterMap_append, List.filterMap_cons_none foreign.message?_eq_none,
      List.filterMap_nil, List.append_nil]
  | advance _ before advanced ih =>
    have goes := Worker.goes_of_advance before.run.sound.single advanced
    rw [List.filterMap_append, (before.sparing.goes goes).2, List.append_nil, ih]

/-- The listeners hear the messages in the order of the effects: those heard, those that wait and
those that are due make up all of them. -/
theorem heard_append (broadcast : Broadcast told due queued begun w) :
    w.heard ++ (w.waiting.filterMap Job.message? ++ due) = told.flatMap messagesOf := by
  rw [broadcast.run.heard_eq, ← List.append_assoc, ← List.filterMap_append,
    ← broadcast.run.sound.order, broadcast.account]

end Broadcast

/-- What the listeners have heard of the messages of some effects. -/
structure Delivered (told : List (Effect δ)) (due : List Message) (w : Worker (Message ⊕ β)) :
    Prop where
  /-- They are heard in order, each once, and none is left out. -/
  inOrder : w.heard ++ (w.waiting.filterMap Job.message? ++ due) = told.flatMap messagesOf
  /-- When all were queued and the worker rests, all were heard. -/
  all : due = [] → w.AtRest → w.heard = told.flatMap messagesOf
  /-- So the listeners of an interface hear its messages in the order that it gives them. -/
  interface : ∀ i : Interface δ, i.supervisor.loop.tape = told →
    w.heard <+: i.messages ∧ (due = [] → w.AtRest → w.heard = i.messages)

theorem Broadcast.delivered {told : List (Effect δ)} {due : List Message} {queued begun : Jobs β}
    {w : Worker (Message ⊕ β)} (broadcast : Broadcast told due queued begun w) :
    Delivered told due w := by
  have inOrder := broadcast.heard_append
  have all (none : due = []) (rest : w.AtRest) : w.heard = told.flatMap messagesOf := by
    obtain ⟨done, -⟩ := broadcast.run.done_of_atRest rest
    rw [broadcast.run.heard_eq, done, ← broadcast.account, none, List.append_nil]
  refine ⟨inOrder, all, ?_⟩
  rintro i rfl
  exact ⟨⟨_, inOrder⟩, all⟩

/-- **The order of what is published.** However jobs are queued, from outside and by the jobs that
run, and whichever of them fail, the worker runs each of them once, one at a time, in the order in
which they were queued, and goes on until it is done with all of them; a failure leaves a record
and nothing else.  So the listeners of an interface hear its messages in the order of the effects
that gave rise to them. -/
theorem deferred_in_order :
    (∀ {α : Type} {queued begun : List (Job α)} {w : Worker α}, Run queued begun w →
      Orderly queued begun w) ∧
    (∀ {α : Type} (jobs : List (Job α)), RunsAll jobs) ∧
    ∀ {δ β : Type} {told : List (Effect δ)} {due : List Message} {queued begun : Jobs β}
      {w : Worker (Message ⊕ β)}, Broadcast told due queued begun w → Delivered told due w :=
  ⟨Run.orderly, runsAll, Broadcast.delivered⟩

/-- A connection is ready; a listener that is told so queues a job and fails. -/
def readiness : Jobs String :=
  [.mk (.inl .established) [.mk (.inr "welcome") [] none] (some (.reported .runtime "unplugged")),
    .mk (.inl (.status true)) [] none, .mk (.inr "welcome") [] none]

/-- The worker that has told of it. -/
def welcomed : Worker (Message ⊕ String) where
  threads := [none]
  waiting := []
  unfinished := 0
  acts :=
    [.ran (.inl .established), .record (failureRecord (.reported .runtime "unplugged")),
      .ran (.inl (.status true)), .ran (.inr "welcome")]

/-- The second message is queued while the first is told, before its listener queues a job. -/
theorem broadcast_readiness :
    Broadcast ([.ready] : List (Effect Unit)) [] readiness readiness welcomed := by
  have welcome : Job.Foreign (.mk (.inr "welcome") [] none : Job (Message ⊕ String)) :=
    .mk "welcome" none (List.forall_mem_nil _)
  have ready : Broadcast ([.ready] : List (Effect Unit)) Interface.readyMessages [] []
      (fresh : Worker (Message ⊕ String)).ensureThread := .ensure (.effect .ready .fresh)
  have first := ready.publish .established (some (.reported .runtime "unplugged"))
    (List.cons_ne_nil _ _) (List.forall_mem_singleton.mpr welcome)
  have telling := first.advance 0 rfl
  have second := telling.publish (.status true) none (List.cons_ne_nil _ _) (List.forall_mem_nil _)
  have queued := second.advance 0 rfl
  have failed := queued.advance 0 rfl
  have told := (failed.advance 0 rfl).advance 0 rfl
  exact (told.advance 0 rfl).advance 0 rfl

theorem atRest_welcomed : welcomed.AtRest := by
  intro i
  cases i <;> rfl

/-- What was queued is run in that order, and the listeners hear both messages. -/
theorem deferred_in_order_readiness : Run readiness readiness welcomed ∧
    Broadcast ([.ready] : List (Effect Unit)) [] readiness readiness welcomed ∧
    Orderly readiness readiness welcomed ∧ RunsAll readiness ∧
    welcomed.heard = [.established, .status true] :=
  ⟨broadcast_readiness.run, broadcast_readiness, deferred_in_order.1 broadcast_readiness.run,
    deferred_in_order.2.1 readiness,
    (deferred_in_order.2.2 broadcast_readiness).all rfl atRest_welcomed⟩

end SensorLink.Publication
