/-
# What steers the connection on the loop

Attempts, forced disconnects and shutdowns steer the connection, and so do the
timers of retries and of discovery.  All other tasks and timers work for one
ingestion.  This module says what every operation of the loop does to a task, to
a timer, to the cancellations on the tape and to what the listeners are told.

`Keeps` relates two loops on which the same things steer: between them only the
ingestions worked and the journal grew.  `Wanes` is weaker and lets what steers
fade: a task may end or be cancelled, and a timer may be taken back, but none is
new.  Both compose, so the steps of a long callback are followed one by one.
-/

import Mathlib.Data.List.Basic
import SensorLink.Link.Loop
import SensorLink.Proofs.Lookup

namespace SensorLink.Link

open Sensor (Kind)

variable {δ : Type}

/-- Whether a task steers the connection. -/
def TaskId.steers : TaskId → Bool
  | attempt _ | forcedDisconnect _ | shutdown _ => true
  | subscription .. | read .. => false

/-- The kind that a task works for, if it works for an ingestion. -/
def TaskId.kind? : TaskId → Option Kind
  | subscription _ kind _ | read _ kind _ => some kind
  | attempt _ | forcedDisconnect _ | shutdown _ => none

theorem TaskId.exists_kind?_of_not_steers {task : TaskId} (inner : task.steers = false) :
    ∃ kind, task.kind? = some kind := by
  cases task with
  | subscription i kind round => exact ⟨kind, rfl⟩
  | read i kind tick => exact ⟨kind, rfl⟩
  | attempt | forcedDisconnect | shutdown => cases inner

theorem TaskId.kind?_eq_none {task : TaskId} (steers : task.steers = true) : task.kind? = none := by
  cases task <;> first | rfl | cases steers

/-- Whether a timer steers the connection. -/
def TimerId.steers : TimerId → Bool
  | retry _ | discovery .. => true
  | tick .. => false

/-- What the listeners are told. -/
inductive Notice where
  | ready
  | lost
  | reading (kind : Kind) (value : Float)

/-- What an effect tells the listeners. -/
def Effect.notice? : Effect δ → Option Notice
  | ready => some .ready
  | lost => some .lost
  | reading kind value => some (.reading kind value)
  | _ => none

namespace Loop

/-- What the listeners were told so far. -/
def notices (l : Loop δ) : List Notice :=
  l.tape.filterMap Effect.notice?

/-- Whether the cancellation of a task was ever asked for. -/
def Cancelled (l : Loop δ) (task : TaskId) : Prop :=
  Effect.cancel task ∈ l.tape

@[simp]
theorem point?_emit (l : Loop δ) (e : Effect δ) (task : TaskId) :
    (l.emit e).point? task = l.point? task := rfl

@[simp]
theorem point?_schedule (l : Loop δ) (timer : TimerId) (wait : Wait δ) (task : TaskId) :
    (l.schedule timer wait).point? task = l.point? task := rfl

@[simp]
theorem point?_unschedule (l : Loop δ) (timer : TimerId) (task : TaskId) :
    (l.unschedule timer).point? task = l.point? task := rfl

@[simp]
theorem point?_expire (l : Loop δ) (timer : TimerId) (task : TaskId) :
    (l.expire timer).point? task = l.point? task := rfl

@[simp]
theorem point?_suspend (l : Loop δ) (task other : TaskId) (point : Point) :
    (l.suspend task point).point? other =
      if other = task then some point else l.point? other := by
  rw [suspend, point?, lookup_cons_eq_ite, lookup_filter_ne]
  by_cases same : other = task
  · simp [same]
  · simp [same, point?]

@[simp]
theorem point?_spawn (l : Loop δ) (task other : TaskId) (point : Point) :
    (l.spawn task point).point? other =
      if other = task then some point else l.point? other := by
  rw [spawn, point?_emit, point?_suspend]

@[simp]
theorem point?_finish (l : Loop δ) (task other : TaskId) (how : Finish) :
    (l.finish task how).point? other = if other = task then none else l.point? other := by
  rw [finish, point?_emit]
  exact lookup_filter_ne l.tasks task other

/-- A cancelled task stays where it is, unless it has not begun. -/
theorem point?_cancel (l : Loop δ) (task other : TaskId) :
    (l.cancel task).point? other =
      if other = task then (l.point? task).map fun p => if p.isStart then .doomed else p
      else l.point? other := by
  rw [cancel]
  cases live : l.point? task with
  | none =>
    by_cases same : other = task
    · simp [same, live]
    · simp [same]
  | some point =>
    by_cases same : other = task
    · by_cases start : point.isStart <;> simp [same, start, live]
    · by_cases start : point.isStart <;> simp [same, start]

@[simp]
theorem timers_emit (l : Loop δ) (e : Effect δ) : (l.emit e).timers = l.timers := rfl

@[simp]
theorem timers_suspend (l : Loop δ) (task : TaskId) (point : Point) :
    (l.suspend task point).timers = l.timers := rfl

@[simp]
theorem timers_spawn (l : Loop δ) (task : TaskId) (point : Point) :
    (l.spawn task point).timers = l.timers := rfl

@[simp]
theorem timers_finish (l : Loop δ) (task : TaskId) (how : Finish) :
    (l.finish task how).timers = l.timers := rfl

@[simp]
theorem timers_cancel (l : Loop δ) (task : TaskId) : (l.cancel task).timers = l.timers := by
  rw [cancel]
  split
  · rfl
  · split <;> rfl

@[simp]
theorem timers_schedule (l : Loop δ) (timer : TimerId) (wait : Wait δ) :
    (l.schedule timer wait).timers = timer :: l.timers := rfl

@[simp]
theorem mem_timers_unschedule (l : Loop δ) (timer other : TimerId) :
    other ∈ (l.unschedule timer).timers ↔ other ∈ l.timers ∧ other ≠ timer := by
  simp [unschedule, emit]

@[simp]
theorem mem_timers_expire (l : Loop δ) (timer other : TimerId) :
    other ∈ (l.expire timer).timers ↔ other ∈ l.timers ∧ other ≠ timer := by
  simp [expire]

@[simp]
theorem tape_emit (l : Loop δ) (e : Effect δ) : (l.emit e).tape = l.tape ++ [e] := rfl

@[simp]
theorem tape_suspend (l : Loop δ) (task : TaskId) (point : Point) :
    (l.suspend task point).tape = l.tape := rfl

@[simp]
theorem tape_spawn (l : Loop δ) (task : TaskId) (point : Point) :
    (l.spawn task point).tape = l.tape ++ [.spawn task] := rfl

@[simp]
theorem tape_finish (l : Loop δ) (task : TaskId) (how : Finish) :
    (l.finish task how).tape = l.tape ++ [.ended task how] := rfl

@[simp]
theorem tape_schedule (l : Loop δ) (timer : TimerId) (wait : Wait δ) :
    (l.schedule timer wait).tape = l.tape ++ [.schedule timer wait] := rfl

@[simp]
theorem tape_unschedule (l : Loop δ) (timer : TimerId) :
    (l.unschedule timer).tape = l.tape ++ [.unschedule timer] := rfl

@[simp]
theorem tape_expire (l : Loop δ) (timer : TimerId) : (l.expire timer).tape = l.tape := rfl

/-- Only a live task is told of its cancellation. -/
theorem tape_cancel (l : Loop δ) (task : TaskId) :
    (l.cancel task).tape = if l.isLive task then l.tape ++ [.cancel task] else l.tape := by
  unfold cancel isLive
  split
  · simp_all
  · split <;> simp_all

theorem cancelled_emit {l : Loop δ} {e : Effect δ} {task : TaskId} (other : e ≠ .cancel task) :
    (l.emit e).Cancelled task ↔ l.Cancelled task := by
  simp only [Cancelled, tape_emit, List.mem_append, List.mem_singleton, or_iff_left_iff_imp]
  intro same
  exact absurd same.symm other

theorem cancelled_cancel (l : Loop δ) (task other : TaskId) :
    (l.cancel task).Cancelled other ↔
      l.Cancelled other ∨ other = task ∧ l.isLive task = true := by
  rw [Cancelled, tape_cancel]
  by_cases live : l.isLive task
  · simp [live, Cancelled]
  · simp [live, Cancelled]

theorem notices_emit (l : Loop δ) (e : Effect δ) :
    (l.emit e).notices = l.notices ++ e.notice?.toList := by
  cases told : e.notice? <;> simp [notices, told]

theorem notices_of_tape {l l' : Loop δ} {e : Effect δ} (grown : l'.tape = l.tape ++ [e])
    (silent : e.notice? = none) : l'.notices = l.notices := by
  simp [notices, grown, silent]

/-- Set a timer in place of an earlier one. -/
def replace (l : Loop δ) (old : Option TimerId) (timer : TimerId) (wait : Wait δ) : Loop δ :=
  (old.elim l l.unschedule).schedule timer wait

@[simp]
theorem point?_replace (l : Loop δ) (old : Option TimerId) (timer : TimerId) (wait : Wait δ)
    (task : TaskId) : (l.replace old timer wait).point? task = l.point? task := by
  cases old <;> rfl

@[simp]
theorem mem_timers_replace (l : Loop δ) (old : Option TimerId) (timer : TimerId) (wait : Wait δ)
    (other : TimerId) : other ∈ (l.replace old timer wait).timers ↔
      other = timer ∨ other ∈ l.timers ∧ old ≠ some other := by
  cases old with
  | none => simp [replace]
  | some gone => simp [replace, eq_comm]

theorem tape_replace (l : Loop δ) (old : Option TimerId) (timer : TimerId) (wait : Wait δ) :
    (l.replace old timer wait).tape =
      l.tape ++ (old.map Effect.unschedule).toList ++ [.schedule timer wait] := by
  cases old <;> simp [replace]

theorem notices_replace (l : Loop δ) (old : Option TimerId) (timer : TimerId) (wait : Wait δ) :
    (l.replace old timer wait).notices = l.notices := by
  cases old <;> simp [notices, tape_replace, Effect.notice?]

/-- The second loop comes after the first, the listeners were told `news` in between, and the
same tasks and timers steer on both. -/
structure Keeps (l : Loop δ) (news : List Notice) (l' : Loop δ) : Prop where
  points : ∀ task, task.steers = true → l'.point? task = l.point? task
  timers : ∀ timer, timer.steers = true → (timer ∈ l'.timers ↔ timer ∈ l.timers)
  cancelled : ∀ task, task.steers = true → (l'.Cancelled task ↔ l.Cancelled task)
  tape : l.tape ⊆ l'.tape
  notices : l'.notices = l.notices ++ news

namespace Keeps

theorem refl (l : Loop δ) : l.Keeps [] l where
  points _ _ := rfl
  timers _ _ := Iff.rfl
  cancelled _ _ := Iff.rfl
  tape _ mem := mem
  notices := (List.append_nil _).symm

theorem trans {l l' l'' : Loop δ} {news later : List Notice} (first : l.Keeps news l')
    (second : l'.Keeps later l'') : l.Keeps (news ++ later) l'' where
  points task steers := (second.points task steers).trans (first.points task steers)
  timers timer steers := (second.timers timer steers).trans (first.timers timer steers)
  cancelled task steers := (second.cancelled task steers).trans (first.cancelled task steers)
  tape := List.Subset.trans first.tape second.tape
  notices := by rw [second.notices, first.notices, List.append_assoc]

/-- A silent step after another. -/
theorem after {l l' l'' : Loop δ} {news : List Notice} (first : l.Keeps news l')
    (second : l'.Keeps [] l'') : l.Keeps news l'' := by
  simpa using first.trans second

/-- Writing an effect that cancels nothing changes no task and no timer. -/
theorem emit (l : Loop δ) (e : Effect δ) (harmless : ∀ task, e ≠ .cancel task) :
    l.Keeps e.notice?.toList (l.emit e) where
  points _ _ := rfl
  timers _ _ := Iff.rfl
  cancelled task _ := cancelled_emit (harmless task)
  tape := by simp
  notices := notices_emit l e

/-- An effect that neither cancels nor tells the listeners anything. -/
theorem silent (l : Loop δ) (e : Effect δ) (quiet : e.notice? = none)
    (harmless : ∀ task, e ≠ .cancel task) : l.Keeps [] (l.emit e) := by
  have written := emit l e harmless
  rwa [quiet] at written

/-- A journal record steers nothing. -/
theorem journal (l : Loop δ) (r : Journal.Record) : l.Keeps [] (l.emit (.journal r)) :=
  silent l _ rfl nofun

theorem suspend (l : Loop δ) (task : TaskId) (point : Point) (inner : task.steers = false) :
    l.Keeps [] (l.suspend task point) where
  points other steers := by
    rw [point?_suspend, if_neg]
    rintro rfl
    simp [inner] at steers
  timers _ _ := Iff.rfl
  cancelled _ _ := Iff.rfl
  tape _ mem := mem
  notices := (List.append_nil _).symm

theorem spawn (l : Loop δ) (task : TaskId) (point : Point) (inner : task.steers = false) :
    l.Keeps [] (l.spawn task point) :=
  (suspend l task point inner).after (silent _ _ rfl nofun)

theorem finish (l : Loop δ) (task : TaskId) (how : Finish) (inner : task.steers = false) :
    l.Keeps [] (l.finish task how) where
  points other steers := by
    rw [point?_finish, if_neg]
    rintro rfl
    simp [inner] at steers
  timers _ _ := Iff.rfl
  cancelled other _ := cancelled_emit (by simp)
  tape := by simp
  notices := by rw [notices_of_tape (tape_finish l task how) rfl, List.append_nil]

theorem schedule (l : Loop δ) (timer : TimerId) (wait : Wait δ) (inner : timer.steers = false) :
    l.Keeps [] (l.schedule timer wait) where
  points _ _ := rfl
  timers other steers := by
    rw [timers_schedule, List.mem_cons, or_iff_right]
    rintro rfl
    simp [inner] at steers
  cancelled _ _ := cancelled_emit (by simp)
  tape := by simp
  notices := by rw [notices_of_tape (tape_schedule l timer wait) rfl, List.append_nil]

theorem expire (l : Loop δ) (timer : TimerId) (inner : timer.steers = false) :
    l.Keeps [] (l.expire timer) where
  points _ _ := rfl
  timers other steers := by
    rw [mem_timers_expire, and_iff_left]
    rintro rfl
    simp [inner] at steers
  cancelled _ _ := Iff.rfl
  tape _ mem := mem
  notices := (List.append_nil _).symm

end Keeps

/-- Of the tasks that steer, only `task` went on or ended between two loops, and none was
cancelled. -/
structure Moves (l : Loop δ) (task : TaskId) (l' : Loop δ) : Prop where
  points : ∀ other, other.steers = true → other ≠ task → l'.point? other = l.point? other
  cancelled : ∀ other, other.steers = true → (l'.Cancelled other ↔ l.Cancelled other)
  tape : l.tape ⊆ l'.tape

namespace Moves

theorem trans {l l' l'' : Loop δ} {task : TaskId} (first : l.Moves task l')
    (second : l'.Moves task l'') : l.Moves task l'' where
  points other steers different :=
    (second.points other steers different).trans (first.points other steers different)
  cancelled other steers := (second.cancelled other steers).trans (first.cancelled other steers)
  tape := List.Subset.trans first.tape second.tape

/-- Where the same things steer, no task moved. -/
theorem ofKeeps {l l' : Loop δ} {news : List Notice} (keeps : l.Keeps news l') (task : TaskId) :
    l.Moves task l' where
  points other steers _ := keeps.points other steers
  cancelled := keeps.cancelled
  tape := keeps.tape

theorem suspend (l : Loop δ) (task : TaskId) (point : Point) :
    l.Moves task (l.suspend task point) where
  points other _ different := by rw [point?_suspend, if_neg different]
  cancelled _ _ := Iff.rfl
  tape _ mem := mem

theorem spawn (l : Loop δ) (task : TaskId) (point : Point) : l.Moves task (l.spawn task point) :=
  (suspend l task point).trans (ofKeeps (.silent _ (.spawn task) rfl nofun) task)

theorem finish (l : Loop δ) (task : TaskId) (how : Finish) : l.Moves task (l.finish task how) where
  points other _ different := by rw [point?_finish, if_neg different]
  cancelled _ _ := cancelled_emit (by simp)
  tape := by simp

theorem expire (l : Loop δ) (task : TaskId) (timer : TimerId) : l.Moves task (l.expire timer) where
  points _ _ _ := rfl
  cancelled _ _ := Iff.rfl
  tape _ mem := mem

theorem unschedule (l : Loop δ) (task : TaskId) (timer : TimerId) :
    l.Moves task (l.unschedule timer) where
  points _ _ _ := rfl
  cancelled _ _ := cancelled_emit (by simp)
  tape := by simp

theorem schedule (l : Loop δ) (task : TaskId) (timer : TimerId) (wait : Wait δ) :
    l.Moves task (l.schedule timer wait) where
  points _ _ _ := rfl
  cancelled _ _ := cancelled_emit (by simp)
  tape := by simp

theorem replace (l : Loop δ) (task : TaskId) (old : Option TimerId) (timer : TimerId)
    (wait : Wait δ) : l.Moves task (l.replace old timer wait) := by
  cases old with
  | none => exact schedule l task timer wait
  | some gone => exact (unschedule l task gone).trans (schedule _ task timer wait)

end Moves

/-- The second loop comes after the first, the listeners were told `news` in between, and
whatever steers on the second steered on the first already. -/
structure Wanes (l : Loop δ) (news : List Notice) (l' : Loop δ) : Prop where
  points : ∀ task point, task.steers = true → l'.point? task = some point →
    l.point? task = some point ∨ point = .doomed ∧ l.isLive task = true
  timers : ∀ timer, timer.steers = true → timer ∈ l'.timers → timer ∈ l.timers
  cancelled : ∀ task, task.steers = true → l'.Cancelled task →
    l.Cancelled task ∨ l.isLive task = true
  tape : l.tape ⊆ l'.tape
  notices : l'.notices = l.notices ++ news

/-- Where the same things steer, nothing new does. -/
theorem Keeps.wanes {l l' : Loop δ} {news : List Notice} (keeps : l.Keeps news l') :
    l.Wanes news l' where
  points task point steers live := .inl (by rw [← keeps.points task steers, live])
  timers timer steers := (keeps.timers timer steers).mp
  cancelled task steers cancelled := .inl ((keeps.cancelled task steers).mp cancelled)
  tape := keeps.tape
  notices := keeps.notices

namespace Wanes

theorem refl (l : Loop δ) : l.Wanes [] l :=
  (Keeps.refl l).wanes

/-- A task that steers on the later loop steered on the earlier, where it waited at the same
point unless it was cancelled before its first step. -/
theorem earlier {l l' : Loop δ} {news : List Notice} (wanes : l.Wanes news l') {task : TaskId}
    {point : Point} (steers : task.steers = true) (here : l'.point? task = some point) :
    ∃ earlier, l.point? task = some earlier ∧ (point = earlier ∨ point = .doomed) := by
  rcases wanes.points task point steers here with before | ⟨doomed, live⟩
  · exact ⟨point, before, .inl rfl⟩
  · obtain ⟨earlier, before⟩ := Option.isSome_iff_exists.mp live
    exact ⟨earlier, before, .inr doomed⟩

theorem live {l l' : Loop δ} {news : List Notice} (wanes : l.Wanes news l') {task : TaskId}
    (steers : task.steers = true) (live : l'.isLive task = true) : l.isLive task = true := by
  obtain ⟨point, here⟩ := Option.isSome_iff_exists.mp live
  obtain ⟨earlier, before, -⟩ := wanes.earlier steers here
  rw [isLive, before, Option.isSome_some]

theorem trans {l l' l'' : Loop δ} {news later : List Notice} (first : l.Wanes news l')
    (second : l'.Wanes later l'') : l.Wanes (news ++ later) l'' where
  points task point steers here := by
    rcases second.points task point steers here with before | ⟨doomed, before⟩
    · exact first.points task point steers before
    · exact .inr ⟨doomed, first.live steers before⟩
  timers timer steers here := first.timers timer steers (second.timers timer steers here)
  cancelled task steers cancelled := by
    rcases second.cancelled task steers cancelled with before | live
    · exact first.cancelled task steers before
    · exact .inr (first.live steers live)
  tape := List.Subset.trans first.tape second.tape
  notices := by rw [second.notices, first.notices, List.append_assoc]

/-- A silent step after another. -/
theorem after {l l' l'' : Loop δ} {news : List Notice} (first : l.Wanes news l')
    (second : l'.Wanes [] l'') : l.Wanes news l'' := by
  simpa using first.trans second

/-- A silent step before another. -/
theorem before {l l' l'' : Loop δ} {news : List Notice} (second : l'.Wanes news l'')
    (first : l.Wanes [] l') : l.Wanes news l'' :=
  first.trans second

theorem cancel (l : Loop δ) (task : TaskId) : l.Wanes [] (l.cancel task) where
  points other point _ here := by
    rw [point?_cancel] at here
    by_cases same : other = task
    · subst same
      rw [if_pos rfl] at here
      cases before : l.point? other with
      | none => simp [before] at here
      | some start =>
        by_cases begun : start.isStart = true
        · exact .inr ⟨by simpa [before, begun] using here.symm, by rw [isLive, before]; rfl⟩
        · exact .inl (by simpa [before, begun] using here)
    · rw [if_neg same] at here
      exact .inl here
  timers _ _ here := by rwa [timers_cancel] at here
  cancelled other _ cancelled := by
    rcases (cancelled_cancel l task other).mp cancelled with before | ⟨rfl, live⟩
    · exact .inl before
    · exact .inr live
  tape := by
    rw [tape_cancel]
    split <;> simp
  notices := by
    rw [Loop.notices, tape_cancel]
    split <;> simp [Loop.notices, Effect.notice?]

theorem finish (l : Loop δ) (task : TaskId) (how : Finish) : l.Wanes [] (l.finish task how) where
  points other point _ here := by
    rw [point?_finish] at here
    split at here
    · cases here
    · exact .inl here
  timers _ _ here := here
  cancelled _ _ cancelled := .inl ((cancelled_emit (by simp)).mp cancelled)
  tape := by simp
  notices := by rw [notices_of_tape (tape_finish l task how) rfl, List.append_nil]

theorem unschedule (l : Loop δ) (timer : TimerId) : l.Wanes [] (l.unschedule timer) where
  points _ _ _ here := .inl here
  timers _ _ here := ((mem_timers_unschedule _ _ _).mp here).1
  cancelled _ _ cancelled := .inl ((cancelled_emit (by simp)).mp cancelled)
  tape := by simp
  notices := by rw [notices_of_tape (tape_unschedule l timer) rfl, List.append_nil]

theorem expire (l : Loop δ) (timer : TimerId) : l.Wanes [] (l.expire timer) where
  points _ _ _ here := .inl here
  timers _ _ here := ((mem_timers_expire _ _ _).mp here).1
  cancelled _ _ cancelled := .inl cancelled
  tape _ mem := mem
  notices := (List.append_nil _).symm

/-- Cancelling a list of tasks. -/
theorem cancelAll (tasks : List TaskId) (l : Loop δ) :
    l.Wanes [] (tasks.foldl (fun l task => l.cancel task) l) := by
  induction tasks generalizing l with
  | nil => exact refl l
  | cons task rest ih => exact (ih (l.cancel task)).before (cancel l task)

end Wanes

end Loop

end SensorLink.Link
