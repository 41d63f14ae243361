/-
# Loops that differ in one kind

Some tasks and some effects are about a kind: its subscriptions and its reads, what
becomes of them, and its readings.  Two loops are alike but for a kind if they have
the same timers, and the same tasks and acts once those about the kind are left
out.  An operation on both loops keeps them so, and what is about the kind may
happen to one of them alone.
-/

import SensorLink.Proofs.Loop.Reports
import SensorLink.Proofs.Loop.Steering

namespace SensorLink.Link

open Sensor (Kind)

variable {δ : Type}

/-- The kind that an effect is about, if it is about one. -/
def Effect.kind? : Effect δ → Option Kind
  | request task _ _ | requestTree task _ | spawn task | cancel task | ended task _ => task.kind?
  | reading kind _ => some kind
  | journal _ | opened _ | refused | schedule .. | unschedule _ | ready | lost | escaped _ => none

namespace Loop

/-- The tasks that are not about a kind, and where they go on. -/
def tasksBut (l : Loop δ) (kind : Kind) : List (TaskId × Point) :=
  l.tasks.filter (·.1.kind? != some kind)

/-- The acts that are not about a kind. -/
def actsBut (l : Loop δ) (kind : Kind) : List (Effect δ) :=
  l.acts.filter (·.kind? != some kind)

theorem actsBut_emit (l : Loop δ) (e : Effect δ) (kind : Kind) :
    (l.emit e).actsBut kind =
      if e.reports = true ∨ e.kind? = some kind then l.actsBut kind else l.actsBut kind ++ [e] := by
  unfold actsBut
  rw [acts_emit]
  by_cases told : e.reports = true
  · simp [told]
  · by_cases own : e.kind? = some kind
    · simp [told, own]
    · simp [told, own]

/-- A task that is about the kind is left out anyway. -/
theorem tasksBut_drop (l : Loop δ) (task : TaskId) (kind : Kind) :
    (l.tasks.filter (·.1 != task)).filter (·.1.kind? != some kind) =
      if task.kind? = some kind then l.tasksBut kind
      else (l.tasksBut kind).filter (·.1 != task) := by
  unfold tasksBut
  rw [List.filter_filter, List.filter_filter]
  split
  · rename_i own
    apply List.filter_congr
    rintro ⟨other, _⟩ _
    by_cases same : other = task
    · simp [same, own]
    · simp [same]
  · simp only [Bool.and_comm]

theorem tasksBut_suspend (l : Loop δ) (task : TaskId) (point : Point) (kind : Kind) :
    (l.suspend task point).tasksBut kind =
      if task.kind? = some kind then l.tasksBut kind
      else (task, point) :: (l.tasksBut kind).filter (·.1 != task) := by
  rw [tasksBut, suspend]
  dsimp only
  by_cases own : task.kind? = some kind
  · rw [List.filter_cons_of_neg (by simp [own]), tasksBut_drop, if_pos own, if_pos own]
  · rw [List.filter_cons_of_pos (by simpa using own), tasksBut_drop, if_neg own, if_neg own]

theorem tasksBut_finish (l : Loop δ) (task : TaskId) (how : Finish) (kind : Kind) :
    (l.finish task how).tasksBut kind =
      if task.kind? = some kind then l.tasksBut kind
      else (l.tasksBut kind).filter (·.1 != task) :=
  l.tasksBut_drop task kind

theorem actsBut_finish (l : Loop δ) (task : TaskId) (how : Finish) (kind : Kind) :
    (l.finish task how).actsBut kind = (l.emit (.ended task how)).actsBut kind :=
  rfl

/-- A task that is not about the kind goes on where it goes on among those that are not. -/
theorem lookup_tasksBut (l : Loop δ) {task : TaskId} {kind : Kind}
    (other : task.kind? ≠ some kind) : (l.tasksBut kind).lookup task = l.point? task := by
  unfold tasksBut point?
  induction l.tasks with
  | nil => rfl
  | cons entry rest ih =>
    obtain ⟨first, point⟩ := entry
    rw [lookup_cons_eq_ite]
    by_cases same : task = first
    · subst same
      rw [List.filter_cons_of_pos (by simpa using other), lookup_cons_eq_ite, if_pos rfl,
        if_pos rfl]
    · rw [if_neg same, ← ih]
      by_cases own : first.kind? = some kind
      · rw [List.filter_cons_of_neg (by simp [own])]
      · rw [List.filter_cons_of_pos (by simpa using own), lookup_cons_eq_ite, if_neg same]

/-- Nothing but reports and what is about a kind tells two loops apart. -/
structure AlikeBut (kind : Kind) (l l' : Loop δ) : Prop where
  tasks : l'.tasksBut kind = l.tasksBut kind
  timers : l'.timers = l.timers
  acts : l'.actsBut kind = l.actsBut kind

namespace AlikeBut

variable {kind : Kind} {l l' : Loop δ}

theorem refl (kind : Kind) (l : Loop δ) : l.AlikeBut kind l where
  tasks := rfl
  timers := rfl
  acts := rfl

theorem symm (alike : l.AlikeBut kind l') : l'.AlikeBut kind l where
  tasks := alike.tasks.symm
  timers := alike.timers.symm
  acts := alike.acts.symm

theorem trans {l'' : Loop δ} (first : l.AlikeBut kind l') (second : l'.AlikeBut kind l'') :
    l.AlikeBut kind l'' where
  tasks := second.tasks.trans first.tasks
  timers := second.timers.trans first.timers
  acts := second.acts.trans first.acts

theorem of_alike (alike : l.Alike l') (kind : Kind) : l.AlikeBut kind l' where
  tasks := by rw [tasksBut, alike.tasks, ← tasksBut]
  timers := alike.timers
  acts := by rw [actsBut, alike.acts, ← actsBut]

theorem point? (alike : l.AlikeBut kind l') {task : TaskId} (other : task.kind? ≠ some kind) :
    l'.point? task = l.point? task := by
  rw [← lookup_tasksBut l' other, ← lookup_tasksBut l other, alike.tasks]

theorem emit (alike : l.AlikeBut kind l') (e : Effect δ) :
    (l.emit e).AlikeBut kind (l'.emit e) where
  tasks := alike.tasks
  timers := alike.timers
  acts := by rw [actsBut_emit, actsBut_emit, alike.acts]

theorem suspend (alike : l.AlikeBut kind l') (task : TaskId) (point : Point) :
    (l.suspend task point).AlikeBut kind (l'.suspend task point) where
  tasks := by rw [tasksBut_suspend, tasksBut_suspend, alike.tasks]
  timers := alike.timers
  acts := alike.acts

theorem spawn (alike : l.AlikeBut kind l') (task : TaskId) (point : Point) :
    (l.spawn task point).AlikeBut kind (l'.spawn task point) :=
  (alike.suspend task point).emit _

theorem finish (alike : l.AlikeBut kind l') (task : TaskId) (how : Finish) :
    (l.finish task how).AlikeBut kind (l'.finish task how) where
  tasks := by rw [tasksBut_finish, tasksBut_finish, alike.tasks]
  timers := alike.timers
  acts := by rw [actsBut_finish, actsBut_finish, actsBut_emit, actsBut_emit, alike.acts]

theorem cancel (alike : l.AlikeBut kind l') {task : TaskId} (other : task.kind? ≠ some kind) :
    (l.cancel task).AlikeBut kind (l'.cancel task) := by
  unfold Loop.cancel
  rw [alike.point? other]
  split
  · exact alike
  · apply emit
    split
    · exact alike.suspend task .doomed
    · exact alike

theorem schedule (alike : l.AlikeBut kind l') (timer : TimerId) (wait : Wait δ) :
    (l.schedule timer wait).AlikeBut kind (l'.schedule timer wait) := by
  apply emit
  exact ⟨alike.tasks, congrArg (timer :: ·) alike.timers, alike.acts⟩

theorem expire (alike : l.AlikeBut kind l') (timer : TimerId) :
    (l.expire timer).AlikeBut kind (l'.expire timer) where
  tasks := alike.tasks
  timers := congrArg (List.filter (· != timer)) alike.timers
  acts := alike.acts

theorem unschedule (alike : l.AlikeBut kind l') (timer : TimerId) :
    (l.unschedule timer).AlikeBut kind (l'.unschedule timer) :=
  (alike.expire timer).emit _

theorem emitOwn (l : Loop δ) {e : Effect δ} (own : e.kind? = some kind) :
    l.AlikeBut kind (l.emit e) where
  tasks := rfl
  timers := rfl
  acts := by rw [actsBut_emit, if_pos (.inr own)]

theorem suspendOwn (l : Loop δ) {task : TaskId} (point : Point) (own : task.kind? = some kind) :
    l.AlikeBut kind (l.suspend task point) where
  tasks := by rw [tasksBut_suspend, if_pos own]
  timers := rfl
  acts := rfl

theorem spawnOwn (l : Loop δ) {task : TaskId} (point : Point) (own : task.kind? = some kind) :
    l.AlikeBut kind (l.spawn task point) :=
  (suspendOwn l point own).trans (emitOwn _ own)

theorem finishOwn (l : Loop δ) {task : TaskId} (how : Finish) (own : task.kind? = some kind) :
    l.AlikeBut kind (l.finish task how) where
  tasks := by rw [tasksBut_finish, if_pos own]
  timers := rfl
  acts := by rw [actsBut_finish, actsBut_emit, if_pos (.inr own)]

theorem cancelOwn (l : Loop δ) {task : TaskId} (own : task.kind? = some kind) :
    l.AlikeBut kind (l.cancel task) := by
  unfold Loop.cancel
  split
  · exact refl kind l
  · refine trans ?_ (emitOwn _ own)
    split
    · exact suspendOwn l .doomed own
    · exact refl kind l

end AlikeBut

end Loop

end SensorLink.Link
