/-
# Loops that differ in their reports

A journal record, and the failure that left a callback, are reports: they tell
an operator what happened, and nobody acts on them.  All other effects are acts.
Two loops are alike if they have the same tasks and timers and the same acts, in
the same order, were written to their tapes.  Every operation of the loop keeps
loops alike, and a report on one of them alone does so too.
-/

import SensorLink.Link.Loop

namespace SensorLink.Link

variable {δ : Type}

/-- Whether an effect only tells an operator what happened. -/
def Effect.reports : Effect δ → Bool
  | journal _ | escaped _ => true
  | _ => false

namespace Loop

/-- All effects but the reports. -/
def acts (l : Loop δ) : List (Effect δ) :=
  l.tape.filter (!·.reports)

theorem acts_emit (l : Loop δ) (e : Effect δ) :
    (l.emit e).acts = if e.reports then l.acts else l.acts ++ [e] := by
  rw [acts, emit, List.filter_append]
  cases told : e.reports with
  | true => simp [acts, told]
  | false => simp [acts, told]

/-- Nothing but reports tells two loops apart. -/
structure Alike (l l' : Loop δ) : Prop where
  tasks : l'.tasks = l.tasks
  timers : l'.timers = l.timers
  acts : l'.acts = l.acts

namespace Alike

variable {l l' : Loop δ}

theorem refl (l : Loop δ) : l.Alike l where
  tasks := rfl
  timers := rfl
  acts := rfl

theorem symm (alike : l.Alike l') : l'.Alike l where
  tasks := alike.tasks.symm
  timers := alike.timers.symm
  acts := alike.acts.symm

theorem trans {l'' : Loop δ} (first : l.Alike l') (second : l'.Alike l'') : l.Alike l'' where
  tasks := second.tasks.trans first.tasks
  timers := second.timers.trans first.timers
  acts := second.acts.trans first.acts

/-- A report on one loop alone. -/
theorem report (l : Loop δ) {e : Effect δ} (reports : e.reports = true) : l.Alike (l.emit e) where
  tasks := rfl
  timers := rfl
  acts := by rw [acts_emit, if_pos reports]

theorem point? (alike : l.Alike l') (task : TaskId) : l'.point? task = l.point? task :=
  congrArg (·.lookup task) alike.tasks

theorem emit (alike : l.Alike l') (e : Effect δ) : (l.emit e).Alike (l'.emit e) where
  tasks := alike.tasks
  timers := alike.timers
  acts := by rw [acts_emit, acts_emit, alike.acts]

theorem suspend (alike : l.Alike l') (task : TaskId) (point : Point) :
    (l.suspend task point).Alike (l'.suspend task point) where
  tasks := congrArg ((task, point) :: ·) (congrArg (List.filter (·.1 != task)) alike.tasks)
  timers := alike.timers
  acts := alike.acts

theorem spawn (alike : l.Alike l') (task : TaskId) (point : Point) :
    (l.spawn task point).Alike (l'.spawn task point) :=
  (alike.suspend task point).emit _

theorem finish (alike : l.Alike l') (task : TaskId) (how : Finish) :
    (l.finish task how).Alike (l'.finish task how) := by
  apply emit
  exact ⟨congrArg (List.filter (·.1 != task)) alike.tasks, alike.timers, alike.acts⟩

theorem cancel (alike : l.Alike l') (task : TaskId) :
    (l.cancel task).Alike (l'.cancel task) := by
  unfold Loop.cancel
  rw [alike.point?]
  split
  · exact alike
  · apply emit
    split
    · exact alike.suspend task .doomed
    · exact alike

theorem schedule (alike : l.Alike l') (timer : TimerId) (wait : Wait δ) :
    (l.schedule timer wait).Alike (l'.schedule timer wait) := by
  apply emit
  exact ⟨alike.tasks, congrArg (timer :: ·) alike.timers, alike.acts⟩

theorem expire (alike : l.Alike l') (timer : TimerId) :
    (l.expire timer).Alike (l'.expire timer) where
  tasks := alike.tasks
  timers := congrArg (List.filter (· != timer)) alike.timers
  acts := alike.acts

theorem unschedule (alike : l.Alike l') (timer : TimerId) :
    (l.unschedule timer).Alike (l'.unschedule timer) :=
  (alike.expire timer).emit _

end Alike

end Loop

end SensorLink.Link
