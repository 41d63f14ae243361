/-
# What leaves a polling ingestion alone

A polling ingestion has its ticks and its reads on the loop.  Other tasks may come and
go there, and other timers, and any task may be cancelled, which ends none.  The other
ingestions work on what is their own, so all that they do spares it.
-/

import SensorLink.Proofs.Ingestion.Attendance

namespace SensorLink

namespace Link

open Gatt (Call Ending Entry HandleMap)
open Sensor (Kind)

variable {δ : Type} {cfg : Settings δ} {l l' : Link δ} {i j : Nat} {task : TaskId}
  {timer : TimerId}

/-- The creation of a task that reads for no other ingestion issues no read. -/
theorem Effect.issue?_spawn (other : ∀ kind n, task ≠ .read i kind n) :
    (.spawn task : Effect δ).issue? i = none := by
  cases task with
  | read j kind n => exact if_neg fun same => other kind n (by rw [same])
  | _ => rfl

namespace Loop

/-- A timer that is no tick of an ingestion is gone from the loop. -/
theorem pendingTicks_filter_of_other {l l' : Loop δ} (other : timer.tick? i = none)
    (gone : l'.timers = l.timers.filter (· != timer)) : l'.pendingTicks i = l.pendingTicks i := by
  rw [pendingTicks, gone, List.filterMap_filter, pendingTicks]
  refine congrArg (List.filterMap · l.timers) (funext fun t => ?_)
  by_cases same : t = timer
  · simp [same, other]
  · simp [same]

theorem pendingTicks_cancel (l : Loop δ) (task : TaskId) (i : Nat) :
    (l.cancel task).pendingTicks i = l.pendingTicks i :=
  pendingTicks_congr (timers_cancel l task) i

/-- A task that is cancelled goes on to its end. -/
theorem isLive_cancel (l : Loop δ) (task other : TaskId) :
    (l.cancel task).isLive other = l.isLive other := by
  rw [isLive, point?_cancel]
  split
  · rename_i same
    rw [same, Option.isSome_map, isLive]
  · rfl

end Loop

namespace Spares

/-- The loop changes, but for what it keeps of the ingestion. -/
theorem onLoop (l : Link δ) {f : Loop δ → Loop δ}
    (ticks : (f l.loop).pendingTicks i = l.loop.pendingTicks i)
    (reads : ∀ kind n, (f l.loop).isLive (.read i kind n) = l.loop.isLive (.read i kind n))
    (issued : (f l.loop).issued i = l.loop.issued i) (tape : l.loop.tape ⊆ (f l.loop).tape) :
    Spares i l (l.onLoop f) where
  ingestion g found := ⟨g.malformed, found⟩
  ticks := ticks
  reads := reads
  issued := issued
  tape := tape

/-- A task goes on that does not read for the ingestion. -/
theorem suspend (l : Link δ) (point : Point) (other : ∀ kind n, task ≠ .read i kind n) :
    Spares i l (l.onLoop (·.suspend task point)) := by
  refine onLoop l rfl (fun kind n => ?_) (Loop.issued_suspend ..) (List.Subset.refl _)
  rw [Loop.isLive, Loop.point?_suspend, if_neg (other kind n).symm, Loop.isLive]

theorem spawn (l : Link δ) (point : Point) (other : ∀ kind n, task ≠ .read i kind n) :
    Spares i l (l.onLoop (·.spawn task point)) :=
  (suspend l point other).trans (emit _ (Effect.issue?_spawn other))

theorem await (l : Link δ) (session : Nat) (call : Call) (point : Point)
    (other : ∀ kind n, task ≠ .read i kind n) : Spares i l (l.request task session call point) :=
  (suspend l point other).trans (emit _ rfl)

/-- A task ends that does not read for the ingestion. -/
theorem finish (l : Link δ) (how : Finish) (other : ∀ kind n, task ≠ .read i kind n) :
    Spares i l (l.onLoop (·.finish task how)) := by
  refine onLoop l rfl (fun kind n => ?_) (Loop.issued_finish ..) (List.subset_append_left _ _)
  rw [Loop.isLive, Loop.point?_finish, if_neg (other kind n).symm, Loop.isLive]

/-- A task is cancelled, whichever it is. -/
theorem cancel (i : Nat) (l : Link δ) (task : TaskId) : Spares i l (l.onLoop (·.cancel task)) :=
  onLoop l (Loop.pendingTicks_cancel ..) (fun _ _ => Loop.isLive_cancel ..)
    (Loop.issued_cancel ..) (Loop.Wanes.cancel l.loop task).tape

theorem cancelAll (i : Nat) (tasks : List TaskId) (l : Link δ) :
    Spares i l (tasks.foldl (fun l task => l.onLoop (·.cancel task)) l) := by
  induction tasks generalizing l with
  | nil => exact refl i l
  | cons task rest ih => exact (cancel i l task).trans (ih _)

theorem schedule (l : Link δ) (wait : Wait δ) (other : timer.tick? i = none) :
    Spares i l (l.onLoop (·.schedule timer wait)) := by
  refine onLoop l ?_ (fun _ _ => rfl) (Loop.issued_schedule ..) (List.subset_append_left _ _)
  rw [Loop.pendingTicks, Loop.timers_schedule, List.filterMap_cons, other, Loop.pendingTicks]

theorem unschedule (l : Link δ) (other : timer.tick? i = none) :
    Spares i l (l.onLoop (·.unschedule timer)) :=
  onLoop l (Loop.pendingTicks_filter_of_other other rfl) (fun _ _ => rfl)
    (Loop.issued_unschedule ..) (List.subset_append_left _ _)

/-- A timer goes off that is no tick of the ingestion. -/
theorem expire (l : Link δ) (other : timer.tick? i = none) :
    Spares i l (l.onLoop (·.expire timer)) :=
  onLoop l (Loop.pendingTicks_filter_of_other other rfl) (fun _ _ => rfl) rfl (List.Subset.refl _)

/-- Another ingestion changes. -/
theorem onOther (other : j ≠ i) (l : Link δ) (f : Ingestion δ → Ingestion δ) :
    Spares i l (l.onIngestion j f) where
  ingestion g found := by
    refine ⟨g.malformed, ?_⟩
    rw [Link.onIngestion, List.getElem?_modify, found]
    simp [other]
  ticks := rfl
  reads _ _ := rfl
  issued := rfl
  tape := List.Subset.refl _

/-- An ingestion is created. -/
theorem create (i : Nat) (l : Link δ) (g : Ingestion δ) :
    Spares i l { l with ingestions := l.ingestions ++ [g] } where
  ingestion g found := ⟨g.malformed, by
    rw [List.getElem?_append_left (List.getElem?_eq_some_iff.mp found).1]
    exact found⟩
  ticks := rfl
  reads _ _ := rfl
  issued := rfl
  tape := List.Subset.refl _

theorem foldl {ε : Type} {f : Link δ → ε → Link δ} (each : ∀ l e, Spares i l (f l e))
    (es : List ε) (l : Link δ) : Spares i l (es.foldl f l) := by
  induction es generalizing l with
  | nil => exact refl i l
  | cons e rest ih => exact (each l e).trans (ih (f l e))

/-- The tick of another ingestion. -/
theorem scheduleTick (other : j ≠ i) (l : Link δ) (wait : Wait δ) :
    Spares i l (l.scheduleTick j wait) := by
  unfold Link.scheduleTick
  split
  · exact (onOther other l _).trans (schedule _ wait (if_neg other))
  · exact refl i l

theorem arm (other : j ≠ i) (l : Link δ) (cfg : Settings δ) : Spares i l (l.arm cfg j) := by
  unfold Link.arm
  split
  · split
    · refine (onOther other l _).trans (foldl (fun l e => ?_) _ _)
      exact (noteHandle i l cfg _ _ _ _).trans (spawn _ _ nofun)
    · exact (onOther other l _).trans (scheduleTick other _ _)
  · exact refl i l

theorem pollEntry (other : j ≠ i) (l : Link δ) (cfg : Settings δ) (session tick : Nat)
    (p : Polling δ) (e : Entry) : Spares i l (l.pollEntry cfg j session tick p e) := by
  unfold Link.pollEntry
  split
  · exact note i l cfg _ _
  · exact (spawn l _ (by simp [other])).trans (onOther other _ _)

theorem pollOnce (other : j ≠ i) (l : Link δ) (cfg : Settings δ) (g : Ingestion δ)
    (p : Polling δ) : Spares i l (l.pollOnce cfg j g p) := by
  unfold Link.pollOnce
  split
  · exact foldl (fun l e => pollEntry other l cfg _ _ p e) _ l
  · exact note i l cfg _ _

theorem tick (other : j ≠ i) (l : Link δ) (cfg : Settings δ) : Spares i l (l.tick cfg j) := by
  unfold Link.tick
  split
  · split
    · dsimp only
      split
      · exact (((onOther other l _).trans (onOther other _ _)).trans
          (pollOnce other _ cfg _ _)).trans (scheduleTick other _ _)
      · exact onOther other l _
    · exact refl i l
  · exact refl i l

theorem completeRead (other : j ≠ i) (l : Link δ) (cfg : Settings δ) (env : Surroundings)
    (task : TaskId) (kind : Kind) (result : Option (Except Failure (List UInt8))) :
    Spares i l (l.completeRead cfg env j task kind result).1 := by
  have settled := onOther other l (Ingestion.settleRead kind task)
  unfold Link.completeRead
  dsimp only
  split
  · exact settled
  · split
    · exact settled
    · refine settled.trans ?_
      split
      · exact note i _ cfg _ _
      · split
        · split
          · exact note i _ cfg _ _
          · exact record i _ cfg _
        · exact ingest i j _ cfg env kind _

theorem beginRead (other : j ≠ i) (l : Link δ) (cfg : Settings δ) (env : Surroundings)
    (kind : Kind) (tick session : Nat) (handle : Option Int) :
    Spares i l (l.beginRead cfg env j kind tick session handle) := by
  have unread : ∀ kind' n, TaskId.read j kind tick ≠ .read i kind' n := by simp [other]
  unfold Link.beginRead
  dsimp only
  split
  · exact report ((finish l _ unread).trans (completeRead other _ cfg env _ kind _))
  · exact await l session _ _ unread

theorem resumeRead (other : j ≠ i) (l : Link δ) (cfg : Settings δ) (env : Surroundings)
    (kind : Kind) (tick : Nat) (handle : Option Int) (ending : Ending) :
    Spares i l (l.resumeRead cfg env j kind tick handle ending) :=
  report ((finish l _ (by simp [other])).trans (completeRead other _ cfg env _ kind _))

/-- A subscription ends, of whichever ingestion: one that polls has none. -/
theorem completeSubscription (polls : ∀ g, l.ingestions[i]? = some g → ∃ p, g.strategy = .poll p)
    (cfg : Settings δ) (j : Nat) (task : TaskId) (kind : Kind) (handle : Option Int)
    (result : Option (Except Failure (List UInt8))) :
    Spares i l (l.completeSubscription cfg j task kind handle result) := by
  have settled : Spares i l (l.onIngestion j (Ingestion.settleSubscription task)) := by
    by_cases other : j = i
    · subst other
      refine ⟨fun g found => ⟨g.malformed, ?_⟩, rfl, fun _ _ => rfl, rfl, List.Subset.refl _⟩
      obtain ⟨p, polling⟩ := polls g found
      have kept : g.settleSubscription task = g := by rw [Ingestion.settleSubscription, polling]
      rw [getElem?_onIngestion found, kept]
    · exact onOther other l _
  unfold Link.completeSubscription
  split
  · exact settled
  · exact settled.trans (note i _ cfg _ _)
  · split
    · exact settled.trans (noteHandle i _ cfg _ _ _ _)
    · exact settled.trans (record i _ cfg _)

theorem beginSubscription (polls : ∀ g, l.ingestions[i]? = some g → ∃ p, g.strategy = .poll p)
    (cfg : Settings δ) (j : Nat) (kind : Kind) (round session : Nat) (handle : Option Int) :
    Spares i l (l.beginSubscription cfg j kind round session handle) := by
  unfold Link.beginSubscription
  dsimp only
  split
  · exact trans (finish l .done (by simp))
      (completeSubscription (l := l.onLoop _) polls cfg j _ kind handle _)
  · exact await l session _ _ (by simp)

theorem resumeSubscription (polls : ∀ g, l.ingestions[i]? = some g → ∃ p, g.strategy = .poll p)
    (cfg : Settings δ) (j : Nat) (kind : Kind) (round : Nat) (handle : Option Int)
    (ending : Ending) : Spares i l (l.resumeSubscription cfg j kind round handle ending) :=
  trans (finish l .done (by simp))
    (completeSubscription (l := l.onLoop _) polls cfg j _ kind handle _)

/-- Another ingestion is disarmed, which takes its own timer back. -/
theorem disarm (other : j ≠ i) (owned : l.Owned) : Spares i l (l.disarm j) := by
  unfold Link.disarm
  split
  · rename_i g found
    dsimp only
    refine trans (trans ?_ (cancelAll i _ _)) (onOther other _ _)
    split
    · rename_i timer _ _ _ polls
      obtain ⟨n, rfl⟩ := ((Ingestion.Owned.of_poll polls).mp (owned j g found)).timer timer rfl
      exact unschedule l (if_neg other)
    · exact refl i l
  · exact refl i l

end Spares

end Link

end SensorLink
