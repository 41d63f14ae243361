/-
# Relations that everything keeps

Whoever owns a link goes by little of what it holds: the machine, the sessions, how
many ingestions there are, the tasks that steer the connection, and the timers.  All
else is only passed on to a few operations.  A relation between links that shows the
owner no difference, and that each of these operations keeps, is a congruence.
Reports never break it.  That two links differ in reports alone is one.
-/

import SensorLink.Proofs.Ingestion.Likeness
import SensorLink.Proofs.Loop.Steering

namespace SensorLink

namespace Link

open Gatt (Ending HandleMap)
open Sensor (Kind)

variable {δ : Type}

/-- A relation between links that shows the supervisor no difference, that no report breaks, and
that everything the supervisor does to its link keeps. -/
class Congruence (R : Link δ → Link δ → Prop) : Prop where
  machine {l l' : Link δ} : R l l' → l'.machine = l.machine
  sessions {l l' : Link δ} : R l l' → l'.sessions = l.sessions
  length {l l' : Link δ} : R l l' → l'.ingestions.length = l.ingestions.length
  timers {l l' : Link δ} : R l l' → l'.loop.timers = l.loop.timers
  point? {l l' : Link δ} {task : TaskId} : R l l' → task.steers = true →
    l'.loop.point? task = l.loop.point? task
  reported {l l' m m' : Link δ} : R l l' → l.Alike m → l'.Alike m' → R m m'
  emit {l l' : Link δ} (e : Effect δ) : R l l' → R (l.emit e) (l'.emit e)
  suspend {l l' : Link δ} {task : TaskId} (point : Point) : R l l' → task.steers = true →
    R (l.onLoop (·.suspend task point)) (l'.onLoop (·.suspend task point))
  finish {l l' : Link δ} {task : TaskId} (how : Finish) : R l l' → task.steers = true →
    R (l.onLoop (·.finish task how)) (l'.onLoop (·.finish task how))
  cancel {l l' : Link δ} {task : TaskId} : R l l' → task.steers = true →
    R (l.onLoop (·.cancel task)) (l'.onLoop (·.cancel task))
  schedule {l l' : Link δ} (timer : TimerId) (wait : Wait δ) : R l l' →
    R (l.onLoop (·.schedule timer wait)) (l'.onLoop (·.schedule timer wait))
  unschedule {l l' : Link δ} (timer : TimerId) : R l l' →
    R (l.onLoop (·.unschedule timer)) (l'.onLoop (·.unschedule timer))
  expire {l l' : Link δ} (timer : TimerId) : R l l' →
    R (l.onLoop (·.expire timer)) (l'.onLoop (·.expire timer))
  setMachine {l l' : Link δ} (machine : Connection.Machine Nat) : R l l' →
    R { l with machine } { l' with machine }
  setSessions {l l' : Link δ} (sessions : List Session) : R l l' →
    R { l with sessions } { l' with sessions }
  setConnected {l l' : Link δ} (connected : Bool) : R l l' →
    R { l with store := l.store.setConnected connected }
      { l' with store := l'.store.setConnected connected }
  create {l l' : Link δ} (mode : Mode δ) (session generation : Nat) (handles : HandleMap) :
    R l l' →
    R { l with ingestions := l.ingestions ++ [.create mode session generation handles] }
      { l' with ingestions := l'.ingestions ++ [.create mode session generation handles] }
  arm {l l' : Link δ} (cfg : Settings δ) (threshold : Journal.Level) (i : Nat) : R l l' →
    R (l.arm cfg i) (l'.arm (cfg.keeping threshold) i)
  disarm {l l' : Link δ} (i : Nat) : R l l' → R (l.disarm i) (l'.disarm i)
  tick {l l' : Link δ} (cfg : Settings δ) (threshold : Journal.Level) (i : Nat) : R l l' →
    R (l.tick cfg i) (l'.tick (cfg.keeping threshold) i)

namespace Congruence

variable {R : Link δ → Link δ → Prop} [Congruence R] {l l' : Link δ}

/-- A record of any text and any level on either. -/
theorem record (related : R l l') (cfg cfg' : Settings δ) (r r' : Journal.Record) :
    R (l.record cfg r) (l'.record cfg' r') :=
  reported related (.recorded l cfg r) (.recorded l' cfg' r')

theorem transition (related : R l l') (cfg cfg' : Settings δ) (target : Connection.State)
    (session : Option Nat) :
    R (l.transition cfg target session) (l'.transition cfg' target session) := by
  have machines (l : Link δ) (cfg : Settings δ) (r : Journal.Record) :
      (l.record cfg r).machine = l.machine := by
    obtain ⟨loop, -, said⟩ := Alike.recorded l cfg r
    rw [said]
  unfold Link.transition
  dsimp only
  rw [machines, machines, machine related]
  exact setMachine _ (record related cfg cfg' _ _)

theorem isReleased (related : R l l') (session : Nat) :
    l'.isReleased session = l.isReleased session := by
  rw [Link.isReleased, sessions related, ← Link.isReleased]

theorem release (related : R l l') (session : Nat) :
    R (l.release session) (l'.release session) := by
  unfold Link.release
  rw [sessions related]
  exact setSessions _ related

theorem spawn {task : TaskId} (related : R l l') (point : Point) (steers : task.steers = true) :
    R (l.onLoop (·.spawn task point)) (l'.onLoop (·.spawn task point)) :=
  emit (.spawn task) (suspend point related steers)

theorem request {task : TaskId} (related : R l l') (session : Nat) (call : Gatt.Call)
    (point : Point) (steers : task.steers = true) :
    R (l.request task session call point) (l'.request task session call point) :=
  emit (.request task session call) (suspend point related steers)

end Congruence

/-- The tasks that work for a kind keep a relation between links. -/
structure Congruence.Works (R : Link δ → Link δ → Prop) (cfg : Settings δ)
    (threshold : Journal.Level) (env env' : Surroundings) (kind : Kind) : Prop where
  finish {l l' : Link δ} {task : TaskId} (how : Finish) : R l l' → task.kind? = some kind →
    R (l.onLoop (·.finish task how)) (l'.onLoop (·.finish task how))
  beginSubscription {l l' : Link δ} (i round session : Nat) (handle : Option Int) : R l l' →
    R (l.beginSubscription cfg i kind round session handle)
      (l'.beginSubscription (cfg.keeping threshold) i kind round session handle)
  resumeSubscription {l l' : Link δ} (i round : Nat) (handle : Option Int) (ending : Ending) :
    R l l' →
    R (l.resumeSubscription cfg i kind round handle ending)
      (l'.resumeSubscription (cfg.keeping threshold) i kind round handle ending)
  beginRead {l l' : Link δ} (i tick session : Nat) (handle : Option Int) : R l l' →
    R (l.beginRead cfg env i kind tick session handle)
      (l'.beginRead (cfg.keeping threshold) env' i kind tick session handle)
  resumeRead {l l' : Link δ} (i tick : Nat) (handle : Option Int) (ending : Ending) : R l l' →
    R (l.resumeRead cfg env i kind tick handle ending)
      (l'.resumeRead (cfg.keeping threshold) env' i kind tick handle ending)

instance : Congruence (Alike : Link δ → Link δ → Prop) where
  machine alike := by
    obtain ⟨loop, -, rfl⟩ := alike
    rfl
  sessions alike := by
    obtain ⟨loop, -, rfl⟩ := alike
    rfl
  length alike := congrArg List.length alike.ingestions
  timers alike := by
    obtain ⟨loop, alike, rfl⟩ := alike
    exact alike.timers
  point? alike _ := by
    obtain ⟨loop, alike, rfl⟩ := alike
    exact alike.point? _
  reported alike here there := (here.symm.trans alike).trans there
  emit e alike := alike.emit e
  suspend point alike _ := alike.onLoop (·.suspend _ point)
  finish how alike _ := alike.onLoop (·.finish _ how)
  cancel alike _ := alike.onLoop (·.cancel _)
  schedule timer wait alike := alike.onLoop (·.schedule timer wait)
  unschedule timer alike := alike.onLoop (·.unschedule timer)
  expire timer alike := alike.onLoop (·.expire timer)
  setMachine machine alike := by
    obtain ⟨loop, alike, rfl⟩ := alike
    exact ⟨loop, alike, rfl⟩
  setSessions sessions alike := by
    obtain ⟨loop, alike, rfl⟩ := alike
    exact ⟨loop, alike, rfl⟩
  setConnected connected alike := by
    obtain ⟨loop, alike, rfl⟩ := alike
    exact ⟨loop, alike, rfl⟩
  create mode session generation handles alike := by
    obtain ⟨loop, alike, rfl⟩ := alike
    exact ⟨loop, alike, rfl⟩
  arm cfg threshold i alike := alike.arm cfg threshold i
  disarm i alike := alike.disarm i
  tick cfg threshold i alike := alike.tick cfg threshold i

/-- All work keeps links alike. -/
theorem Alike.works (cfg : Settings δ) (threshold : Journal.Level)
    {env env' : Surroundings} (kind : Kind) :
    Congruence.Works Alike cfg threshold env env' kind where
  finish how alike _ := alike.onLoop (·.finish _ how)
  beginSubscription i round session handle alike :=
    alike.beginSubscription cfg threshold i kind round session handle
  resumeSubscription i round handle ending alike :=
    alike.resumeSubscription cfg threshold i kind round handle ending
  beginRead i tick session handle alike :=
    alike.beginRead cfg threshold i kind tick session handle
  resumeRead i tick handle ending alike :=
    alike.resumeRead cfg threshold i kind tick handle ending

end Link

end SensorLink
