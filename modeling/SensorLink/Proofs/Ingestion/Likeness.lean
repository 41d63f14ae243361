/-
# Links that differ in their reports

Two links are alike if only reports on their loops tell them apart.  They stay
alike while the same things happen to them, even if the one keeps records that
the other does not, and even if the listeners fail on the one and not on the
other: what a failing listener leaves behind is a report, and a callback of an
ingestion has nothing left to do once it has called a listener.
-/

import SensorLink.Ingestion.Basic
import SensorLink.Proofs.Loop.Reports

namespace SensorLink

namespace Link

open Gatt (Ending Entry)
open Sensor (Kind)

variable {δ : Type}

/-- The same settings with another threshold of the journal. -/
def Settings.keeping (cfg : Settings δ) (threshold : Journal.Level) : Settings δ :=
  { cfg with threshold }

/-- The Bluetooth stack answers alike; the listeners may fail in one case and not in the other. -/
structure Surroundings.Agrees (env env' : Surroundings) : Prop where
  openClient : env'.openClient = env.openClient
  link : env'.link = env.link
  lookup : env'.lookup = env.lookup

/-- Nothing but reports tells two links apart. -/
def Alike (l l' : Link δ) : Prop :=
  ∃ loop, l.loop.Alike loop ∧ l' = { l with loop }

namespace Alike

variable {l l' : Link δ} {env env' : Surroundings}

theorem refl (l : Link δ) : l.Alike l :=
  ⟨l.loop, .refl _, rfl⟩

theorem symm (alike : l.Alike l') : l'.Alike l := by
  obtain ⟨loop, alike, rfl⟩ := alike
  exact ⟨l.loop, alike.symm, rfl⟩

theorem trans {l'' : Link δ} (first : l.Alike l') (second : l'.Alike l'') : l.Alike l'' := by
  obtain ⟨loop, alike, rfl⟩ := first
  obtain ⟨loop', alike', rfl⟩ := second
  exact ⟨loop', alike.trans alike', rfl⟩

/-- Two links that differ in their loops alone. -/
theorem of_loop {loop loop' : Loop δ} (l : Link δ) (alike : loop.Alike loop') :
    Alike { l with loop } { l with loop := loop' } :=
  ⟨loop', alike, rfl⟩

theorem ingestions (alike : l.Alike l') : l'.ingestions = l.ingestions := by
  obtain ⟨loop, -, rfl⟩ := alike
  rfl

theorem isReleased (alike : l.Alike l') (session : Nat) :
    l'.isReleased session = l.isReleased session := by
  obtain ⟨loop, -, rfl⟩ := alike
  rfl

theorem isStale (alike : l.Alike l') (g : Ingestion δ) : l'.isStale g = l.isStale g := by
  obtain ⟨loop, -, rfl⟩ := alike
  rfl

theorem recorded (l : Link δ) (cfg : Settings δ) (r : Journal.Record) :
    l.Alike (l.record cfg r) := by
  unfold Link.record
  split
  · exact ⟨_, .report l.loop rfl, rfl⟩
  · exact refl l

theorem reported (outcome : Link δ × Option Failure) :
    outcome.1.Alike (Link.report outcome) := by
  unfold Link.report
  split
  · exact ⟨_, .report outcome.1.loop rfl, rfl⟩
  · exact refl outcome.1

/-- A record of any text and any level on either. -/
theorem record (alike : l.Alike l') (cfg cfg' : Settings δ) (r r' : Journal.Record) :
    (l.record cfg r).Alike (l'.record cfg' r') :=
  ((recorded l cfg r).symm.trans alike).trans (recorded l' cfg' r')

theorem note (alike : l.Alike l') (cfg cfg' : Settings δ) (level : Journal.Level)
    (text : String) : (l.note cfg level text).Alike (l'.note cfg' level text) :=
  alike.record cfg cfg' _ _

theorem noteHandle (alike : l.Alike l') (cfg cfg' : Settings δ) (level : Journal.Level)
    (before : String) (handle : Option Int) (after : String) :
    (l.noteHandle cfg level before handle after).Alike
      (l'.noteHandle cfg' level before handle after) := by
  cases handle with
  | none => exact alike
  | some handle => exact alike.note cfg cfg' level _

/-- Whatever failure leaves a callback of an ingestion, and whether one does. -/
theorem report {outcome outcome' : Link δ × Option Failure} (alike : outcome.1.Alike outcome'.1) :
    (Link.report outcome).Alike (Link.report outcome') :=
  ((reported outcome).symm.trans alike).trans (reported outcome')

/-- An operation of the loop that keeps loops alike. -/
theorem onLoop (alike : l.Alike l') {f : Loop δ → Loop δ}
    (keeps : ∀ {loop loop'}, loop.Alike loop' → (f loop).Alike (f loop')) :
    (l.onLoop f).Alike (l'.onLoop f) := by
  obtain ⟨loop, alike, rfl⟩ := alike
  exact of_loop l (keeps alike)

theorem emit (alike : l.Alike l') (e : Effect δ) : (l.emit e).Alike (l'.emit e) :=
  alike.onLoop (·.emit e)

theorem onIngestion (alike : l.Alike l') (i : Nat) (f : Ingestion δ → Ingestion δ) :
    (l.onIngestion i f).Alike (l'.onIngestion i f) := by
  obtain ⟨loop, alike, rfl⟩ := alike
  exact of_loop (l.onIngestion i f) alike

theorem transition (alike : l.Alike l') (cfg cfg' : Settings δ) (target : Connection.State)
    (session : Option Nat) :
    (l.transition cfg target session).Alike (l'.transition cfg' target session) := by
  obtain ⟨loop, alike, rfl⟩ := alike
  obtain ⟨loop', alike', same⟩ := (Alike.of_loop l alike).record cfg cfg'
    (l.machine.transitionRecord target) (l.machine.transitionRecord target)
  unfold Link.transition
  rw [same]
  exact ⟨loop', alike', rfl⟩

theorem request (alike : l.Alike l') (task : TaskId) (session : Nat) (call : Gatt.Call)
    (point : Point) :
    (l.request task session call point).Alike (l'.request task session call point) :=
  alike.onLoop fun alike => (alike.suspend task point).emit _

/-- Something that happens once for every item of a list. -/
theorem foldl {α : Type} {f f' : Link δ → α → Link δ}
    (keeps : ∀ {l l'} a, Alike l l' → Alike (f l a) (f' l' a)) (as : List α)
    (alike : l.Alike l') : (as.foldl f l).Alike (as.foldl f' l') := by
  induction as generalizing l l' with
  | nil => exact alike
  | cons a rest ih => exact ih (keeps a alike)

theorem dropMalformed (alike : l.Alike l') (cfg : Settings δ) (threshold : Journal.Level)
    (i : Nat) (kind : Kind) (f : Failure) :
    (l.dropMalformed cfg i kind f).Alike (l'.dropMalformed (cfg.keeping threshold) i kind f) := by
  unfold Link.dropMalformed
  rw [alike.ingestions]
  apply onIngestion
  have noted := alike.note cfg (cfg.keeping threshold) .debug
    ("Dropping " ++ kind.name ++ " value: " ++ f.message)
  split
  · exact noted.note cfg (cfg.keeping threshold) .warning _
  · exact noted

/-- Once the value is stored and the listener called, nothing is left to do. -/
theorem ingest (alike : l.Alike l') (cfg : Settings δ) (threshold : Journal.Level) (i : Nat)
    (kind : Kind) (payload : List UInt8) :
    (l.ingest cfg env i kind payload).1.Alike
      (l'.ingest (cfg.keeping threshold) env' i kind payload).1 := by
  unfold Link.ingest
  cases kind.decode payload with
  | error f => exact alike.dropMalformed cfg threshold i kind f
  | ok value =>
    obtain ⟨loop, alike, rfl⟩ := alike
    have kept := of_loop (l.onIngestion i .forgetMalformed) alike
    dsimp only [Link.onIngestion]
    split
    · apply emit
      apply note
      exact ⟨loop, alike, rfl⟩
    · exact kept.note cfg _ .debug _

theorem subscribe (alike : l.Alike l') (cfg : Settings δ) (threshold : Journal.Level)
    (i session round : Nat) (e : Entry) :
    (l.subscribe cfg i session round e).Alike
      (l'.subscribe (cfg.keeping threshold) i session round e) :=
  (alike.noteHandle cfg _ .info _ _ _).onLoop (·.spawn _ _)

theorem armSubscriptions (alike : l.Alike l') (cfg : Settings δ) (threshold : Journal.Level)
    (i : Nat) (g : Ingestion δ) (s : Subscriptions) :
    (l.armSubscriptions cfg i g s).Alike
      (l'.armSubscriptions (cfg.keeping threshold) i g s) := by
  unfold Link.armSubscriptions
  apply foldl
  · intro l l' e alike
    exact alike.subscribe cfg threshold i g.session s.rounds e
  · exact alike.onIngestion i _

theorem completeSubscription (alike : l.Alike l') (cfg : Settings δ)
    (threshold : Journal.Level) (i : Nat) (task : TaskId) (kind : Kind) (handle : Option Int)
    (result : Option (Except Failure (List UInt8))) :
    (l.completeSubscription cfg i task kind handle result).Alike
      (l'.completeSubscription (cfg.keeping threshold) i task kind handle result) := by
  have settled := alike.onIngestion i (Ingestion.settleSubscription task)
  unfold Link.completeSubscription
  split
  · exact settled
  · exact settled.note cfg _ .debug _
  · split
    · exact settled.noteHandle cfg _ .warning _ _ _
    · exact settled.record cfg _ _ _

theorem beginSubscription (alike : l.Alike l') (cfg : Settings δ) (threshold : Journal.Level)
    (i : Nat) (kind : Kind) (round session : Nat) (handle : Option Int) :
    (l.beginSubscription cfg i kind round session handle).Alike
      (l'.beginSubscription (cfg.keeping threshold) i kind round session handle) := by
  unfold Link.beginSubscription
  rw [alike.isReleased]
  split
  · apply completeSubscription
    exact alike.onLoop (·.finish _ _)
  · exact alike.request _ _ _ _

theorem resumeSubscription (alike : l.Alike l') (cfg : Settings δ) (threshold : Journal.Level)
    (i : Nat) (kind : Kind) (round : Nat) (handle : Option Int) (ending : Ending) :
    (l.resumeSubscription cfg i kind round handle ending).Alike
      (l'.resumeSubscription (cfg.keeping threshold) i kind round handle ending) :=
  (alike.onLoop (·.finish _ _)).completeSubscription cfg threshold i _ kind handle _

/-- The same characteristic is found. -/
theorem lookUp (alike : l.Alike l') (agrees : env.Agrees env') (cfg : Settings δ)
    (threshold : Journal.Level) (session : Nat) (handle : Option Int) :
    (l.lookUp cfg env session handle).1.Alike
        (l'.lookUp (cfg.keeping threshold) env' session handle).1 ∧
      (l'.lookUp (cfg.keeping threshold) env' session handle).2 =
        (l.lookUp cfg env session handle).2 := by
  unfold Link.lookUp
  rw [alike.isReleased, agrees.lookup]
  split
  · exact ⟨alike, rfl⟩
  · refine ⟨?_, rfl⟩
    dsimp only
    split
    · exact alike.transition cfg _ .disconnected none
    · exact alike

theorem notified (alike : l.Alike l') (agrees : env.Agrees env') (cfg : Settings δ)
    (threshold : Journal.Level) (i : Nat) (handle : Option Int) (payload : List UInt8) :
    (l.notified cfg env i handle payload).1.Alike
      (l'.notified (cfg.keeping threshold) env' i handle payload).1 := by
  unfold Link.notified
  rw [alike.ingestions]
  split
  · exact alike
  · rename_i g _
    rw [alike.isStale]
    split
    · exact alike.noteHandle cfg _ .debug _ _ _
    · obtain ⟨looked, found⟩ := alike.lookUp agrees cfg threshold g.session handle
      revert looked found
      generalize l.lookUp cfg env g.session handle = seen
      generalize l'.lookUp (cfg.keeping threshold) env' g.session handle = seen'
      obtain ⟨l, characteristic⟩ := seen
      obtain ⟨l', characteristic'⟩ := seen'
      rintro looked ⟨⟩
      cases characteristic with
      | none => exact looked.noteHandle cfg _ .debug _ _ _
      | some c =>
        dsimp only
        cases Gatt.requireUuid c.uuid with
        | error f => exact looked
        | ok u =>
          dsimp only
          split
          · exact looked
          · exact looked.ingest cfg threshold i _ payload

theorem scheduleTick (alike : l.Alike l') (i : Nat) (wait : Wait δ) :
    (l.scheduleTick i wait).Alike (l'.scheduleTick i wait) := by
  unfold Link.scheduleTick
  rw [alike.ingestions]
  split
  · exact (alike.onIngestion i _).onLoop (·.schedule _ _)
  · exact alike

theorem armPolling (alike : l.Alike l') (i : Nat) : (l.armPolling i).Alike (l'.armPolling i) :=
  (alike.onIngestion i _).scheduleTick i .soon

theorem pollEntry (alike : l.Alike l') (cfg : Settings δ) (threshold : Journal.Level)
    (i session tick : Nat) (p : Polling δ) (e : Entry) :
    (l.pollEntry cfg i session tick p e).Alike
      (l'.pollEntry (cfg.keeping threshold) i session tick p e) := by
  unfold Link.pollEntry
  split
  · exact alike.note cfg _ .debug _
  · apply onIngestion
    exact alike.onLoop (·.spawn _ _)

theorem pollOnce (alike : l.Alike l') (cfg : Settings δ) (threshold : Journal.Level) (i : Nat)
    (g : Ingestion δ) (p : Polling δ) :
    (l.pollOnce cfg i g p).Alike (l'.pollOnce (cfg.keeping threshold) i g p) := by
  obtain ⟨loop, alike, rfl⟩ := alike
  unfold Link.pollOnce
  dsimp only
  split
  · apply foldl
    · intro l l' e alike
      exact alike.pollEntry cfg threshold i g.session p.ticks p e
    · exact of_loop l alike
  · exact (of_loop l alike).note cfg _ .debug _

theorem tick (alike : l.Alike l') (cfg : Settings δ) (threshold : Journal.Level) (i : Nat) :
    (l.tick cfg i).Alike (l'.tick (cfg.keeping threshold) i) := by
  unfold Link.tick
  rw [alike.ingestions]
  split
  · split
    · dsimp only
      split
      · apply scheduleTick
        apply pollOnce
        exact (alike.onIngestion i _).onIngestion i _
      · exact alike.onIngestion i _
    · exact alike
  · exact alike

theorem completeRead (alike : l.Alike l') (cfg : Settings δ) (threshold : Journal.Level)
    (i : Nat) (task : TaskId) (kind : Kind) (result : Option (Except Failure (List UInt8))) :
    (l.completeRead cfg env i task kind result).1.Alike
      (l'.completeRead (cfg.keeping threshold) env' i task kind result).1 := by
  have settled := alike.onIngestion i (Ingestion.settleRead kind task)
  unfold Link.completeRead
  cases result with
  | none => exact settled
  | some result =>
    dsimp only
    rw [settled.ingestions]
    split
    · exact settled
    · rw [settled.isStale]
      split
      · exact settled.note cfg _ .debug _
      · cases result with
        | error f =>
          dsimp only
          split
          · exact settled.note cfg _ .debug _
          · exact settled.record cfg _ _ _
        | ok payload => exact settled.ingest cfg threshold i kind payload

theorem beginRead (alike : l.Alike l') (cfg : Settings δ) (threshold : Journal.Level) (i : Nat)
    (kind : Kind) (tick session : Nat) (handle : Option Int) :
    (l.beginRead cfg env i kind tick session handle).Alike
      (l'.beginRead (cfg.keeping threshold) env' i kind tick session handle) := by
  unfold Link.beginRead
  rw [alike.isReleased]
  split
  · apply report
    apply completeRead
    exact alike.onLoop (·.finish _ _)
  · exact alike.request _ _ _ _

theorem resumeRead (alike : l.Alike l') (cfg : Settings δ) (threshold : Journal.Level) (i : Nat)
    (kind : Kind) (tick : Nat) (handle : Option Int) (ending : Ending) :
    (l.resumeRead cfg env i kind tick handle ending).Alike
      (l'.resumeRead (cfg.keeping threshold) env' i kind tick handle ending) := by
  apply report
  apply completeRead
  exact alike.onLoop (·.finish _ _)

theorem arm (alike : l.Alike l') (cfg : Settings δ) (threshold : Journal.Level) (i : Nat) :
    (l.arm cfg i).Alike (l'.arm (cfg.keeping threshold) i) := by
  unfold Link.arm
  rw [alike.ingestions]
  split
  · split
    · exact alike.armSubscriptions cfg threshold i _ _
    · exact alike.armPolling i
  · exact alike

theorem disarm (alike : l.Alike l') (i : Nat) : (l.disarm i).Alike (l'.disarm i) := by
  unfold Link.disarm
  rw [alike.ingestions]
  split
  · apply onIngestion
    apply foldl
    · intro l l' task alike
      exact alike.onLoop (·.cancel task)
    · split
      · exact alike.onLoop (·.unschedule _)
      · exact alike
  · exact alike

end Alike

end Link

end SensorLink
