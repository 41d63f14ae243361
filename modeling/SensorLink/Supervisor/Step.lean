/-
# Steps of the supervisor

Each callback of the loop is one event, and a step handles one event.  Which
event comes next, and what the world answers meanwhile, is not decided here:
every statement about the supervisor quantifies over both.
-/

import SensorLink.Supervisor.Attempt
import SensorLink.Supervisor.Closing

namespace SensorLink

open Connection (State)
open Gatt (Ending)
open Link (Point Settings Surroundings TaskId TimerId)

/-- The callbacks of the loop, and what others ask of the supervisor on it. -/
inductive Event where
  /-- A timer goes off. -/
  | expired (timer : TimerId)
  /-- A task takes its first step. -/
  | begins (task : TaskId)
  /-- The call that a task waits for has ended. -/
  | resumed (task : TaskId) (ending : Ending)
  /-- The attribute tree that a task waits for has been read. -/
  | treeRead (task : TaskId) (reading : Except Failure (Option Gatt.Tree))
  /-- The client of the session opened in this generation reports that its link is down. -/
  | linkLost (generation : Nat)
  /-- A notification arrives for an ingestion. -/
  | notified (ingestion : Nat) (handle : Option Int) (payload : List UInt8)
  | started
  | shutdownAsked
  /-- Someone else asks the state machine for a transition. -/
  | transitionAsked (target : State)

namespace Supervisor

variable {δ : Type}

/-- A live timer goes off. -/
def handleTimer (s : Supervisor δ) (cfg : Settings δ) : TimerId → Supervisor δ
  | .retry _ => s.beginAttempt
  | .discovery n generation => s.discoveryExpired cfg n generation
  | .tick i _ => s.onLink (·.tick cfg i)

/-- A task takes its first step at a point. -/
def handleBegin (s : Supervisor δ) (cfg : Settings δ) (env : Surroundings) :
    TaskId → Point → Supervisor δ
  | .attempt n, .attemptStart => s.startAttempt cfg env n
  | .forcedDisconnect n, .forcedStart session generation =>
    s.startForced cfg env n session generation
  | .shutdown n, .shutdownStart => s.startShutdown cfg env n
  | .subscription i kind round, .subscriptionStart session handle =>
    s.onLink (·.beginSubscription cfg i kind round session handle)
  | .read i kind tick, .readStart session handle =>
    s.onLink (·.beginRead cfg env i kind tick session handle)
  | _, _ => s

/-- A task goes on after its call ended. -/
def handleResume (s : Supervisor δ) (cfg : Settings δ) (env : Surroundings) (ending : Ending) :
    TaskId → Point → Supervisor δ
  | .attempt n, .connecting generation session =>
    s.resumeConnecting cfg env n generation session ending
  | .attempt n, .pairing generation session => s.resumePairing cfg env n generation session ending
  | .attempt n, .discarding session => s.resumeDiscarding cfg n session ending
  | .forcedDisconnect n, .forcedClosing generation => s.resumeForced cfg env n generation ending
  | .shutdown n, .shutdownClosing => s.resumeShutdown cfg env n ending
  | .subscription i kind round, .subscribing handle =>
    s.onLink (·.resumeSubscription cfg i kind round handle ending)
  | .read i kind tick, .reading handle =>
    s.onLink (·.resumeRead cfg env i kind tick handle ending)
  | .subscription i kind round, .doomed =>
    s.onLink (·.resumeSubscription cfg i kind round none .cancelled)
  | .read i kind tick, .doomed => s.onLink (·.resumeRead cfg env i kind tick none .cancelled)
  | task, .doomed => s.finish task .cancelled
  | .attempt n, .discovering .. => match ending with
    | .cancelled => s.finish (.attempt n) .cancelled
    | _ => s
  | _, _ => s

/-- Report the failure that left a callback. -/
def report (outcome : Supervisor δ × Option Failure) : Supervisor δ :=
  match outcome.2 with
  | some f => outcome.1.tell (.escaped f)
  | none => outcome.1

/-- Handle one event.  Events about tasks and timers that are not live change nothing. -/
def step (s : Supervisor δ) (cfg : Settings δ) (env : Surroundings) : Event → Supervisor δ
  | .expired timer =>
    if timer ∈ s.loop.timers then (s.onLink (·.onLoop (·.expire timer))).handleTimer cfg timer
    else s
  | .begins task =>
    match s.loop.point? task with
    | some point => s.handleBegin cfg env task point
    | none => s
  | .resumed task ending =>
    match s.loop.point? task with
    | some point => s.handleResume cfg env ending task point
    | none => s
  | .treeRead task reading =>
    match task, s.loop.point? task with
    | .attempt n, some (.discovering generation session) =>
      s.resumeDiscovering cfg env n generation session reading
    | _, _ => s
  | .linkLost generation => report (s.connectionLost cfg env generation)
  | .notified i handle payload =>
    let (l, failure) := s.toLink.notified cfg env i handle payload
    report ({ s with toLink := l }, failure)
  | .started => s.start cfg
  | .shutdownAsked => s.requestShutdown
  | .transitionAsked target => s.onLink (·.transition cfg target none)

end Supervisor

end SensorLink
