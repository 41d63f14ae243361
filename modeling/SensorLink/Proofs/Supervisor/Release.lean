/-
# Who gives up a live link

A session that gives its client up while the link is up should have been asked to
disconnect before; otherwise the link is leaked, and keeps the peripheral busy.
Only the session in charge holds a client, so it is the only one that can be
leaked, and each callback either leaves it alone, or knows that its link is down,
or has asked it to disconnect.

There are two exceptions.  An attempt that fails to pair gives its session up
although the transport is connected.  And a shutdown whose call has ended gives up
the session in charge, which is another than the one it asked to disconnect if the
supervisor was started meanwhile.
-/

import SensorLink.Proofs.Supervisor.Shutdown
import SensorLink.Proofs.Supervisor.Supersession

namespace SensorLink

open Gatt (Ending)
open Link (Point Settings Surroundings TaskId TimerId)
open Sensor (Kind)

namespace Supervisor

variable {δ : Type} {cfg : Settings δ} {alone : Prop} {watched : Nat → Prop}
  {vouch : Nat → Nat → Kind → Float → Prop} {s s' : Supervisor δ} {env : Surroundings}
  {n x generation : Nat} {past : List (Moment δ)} {m : Moment δ}

/-- A session holds a client whose link is up, and was never asked to disconnect. -/
structure Exposed (s : Supervisor δ) (env : Surroundings) (x : Nat) : Prop where
  alive : ¬s.Dead env x
  unasked : ¬s.Asked x

/-- No session that is exposed gives its client up between two states. -/
def Guards (s : Supervisor δ) (env : Surroundings) (s' : Supervisor δ) : Prop :=
  ∀ x, s.Exposed env x → s'.isReleased x = false

namespace Moment

/-- A moment leaks the link of a session. -/
structure Leaks (m : Moment δ) (cfg : Settings δ) (x : Nat) : Prop where
  exposed : m.before.Exposed m.env x
  released : (m.after cfg).isReleased x = true

/-- A session fails to connect or to pair. -/
def Fails (m : Moment δ) (cfg : Settings δ) (call : Gatt.Call) (x : Nat) : Prop :=
  ∃ n generation ending f, m.event = .resumed (.attempt n) ending ∧
    m.before.Awaits n generation x call ∧
    ending.result? call (cfg.limitText call) = some (.error f)

/-- A shutdown that waited comes to its end while a session is in charge. -/
def EndsShutdown (m : Moment δ) (cfg : Settings δ) (x : Nat) : Prop :=
  ∃ n ending, m.event = .resumed (.shutdown n) ending ∧
    m.before.loop.point? (.shutdown n) = some .shutdownClosing ∧
    ¬ending.Escapes .disconnect (cfg.limitText .disconnect) ∧ m.before.session = some x

/-- What the Bluetooth stack promises about links. -/
structure Honest (m : Moment δ) (cfg : Settings δ) : Prop where
  /-- A client reports a loss only when its link is down. -/
  lost : ∀ (generation x : Nat) (entry : Link.Session), m.event = .linkLost generation →
    m.before.sessions[x]? = some entry → entry.generation = generation →
      m.env.link x ≠ .reported true
  /-- A client whose transport failed to connect holds no link. -/
  refused : ∀ x, m.Fails cfg .connect x → m.env.link x ≠ .reported true

end Moment

namespace Exposed

theorem held (exposed : s.Exposed env x) : s.isReleased x = false := by
  simpa using fun released => exposed.alive (.inl released)

theorem up (exposed : s.Exposed env x) : env.link x = .reported true := by
  by_contra down
  exact exposed.alive (.inr down)

/-- Only the session in charge is exposed. -/
theorem charge (exposed : s.Exposed env x) (tidy : Tidy watched s) : s.session = some x :=
  tidy.spent x exposed.held

end Exposed

namespace Guards

/-- A callback that leaves the sessions as they are. -/
theorem of_sessions (same : s'.sessions = s.sessions) : s.Guards env s' := by
  intro x exposed
  have held := exposed.held
  rwa [Link.isReleased, ← same] at held

/-- A callback during which nothing is exposed. -/
theorem of_none (safe : ∀ x, ¬s.Exposed env x) : s.Guards env s' :=
  fun x exposed => absurd exposed (safe x)

theorem report {outcome : Supervisor δ × Option Failure} (guards : s.Guards env outcome.1) :
    s.Guards env (report outcome) := by
  rw [Supervisor.report]
  split
  · exact guards
  · exact guards

/-- A session that is not exposed gives its client up. -/
theorem giveUp (safe : ¬s.Exposed env x) : s.Guards env ((s.onLink (·.release x)).forget x) := by
  intro y exposed
  have other : x ≠ y := by
    rintro rfl
    exact safe exposed
  have kept := s.isReleased_release x y
  rw [exposed.held, decide_eq_false other, Bool.or_false] at kept
  rw [release_forget_eq]
  exact kept

/-- The state is left, and a retry is scheduled. -/
theorem dropState_scheduleRetry (guards : s.Guards env s') (cfg : Settings δ) :
    s.Guards env ((s'.dropState cfg).scheduleRetry cfg).1 := by
  intro x exposed
  obtain ⟨loop, -, left⟩ := s'.dropState_eq cfg
  obtain ⟨_, _, _, _, scheduled, -⟩ := (s'.dropState cfg).scheduleRetry_eq cfg
  rw [scheduled, left]
  exact guards x exposed

theorem failAttempt (safe : ¬s.Exposed env x) (cfg : Settings δ) {loop : Link.Loop δ} :
    s.Guards env (({ s with loop } : Supervisor δ).failAttempt cfg (some x)).1 := by
  have kept : s.Guards env
      ((({ s with loop } : Supervisor δ).onLink (·.release x)).forget x) := by
    have given := giveUp safe
    rw [release_forget_eq] at given ⊢
    exact given
  exact kept.dropState_scheduleRetry cfg

theorem connectFailed (safe : ¬s.Exposed env x) (n : Nat) (f : Failure) :
    s.Guards env (s.connectFailed cfg n x f) := by
  obtain ⟨loop, -, given⟩ := s.connectFailed_eq cfg n x f
  rw [given]
  exact failAttempt safe cfg

/-- The end of a connection is reported, at which nothing is exposed if it is the current one. -/
theorem connectionLost {generation : Int}
    (safe : s.machine.isCurrent generation = true → ∀ x, ¬s.Exposed env x)
    (journals : s.Journals s') : s.Guards env (s'.connectionLost cfg env generation).1 := by
  obtain ⟨loop, keeps, rfl⟩ := journals
  obtain ⟨loop', -, ignored | ⟨current, -, -⟩⟩ :=
    ({ s with loop } : Supervisor δ).connectionLost_cases cfg env generation
  · rw [ignored]
    exact of_sessions rfl
  · exact of_none (safe current)

end Guards

namespace Tidy

theorem guards_finishDiscard (tidy : Tidy watched s) (apart : s.session ≠ some x)
    {loop : Link.Loop δ} : s.Guards env (({ s with loop } : Supervisor δ).finishDiscard n x) := by
  have given : s.Guards env ((s.onLink (·.release x)).forget x) :=
    .giveUp fun exposed => apart (exposed.charge tidy)
  have parts := ({ s with loop } : Supervisor δ).release_forget_eq x
  rw [release_forget_eq] at given
  rw [Supervisor.finishDiscard, parts]
  exact given

theorem guards_discard (tidy : Tidy watched s) (apart : s.session ≠ some x) (cfg : Settings δ) :
    s.Guards env (s.discard cfg env n x) := by
  obtain ⟨loop, -, waits | dropped⟩ := s.discard_cases cfg env n x
  · rw [waits]
    exact .of_sessions rfl
  · rw [dropped]
    exact tidy.guards_finishDiscard apart

/-- The link of an attempt is up, or the attempt is given up because it is dead. -/
theorem guards_linkUp (tidy : Tidy watched s) (inv : Inv cfg alone vouch none s)
    (places : s.Places n generation x) : s.Guards env (s.linkUp cfg env n generation x) := by
  by_cases current : generation = s.machine.generation
  · obtain ⟨-, connecting, -⟩ := (places.fits inv).of_current_connecting current
    subst current
    obtain ⟨loop, -, ⟨-, up⟩ | ⟨dead, given⟩⟩ := linkUp_cases connecting cfg env n x
    · rw [up, Supervisor.startDiscovery]
      split
      · exact .of_sessions rfl
      · exact .of_sessions rfl
    · rw [given]
      exact Guards.failAttempt (fun exposed => exposed.alive dead) cfg
  · rw [linkUp_of_stale current]
    have discarding := (places.fits inv).of_stale_connecting
      (fun idle => (inv.idle idle).1) current
    exact tidy.guards_discard discarding.of_discarding cfg

theorem guards_transportUp (tidy : Tidy watched s) (inv : Inv cfg alone vouch none s)
    (places : s.Places n generation x) :
    s.Guards env (s.transportUp cfg env n generation x) := by
  obtain ⟨loop, -, up | waits⟩ := s.transportUp_cases cfg env n generation x
  · rw [up]
    exact tidy.guards_linkUp inv places
  · rw [waits]
    exact .of_sessions rfl

theorem guards_resumeConnecting (tidy : Tidy watched s) (inv : Inv cfg alone vouch none s)
    (places : s.Places n generation x) {ending : Ending}
    (refused : ∀ f, ending.result? .connect (cfg.limitText .connect) = some (.error f) →
      ¬s.Exposed env x) :
    s.Guards env (s.resumeConnecting cfg env n generation x ending) := by
  rw [Supervisor.resumeConnecting]
  split
  · exact .of_sessions rfl
  · exact tidy.guards_transportUp inv places
  · exact .connectFailed (refused _ ‹_›) n _

theorem guards_resumePairing (tidy : Tidy watched s) (inv : Inv cfg alone vouch none s)
    (places : s.Places n generation x) {ending : Ending}
    (refused : ∀ f, ending.result? .pair (cfg.limitText .pair) = some (.error f) →
      ¬s.Exposed env x) :
    s.Guards env (s.resumePairing cfg env n generation x ending) := by
  rw [Supervisor.resumePairing]
  split
  · exact .of_sessions rfl
  · exact tidy.guards_linkUp inv places
  · exact .connectFailed (refused _ ‹_›) n _

theorem guards_resumeDiscarding (tidy : Tidy watched s) (apart : s.session ≠ some x)
    (cfg : Settings δ) (ending : Ending) :
    s.Guards env (s.resumeDiscarding cfg n x ending) := by
  obtain ⟨loop, -, dropped | ⟨how, ended⟩⟩ := s.resumeDiscarding_cases cfg n x ending
  · rw [dropped]
    exact tidy.guards_finishDiscard apart
  · rw [ended]
    exact .of_sessions rfl

/-- The first step of an attempt opens a session, and touches no other. -/
theorem guards_startAttempt (inv : Inv cfg alone vouch none s) (ready : s.Ready n) :
    s.Guards env (s.startAttempt cfg env n) := by
  have disconnected := (inv.eager_of_ready ready).1
  obtain ⟨loop, -, ⟨-, given⟩ | ⟨-, waits⟩⟩ := startAttempt_cases disconnected cfg env n
  · rw [given]
    have entered : s.Guards env { s with machine := s.machine.enter .connecting none, loop } :=
      .of_sessions rfl
    exact entered.dropState_scheduleRetry cfg
  · rw [waits]
    intro y exposed
    have held := exposed.held
    rwa [Link.isReleased, ← List.getElem?_append_left (lt_of_isReleased held)] at held

/-- Setting the ingestion up touches no session. -/
theorem guards_resumeDiscovering (inv : Inv cfg alone vouch none s)
    (here : s.loop.point? (.attempt n) = some (.discovering generation x))
    (reading : Except Failure (Option Gatt.Tree)) :
    s.Guards env (s.resumeDiscovering cfg env n generation x reading) := by
  obtain ⟨loop, -, ended | ⟨current, tree, settled⟩⟩ :=
    s.resumeDiscovering_cases cfg env n generation x reading
  · rw [ended]
    exact .of_sessions rfl
  · obtain ⟨-, discovering, -⟩ := (inv.attempts n _ nofun here).of_current_discovering current
    rw [settled]
    obtain ⟨loop', -, failed | ⟨handles, ⟨-, failed⟩ | ⟨ingestions, later, -, -, ready⟩⟩⟩ :=
      setUp_cases discovering cfg env x tree
    · exact .of_sessions (by rw [finishWith, failed]; rfl)
    · exact .of_sessions (by rw [finishWith, failed]; rfl)
    · exact .of_sessions (by rw [finishWith, ready]; rfl)

/-- The session in charge was opened in the generation whose link is lost. -/
theorem guards_linkLost (tidy : Tidy watched s) {generation : Nat}
    (down : ∀ x entry, s.sessions[x]? = some entry → entry.generation = generation →
      env.link x ≠ .reported true) :
    s.Guards env (s.connectionLost cfg env generation).1 := by
  refine .connectionLost (fun current x exposed => ?_) (.refl s)
  rw [Connection.Machine.isCurrent_natCast, beq_iff_eq] at current
  obtain ⟨entry, known, same⟩ := tidy.own x (exposed.charge tidy)
  exact down x entry known (same.trans current.symm) exposed.up

/-- A session that is closed by force is not exposed once its client is released, or was asked to
disconnect. -/
theorem guards_finishForced {generation : Nat}
    (safe : generation = s.machine.generation → ∀ x, ¬s.Exposed env x)
    (journals : s.Journals s') : s.Guards env (s'.finishForced cfg env n generation) := by
  have current (same : s.machine.isCurrent (generation : Nat) = true) (x : Nat) :
      ¬s.Exposed env x := by
    rw [Connection.Machine.isCurrent_natCast, beq_iff_eq] at same
    exact safe same x
  exact Guards.connectionLost current journals

theorem guards_forcedFailed {generation : Nat}
    (safe : generation = s.machine.generation → ∀ x, ¬s.Exposed env x) (f : Failure) :
    s.Guards env (s.forcedFailed cfg env n generation f) := by
  rw [Supervisor.forcedFailed]
  split
  · exact guards_finishForced safe (.say s cfg _ _)
  · exact .of_sessions rfl

theorem guards_startForced (tidy : Tidy watched s) {session : Option Nat}
    (here : s.loop.point? (.forcedDisconnect n) = some (.forcedStart session generation)) :
    s.Guards env (s.startForced cfg env n session generation) := by
  obtain ⟨-, own⟩ := tidy.forced n _ here
  unfold Supervisor.startForced
  split
  · exact guards_finishForced (fun current x exposed =>
      nomatch own current x (exposed.charge tidy)) (.refl s)
  · rename_i y
    split
    · rename_i released
      refine guards_forcedFailed (fun current x exposed => ?_) _
      obtain rfl : y = x := Option.some.inj (own current x (exposed.charge tidy))
      exact nomatch exposed.held.symm.trans released
    · exact .of_sessions rfl

theorem guards_resumeForced (tidy : Tidy watched s)
    (here : s.loop.point? (.forcedDisconnect n) = some (.forcedClosing generation))
    (ending : Ending) : s.Guards env (s.resumeForced cfg env n generation ending) := by
  obtain ⟨-, asked⟩ := tidy.forced n _ here
  have safe (current : generation = s.machine.generation) (x : Nat) : ¬s.Exposed env x :=
    fun exposed => exposed.unasked (asked current x (exposed.charge tidy))
  rw [Supervisor.resumeForced]
  split
  · exact .of_sessions rfl
  · exact guards_finishForced safe (.refl s)
  · exact guards_forcedFailed safe _

/-- A shutdown that ends in its first step met with no link that was up. -/
theorem guards_startShutdown (tidy : Tidy watched s) :
    s.Guards env (s.startShutdown cfg env n) := by
  obtain ⟨loop, -, ⟨dead, -⟩ | ⟨y, -, waits⟩⟩ := s.startShutdown_cases cfg env n
  · exact .of_none fun x exposed => exposed.alive (dead x (exposed.charge tidy))
  · rw [waits, stopAttempts_eq]
    exact .of_sessions rfl

/-- A shutdown whose call has ended gives up the session in charge only if it comes to its end. -/
theorem guards_resumeShutdown (tidy : Tidy watched s) {ending : Ending}
    (ends : ¬ending.Escapes .disconnect (cfg.limitText .disconnect) →
      ∀ x, s.session = some x → ¬s.Exposed env x) :
    s.Guards env (s.resumeShutdown cfg env n ending) := by
  obtain ⟨loop, -, ⟨returns, -⟩ | ⟨-, how, -, aborted⟩⟩ := s.resumeShutdown_cases cfg env n ending
  · exact .of_none fun x exposed => ends returns x (exposed.charge tidy) exposed
  · rw [aborted]
    exact .of_sessions rfl

theorem guards_expired (s : Supervisor δ) (env : Surroundings) (timer : TimerId) :
    s.Guards env (s.step cfg env (.expired timer)) := by
  simp only [Supervisor.step]
  split
  · cases timer with
    | retry r =>
      rw [handleTimer, expire_beginAttempt_eq]
      split
      · exact .of_sessions rfl
      · exact .of_sessions rfl
    | discovery n generation =>
      rw [handleTimer, Supervisor.discoveryExpired]
      simp only
      split
      · obtain ⟨loop, -, said⟩ := Journals.say { s.onLink (·.onLoop
            (·.expire (.discovery n generation))) with discoveryTimer := none } cfg .warning
          ("Discovery on " ++ cfg.address ++ " made no progress in " ++
            (cfg.discoveryLimit.elim "" cfg.showDelay) ++ "s; dropping connection")
        exact .of_sessions (by rw [said]; rfl)
      · exact .of_sessions rfl
    | tick i number =>
      have works := Link.tick_works (s.toLink.onLoop (·.expire (.tick i number))) cfg i
      exact .of_sessions works.sessions
  · exact .of_sessions rfl

theorem guards_handleBegin (tidy : Tidy watched s) (inv : Inv cfg alone vouch none s)
    {task : TaskId} {point : Point} (here : s.loop.point? task = some point) :
    s.Guards env (s.handleBegin cfg env task point) := by
  unfold Supervisor.handleBegin
  split
  · exact guards_startAttempt inv here
  · exact tidy.guards_startForced here
  · exact tidy.guards_startShutdown
  · exact .of_sessions (Link.beginSubscription_works _ cfg _ _ _ _ _).sessions
  · exact .of_sessions (Link.beginRead_works _ cfg env _ _ _ _ _).sessions
  · exact .of_sessions rfl

theorem guards_handleResume (tidy : Tidy watched s) (inv : Inv cfg alone vouch none s)
    {task : TaskId} {ending : Ending} {point : Point} (here : s.loop.point? task = some point)
    (connects : ∀ n g x f, task = .attempt n → point = .connecting g x →
      ending.result? .connect (cfg.limitText .connect) = some (.error f) → ¬s.Exposed env x)
    (pairs : ∀ n g x f, task = .attempt n → point = .pairing g x →
      ending.result? .pair (cfg.limitText .pair) = some (.error f) → ¬s.Exposed env x)
    (ends : ∀ n, task = .shutdown n → point = .shutdownClosing →
      ¬ending.Escapes .disconnect (cfg.limitText .disconnect) →
        ∀ x, s.session = some x → ¬s.Exposed env x) :
    s.Guards env (s.handleResume cfg env ending task point) := by
  unfold Supervisor.handleResume
  split
  · exact tidy.guards_resumeConnecting inv (.inl here) fun f => connects _ _ _ f rfl rfl
  · exact tidy.guards_resumePairing inv (.inr here) fun f => pairs _ _ _ f rfl rfl
  · exact tidy.guards_resumeDiscarding (inv.attempts _ _ nofun here).of_discarding cfg ending
  · exact tidy.guards_resumeForced here ending
  · exact tidy.guards_resumeShutdown (ends _ rfl rfl)
  · exact .of_sessions (Link.resumeSubscription_works _ cfg _ _ _ _ ending).sessions
  · exact .of_sessions (Link.resumeRead_works _ cfg env _ _ _ _ ending).sessions
  · exact .of_sessions (Link.resumeSubscription_works _ cfg _ _ _ none .cancelled).sessions
  · exact .of_sessions (Link.resumeRead_works _ cfg env _ _ _ none .cancelled).sessions
  · exact .of_sessions rfl
  · split
    · exact .of_sessions rfl
    · exact .of_sessions rfl
  · exact .of_sessions rfl

/-- A moment guards every session that is exposed, unless the session fails to pair or a shutdown
ends. -/
theorem guards_step (tidy : Tidy watched m.before)
    (inv : Inv cfg alone vouch none m.before) (lawful : Lawful m.env m.event)
    (honest : m.Honest cfg)
    (safe : ∀ x, m.Fails cfg .pair x ∨ m.EndsShutdown cfg x → ¬m.before.Exposed m.env x) :
    m.before.Guards m.env (m.after cfg) := by
  obtain ⟨s, env, event⟩ := m
  cases event with
  | expired timer => exact guards_expired s env timer
  | begins task =>
    simp only [Moment.after, Supervisor.step]
    split
    · exact tidy.guards_handleBegin inv ‹_›
    · exact .of_sessions rfl
  | resumed task ending =>
    simp only [Moment.after, Supervisor.step]
    split
    · rename_i point here
      apply tidy.guards_handleResume inv here
      · rintro n g x f rfl rfl failed exposed
        exact honest.refused x ⟨n, g, ending, f, rfl, here, failed⟩ exposed.up
      · rintro n g x f rfl rfl failed
        exact safe x (.inl ⟨n, g, ending, f, rfl, here, failed⟩)
      · rintro n rfl rfl returns x charge
        exact safe x (.inr ⟨n, ending, rfl, here, returns, charge⟩)
    · exact .of_sessions rfl
  | treeRead task reading =>
    simp only [Moment.after, Supervisor.step]
    split
    · exact guards_resumeDiscovering inv ‹_› reading
    · exact .of_sessions rfl
  | linkLost generation =>
    exact (tidy.guards_linkLost fun x entry => honest.lost generation x entry rfl).report
  | notified i handle payload =>
    have works := Link.notified_works s.toLink cfg i handle payload lawful.calm
    exact (Guards.of_sessions works.sessions).report
  | started =>
    refine .of_sessions ?_
    simp only [Moment.after, Supervisor.step, Supervisor.start]
    split
    · rw [scheduleConnect_eq rfl]
    · rfl
  | shutdownAsked => exact .of_sessions rfl
  | transitionAsked target => exact absurd rfl (lawful.unasked target)

end Tidy

/-- A session that fails to connect or to pair gives its client up. -/
theorem Moment.Fails.released {call : Gatt.Call} (fails : m.Fails cfg call x) :
    (m.after cfg).isReleased x = true := by
  obtain ⟨s, env, event⟩ := m
  obtain ⟨n, g, ending, f, rfl, awaits, failed⟩ := fails
  rw [Moment.after, awaits.step_of_error failed]
  exact (s.connectFailed_fields cfg n x f).2.2.released

/-- A shutdown that comes to its end leaves no client with any session. -/
theorem Moment.EndsShutdown.released (ends : m.EndsShutdown cfg x)
    (tidy : Tidy watched m.before) : (m.after cfg).isReleased x = true := by
  obtain ⟨s, env, event⟩ := m
  obtain ⟨n, ending, rfl, here, returns, -⟩ := ends
  obtain ⟨loop, keeps, ⟨-, finished⟩ | ⟨escapes, -⟩⟩ := s.resumeShutdown_cases cfg env n ending
  · obtain ⟨loop', -, torn⟩ := ({ s with loop } : Supervisor δ).finishShutdown_eq cfg env n
    have resumed : (Moment.mk s env (.resumed (.shutdown n) ending)).after cfg =
        s.resumeShutdown cfg env n ending := step_resumed here cfg env ending
    rw [resumed, finished, torn]
    exact (tidy.keeps keeps).isReleased_torn x
  · exact absurd escapes returns

/-- **Leaked links.** Along a run, a moment leaks the link of a session exactly if the session is
exposed, and fails to pair or is in charge while a shutdown that waited comes to its end.  The
latter is no leak as long as nobody starts the supervisor while a shutdown is pending: then the
session was asked to disconnect. -/
theorem Run.leaks_iff (run : Run cfg past m.before) (obedient : ∀ m' ∈ past, m'.Obedient)
    (lawful : Lawful m.env m.event) (honest : m.Honest cfg) (x : Nat) :
    (m.Leaks cfg x ↔
      m.before.Exposed m.env x ∧ (m.Fails cfg .pair x ∨ m.EndsShutdown cfg x)) ∧
    ((∀ m' ∈ past, m'.before.Patient m'.event) → m.EndsShutdown cfg x → m.before.Asked x) := by
  have tidy : Tidy (fun _ => ∀ m' ∈ past, m'.before.Patient m'.event) m.before :=
    run.tidy obedient fun _ patient => patient
  refine ⟨⟨fun leaks => ⟨leaks.exposed, ?_⟩, ?_⟩, ?_⟩
  · by_contra safe
    have guards : m.before.Guards m.env (m.after cfg) := by
      refine tidy.guards_step (run.inv obedient) lawful honest fun y exception exposed => ?_
      obtain rfl : x = y := Option.some.inj
        ((leaks.exposed.charge tidy).symm.trans (exposed.charge tidy))
      exact safe exception
    exact nomatch (guards x leaks.exposed).symm.trans leaks.released
  · rintro ⟨exposed, fails | ends⟩
    · exact ⟨exposed, fails.released⟩
    · exact ⟨exposed, ends.released tidy⟩
  · rintro patient ⟨n, -, -, here, -, charge⟩
    exact (tidy.closing n patient here).2 x charge

/-- Settings for runs by hand under which every session has to pair. -/
def pairingSettings : Settings Nat :=
  { plainSettings with security := "medium" }

/-- A first attempt is connected and waits for its session to pair. -/
def pairing : List Event :=
  [.started, .expired (.retry 0), .begins (.attempt 0), .resumed (.attempt 0) (.returned [])]

/-- Pairing ends after that. -/
def pairingEnds (ending : Ending) : Moment Nat :=
  ⟨play pairingSettings plainWorld .fresh pairing, plainWorld, .resumed (.attempt 0) ending⟩

theorem pairing_run (ending : Ending) :
    Run pairingSettings (moments pairingSettings plainWorld .fresh pairing)
      (pairingEnds ending).before :=
  run_play (fun _ _ => rfl) rfl

theorem pairing_waits :
    (play pairingSettings plainWorld .fresh pairing).loop.point? (.attempt 0) =
      some (.pairing 1 0) := by
  decide +kernel

theorem pairingEnds_lawful (ending : Ending) :
    Lawful (pairingEnds ending).env (pairingEnds ending).event :=
  .of_tame (fun _ _ => rfl) rfl

theorem pairingEnds_honest (ending : Ending) : (pairingEnds ending).Honest pairingSettings where
  lost _ _ _ := nofun
  refused := by
    rintro x ⟨n, g, ending', f, ⟨⟩, here, -⟩
    exact nomatch pairing_waits.symm.trans here

/-- A session that pairs is not leaked. -/
theorem not_leaks_pairing : ¬(pairingEnds (.returned [])).Leaks pairingSettings 0 := by
  rw [((pairing_run (.returned [])).leaks_iff (obedient_moments rfl) (pairingEnds_lawful _)
    (pairingEnds_honest _) 0).1]
  rintro ⟨-, ⟨n, g, ending, f, ⟨⟩, -, failed⟩ | ⟨n, ending, ⟨⟩, -⟩⟩
  cases failed

/-- A session that runs out of time while it pairs is leaked. -/
theorem leaks_pairing :
    ∃ past, Run pairingSettings past (pairingEnds .timedOut).before ∧
      (∀ m ∈ past, m.Obedient) ∧
      Lawful (pairingEnds .timedOut).env (pairingEnds .timedOut).event ∧
      (pairingEnds .timedOut).Honest pairingSettings ∧
      (pairingEnds .timedOut).Leaks pairingSettings 0 := by
  have held : (play pairingSettings plainWorld .fresh pairing).isReleased 0 = false := by
    decide +kernel
  have released : ((pairingEnds .timedOut).after pairingSettings).isReleased 0 = true := by
    decide +kernel
  refine ⟨_, pairing_run .timedOut, obedient_moments rfl, pairingEnds_lawful _,
    pairingEnds_honest _, ⟨?_, ?_⟩, released⟩
  · rintro (released | down)
    · exact nomatch held.symm.trans released
    · exact down rfl
  · rintro ⟨task, asked⟩
    have tape : (play pairingSettings plainWorld .fresh pairing).loop.tape =
        [.schedule (.retry 0) (.delay 0), .spawn (.attempt 0), .opened 0,
          .request (.attempt 0) 0 .connect, .request (.attempt 0) 0 .pair] := by
      rfl
    simp [pairingEnds, tape] at asked

end Supervisor

end SensorLink
