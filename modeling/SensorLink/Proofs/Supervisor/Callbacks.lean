/-
# What the callbacks of an attempt and of a shutdown do

A callback that goes on after an await has a few ways to leave.  Each lemma here
lists them for one callback, up to the loop, on which nothing but the journal
grew.  Whatever is preserved by a callback is proved from its list.
-/

import SensorLink.Proofs.Supervisor.Operations

namespace SensorLink

open Gatt (Ending)
open Link (Loop Settings Surroundings TaskId)

namespace Gatt.Ending

/-- The caller of a closing call is not prepared for its ending: it was cancelled, or the call
failed for a reason other than the transport. -/
def Escapes (ending : Ending) (call : Gatt.Call) (limit : Option String) : Prop :=
  ∀ result, ending.result? call limit = some result →
    ∃ f : Failure, result = .error f ∧ f.isTransport = false

variable {ending : Ending} {call : Gatt.Call} {limit : Option String}

theorem escapes_of_none (seen : ending.result? call limit = none) : ending.Escapes call limit :=
  fun _ saw => nomatch seen.symm.trans saw

theorem not_escapes_of_ok {payload : List UInt8}
    (seen : ending.result? call limit = some (.ok payload)) : ¬ending.Escapes call limit :=
  fun escapes => nomatch escapes _ seen

theorem escapes_iff_of_error {f : Failure} (seen : ending.result? call limit = some (.error f)) :
    ending.Escapes call limit ↔ f.isTransport = false := by
  constructor
  · intro escapes
    obtain ⟨g, same, unexpected⟩ := escapes _ seen
    cases same
    exact unexpected
  · intro unexpected result saw
    exact ⟨f, Option.some.inj (saw.symm.trans seen), unexpected⟩

end Gatt.Ending

namespace Supervisor

variable {δ : Type}

theorem step_begins {s : Supervisor δ} {task : TaskId} {point : Link.Point}
    (here : s.loop.point? task = some point) (cfg : Settings δ) (env : Surroundings) :
    s.step cfg env (.begins task) = s.handleBegin cfg env task point := by
  simp only [step, here]

theorem step_resumed {s : Supervisor δ} {task : TaskId} {point : Link.Point}
    (here : s.loop.point? task = some point) (cfg : Settings δ) (env : Surroundings)
    (ending : Ending) :
    s.step cfg env (.resumed task ending) = s.handleResume cfg env ending task point := by
  simp only [step, here]

/-- A notification is passed on to its ingestion. -/
theorem step_notified (s : Supervisor δ) (cfg : Settings δ) (env : Surroundings) (i : Nat)
    (handle : Option Int) (payload : List UInt8) : s.step cfg env (.notified i handle payload) =
      s.onLink fun l => Link.report (l.notified cfg env i handle payload) := by
  unfold step report Link.report
  dsimp only
  split <;> simp only [*, onLink, tell]

/-- Only the end of the current connection, once it is up, tears it down. -/
theorem connectionLost_cases (s : Supervisor δ) (cfg : Settings δ) (env : Surroundings)
    (generation : Int) : ∃ loop, s.loop.Keeps [] loop ∧
      ((s.connectionLost cfg env generation).1 = { s with loop } ∨
        s.machine.isCurrent generation = true ∧
          (s.machine.state = .discovering ∨ s.machine.state = .ready) ∧
          (s.connectionLost cfg env generation).1 =
            (({ s with loop }.teardown cfg env).scheduleRetry cfg).1) := by
  rw [connectionLost]
  by_cases current : s.machine.isCurrent generation = true
  · rw [if_pos current]
    obtain ⟨loop, keeps, said⟩ := Journals.say s cfg .warning ("Disconnected from " ++ cfg.address)
    cases known : s.machine.state with
    | connecting =>
      obtain ⟨loop, keeps, said⟩ := Journals.say s cfg .debug
        "Ignoring disconnect while a connection is in progress."
      exact ⟨loop, keeps, .inl said⟩
    | disconnected => exact ⟨s.loop, .refl _, .inl rfl⟩
    | discovering => exact ⟨loop, keeps, .inr ⟨current, .inl rfl, by rw [← said]⟩⟩
    | ready => exact ⟨loop, keeps, .inr ⟨current, .inr rfl, by rw [← said]⟩⟩
  · rw [if_neg current]
    obtain ⟨loop, keeps, said⟩ := Journals.say s cfg .debug
      ("Ignoring stale disconnect (generation " ++ toString generation ++ ")")
    exact ⟨loop, keeps, .inl said⟩

/-- A shutdown that begins either comes to its end, if no link of a session in charge is up, or
waits for the session in charge to close. -/
theorem startShutdown_cases (s : Supervisor δ) (cfg : Settings δ) (env : Surroundings) (n : Nat) :
    ∃ loop, s.stopAttempts.loop.Keeps [] loop ∧
      ((∀ x, s.session = some x → s.Dead env x) ∧
          s.startShutdown cfg env n = { s.stopAttempts with loop }.finishShutdown cfg env n ∨
        ∃ session, s.session = some session ∧
          s.startShutdown cfg env n = { s.stopAttempts with loop }.await (.shutdown n)
            session .disconnect .shutdownClosing) := by
  have kept : s.stopAttempts.session = s.session := by rw [stopAttempts_eq]
  have sessions : s.stopAttempts.sessions = s.sessions := by rw [stopAttempts_eq]
  rw [startShutdown, ← kept]
  cases s.stopAttempts.session with
  | none => exact ⟨_, .refl _, .inl ⟨nofun, rfl⟩⟩
  | some session =>
    obtain ⟨loop, keeps, same⟩ := Journals.checkLink s.stopAttempts cfg env session
    refine ⟨loop, keeps, ?_⟩
    simp only [same]
    split
    · exact .inr ⟨session, rfl, rfl⟩
    · rename_i down
      refine .inl ⟨?_, rfl⟩
      rintro _ ⟨⟩
      refine (dead_of_checkLink (by simpa using down)).imp_left fun released => ?_
      rwa [Link.isReleased, sessions] at released

/-- A shutdown that goes on comes to its end, or leaves the connection as it is if the ending of
its call escapes. -/
theorem resumeShutdown_cases (s : Supervisor δ) (cfg : Settings δ) (env : Surroundings) (n : Nat)
    (ending : Ending) : ∃ loop, s.loop.Keeps [] loop ∧
      (¬ending.Escapes .disconnect (cfg.limitText .disconnect) ∧
          s.resumeShutdown cfg env n ending = { s with loop }.finishShutdown cfg env n ∨
        ending.Escapes .disconnect (cfg.limitText .disconnect) ∧ ∃ how, how ≠ .done ∧
          s.resumeShutdown cfg env n ending = s.finish (.shutdown n) how) := by
  rw [resumeShutdown]
  cases seen : ending.result? .disconnect (cfg.limitText .disconnect) with
  | none =>
    exact ⟨s.loop, .refl _, .inr ⟨Ending.escapes_of_none seen, .cancelled, nofun, rfl⟩⟩
  | some result =>
    cases result with
    | ok payload => exact ⟨s.loop, .refl _, .inl ⟨Ending.not_escapes_of_ok seen, rfl⟩⟩
    | error f =>
      rw [Ending.escapes_iff_of_error seen]
      cases expected : f.isTransport with
      | true =>
        obtain ⟨loop, keeps, said⟩ := Journals.say s cfg .debug
          ("Disconnect during shutdown failed: " ++ f.message)
        exact ⟨loop, keeps, .inl ⟨nofun, by simp only [expected, if_true, said]⟩⟩
      | false =>
        exact ⟨s.loop, .refl _, .inr ⟨rfl, .failed f, nofun,
          by simp only [expected, Bool.false_eq_true, if_false]⟩⟩

/-- An attempt that begins is given up if no client can be constructed, and otherwise waits for its
own session to connect. -/
theorem startAttempt_cases {s : Supervisor δ} (disconnected : s.machine.state = .disconnected)
    (cfg : Settings δ) (env : Surroundings) (n : Nat) : ∃ loop, s.loop.Keeps [] loop ∧
      ((∃ f, env.openClient = .error f) ∧ s.startAttempt cfg env n = finishWith (.attempt n)
          ({ s with machine := s.machine.enter .connecting none, loop }.failAttempt cfg none) ∨
        env.openClient = .ok () ∧ s.startAttempt cfg env n = await { s with
          machine := s.machine.enter .connecting none
          sessions := s.sessions ++ [⟨s.machine.generation + 1, false⟩]
          session := some s.sessions.length
          loop } (.attempt n) s.sessions.length .connect
            (.connecting (s.machine.generation + 1) s.sessions.length)) := by
  obtain ⟨loop, keeps, entered⟩ := s.transition_eq cfg .connecting none
  have machine : (s.machine.transition .connecting none).1 = s.machine.enter .connecting none := by
    rw [Connection.Machine.transition, disconnected]
    rfl
  rw [machine] at entered
  obtain ⟨loop', keeps', said⟩ := Journals.say
    { s with machine := s.machine.enter .connecting none, loop } cfg .info
    ("Connecting to " ++ cfg.address ++ " (attempt " ++ toString (s.failures + 1) ++ ")")
  have kept : s.loop.Keeps [] loop' := keeps.trans keeps'
  rw [startAttempt]
  simp only [entered, said]
  cases env.openClient with
  | error f =>
    have refused := Journals.tell
      { s with machine := s.machine.enter .connecting none, loop := loop' } .refused rfl (by simp)
    obtain ⟨loop'', keeps'', noted⟩ := refused.trans (.complain _ cfg
      ("Failed to set up BLE session for " ++ cfg.address) f)
    refine ⟨loop'', kept.trans keeps'', .inl ⟨⟨f, rfl⟩, ?_⟩⟩
    exact congrArg (fun s : Supervisor δ => finishWith (.attempt n) (s.failAttempt cfg none)) noted
  | ok _ =>
    exact ⟨_, kept.trans (.silent loop' (.opened s.sessions.length) rfl (by simp)),
      .inr ⟨rfl, rfl⟩⟩

/-- After a failure to connect or pair the attempt is given up. -/
theorem connectFailed_eq (s : Supervisor δ) (cfg : Settings δ) (n session : Nat) (f : Failure) :
    ∃ loop, s.loop.Keeps [] loop ∧ s.connectFailed cfg n session f =
      finishWith (.attempt n) ({ s with loop }.failAttempt cfg (some session)) := by
  rw [connectFailed]
  split
  · obtain ⟨loop, keeps, said⟩ := Journals.say s cfg .warning
      ("Connect to " ++ cfg.address ++ " failed: " ++ f.message)
    exact ⟨loop, keeps, by rw [said]⟩
  · obtain ⟨loop, keeps, said⟩ := Journals.complain s cfg
      ("Unexpected error connecting to " ++ cfg.address) f
    exact ⟨loop, keeps, by rw [said]⟩

/-- A superseded attempt closes its session if the link is up, and drops it otherwise. -/
theorem discard_cases (s : Supervisor δ) (cfg : Settings δ) (env : Surroundings)
    (n session : Nat) : ∃ loop, s.loop.Keeps [] loop ∧
      (s.discard cfg env n session =
          { s with loop }.await (.attempt n) session .disconnect (.discarding session) ∨
        s.discard cfg env n session = { s with loop }.finishDiscard n session) := by
  obtain ⟨loop, keeps, said⟩ := Journals.say s cfg .debug
    ("Dropping superseded connection to " ++ cfg.address)
  obtain ⟨loop', keeps', same⟩ := Journals.checkLink { s with loop } cfg env session
  refine ⟨loop', keeps.trans keeps', ?_⟩
  rw [discard]
  simp only [said, same]
  split
  · exact .inl rfl
  · exact .inr rfl

/-- A superseded attempt whose session was closed drops it, unless closing failed badly. -/
theorem resumeDiscarding_cases (s : Supervisor δ) (cfg : Settings δ) (n session : Nat)
    (ending : Ending) : ∃ loop, s.loop.Keeps [] loop ∧
      (s.resumeDiscarding cfg n session ending = { s with loop }.finishDiscard n session ∨
        ∃ how, s.resumeDiscarding cfg n session ending = s.finish (.attempt n) how) := by
  rw [resumeDiscarding]
  split
  · exact ⟨s.loop, .refl _, .inr ⟨_, rfl⟩⟩
  · exact ⟨s.loop, .refl _, .inl rfl⟩
  · rename_i f _
    split
    · obtain ⟨loop, keeps, said⟩ := Journals.say s cfg .debug
        ("Disconnect of superseded session failed: " ++ f.message)
      exact ⟨loop, keeps, .inl (by rw [said])⟩
    · exact ⟨s.loop, .refl _, .inr ⟨_, rfl⟩⟩

/-- The attempt that drives the connection starts discovery, or is given up if its link is dead. -/
theorem linkUp_cases {s : Supervisor δ} (connecting : s.machine.state = .connecting)
    (cfg : Settings δ) (env : Surroundings) (n session : Nat) : ∃ loop, s.loop.Keeps [] loop ∧
      (s.isReleased session = false ∧ s.linkUp cfg env n s.machine.generation session =
          startDiscovery { s with machine := s.machine.enter .discovering (some session), loop }
            cfg n s.machine.generation session ∨
        s.Dead env session ∧ s.linkUp cfg env n s.machine.generation session =
          finishWith (.attempt n) ({ s with loop }.failAttempt cfg (some session))) := by
  obtain ⟨loop, keeps, same⟩ := Journals.checkLink s cfg env session
  rw [linkUp]
  simp only [Connection.Machine.isCurrent_natCast, beq_self_eq_true, if_true]
  cases up : (s.checkLink cfg env session).2 with
  | true =>
    obtain ⟨loop', keeps', said⟩ := Journals.say { s with loop } cfg .info
      ("Connected to " ++ cfg.address)
    obtain ⟨loop'', keeps'', entered⟩ :=
      transition_eq { s with loop := loop' } cfg .discovering (some session)
    have machine : (s.machine.transition .discovering (some session)).1 =
        s.machine.enter .discovering (some session) := by
      rw [Connection.Machine.transition, connecting]
      rfl
    refine ⟨loop'', (keeps.trans keeps').trans keeps'', .inl ⟨isReleased_of_checkLink up, ?_⟩⟩
    simp only [same, said, entered, machine, if_true]
  | false =>
    obtain ⟨loop', keeps', said⟩ := Journals.say { s with loop } cfg .warning
      ("Link to " ++ cfg.address ++ " dropped while connecting")
    refine ⟨loop', keeps.trans keeps', .inr ⟨dead_of_checkLink up, ?_⟩⟩
    simp only [same, said, Bool.false_eq_true, if_false]

/-- The link of an attempt that is not current any more is closed. -/
theorem linkUp_of_stale {s : Supervisor δ} {generation : Nat}
    (stale : generation ≠ s.machine.generation) (cfg : Settings δ) (env : Surroundings)
    (n session : Nat) : s.linkUp cfg env n generation session = s.discard cfg env n session := by
  rw [linkUp, Connection.Machine.isCurrent_natCast, if_neg (by simpa using stale)]

/-- Once the transport is connected the link is up, or the attempt waits for pairing. -/
theorem transportUp_cases (s : Supervisor δ) (cfg : Settings δ) (env : Surroundings)
    (n generation session : Nat) : ∃ loop, s.loop.Keeps [] loop ∧
      (s.transportUp cfg env n generation session = s.linkUp cfg env n generation session ∨
        s.transportUp cfg env n generation session =
          { s with loop }.await (.attempt n) session .pair (.pairing generation session)) := by
  obtain ⟨loop, keeps, said⟩ := Journals.say s cfg .debug
    (Gatt.pairingText cfg.address cfg.security)
  refine ⟨loop, keeps, ?_⟩
  rw [transportUp]
  split
  · exact .inl rfl
  · exact .inr (by simp only [said])

/-- Setting the ingestion up takes the discovery timer back, and may fail before there is a handle
map, or before there is an ingestion, or leaves the connection ready. -/
theorem setUp_cases {s : Supervisor δ} (discovering : s.machine.state = .discovering)
    (cfg : Settings δ) (env : Surroundings) (session : Nat) (tree : Gatt.Tree) :
    ∃ loop, s.untimedLoop.Keeps [] loop ∧
      ((s.setUp cfg env session tree).1 = { s with discoveryTimer := none, loop } ∨
        ∃ handles, (∀ mode, cfg.mode ≠ .ok mode) ∧ (s.setUp cfg env session tree).1 =
            { s with discoveryTimer := none, handleMap := some handles, loop } ∨
          ∃ ingestions loop', loop.Keeps [.ready] loop' ∧
            ingestions.map Link.Ingestion.duty =
              s.duties ++ [⟨session, s.machine.generation, true⟩] ∧
            (s.setUp cfg env session tree).1 = { s with
              discoveryTimer := none
              handleMap := some handles
              ingestions
              ingestion := some s.ingestions.length
              machine := s.machine.enter .ready none
              store := s.store.setConnected true
              failures := 0
              loop := loop' }) := by
  rw [setUp]
  rw [cancelDiscoveryTimer_eq]
  simp only
  cases listed : ({ s with discoveryTimer := none, loop := s.untimedLoop } :
    Supervisor δ).listTree cfg tree with
  | error f => exact ⟨s.untimedLoop, .refl _, .inl rfl⟩
  | ok t =>
    obtain ⟨loop, keeps, noted⟩ := (Journals.listTree listed).trans
      (.records t cfg (Gatt.resolve tree).records)
    simp only [noted]
    cases (Gatt.resolve tree).result with
    | error f => exact ⟨loop, keeps, .inl rfl⟩
    | ok handles =>
      obtain ⟨loop', keeps', said⟩ := Journals.showHandles { s with
        discoveryTimer := none, loop, handleMap := some handles } cfg handles
      refine ⟨loop', keeps.trans keeps', .inr ⟨handles, ?_⟩⟩
      simp only [said]
      cases cfg.mode with
      | error f => exact .inl ⟨nofun, rfl⟩
      | ok mode =>
        obtain ⟨ingestions, loop'', keeps'', duties, ready⟩ := becomeReady_eq cfg env session mode
          handles (s := { s with
            discoveryTimer := none, loop := loop', handleMap := some handles }) discovering
        exact .inr ⟨ingestions, loop'', keeps'', duties, ready⟩

/-- The end of discovery ends the attempt, and sets the ingestion up if the attempt is current. -/
theorem resumeDiscovering_cases (s : Supervisor δ) (cfg : Settings δ) (env : Surroundings)
    (n generation session : Nat) (reading : Except Failure (Option Gatt.Tree)) :
    ∃ loop, s.loop.Keeps [] loop ∧
      (s.resumeDiscovering cfg env n generation session reading =
          { s with loop }.finish (.attempt n) .done ∨
        generation = s.machine.generation ∧ ∃ tree,
          s.resumeDiscovering cfg env n generation session reading =
            finishWith (.attempt n) (s.setUp cfg env session tree)) := by
  rw [resumeDiscovering, Connection.Machine.isCurrent_natCast]
  cases Gatt.discovered reading with
  | error f =>
    simp only
    split
    · obtain ⟨loop, keeps, said⟩ := Journals.say s cfg .error
        ("GATT discovery failed on " ++ cfg.address ++ ": " ++ f.message)
      exact ⟨loop, keeps, .inl (by rw [said])⟩
    · obtain ⟨loop, keeps, said⟩ := Journals.complain s cfg
        ("Unexpected error during discovery on " ++ cfg.address) f
      exact ⟨loop, keeps, .inl (by rw [said])⟩
  | ok tree =>
    refine ⟨s.loop, .refl _, ?_⟩
    by_cases current : generation = s.machine.generation
    · exact .inr ⟨current, tree, by simp only [current, beq_self_eq_true, if_true]⟩
    · exact .inl (by simp only [beq_false_of_ne current, Bool.false_eq_true, if_false])

end Supervisor

end SensorLink
