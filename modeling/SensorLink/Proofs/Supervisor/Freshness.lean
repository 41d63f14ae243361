/-
# No stale data

A payload is delivered by a session: in a notification, or as the result of a
read.  Deliveries may be processed at any time, also long after the connection
they belong to is gone.  What the store shows as observed is nevertheless always
decoded from the latest payload of its kind that the session of the current
connection delivered while that connection was ready; deliveries of earlier
connections leave no trace.
-/

import SensorLink.Proofs.Supervisor.Preservation

namespace SensorLink

open Gatt (Ending)
open Link (Settings Surroundings Taken TaskId Works)
open Sensor (Kind)

/-- The ingestion that an event brings a payload to, or the end of a read. -/
def Event.recipient? : Event → Option Nat
  | .notified i _ _ => some i
  | .begins (.read i _ _) => some i
  | .resumed (.read i _ _) _ => some i
  | _ => none

/-- A payload of a kind that a session delivers. -/
structure Delivery where
  session : Nat
  kind : Kind
  payload : List UInt8

namespace Supervisor

variable {δ : Type}

/-- The payload that an event delivers: the session is that of the ingestion it is meant for,
the kind of a notification is the one that the session's tree gives its handle. -/
def delivery? (s : Supervisor δ) (env : Surroundings) : Event → Option Delivery
  | .notified i handle payload => s.ingestions[i]?.bind fun g =>
      (s.kindAt env g.session handle).map fun kind => ⟨g.session, kind, payload⟩
  | .resumed (.read i kind tick) ending =>
    match s.loop.point? (.read i kind tick), ending with
    | some (.reading _), .returned payload =>
      s.ingestions[i]?.map fun g => ⟨g.session, kind, payload⟩
    | _, _ => none
  | _ => none

/-- The payload of a kind that is processed at a moment, if it is long enough, a session
delivers it, and the connection of a generation is ready. -/
def Moment.payload? (m : Moment δ) (generation session : Nat) (kind : Kind) :
    Option (List UInt8) :=
  match m.before.delivery? m.env m.event with
  | some d =>
    if m.before.machine.state = .ready ∧ m.before.machine.generation = generation ∧
        d.session = session ∧ d.kind = kind ∧ kind.width ≤ d.payload.length then some d.payload
    else none
  | none => none

/-- The latest payload of a kind that a session delivered while the connection of a generation
was ready. -/
def latestPayload (past : List (Moment δ)) (generation session : Nat) (kind : Kind) :
    Option (List UInt8) :=
  (past.filterMap fun m => m.payload? generation session kind).getLast?

/-- A value is what the latest payload decodes to. -/
def IsLatest (past : List (Moment δ)) (generation session : Nat) (kind : Kind) (value : Float) :
    Prop :=
  ∃ payload, latestPayload past generation session kind = some payload ∧
    kind.decode payload = .ok value

variable {cfg : Settings δ} {s : Supervisor δ} {vouch : Nat → Nat → Kind → Float → Prop}

/-- A payload of sufficient length decodes. -/
theorem decode_of_width_le {kind : Kind} {payload : List UInt8}
    (long : kind.width ≤ payload.length) : ∃ value, kind.decode payload = .ok value := by
  refine ⟨Float.ofInt (kind.hundredths payload) / 100, ?_⟩
  rw [Kind.decode, if_neg (Nat.not_lt.mpr long)]

theorem width_le_of_decode {kind : Kind} {payload : List UInt8} {value : Float}
    (decoded : kind.decode payload = .ok value) : kind.width ≤ payload.length := by
  by_contra short
  rw [Kind.decode, if_pos (Nat.lt_of_not_le short)] at decoded
  cases decoded

/-- An ingestion serves the current connection exactly if the connection is ready and the
ingestion's session is the one in charge. -/
theorem Inv.isStale_eq_false_iff {alone : Prop} (inv : Inv cfg alone vouch none s) {i : Nat}
    {g : Link.Ingestion δ} (here : s.ingestions[i]? = some g) :
    s.isStale g = false ↔ s.machine.state = .ready ∧ s.session = some g.session := by
  have duty : s.duties[i]? = some g.duty := by
    rw [Link.duties, List.getElem?_map, here]
    rfl
  have works (charge : s.ingestion = some i) : s.machine.state = .ready ∧
      s.session = some g.session ∧ g.armed = true ∧ g.generation = s.machine.generation := by
    obtain ⟨ready, g', there, works⟩ := inv.in_charge charge
    obtain rfl : g = g' := Option.some.inj (here.symm.trans there)
    exact ⟨ready, works⟩
  constructor
  · intro serves
    rw [Link.isStale, Bool.or_eq_false_iff, Bool.not_eq_false'] at serves
    obtain ⟨ready, own, -⟩ := works (inv.sole i _ duty (.inl serves.1))
    exact ⟨ready, own⟩
  · rintro ⟨-, own⟩
    obtain ⟨-, -, armed, current⟩ := works (inv.sole i _ duty (.inr own))
    simp [Link.isStale, armed, current]

/-- A payload meant for an ingestion is taken in if the ingestion serves the connection. -/
theorem Inv.accepted_eq {alone : Prop} (inv : Inv cfg alone vouch none s) {i : Nat}
    {g : Link.Ingestion δ} (here : s.ingestions[i]? = some g) (kind : Kind)
    (payload : List UInt8) :
    (if s.isStale g then [] else s.accepted kind payload) =
      if s.machine.state = .ready ∧ s.session = some g.session then s.accepted kind payload
      else [] := by
  have serves := inv.isStale_eq_false_iff here
  cases stale : s.isStale g with
  | true =>
    have other := serves.not.mp (by simp [stale])
    rw [if_pos rfl, if_neg other]
  | false => rw [if_neg Bool.false_ne_true, if_pos (serves.mp stale)]

/-- An event takes in what its delivery makes, if the delivery is the current connection's. -/
theorem Inv.takes_eq {alone : Prop} (inv : Inv cfg alone vouch none s) (env : Surroundings)
    (event : Event) : s.takes cfg env event =
      (s.delivery? env event).elim [] fun d =>
        if s.machine.state = .ready ∧ s.session = some d.session then
          s.accepted d.kind d.payload
        else [] := by
  cases event with
  | notified i handle payload =>
    simp only [takes, delivery?, Link.heard]
    cases here : s.ingestions[i]? with
    | none => rfl
    | some g =>
      cases named : s.kindAt env g.session handle with
      | none => simp [named]
      | some kind =>
        simp only [named, Option.bind_some, Option.map_some, Option.elim_some]
        exact inv.accepted_eq here kind payload
  | resumed task ending =>
    cases task with
    | read i kind tick =>
      simp only [takes, delivery?]
      cases s.loop.point? (.read i kind tick) with
      | none => rfl
      | some point =>
        cases point with
        | reading handle =>
          cases ending with
          | returned payload =>
            simp only [Link.fetched, Ending.result?]
            cases here : s.ingestions[i]? with
            | none => rfl
            | some g => exact inv.accepted_eq here kind payload
          | raised f =>
            simp only [Ending.result?]
            cases cfg.limitText (.read handle) <;> rfl
          | timedOut => rfl
          | cancelled => rfl
        | attemptStart | connecting | pairing | discovering | discarding | forcedStart
        | forcedClosing | shutdownStart | shutdownClosing | subscriptionStart | subscribing
        | readStart | doomed => rfl
    | attempt n => rfl
    | forcedDisconnect n => rfl
    | shutdown n => rfl
    | subscription i kind round => rfl
  | expired timer => rfl
  | begins task => rfl
  | treeRead task reading => rfl
  | linkLost generation => rfl
  | started => rfl
  | shutdownAsked => rfl
  | transitionAsked target => rfl

/-- What is taken in is the payload that is processed. -/
theorem Inv.payload_of_takes (inv : Inv cfg True vouch none s) {env : Surroundings}
    {event : Event} {session : Nat} {kind : Kind} {value : Float} (own : s.session = some session)
    (taken : (kind, value) ∈ s.takes cfg env event) :
    ∃ payload, (⟨s, env, event⟩ : Moment δ).payload? s.machine.generation session kind =
      some payload ∧ kind.decode payload = .ok value := by
  rw [inv.takes_eq] at taken
  cases delivered : s.delivery? env event with
  | none =>
    rw [delivered] at taken
    cases taken
  | some d =>
    rw [delivered, Option.elim_some] at taken
    split at taken
    · rename_i current
      unfold Link.accepted at taken
      cases decoded : d.kind.decode d.payload with
      | error f =>
        rw [decoded] at taken
        cases taken
      | ok v =>
        simp only [decoded, inv.online trivial current.1, if_true, List.mem_singleton,
          Prod.mk.injEq] at taken
        obtain ⟨rfl, rfl⟩ := taken
        refine ⟨d.payload, ?_, decoded⟩
        have same : d.session = session := Option.some.inj (current.2.symm.trans own)
        simp [Moment.payload?, delivered, current.1, same, width_le_of_decode decoded]
    · cases taken

/-- A payload of the session in charge that is processed is taken in. -/
theorem Inv.takes_of_payload (inv : Inv cfg True vouch none s) {env : Surroundings}
    {event : Event} {generation session : Nat} {kind : Kind} {payload : List UInt8}
    (own : s.session = some session)
    (processed : (⟨s, env, event⟩ : Moment δ).payload? generation session kind = some payload) :
    ∃ value, (kind, value) ∈ s.takes cfg env event := by
  simp only [Moment.payload?] at processed
  cases delivered : s.delivery? env event with
  | none => simp [delivered] at processed
  | some d =>
    simp only [delivered, Option.ite_none_right_eq_some] at processed
    obtain ⟨⟨ready, -, rfl, rfl, long⟩, -⟩ := processed
    obtain ⟨value, decoded⟩ := decode_of_width_le long
    refine ⟨value, ?_⟩
    rw [inv.takes_eq, delivered, Option.elim_some, if_pos ⟨ready, own⟩]
    simp [Link.accepted, decoded, inv.online trivial ready]

/-- The work of an ingestion is done on the link. -/
theorem step_works (cfg : Settings δ) {env : Surroundings}
    (calm : ∀ session handle, (env.lookup session handle).supersedes = false) {event : Event}
    {i : Nat} (recipient : event.recipient? = some i) :
    ∃ l, Works i s.toLink (s.takes cfg env event) l ∧
      s.step cfg env event = { s with toLink := l } := by
  cases event with
  | notified j handle payload =>
    obtain rfl : j = i := Option.some.inj recipient
    exact ⟨_, (Link.notified_works s.toLink cfg j handle payload calm).report,
      step_notified s cfg env j handle payload⟩
  | begins task =>
    cases task with
    | read j kind tick =>
      obtain rfl : j = i := Option.some.inj recipient
      simp only [step]
      cases s.loop.point? (.read j kind tick) with
      | none => exact ⟨_, .refl j s.toLink, rfl⟩
      | some point =>
        cases point with
        | readStart session handle =>
          exact ⟨_, Link.beginRead_works s.toLink cfg env j kind tick session handle, rfl⟩
        | attemptStart | connecting | pairing | discovering | discarding | forcedStart
        | forcedClosing | shutdownStart | shutdownClosing | subscriptionStart | subscribing
        | reading | doomed => exact ⟨_, .refl j s.toLink, rfl⟩
    | attempt | forcedDisconnect | shutdown | subscription => cases recipient
  | resumed task ending =>
    cases task with
    | read j kind tick =>
      obtain rfl : j = i := Option.some.inj recipient
      simp only [step, takes]
      cases s.loop.point? (.read j kind tick) with
      | none => exact ⟨_, .refl j s.toLink, rfl⟩
      | some point =>
        cases point with
        | reading handle =>
          exact ⟨_, Link.resumeRead_works s.toLink cfg env j kind tick handle ending, rfl⟩
        | doomed =>
          exact ⟨_, Link.resumeRead_works s.toLink cfg env j kind tick none .cancelled, rfl⟩
        | attemptStart | connecting | pairing | discovering | discarding | forcedStart
        | forcedClosing | shutdownStart | shutdownClosing | subscriptionStart | subscribing
        | readStart => exact ⟨_, .refl j s.toLink, rfl⟩
    | attempt | forcedDisconnect | shutdown | subscription => cases recipient
  | expired | treeRead | linkLost | started | shutdownAsked | transitionAsked => cases recipient

/-- Whatever delivers a payload is meant for an ingestion. -/
theorem exists_recipient {env : Surroundings} {event : Event} {d : Delivery}
    (delivered : s.delivery? env event = some d) : ∃ i, event.recipient? = some i := by
  unfold delivery? at delivered
  split at delivered
  · exact ⟨_, rfl⟩
  · exact ⟨_, rfl⟩
  · cases delivered

/-- Processing a moment makes its payload the latest one. -/
theorem latestPayload_append (past : List (Moment δ)) (m : Moment δ) (generation session : Nat)
    (kind : Kind) : latestPayload (past ++ [m]) generation session kind =
      (m.payload? generation session kind).or (latestPayload past generation session kind) := by
  unfold latestPayload
  cases processed : m.payload? generation session kind with
  | none => simp [processed]
  | some payload => simp [processed]

/-- In every state of a lawful run whose attempts obey, the latest payloads vouch for what the
store shows. -/
theorem Run.latest {past : List (Moment δ)} (run : Run cfg past s)
    (obedient : ∀ m ∈ past, m.Obedient) : Inv cfg True (IsLatest past) none s := by
  refine run.preserves obedient .fresh fun {past} m _ _ lawful obeys inv => ?_
  apply (inv.step lawful obeys).weaken
  rintro session kind value own (⟨taken, same, before⟩ | ⟨absent, payload, latest, decoded⟩)
  · obtain ⟨payload, processed, decoded⟩ := inv.payload_of_takes before taken
    refine ⟨payload, ?_, decoded⟩
    rw [latestPayload_append, same, processed]
    rfl
  · refine ⟨payload, ?_, decoded⟩
    rw [latestPayload_append, latest]
    cases processed : m.payload? (m.before.step cfg m.env m.event).machine.generation session
      kind with
    | none => rfl
    | some other =>
      obtain ⟨d, delivered⟩ : ∃ d, m.before.delivery? m.env m.event = some d := by
        cases delivered : m.before.delivery? m.env m.event with
        | none => simp [Moment.payload?, delivered] at processed
        | some d => exact ⟨d, rfl⟩
      obtain ⟨i, recipient⟩ := exists_recipient delivered
      obtain ⟨l, -, stays⟩ := step_works cfg lawful.calm recipient
      rw [stays] at own
      obtain ⟨v, taken⟩ := inv.takes_of_payload own processed
      exact absurd taken (absent v)

/-- An event for an ingestion of an earlier connection takes nothing in. -/
theorem Inv.takes_eq_nil {alone : Prop} (inv : Inv cfg alone vouch none s) {env : Surroundings}
    {event : Event} {i : Nat} {g : Link.Ingestion δ} (recipient : event.recipient? = some i)
    (here : s.ingestions[i]? = some g)
    (earlier : s.machine.state = .ready → s.session ≠ some g.session) :
    s.takes cfg env event = [] := by
  have stale : s.isStale g = true := by
    by_contra serves
    obtain ⟨ready, own⟩ := (inv.isStale_eq_false_iff here).mp (Bool.not_eq_true _ ▸ serves)
    exact earlier ready own
  cases event with
  | notified j handle payload =>
    obtain rfl : j = i := Option.some.inj recipient
    simp [takes, Link.heard, here, stale]
  | begins task => rfl
  | resumed task ending =>
    cases task with
    | read j kind tick =>
      obtain rfl : j = i := Option.some.inj recipient
      simp only [takes]
      split
      · unfold Link.fetched
        rw [here]
        split
        · rename_i same
          cases same
          rw [if_pos stale]
        · rfl
      · rfl
    | attempt | forcedDisconnect | shutdown | subscription => cases recipient
  | expired | treeRead | linkLost | started | shutdownAsked | transitionAsked => cases recipient

/-- **No stale data.** In every state of a lawful run in which no cancelled attempt fails after its
successor was created, a value that the store shows as observed is decoded from the latest payload
of its kind that is long enough and that the session of the current connection delivered while
that connection was ready.  An event that brings a payload or the end of a read to the ingestion
of an earlier connection changes neither the store nor the ingestion in charge, and the listeners
hear nothing of it. -/
theorem Run.no_stale_data {past : List (Moment δ)} (run : Run cfg past s)
    (obedient : ∀ m ∈ past, m.Obedient) :
    (∀ kind value, s.store.read kind = ⟨value, true⟩ → s.machine.state = .ready ∧
      ∃ session payload, s.session = some session ∧
        latestPayload past s.machine.generation session kind = some payload ∧
        kind.decode payload = .ok value) ∧
    ∀ env event i g, Lawful env event → event.recipient? = some i →
      s.ingestions[i]? = some g → (s.machine.state = .ready → s.session ≠ some g.session) →
        (s.step cfg env event).store = s.store ∧
        (∀ j, s.ingestion = some j →
          (s.step cfg env event).ingestions[j]? = s.ingestions[j]?) ∧
        (s.step cfg env event).loop.notices = s.loop.notices := by
  have inv := run.latest obedient
  constructor
  · intro kind value shown
    obtain ⟨ready, session, own, payload, latest, decoded⟩ := inv.vouched kind value shown
    exact ⟨ready, session, payload, own, latest, decoded⟩
  · intro env event i g lawful recipient here earlier
    obtain ⟨l, works, stays⟩ := step_works cfg lawful.calm recipient
    rw [inv.takes_eq_nil recipient here earlier] at works
    rw [stays]
    refine ⟨works.store, ?_, ?_⟩
    · intro j charge
      apply works.others
      rintro rfl
      obtain ⟨ready, g', there, own, -⟩ := inv.in_charge charge
      obtain rfl : g = g' := Option.some.inj (here.symm.trans there)
      exact earlier ready own
    · rw [works.loop.notices, List.map_nil, List.append_nil]

/-- The second connection shows what its own session delivered, and a late notification of the
first one leaves the store as it is. -/
theorem no_stale_data_secondConnection :
    let s := play plainSettings plainWorld .fresh secondConnection
    (s.store.read .temperature).observed = true ∧
      (∃ session payload, s.session = some session ∧
        latestPayload (moments plainSettings plainWorld .fresh secondConnection)
          s.machine.generation session .temperature = some payload ∧
        Kind.temperature.decode payload = .ok (s.store.read .temperature).value) ∧
      (s.step plainSettings plainWorld (.notified 0 (some 1) [0x00, 0x00])).store = s.store := by
  have run : Run plainSettings (moments plainSettings plainWorld .fresh secondConnection)
      (play plainSettings plainWorld .fresh secondConnection) := run_play (fun _ _ => rfl) rfl
  obtain ⟨fresh, stale⟩ := run.no_stale_data (obedient_moments rfl)
  have observed : ((play plainSettings plainWorld .fresh secondConnection).store.read
      .temperature).observed = true := by decide +kernel
  refine ⟨observed, ?_, ?_⟩
  · exact (fresh .temperature _ (by rw [← observed])).2
  · have lawful : Lawful plainWorld (.notified 0 (some 1) [0x00, 0x00]) :=
      .of_tame (fun _ _ => rfl) rfl
    have known : ((play plainSettings plainWorld .fresh secondConnection).ingestions[0]?.map
        (·.session)) = some 0 := by decide +kernel
    obtain ⟨g, here, first⟩ := Option.map_eq_some_iff.mp known
    refine (stale _ _ 0 g lawful rfl here fun _ => ?_).1
    rw [first]
    decide +kernel

/-- After a late failure the store still shows the reading of the second connection as observed,
though no connection is ready. -/
theorem stale_lateFailure :
    let s := play plainSettings lateWorld .fresh lateFailure
    (∃ past, Run plainSettings past s) ∧ s.machine.state = .disconnected ∧
      (s.store.read .temperature).observed = true :=
  ⟨⟨_, lateFailure_run⟩, by decide +kernel, by decide +kernel⟩

end Supervisor

end SensorLink
