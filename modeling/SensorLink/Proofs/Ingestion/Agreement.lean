/-
# Two ways to the same readings

An ingestion is handed a payload in one of two ways.  A notification names a
handle, and the kind of its payload is looked up in the tree that the session's
client shows; the end of a read brings the kind along.  If no two characteristics
of the tree share a handle that the resolution keeps, it makes no difference which
way the payloads of its entries take: they leave the same store and the same count
of malformed payloads, and the listener is called for the same readings in the
same order.

`Receives` says what a sequence of payloads does to a link in either way.  One
step of each way has its own lemma, and both run through the same induction.
-/

import SensorLink.Proofs.Gatt.Location
import SensorLink.Proofs.Supervisor.Freshness

namespace SensorLink

open Link (Settings Surroundings)

namespace Link

open Gatt (Entry HandleMap Tree)
open Sensor (Kind)

variable {δ : Type}

/-- A payload of an entry, with the circumstances in which it arrives: the surroundings, if it
is notified, and the tick that asked for it and the surroundings, if it is read. -/
structure Arrival where
  entry : Entry
  payload : List UInt8
  notifiedIn : Surroundings
  tick : Nat
  readIn : Surroundings

/-- A payload is notified to an ingestion. -/
def push (cfg : Settings δ) (i : Nat) (l : Link δ) (a : Arrival) : Link δ :=
  report (l.notified cfg a.notifiedIn i a.entry.handle a.payload)

/-- A read of an ingestion returns a payload. -/
def pull (cfg : Settings δ) (i : Nat) (l : Link δ) (a : Arrival) : Link δ :=
  l.resumeRead cfg a.readIn i a.entry.kind a.tick a.entry.handle (.returned a.payload)

/-- An armed ingestion of the current connection, whose session holds its client. -/
structure Serves (l : Link δ) (i session : Nat) : Prop where
  duty : l.duties[i]? = some ⟨session, l.machine.generation, true⟩
  held : l.isReleased session = false

/-- The client of a session finds the characteristics of a tree by their handles. -/
def Surroundings.Shows (env : Surroundings) (session : Nat) (tree : Tree) : Prop :=
  ∀ handle, env.lookup session handle = ⟨tree.at? handle, false⟩

/-- The malformed payloads that an ingestion counts. -/
def malformedAt (l : Link δ) (i : Nat) : Option Nat :=
  l.ingestions[i]?.map Ingestion.malformed

/-- The count of malformed payloads after a payload of a kind. -/
def recount (kind : Kind) (payload : List UInt8) (count : Nat) : Nat :=
  match kind.decode payload with
  | .ok _ => 0
  | .error _ => if malformedThreshold ≤ count + 1 then 0 else count + 1

/-- The readings that payloads make. -/
def readingsOf (l : Link δ) (arrivals : List Arrival) : List Taken :=
  arrivals.flatMap fun a => l.accepted a.entry.kind a.payload

/-- What payloads do to a link when ingestion `i` takes them in. -/
structure Receives (i : Nat) (l : Link δ) (arrivals : List Arrival) (l' : Link δ) : Prop where
  machine : l'.machine = l.machine
  sessions : l'.sessions = l.sessions
  duties : l'.duties = l.duties
  store : l'.store = storeAfter l.store (l.readingsOf arrivals)
  malformed : l'.malformedAt i = (l.malformedAt i).map fun count =>
    arrivals.foldl (fun count a => recount a.entry.kind a.payload count) count
  notices : l'.loop.notices = l.loop.notices ++ (l.readingsOf arrivals).map Taken.notice

/-- Changing an ingestion changes its count as the count changes. -/
theorem malformedAt_onIngestion (l : Link δ) (i : Nat) {f : Ingestion δ → Ingestion δ}
    {k : Nat → Nat} (follows : ∀ g, (f g).malformed = k g.malformed) :
    (l.onIngestion i f).malformedAt i = (l.malformedAt i).map k := by
  unfold malformedAt onIngestion
  rw [List.getElem?_modify_eq]
  cases l.ingestions[i]? with
  | none => rfl
  | some g => exact congrArg some (follows g)

theorem ingestions_record (l : Link δ) (cfg : Settings δ) (r : Journal.Record) :
    (l.record cfg r).ingestions = l.ingestions := by
  unfold record
  split <;> rfl

theorem malformedAt_note (l : Link δ) (cfg : Settings δ) (level : Journal.Level) (text : String)
    (i : Nat) : (l.note cfg level text).malformedAt i = l.malformedAt i := by
  unfold malformedAt note
  rw [ingestions_record]

theorem malformedAt_report (outcome : Link δ × Option Failure) (i : Nat) :
    (report outcome).malformedAt i = outcome.1.malformedAt i := by
  unfold report
  split <;> rfl

theorem malformedAt_ingest (l : Link δ) (cfg : Settings δ) (env : Surroundings) (i : Nat)
    (kind : Kind) (payload : List UInt8) :
    (l.ingest cfg env i kind payload).1.malformedAt i =
      (l.malformedAt i).map (recount kind payload) := by
  unfold ingest recount
  cases kind.decode payload with
  | error f =>
    unfold dropMalformed
    dsimp only
    rw [malformedAt_onIngestion _ i
      (k := fun count => if malformedThreshold ≤ count + 1 then 0 else count + 1) fun _ => rfl]
    split
    · rw [malformedAt_note, malformedAt_note]
    · rw [malformedAt_note]
  | ok value =>
    have forgotten := malformedAt_onIngestion l i (f := .forgetMalformed) (k := fun _ => 0)
      fun _ => rfl
    dsimp only
    split
    · refine Eq.trans ?_ forgotten
      exact malformedAt_note _ cfg _ _ i
    · rw [malformedAt_note]
      exact forgotten

namespace Serves

variable {l l' : Link δ} {i session : Nat}

/-- The ingestion that serves, which is not stale. -/
theorem exists_ingestion (serves : l.Serves i session) :
    ∃ g, l.ingestions[i]? = some g ∧ g.session = session ∧ l.isStale g = false := by
  have duty := serves.duty
  rw [duties, List.getElem?_map, Option.map_eq_some_iff] at duty
  obtain ⟨g, here, duty⟩ := duty
  obtain ⟨own, current, armed⟩ := Duty.mk.inj duty
  exact ⟨g, here, own, by simp [isStale, armed, current]⟩

/-- An ingestion serves on while it takes payloads in. -/
theorem after {arrivals : List Arrival} (serves : l.Serves i session)
    (receives : Receives i l arrivals l') : l'.Serves i session where
  duty := by rw [receives.duties, receives.machine, serves.duty]
  held := by rw [isReleased, receives.sessions]; exact serves.held

end Serves

/-- Work that takes the readings of one payload in, and counts it. -/
theorem Works.receives {i : Nat} {l l' : Link δ} {a : Arrival}
    (works : Works i l (l.accepted a.entry.kind a.payload) l')
    (counted : l'.malformedAt i = (l.malformedAt i).map (recount a.entry.kind a.payload)) :
    Receives i l [a] l' where
  machine := works.machine
  sessions := works.sessions
  duties := works.duties
  store := by rw [readingsOf, List.flatMap_singleton, works.store]
  malformed := counted
  notices := by rw [readingsOf, List.flatMap_singleton, works.loop.notices]

/-- A notification is taken in under the kind of its entry. -/
theorem push_receives {tree : Tree} {target : String} {m : HandleMap}
    (distinct : ∀ e ∈ m.entries, tree.handles.count e.handle ≤ 1)
    (resolved : (Gatt.resolve tree target).result = .ok m)
    {l : Link δ} {i session : Nat} (cfg : Settings δ) {a : Arrival} (mem : a.entry ∈ m.entries)
    (serves : l.Serves i session) (shows : a.notifiedIn.Shows session tree) :
    Receives i l [a] (push cfg i l a) := by
  obtain ⟨g, here, rfl, fresh⟩ := serves.exists_ingestion
  obtain ⟨c, found, kind⟩ := Gatt.kind?_at?_of_resolve resolved mem (distinct a.entry mem)
  obtain ⟨u, named, known⟩ := Gatt.uuid_of_kind? kind
  have taken : l.notified cfg a.notifiedIn i a.entry.handle a.payload =
      l.ingest cfg a.notifiedIn i a.entry.kind a.payload := by
    unfold notified
    simp [here, fresh, lookUp, serves.held, shows a.entry.handle, found, named, known,
      Gatt.requireUuid]
  unfold push
  apply Works.receives
  · rw [taken]
    exact (ingest_works l cfg a.notifiedIn i a.entry.kind a.payload).report
  · rw [malformedAt_report, taken, malformedAt_ingest]

/-- The payload that a read returns to an ingestion that is not stale is taken in. -/
theorem completeRead_returned {l : Link δ} {i : Nat} {g : Ingestion δ} (cfg : Settings δ)
    (env : Surroundings) (task : TaskId) (kind : Kind) (payload : List UInt8)
    (here : l.ingestions[i]? = some g) (fresh : l.isStale g = false) :
    l.completeRead cfg env i task kind (some (.ok payload)) =
      (l.onIngestion i (.settleRead kind task)).ingest cfg env i kind payload := by
  have settled : (l.onIngestion i (.settleRead kind task)).ingestions[i]? =
      some (g.settleRead kind task) := by
    rw [onIngestion, List.getElem?_modify_eq, here, Option.map_eq_map, Option.map_some]
  have still : (l.onIngestion i (.settleRead kind task)).isStale (g.settleRead kind task) =
      false :=
    (isStale_congr _ (settleRead_duty kind task g)).trans fresh
  unfold completeRead
  simp only [settled, still, Bool.false_eq_true, if_false]

/-- The end of a read is taken in under the kind that it brings along. -/
theorem pull_receives {l : Link δ} {i session : Nat} (cfg : Settings δ) (a : Arrival)
    (serves : l.Serves i session) : Receives i l [a] (pull cfg i l a) := by
  obtain ⟨g, here, -, fresh⟩ := serves.exists_ingestion
  have fetched : l.fetched i a.entry.kind (some (.ok a.payload)) =
      l.accepted a.entry.kind a.payload := by
    simp [Link.fetched, here, fresh]
  have uncounted (task : TaskId) (g : Ingestion δ) :
      (g.settleRead a.entry.kind task).malformed = g.malformed := by
    unfold Ingestion.settleRead Ingestion.onPolling
    split <;> rfl
  apply Works.receives
  · rw [← fetched]
    exact resumeRead_works l cfg a.readIn i a.entry.kind a.tick a.entry.handle
      (.returned a.payload)
  · have taken := completeRead_returned
      (l := l.onLoop (·.finish (.read i a.entry.kind a.tick) .done)) cfg a.readIn
      (.read i a.entry.kind a.tick) a.entry.kind a.payload here fresh
    unfold pull resumeRead Gatt.Ending.result?
    dsimp only
    rw [malformedAt_report, taken, malformedAt_ingest,
      malformedAt_onIngestion _ i (k := id) (uncounted _), Option.map_id_fun]
    rfl

namespace Receives

variable {i : Nat} {l l' l'' : Link δ} {first second : List Arrival}

theorem refl (i : Nat) (l : Link δ) : Receives i l [] l where
  machine := rfl
  sessions := rfl
  duties := rfl
  store := rfl
  malformed := by simp
  notices := by simp [readingsOf]

/-- What payloads make depends on whether the store is online, and taking payloads in does not
change that. -/
theorem readingsOf_eq (receives : Receives i l first l') (arrivals : List Arrival) :
    l'.readingsOf arrivals = l.readingsOf arrivals := by
  have online : l'.store.connected = l.store.connected := by
    rw [receives.store, connected_storeAfter]
  unfold readingsOf accepted
  rw [online]

theorem trans (before : Receives i l first l') (after : Receives i l' second l'') :
    Receives i l (first ++ second) l'' where
  machine := after.machine.trans before.machine
  sessions := after.sessions.trans before.sessions
  duties := after.duties.trans before.duties
  store := by
    rw [after.store, before.store, before.readingsOf_eq, storeAfter, storeAfter, storeAfter,
      readingsOf, readingsOf, readingsOf, List.flatMap_append, List.foldl_append]
  malformed := by
    rw [after.malformed, before.malformed, Option.map_map]
    simp only [List.foldl_append]
    rfl
  notices := by
    rw [after.notices, before.notices, before.readingsOf_eq, List.append_assoc,
      ← List.map_append, readingsOf, readingsOf, readingsOf, List.flatMap_append]

/-- Payloads are received one after another, if each is received while the ingestion serves. -/
theorem foldl (step : Link δ → Arrival → Link δ) {session : Nat} (arrivals : List Arrival)
    (each : ∀ l a, a ∈ arrivals → l.Serves i session → Receives i l [a] (step l a))
    (serves : l.Serves i session) : Receives i l arrivals (arrivals.foldl step l) := by
  induction arrivals generalizing l with
  | nil => exact refl i l
  | cons a rest ih =>
    have head := each l a List.mem_cons_self serves
    have tail := ih (fun l b later => each l b (List.mem_cons_of_mem a later)) (serves.after head)
    exact head.trans tail

/-- Links that start with the same store and the same count, and receive the same payloads, end
with the same store and the same count, and their listeners hear the same. -/
theorem agree {i' : Nat} {m m' : Link δ} {arrivals : List Arrival}
    (here : Receives i l arrivals l') (there : Receives i' m arrivals m')
    (store : m.store = l.store) (malformed : m.malformedAt i' = l.malformedAt i) :
    m'.store = l'.store ∧ m'.malformedAt i' = l'.malformedAt i ∧
      m.readingsOf arrivals = l.readingsOf arrivals := by
  have readings : m.readingsOf arrivals = l.readingsOf arrivals := by
    unfold readingsOf accepted
    rw [store]
  refine ⟨?_, ?_, readings⟩
  · rw [here.store, there.store, readings, store]
  · rw [here.malformed, there.malformed, malformed]

end Receives

end Link

namespace Supervisor

variable {δ : Type} {cfg : Settings δ} {s : Supervisor δ}

/-- In a run whose attempts obey, the session of an armed ingestion of the current connection holds
its client. -/
theorem Run.serves {past : List (Moment δ)} (run : Run cfg past s)
    (obedient : ∀ m ∈ past, m.Obedient) {i : Nat} {g : Link.Ingestion δ}
    (here : s.ingestions[i]? = some g) (fresh : s.isStale g = false) :
    s.toLink.Serves i g.session := by
  have inv := run.latest obedient
  obtain ⟨ready, own⟩ := (inv.isStale_eq_false_iff here).mp fresh
  obtain ⟨session, charge, -, held⟩ := inv.held (.inr ready)
  obtain rfl : session = g.session := Option.some.inj (charge.symm.trans own)
  rw [Link.isStale, Bool.or_eq_false_iff, Bool.not_eq_false', Bool.not_eq_false',
    Connection.Machine.isCurrent_natCast, beq_iff_eq] at fresh
  refine ⟨?_, held⟩
  rw [Link.duties, List.getElem?_map, here, ← fresh.2, ← fresh.1]
  rfl

/-- Surroundings in which a client searches its tree for a handle, and finds nothing where the
search fails. -/
def searching (tree : Gatt.Tree) : Surroundings :=
  { plainWorld with lookup := fun _ handle => ⟨(tree.findHandle handle).toOption.join, false⟩ }

theorem shows_searching {tree : Gatt.Tree} (addressed : tree.Addressed) (session : Nat) :
    (searching tree).Shows session tree := by
  intro handle
  unfold searching
  dsimp only
  rw [addressed.findHandle_eq]
  rfl

end Supervisor

namespace Link

open Gatt (Entry HandleMap Tree)
open Sensor (Kind)

variable {δ : Type}

/-- **Push and pull agree.** If no two characteristics of a tree share a handle that its resolution
keeps, the payloads of the resolution's entries leave the same store and the same count of
malformed payloads whether they are notified to one ingestion or returned by the reads of
another, and the listener is called for the same readings, those that the store accepts, in the
same order. -/
theorem push_pull_agree {tree : Tree} {target : String} {m : HandleMap}
    (distinct : ∀ e ∈ m.entries, tree.handles.count e.handle ≤ 1)
    (resolved : (Gatt.resolve tree target).result = .ok m)
    {arrivals : List Arrival} (mem : ∀ a ∈ arrivals, a.entry ∈ m.entries)
    {l l' : Link δ} {i i' session session' : Nat} (cfg cfg' : Settings δ)
    (serves : l.Serves i session) (serves' : l'.Serves i' session')
    (shows : ∀ a ∈ arrivals, a.notifiedIn.Shows session tree)
    (store : l'.store = l.store) (malformed : l'.malformedAt i' = l.malformedAt i) :
    let pushed := arrivals.foldl (push cfg i) l
    let pulled := arrivals.foldl (pull cfg' i') l'
    pulled.store = pushed.store ∧ pulled.malformedAt i' = pushed.malformedAt i ∧
      pushed.loop.notices = l.loop.notices ++ (l.readingsOf arrivals).map Taken.notice ∧
      pulled.loop.notices = l'.loop.notices ++ (l.readingsOf arrivals).map Taken.notice := by
  have pushed := Receives.foldl (push cfg i) arrivals
    (fun l a here serves => push_receives distinct resolved cfg (mem a here) serves (shows a here))
    serves
  have pulled := Receives.foldl (pull cfg' i') arrivals
    (fun l a _ serves => pull_receives cfg' a serves) serves'
  obtain ⟨stores, counts, calls⟩ := pushed.agree pulled store malformed
  exact ⟨stores, counts, pushed.notices, calls ▸ pulled.notices⟩

/-- A tree with a thermometer in two services, of which only the second is the sensors', with a
characteristic of no kind, a second thermometer and identifiers in several spellings. -/
def weatherStation : Tree :=
  [⟨some (.text "1800"), .given 1, .given
      [⟨some (.text "2A6E"), .given 2, .absent, .absent⟩]⟩,
    ⟨some (.text "181A"), .given 10, .given
      [⟨some (.text "2A6E"), .given 11, .absent, .absent⟩,
        ⟨some (.text "2A19"), .given 13, .absent, .absent⟩,
        ⟨some (.text "2a6e"), .given 15, .absent, .absent⟩,
        ⟨some (.text "urn:uuid:00002a6f-0000-1000-8000-00805f9b34fb"), .given 17, .absent,
          .absent⟩]⟩]

/-- A temperature and a humidity, and a humidity that is too short. -/
def weather : List Arrival :=
  let env := Supervisor.searching weatherStation
  [⟨⟨.temperature, some 11, Kind.uuid .temperature⟩, [0x34, 0x08], env, 0, env⟩,
    ⟨⟨.humidity, some 17, Kind.uuid .humidity⟩, [0x10, 0x27], env, 0, env⟩,
    ⟨⟨.humidity, some 17, Kind.uuid .humidity⟩, [0x10], env, 1, env⟩]

/-- A link that is ready, with one armed ingestion. -/
def serving (mode : Mode Nat) (handles : HandleMap) : Link Nat :=
  { fresh with
    machine := ⟨.ready, 1, some 0⟩
    store := Store.fresh.setConnected true
    sessions := [⟨1, false⟩]
    ingestions := [{ Ingestion.create mode 0 1 handles with armed := true }] }

/-- The weather of the station reaches the store alike where it is notified and where it is read:
two readings are told, and one malformed payload is counted. -/
theorem push_pull_agree_weather : ∃ m, (Gatt.resolve weatherStation).result = .ok m ∧
    let cfg := Supervisor.plainSettings
    let pushed := weather.foldl (push cfg 0) (serving .notify m)
    let pulled := weather.foldl (pull cfg 0) (serving (.poll 5) m)
    pulled.store = pushed.store ∧ pulled.malformedAt 0 = pushed.malformedAt 0 ∧
      pushed.malformedAt 0 = some 1 ∧
      pushed.loop.notices.length = 2 ∧ pulled.loop.notices.length = 2 := by
  have addressed : weatherStation.Addressed := by
    simp [weatherStation, Tree.Addressed, Gatt.Field.isNull, Gatt.Field.items, Gatt.Field.value?,
      Gatt.Field.shown?]
  have known : (Gatt.resolve weatherStation).result.toOption.map HandleMap.entries =
      some [⟨.temperature, some 11, Kind.uuid .temperature⟩,
        ⟨.humidity, some 17, Kind.uuid .humidity⟩] := by decide +kernel
  cases resolved : (Gatt.resolve weatherStation).result with
  | error f => simp [resolved, Except.toOption] at known
  | ok m =>
    rw [resolved] at known
    have entries := Option.some.inj known
    have serves (mode : Mode Nat) : (serving mode m).Serves 0 0 := ⟨rfl, rfl⟩
    have mem : ∀ a ∈ weather, a.entry ∈ m.entries := by simp [weather, entries]
    have shows : ∀ a ∈ weather, a.notifiedIn.Shows 0 weatherStation := by
      simp [weather, Supervisor.shows_searching addressed]
    have distinct : ∀ e ∈ m.entries, weatherStation.handles.count e.handle ≤ 1 := by
      rw [entries]
      decide
    have agree := push_pull_agree distinct resolved mem Supervisor.plainSettings
      Supervisor.plainSettings (serves .notify) (serves (.poll 5)) shows rfl rfl
    obtain ⟨stores, counts, pushed, pulled⟩ := agree
    have heard : ((serving .notify m).readingsOf weather).length = 2 := rfl
    refine ⟨m, rfl, stores, counts, ?_, ?_, ?_⟩
    · rw [← counts]
      rfl
    · rw [pushed, List.length_append, List.length_map, heard]
      rfl
    · rw [pulled, List.length_append, List.length_map, heard]
      rfl

end Link

end SensorLink
