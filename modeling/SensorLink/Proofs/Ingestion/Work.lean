/-
# The work of one ingestion

Ticks, reads, subscriptions and notifications work for one ingestion.  Whatever
they do, the connection's state machine, the sessions and the other ingestions
stay as they are, no ingestion changes hands, and nothing that steers the
connection is touched.  The store changes only by the readings that the work
takes in, and the listeners are told of exactly these.

`Works` states this of two links; the main statements say it of every callback
of an ingestion, with the readings that the callback takes in.
-/

import SensorLink.Ingestion.Basic
import SensorLink.Proofs.Loop.Word

namespace SensorLink

namespace Link

open Gatt (Ending Entry)
open Sensor (Kind PerKind)

variable {δ : Type}

/-- Whose readings an ingestion takes in, for which connection, and whether it still does. -/
structure Duty where
  session : Nat
  generation : Nat
  armed : Bool
  deriving DecidableEq

/-- The duty of an ingestion. -/
def Ingestion.duty (g : Ingestion δ) : Duty :=
  ⟨g.session, g.generation, g.armed⟩

/-- The duties of all ingestions. -/
def duties (l : Link δ) : List Duty :=
  l.ingestions.map Ingestion.duty

/-- The store after readings were taken in. -/
def storeAfter (store : Store) (taken : List Taken) : Store :=
  taken.foldl (fun store r => (store.write r.1 r.2).1) store

/-- Changing an item changes what is made of it, if the making follows the change. -/
theorem map_modify_of {α β : Type} {f : α → α} {make : α → β} (k : β → β)
    (follows : ∀ a, make (f a) = k (make a)) (as : List α) (i : Nat) :
    (as.modify i f).map make = (as.map make).modify i k := by
  apply List.ext_getElem?
  intro j
  simp only [List.getElem?_map, List.getElem?_modify]
  by_cases here : i = j
  · cases found : as[j]? <;> simp [here, follows]
  · simp [here]

/-- Taking readings in changes no connectivity. -/
theorem connected_storeAfter (store : Store) (taken : List Taken) :
    (storeAfter store taken).connected = store.connected := by
  induction taken generalizing store with
  | nil => rfl
  | cons r rest ih =>
    rw [storeAfter, List.foldl_cons]
    refine (ih _).trans ?_
    rw [Store.write]
    split <;> rfl

/-- A value that is read after readings were taken in is one of them, or it was there before and
none of them is of its kind. -/
theorem read_storeAfter {store : Store} {taken : List Taken} {kind : Kind} {value : Float}
    (online : taken ≠ [] → store.connected = true)
    (observed : (storeAfter store taken).read kind = ⟨value, true⟩) :
    (kind, value) ∈ taken ∨
      (∀ v, (kind, v) ∉ taken) ∧ store.read kind = ⟨value, true⟩ := by
  induction taken generalizing store with
  | nil => exact .inr ⟨fun _ => List.not_mem_nil, observed⟩
  | cons r rest ih =>
    have connected : store.connected = true := online (List.cons_ne_nil r rest)
    have written : (store.write r.1 r.2).1 =
        { store with readings := store.readings.set r.1 ⟨r.2, true⟩ } := by
      rw [Store.write, if_pos connected]
    have online' : rest ≠ [] → (store.write r.1 r.2).1.connected = true := by
      intro _
      rw [written, connected]
    rcases ih online' observed with mem | ⟨absent, before⟩
    · exact .inl (List.mem_cons_of_mem r mem)
    · rw [written, Store.read, PerKind.get_set] at before
      by_cases same : kind = r.1
      · rw [if_pos same, Sensor.Reading.mk.injEq] at before
        refine .inl (List.mem_cons.mpr (.inl ?_))
        rw [same, ← before.1]
      · rw [if_neg same] at before
        refine .inr ⟨fun v mem => ?_, before⟩
        rcases List.mem_cons.mp mem with eq | mem
        · exact same (congrArg Prod.fst eq)
        · exact absent v mem

/-- Ingestion `i` worked between two links and took `taken` in. -/
structure Works (i : Nat) (l : Link δ) (taken : List Taken) (l' : Link δ) : Prop where
  machine : l'.machine = l.machine
  sessions : l'.sessions = l.sessions
  duties : l'.duties = l.duties
  others : ∀ j, j ≠ i → l'.ingestions[j]? = l.ingestions[j]?
  store : l'.store = storeAfter l.store taken
  accepted : taken ≠ [] → l.store.connected = true
  loop : l.loop.Keeps (taken.map Taken.notice) l'.loop

namespace Works

variable {i : Nat} {l l' l'' : Link δ} {taken : List Taken}

theorem refl (i : Nat) (l : Link δ) : Works i l [] l where
  machine := rfl
  sessions := rfl
  duties := rfl
  others _ _ := rfl
  store := rfl
  accepted absurdity := absurd rfl absurdity
  loop := .refl _

/-- Work that takes nothing in, before other work. -/
theorem before (second : Works i l' taken l'') (first : Works i l [] l') :
    Works i l taken l'' where
  machine := second.machine.trans first.machine
  sessions := second.sessions.trans first.sessions
  duties := second.duties.trans first.duties
  others j other := (second.others j other).trans (first.others j other)
  store := by rw [second.store, first.store]; rfl
  accepted some := by rw [← second.accepted some, first.store]; rfl
  loop := first.loop.trans second.loop

/-- Work that takes nothing in, after other work. -/
theorem after (first : Works i l taken l') (second : Works i l' [] l'') :
    Works i l taken l'' where
  machine := second.machine.trans first.machine
  sessions := second.sessions.trans first.sessions
  duties := second.duties.trans first.duties
  others j other := (second.others j other).trans (first.others j other)
  store := by rw [second.store, first.store]; rfl
  accepted := first.accepted
  loop := first.loop.after second.loop

/-- Only the loop changes. -/
theorem onLoop (i : Nat) (l : Link δ) {f : Loop δ → Loop δ} (keeps : l.loop.Keeps [] (f l.loop)) :
    Works i l [] (l.onLoop f) where
  machine := rfl
  sessions := rfl
  duties := rfl
  others _ _ := rfl
  store := rfl
  accepted absurdity := absurd rfl absurdity
  loop := keeps

/-- Only the ingestion changes, and its duty stays. -/
theorem onIngestion (i : Nat) (l : Link δ) {f : Ingestion δ → Ingestion δ}
    (same : ∀ g, (f g).duty = g.duty) : Works i l [] (l.onIngestion i f) where
  machine := rfl
  sessions := rfl
  duties := by
    have kept := map_modify_of id same l.ingestions i
    rwa [List.modify_id] at kept
  others j other := by
    simp [Link.onIngestion, Ne.symm other]
  store := rfl
  accepted absurdity := absurd rfl absurdity
  loop := .refl _

theorem record (i : Nat) (l : Link δ) (cfg : Settings δ) (r : Journal.Record) :
    Works i l [] (l.record cfg r) := by
  rw [Link.record]
  split
  · exact onLoop i l (.journal l.loop r)
  · exact refl i l

theorem note (i : Nat) (l : Link δ) (cfg : Settings δ) (level : Journal.Level) (text : String) :
    Works i l [] (l.note cfg level text) :=
  record i l cfg _

theorem noteHandle (i : Nat) (l : Link δ) (cfg : Settings δ) (level : Journal.Level)
    (before : String) (handle : Option Int) (after : String) :
    Works i l [] (l.noteHandle cfg level before handle after) := by
  cases handle with
  | none => exact refl i l
  | some handle => exact note i l cfg level _

theorem request (i : Nat) (l : Link δ) {task : TaskId} (session : Nat) (call : Gatt.Call)
    (point : Point) (inner : task.steers = false) :
    Works i l [] (l.request task session call point) :=
  onLoop i l ((Loop.Keeps.suspend l.loop task point inner).after (.silent _ _ rfl nofun))

/-- Work that goes through a list and takes nothing in at any item. -/
theorem foldl {ε : Type} (i : Nat) {f : Link δ → ε → Link δ}
    (each : ∀ l e, Works i l [] (f l e)) (es : List ε) (l : Link δ) :
    Works i l [] (es.foldl f l) := by
  induction es generalizing l with
  | nil => exact refl i l
  | cons e rest ih => exact (ih (f l e)).before (each l e)

/-- A failure that is reported is none of the listeners' business. -/
theorem report {outcome : Link δ × Option Failure} (work : Works i l taken outcome.1) :
    Works i l taken (report outcome) := by
  rw [Link.report]
  split
  · exact work.after (onLoop i _ (.silent _ _ rfl nofun))
  · exact work

end Works

/-- The reading that a payload of a kind makes, if the payload is long enough and the store is
online. -/
def accepted (l : Link δ) (kind : Kind) (payload : List UInt8) : List Taken :=
  match kind.decode payload with
  | .ok value => if l.store.connected then [(kind, value)] else []
  | .error _ => []

theorem dropMalformed_works (l : Link δ) (cfg : Settings δ) (i : Nat) (kind : Kind)
    (f : Failure) : Works i l [] (l.dropMalformed cfg i kind f) := by
  unfold dropMalformed
  have noted := Works.note i l cfg .debug ("Dropping " ++ kind.name ++ " value: " ++ f.message)
  have counted (l' : Link δ) : Works i l' [] (l'.onIngestion i .countMalformed) :=
    Works.onIngestion i l' fun _ => rfl
  simp only
  split
  · exact (counted _).before ((Works.note i _ cfg _ _).before noted)
  · exact (counted _).before noted

/-- A reading that is stored, noted and told to the listener. -/
theorem take_works {l : Link δ} (cfg : Settings δ) (i : Nat) (kind : Kind) (value : Float)
    (level : Journal.Level) (text : String) {store : Store} (online : l.store.connected = true)
    (written : store = (l.store.write kind value).1) :
    Works i l [(kind, value)]
      (({ l with store }.note cfg level text).emit (.reading kind value)) := by
  subst written
  have noted := Works.note i { l with store := (l.store.write kind value).1 } cfg level text
  exact {
    machine := noted.machine
    sessions := noted.sessions
    duties := noted.duties
    others := noted.others
    store := noted.store
    accepted := fun _ => online
    loop := noted.loop.trans (.emit _ (.reading kind value) nofun) }

theorem ingest_works (l : Link δ) (cfg : Settings δ) (env : Surroundings) (i : Nat) (kind : Kind)
    (payload : List UInt8) :
    Works i l (l.accepted kind payload) (l.ingest cfg env i kind payload).1 := by
  unfold ingest accepted
  cases kind.decode payload with
  | error f => exact dropMalformed_works l cfg i kind f
  | ok value =>
    have forgotten := Works.onIngestion i l (f := Ingestion.forgetMalformed) fun _ => rfl
    by_cases online : l.store.connected = true
    · have written : (l.onIngestion i Ingestion.forgetMalformed).store.write kind value =
          ((l.store.write kind value).1, true) := by
        simp [Store.write, Link.onIngestion, online]
      simp only [written, online, if_true]
      exact (take_works (l := l.onIngestion i Ingestion.forgetMalformed) cfg i kind value _ _
        online rfl).before forgotten
    · have refused : (l.onIngestion i Ingestion.forgetMalformed).store.write kind value =
          (l.store, false) := by
        simp [Store.write, Link.onIngestion, online]
      simp only [refused, online, if_false, Bool.false_eq_true]
      exact forgotten.after (Works.note i _ cfg _ _)

theorem subscribe_works (l : Link δ) (cfg : Settings δ) (i session round : Nat) (e : Entry) :
    Works i l [] (l.subscribe cfg i session round e) := by
  rw [subscribe]
  exact (Works.noteHandle i l cfg _ _ _ _).after (Works.onLoop i _ (.spawn _ _ _ rfl))

theorem completeSubscription_works (l : Link δ) (cfg : Settings δ) (i : Nat) (task : TaskId)
    (kind : Kind) (handle : Option Int) (result : Option (Except Failure (List UInt8))) :
    Works i l [] (l.completeSubscription cfg i task kind handle result) := by
  have settled : Works i l [] (l.onIngestion i (Ingestion.settleSubscription task)) := by
    apply Works.onIngestion
    intro g
    rw [Ingestion.settleSubscription]
    split <;> rfl
  unfold completeSubscription
  split
  · exact settled
  · exact settled.after (Works.note i _ cfg _ _)
  · split
    · exact settled.after (Works.noteHandle i _ cfg _ _ _ _)
    · exact settled.after (Works.record i _ cfg _)

theorem beginSubscription_works (l : Link δ) (cfg : Settings δ) (i : Nat) (kind : Kind)
    (round session : Nat) (handle : Option Int) :
    Works i l [] (l.beginSubscription cfg i kind round session handle) := by
  unfold beginSubscription
  simp only
  split
  · exact (completeSubscription_works _ cfg i _ kind handle _).before
      (Works.onLoop i l (.finish _ _ _ rfl))
  · exact Works.request i l session _ _ rfl

theorem resumeSubscription_works (l : Link δ) (cfg : Settings δ) (i : Nat) (kind : Kind)
    (round : Nat) (handle : Option Int) (ending : Ending) :
    Works i l [] (l.resumeSubscription cfg i kind round handle ending) :=
  (completeSubscription_works _ cfg i _ kind handle _).before
    (Works.onLoop i l (.finish _ _ _ rfl))

/-- Looking a handle up leaves the link alone, if reading the tree does. -/
theorem lookUp_fst {l : Link δ} (cfg : Settings δ) {env : Surroundings} {session : Nat}
    {handle : Option Int} (calm : (env.lookup session handle).supersedes = false) :
    (l.lookUp cfg env session handle).1 = l := by
  rw [lookUp]
  split
  · rfl
  · simp [calm]

/-- The kind that a session's tree gives a handle. -/
def kindAt (l : Link δ) (env : Surroundings) (session : Nat) (handle : Option Int) : Option Kind :=
  if l.isReleased session then none
  else (env.lookup session handle).characteristic.bind fun c =>
    c.uuid.bind fun u => Kind.ofUuid? u.spelling

theorem kindAt_eq (l : Link δ) (cfg : Settings δ) (env : Surroundings) (session : Nat)
    (handle : Option Int) : l.kindAt env session handle =
      (l.lookUp cfg env session handle).2.bind fun c =>
        c.uuid.bind fun u => Kind.ofUuid? u.spelling := by
  unfold kindAt lookUp
  split <;> rfl

/-- The readings that a notification makes. -/
def heard (l : Link δ) (env : Surroundings) (i : Nat) (handle : Option Int) (payload : List UInt8) :
    List Taken :=
  match l.ingestions[i]? with
  | none => []
  | some g =>
    if l.isStale g then []
    else (l.kindAt env g.session handle).elim [] fun kind => l.accepted kind payload

theorem notified_works (l : Link δ) (cfg : Settings δ) {env : Surroundings} (i : Nat)
    (handle : Option Int) (payload : List UInt8)
    (calm : ∀ session handle, (env.lookup session handle).supersedes = false) :
    Works i l (l.heard env i handle payload) (l.notified cfg env i handle payload).1 := by
  unfold heard notified
  cases l.ingestions[i]? with
  | none => exact Works.refl i l
  | some g =>
    by_cases stale : l.isStale g = true
    · simp only [stale, if_true]
      exact Works.noteHandle i l cfg _ _ _ _
    · simp only [stale, if_false, Bool.false_eq_true]
      have found : l.lookUp cfg env g.session handle =
          (l, (l.lookUp cfg env g.session handle).2) :=
        Prod.ext (lookUp_fst cfg (calm g.session handle)) rfl
      rw [l.kindAt_eq cfg env g.session handle, found]
      cases (l.lookUp cfg env g.session handle).2 with
      | none => exact Works.noteHandle i l cfg _ _ _ _
      | some c =>
        cases named : c.uuid with
        | none => simpa [named, Gatt.requireUuid] using Works.refl i l
        | some u =>
          cases known : Kind.ofUuid? u.spelling with
          | none => simpa [named, known, Gatt.requireUuid] using Works.refl i l
          | some kind =>
            simpa [named, known, Gatt.requireUuid] using ingest_works l cfg env i kind payload

theorem onPolling_duty (f : Polling δ → Polling δ) (g : Ingestion δ) :
    (g.onPolling f).duty = g.duty := by
  rw [Ingestion.onPolling]
  split <;> rfl

theorem scheduleTick_works (l : Link δ) (i : Nat) (wait : Wait δ) :
    Works i l [] (l.scheduleTick i wait) := by
  rw [scheduleTick]
  split
  · refine (Works.onIngestion i l ?_).after (Works.onLoop i _ (.schedule _ _ _ rfl))
    exact fun _ => rfl
  · exact Works.refl i l

theorem pollEntry_works (l : Link δ) (cfg : Settings δ) (i session tick : Nat) (p : Polling δ)
    (e : Entry) : Works i l [] (l.pollEntry cfg i session tick p e) := by
  rw [pollEntry]
  split
  · exact Works.note i l cfg _ _
  · exact (Works.onLoop i l (.spawn _ _ _ rfl)).after (Works.onIngestion i _ (onPolling_duty _))

theorem pollOnce_works (l : Link δ) (cfg : Settings δ) (i : Nat) (g : Ingestion δ)
    (p : Polling δ) : Works i l [] (l.pollOnce cfg i g p) := by
  rw [pollOnce]
  split
  · exact Works.foldl i (fun l e => pollEntry_works l cfg i g.session p.ticks p e) _ l
  · exact Works.note i l cfg _ _

theorem tick_works (l : Link δ) (cfg : Settings δ) (i : Nat) : Works i l [] (l.tick cfg i) := by
  rw [tick]
  split
  · split
    · simp only
      split
      · exact (((Works.onIngestion i l (onPolling_duty _)).after
          (Works.onIngestion i _ (onPolling_duty _))).after
            (pollOnce_works _ cfg i _ _)).after (scheduleTick_works _ i _)
      · exact Works.onIngestion i l (onPolling_duty _)
    · exact Works.refl i l
  · exact Works.refl i l

/-- The readings that the end of a read makes. -/
def fetched (l : Link δ) (i : Nat) (kind : Kind)
    (result : Option (Except Failure (List UInt8))) : List Taken :=
  match result, l.ingestions[i]? with
  | some (.ok payload), some g => if l.isStale g then [] else l.accepted kind payload
  | _, _ => []

theorem settleRead_duty (kind : Kind) (task : TaskId) (g : Ingestion δ) :
    (g.settleRead kind task).duty = g.duty :=
  onPolling_duty _ g

/-- Whether an ingestion is stale depends on its duty only. -/
theorem isStale_congr {g g' : Ingestion δ} (l : Link δ) (same : g'.duty = g.duty) :
    l.isStale g' = l.isStale g := by
  simp only [Ingestion.duty, Duty.mk.injEq] at same
  rw [isStale, isStale, same.2.1, same.2.2]

theorem completeRead_works (l : Link δ) (cfg : Settings δ) (env : Surroundings) (i : Nat)
    (task : TaskId) (kind : Kind) (result : Option (Except Failure (List UInt8))) :
    Works i l (l.fetched i kind result) (l.completeRead cfg env i task kind result).1 := by
  have settled := Works.onIngestion i l (settleRead_duty kind task)
  have lookup : (l.onIngestion i (Ingestion.settleRead kind task)).ingestions[i]? =
      l.ingestions[i]?.map (Ingestion.settleRead kind task) := by
    simp [Link.onIngestion]
  unfold completeRead fetched
  cases result with
  | none => exact settled
  | some result =>
    simp only [lookup]
    cases l.ingestions[i]? with
    | none =>
      cases result with
      | error f => exact settled
      | ok payload => exact settled
    | some g =>
      have same : (l.onIngestion i (Ingestion.settleRead kind task)).isStale
          (g.settleRead kind task) = l.isStale g :=
        isStale_congr l (settleRead_duty kind task g)
      simp only [Option.map_some, same]
      cases result with
      | error f =>
        simp only
        split
        · exact settled.after (Works.note i _ cfg _ _)
        · split
          · exact settled.after (Works.note i _ cfg _ _)
          · exact settled.after (Works.record i _ cfg _)
      | ok payload =>
        by_cases stale : l.isStale g = true
        · simp only [stale, if_true]
          exact settled.after (Works.note i _ cfg _ _)
        · simp only [stale, if_false, Bool.false_eq_true]
          exact (ingest_works _ cfg env i kind payload).before settled

theorem beginRead_works (l : Link δ) (cfg : Settings δ) (env : Surroundings) (i : Nat)
    (kind : Kind) (tick session : Nat) (handle : Option Int) :
    Works i l [] (l.beginRead cfg env i kind tick session handle) := by
  unfold beginRead
  simp only
  split
  · have complete := completeRead_works (l.onLoop (·.finish (.read i kind tick) .done)) cfg env i
      (.read i kind tick) kind (some (.error (.noClient (Gatt.Call.read handle).label)))
    exact (complete.before (Works.onLoop i l (.finish _ _ _ rfl))).report
  · exact Works.request i l session _ _ rfl

theorem resumeRead_works (l : Link δ) (cfg : Settings δ) (env : Surroundings) (i : Nat)
    (kind : Kind) (tick : Nat) (handle : Option Int) (ending : Ending) :
    Works i l (l.fetched i kind (ending.result? (.read handle) (cfg.limitText (.read handle))))
      (l.resumeRead cfg env i kind tick handle ending) := by
  have complete := completeRead_works (l.onLoop (·.finish (.read i kind tick) .done)) cfg env i
    (.read i kind tick) kind (ending.result? (.read handle) (cfg.limitText (.read handle)))
  exact (complete.before (Works.onLoop i l (.finish _ _ _ rfl))).report

/-- Ingestion `i` was armed between two links, and nothing else changed that steers. -/
structure Arms (i : Nat) (l l' : Link δ) : Prop where
  machine : l'.machine = l.machine
  store : l'.store = l.store
  sessions : l'.sessions = l.sessions
  duties : l'.duties = l.duties.modify i fun d => { d with armed := true }
  loop : l.loop.Keeps [] l'.loop

namespace Arms

variable {i : Nat} {l l' l'' : Link δ}

/-- Work after an ingestion was armed. -/
theorem after (first : Arms i l l') (second : Works i l' [] l'') : Arms i l l'' where
  machine := second.machine.trans first.machine
  store := second.store.trans first.store
  sessions := second.sessions.trans first.sessions
  duties := by rw [second.duties, first.duties]
  loop := first.loop.after second.loop

theorem onIngestion (i : Nat) (l : Link δ) {f : Ingestion δ → Ingestion δ}
    (sets : ∀ g, (f g).duty = { g.duty with armed := true }) :
    Arms i l (l.onIngestion i f) where
  machine := rfl
  store := rfl
  sessions := rfl
  duties := map_modify_of (fun d : Duty => { d with armed := true }) sets l.ingestions i
  loop := .refl _

/-- There is nothing to arm at a free position. -/
theorem free (absent : l.ingestions[i]? = none) : Arms i l l where
  machine := rfl
  store := rfl
  sessions := rfl
  duties := by
    have beyond := List.getElem?_eq_none_iff.mp absent
    rw [List.modify_eq_self (by rwa [Link.duties, List.length_map])]
  loop := .refl _

end Arms

theorem arm_arms (l : Link δ) (cfg : Settings δ) (i : Nat) : Arms i l (l.arm cfg i) := by
  rw [arm]
  split
  · split
    · exact (Arms.onIngestion i l fun _ => rfl).after
        (Works.foldl i (fun l e => subscribe_works l cfg i _ _ e) _ _)
    · exact (Arms.onIngestion i l fun _ => rfl).after (scheduleTick_works _ i _)
  · exact Arms.free ‹_›

/-- What is done to the loop for each of a list is done to nothing else. -/
theorem foldl_onLoop {α : Type} (f : Loop δ → α → Loop δ) (items : List α) (l : Link δ) :
    items.foldl (fun l a => l.onLoop (f · a)) l = { l with loop := items.foldl f l.loop } := by
  induction items generalizing l with
  | nil => rfl
  | cons a rest ih => exact ih _

/-- Disarming an ingestion changes the loop besides, on which nothing new steers. -/
theorem disarm_eq (l : Link δ) (i : Nat) :
    ∃ loop, l.loop.Wanes [] loop ∧
      l.disarm i = { l with ingestions := l.ingestions.modify i Ingestion.disarmed, loop } := by
  rw [disarm]
  cases found : l.ingestions[i]? with
  | none =>
    refine ⟨l.loop, .refl _, ?_⟩
    rw [List.modify_eq_self (List.getElem?_eq_none_iff.mp found)]
  | some g =>
    simp only [foldl_onLoop]
    split
    · exact ⟨_, (Loop.Wanes.cancelAll _ _).before (.unschedule _ _), rfl⟩
    · exact ⟨_, Loop.Wanes.cancelAll _ _, rfl⟩

end Link

end SensorLink
