/-
# Operations of a session

What a session owes to its owner: its operations end in time and as the client has
it, none of them ends with a time-out, it asks for pairing only where it should, and
without its client it does nothing.
-/

import SensorLink.Link.Seconds
import SensorLink.Proofs.Bench.Driving

namespace SensorLink.Bench

open Gatt (Call Ending)

/-- Whether a client is seen to be asked for pairing. -/
def SessionSight.isPairing : SessionSight → Bool
  | called .pair => true
  | _ => false

namespace SessionBench

variable {b b' : SessionBench} {hs : List Happening}

/-- How often the client was asked for pairing. -/
def pairings (b : SessionBench) : Nat :=
  b.trace.countP (·.2.isPairing)

theorem pairings_note (b : SessionBench) {sight : SessionSight} (other : sight.isPairing = false) :
    (b.note sight).pairings = b.pairings := by
  simp [pairings, note, List.countP_append, other]

theorem pairings_record (b : SessionBench) (r : Journal.Record) :
    (b.record r).pairings = b.pairings := by
  unfold record
  split
  · exact b.pairings_note rfl
  · rfl

theorem pairings_startCall (b : SessionBench) (n : Nat) {call : Call} (other : call ≠ .pair) :
    (b.startCall n call).pairings = b.pairings := by
  have sight : (SessionSight.called call).isPairing = false := by
    cases call <;> first | rfl | exact absurd rfl other
  rw [startCall_eq]
  change (b.noteCall call).pairings = b.pairings
  unfold noteCall
  split
  · exact pairings_note { b with client := b.client.noteCall call } sight
  · rfl

theorem pairings_learn (b : SessionBench) (a : Awaited) : (b.learn a).pairings = b.pairings := by
  unfold learn
  split
  · dsimp only
    split
    · exact b.pairings_note rfl
    · rfl
  · rfl

/-- An end that lets no operation go on asks for no pairing. -/
theorem pairings_settle {a : Awaited} (stops : ¬b.GoesOn a) :
    (b.settle a).pairings = b.pairings := by
  have stops' : ¬(b.learn a).GoesOn a := by
    unfold GoesOn Gatt.Session.GoesOn
    rw [(b.learn_work a).1.security]
    exact stops
  rw [settle_eq, proceed]
  by_cases cancelled : a.ending = .cancelled
  · rw [cancelled, Gatt.Session.proceed]
    exact b.pairings_learn a
  · rcases (b.learn a).proceed_cases cancelled with ⟨-, result, -, ends⟩ | ⟨goes, -⟩
    · rw [ends]
      exact b.pairings_learn a
    · exact absurd goes stops'

/-- Only a connection that came up asks for pairing, where the security level calls for it. -/
theorem pairings_undergo {h : Happening} (possible : b.Possible h)
    (more : (b.undergo h).pairings ≠ b.pairings) :
    h = .settled ∧ ∃ a rest, b.clock.ready = a :: rest ∧ b.GoesOn a := by
  cases h with
  | begins call => exact absurd (b.opened.pairings_startCall _ possible.2) more
  | settled =>
    cases ready : b.clock.ready with
    | nil => exact absurd (congrArg pairings (undergo_settled_nil ready)) more
    | cons a rest =>
      refine ⟨rfl, a, rest, rfl, Classical.not_not.mp fun stops => more ?_⟩
      rw [undergo_settled ready]
      exact pairings_settle (b := b.popped rest) stops
  | linkDropped => exact absurd (pairings_note _ rfl) more
  | delivered handle payload =>
    refine absurd ?_ more
    rw [undergo, deliver]
    cases b.client.subscribers.lookup handle with
    | none => rfl
    | some n => exact b.pairings_note rfl
  | treeTouched =>
    refine absurd ?_ more
    rw [undergo, touchTree]
    split
    · exact b.pairings_record _
    · rfl
  | linkChecked =>
    refine absurd ?_ more
    rw [undergo, checkLink]
    split
    · rfl
    · split
      · rfl
      · exact b.pairings_record _
  | asked target => exact absurd (b.pairings_record _) more
  | passes | cancelled | released | rescripted => exact absurd rfl more

/-- Every call is guarded by a limit that comes. -/
def Guarded (limits : Gatt.Limits Float) : Prop :=
  ∀ call, ∃ limit : Limit, limits.of call = some limit.seconds

/-- No operation has ended with a time-out. -/
def Untimed (b : SessionBench) : Prop :=
  ∀ n f, b.result? n = some (.error f) → f.kind ≠ .timeout

theorem Untimed.of_results (untimed : b.Untimed) (same : b'.results = b.results) : b'.Untimed := by
  intro n f
  rw [result?, same]
  exact untimed n f

theorem Untimed.undergo (untimed : b.Untimed) (guarded : Guarded b.limits) (sound : Sound b)
    (h : Happening) : (b.undergo h).Untimed := by
  cases h with
  | begins call => exact untimed.of_results (b.opened.startCall_terms b.operations call).2.2.1
  | settled =>
    cases ready : b.clock.ready with
    | nil => rwa [undergo_settled_nil ready]
    | cons a rest =>
      obtain ⟨-, -, -, -, real⟩ := sound.popped ready
      rw [undergo_settled ready]
      rcases settle_cases (b.popped rest) real with
        ⟨-, result, ended, work, -⟩ | ⟨-, b', work, -, -, settled⟩
      · refine Untimed.of_results (b := (b.popped rest).finish a.operation result) ?_ work.results
        intro n f failed
        rw [SessionBench.result?, finish, List.lookup_cons] at failed
        split at failed
        · obtain ⟨limit, some⟩ := guarded a.call
          have text : (b.popped rest).limitText a.call = _ := congrArg (Option.map _) some
          cases failed
          rw [text] at ended
          exact Ending.kind_of_result? ended
        · exact untimed n f failed
      · rw [settled]
        exact untimed.of_results ((b'.startCall_terms ..).2.2.1.trans work.results)
  | passes | cancelled => exact untimed
  | released | linkDropped | rescripted | delivered | treeTouched | linkChecked | asked =>
    exact untimed.of_results (b.undergo_work rfl).results

theorem Course.untimed (course : Course b hs b') (guarded : Guarded b.limits) (sound : Sound b)
    (untimed : b.Untimed) : b'.Untimed := by
  induction course with
  | start => exact untimed
  | next before _ ih =>
    exact ih.undergo (before.terms.limits ▸ guarded) (before.sound sound) _

/-- Discovery ends with a time-out only if reading the tree does. -/
theorem discover_eq_timeout_iff {f : Failure} (late : f.kind = .timeout) :
    b.discover.2 = .error f ↔ b.released = false ∧ b.client.treeReading = .error f := by
  rw [discover, Gatt.Session.discover, Gatt.Session.refusal?]
  cases b.released with
  | true =>
    refine ⟨fun failed => ?_, fun reads => nomatch reads.1⟩
    cases failed
    cases late
  | false =>
    refine Iff.trans (Gatt.discovered_eq_timeout_iff late) ?_
    exact ⟨fun reads => ⟨rfl, reads⟩, And.right⟩

/-- A session that has forgotten its client does not get another one. -/
theorem released_undergo (sound : Sound b) (gone : b.released = true) (h : Happening) :
    (b.undergo h).released = true := by
  cases h with
  | begins call => exact (b.opened.startCall_terms b.operations call).2.2.2.2.trans gone
  | settled =>
    cases ready : b.clock.ready with
    | nil => rwa [undergo_settled_nil ready]
    | cons a rest =>
      obtain ⟨-, -, -, -, real⟩ := sound.popped ready
      rw [undergo_settled ready]
      rcases settle_cases (b.popped rest) real with
        ⟨-, result, -, -, -, released⟩ | ⟨-, b', -, -, released, settled⟩
      · exact released.trans gone
      · rw [settled]
        exact (b'.startCall_terms ..).2.2.2.2.trans (released.trans gone)
  | released => rfl
  | delivered handle payload => exact (b.deliver_same handle payload).released.trans gone
  | treeTouched => exact b.touchTree_same.released.trans gone
  | linkChecked => exact b.checkLink_same.released.trans gone
  | asked target => exact (b.askTransition_same target).released.trans gone
  | passes | cancelled | linkDropped | rescripted => exact gone

theorem Course.released (course : Course b hs b') (sound : Sound b) (gone : b.released = true) :
    b'.released = true := by
  induction course with
  | start => exact gone
  | next before _ ih => exact released_undergo (before.sound sound) ih _

/-- What a session owes to its owner. -/
structure Bounded (b : SessionBench) : Prop where
  /-- An operation that begins now, and that nobody cancels, waits for its call no longer than the
  call's limit.  A connection may then wait for pairing, again no longer than the limit.  Otherwise
  the operation has ended with what the client made of its calls in time, or with a failure of the
  link. -/
  ends {call : Call} {limit : Limit} {hs : List Happening} {b' : SessionBench} :
    b.limits.of call = some limit.seconds → b.Possible (.begins call) →
    Course (b.undergo (.begins call)) hs b' → (∀ h ∈ hs, h ≠ .cancelled b.operations) →
    b'.InTime b.operations (b.clock.now + limit.cutoff) ∨
      ∃ c later, TakesUp (b.undergo (.begins call)) hs (b.awaited b.operations call) c later ∧
        c.clock.now ≤ b.clock.now + limit.cutoff ∧
        (b.Pairs call ∧ b'.InTime b.operations (c.clock.now + limit.cutoff) ∨
          b'.result? b.operations = some (b.expected limit call c.client.script.pair))
  /-- Altogether it takes no longer than the limit, or two limits if it may go on to pairing. -/
  within {call : Call} {limit : Limit} {hs : List Happening} {b' : SessionBench} :
    b.limits.of call = some limit.seconds → b.Possible (.begins call) →
    Course (b.undergo (.begins call)) hs b' → (∀ h ∈ hs, h ≠ .cancelled b.operations) →
    b'.InTime b.operations (b.clock.now + b.span limit call) ∨
      (b'.result? b.operations).isSome = true
  /-- These limits come, whatever is pending. -/
  passes (time : Nat) : ∃ b', Elapses b b' ∧ b'.Past time
  /-- An operation that is begun and waited for ends as expected. -/
  performs {call : Call} {limit : Limit} :
    b.limits.of call = some limit.seconds → b.Possible (.begins call) → b.pending = [] →
    b.span limit call ≤ patience →
    Elapses (b.undergo (.begins call)) (b.perform call).1 ∧
      (b.perform call).2 = some (b.expected limit call b.client.script.pair) ∧
      (b.perform call).1.pending = []
  /-- No operation has ended with a time-out. -/
  untimed : b.Untimed
  /-- Discovery, which waits for nothing, does so only if reading the tree does. -/
  discovers {f : Failure} : f.kind = .timeout →
    (b.discover.2 = .error f ↔ b.released = false ∧ b.client.treeReading = .error f)
  /-- The client is asked for pairing only when a connection has come up and the security level
  calls for it. -/
  pairs {h : Happening} : b.Possible h → (b.undergo h).pairings ≠ b.pairings →
    h = .settled ∧ ∃ a rest, b.clock.ready = a :: rest ∧ b.GoesOn a
  /-- Once the session has forgotten its client, every operation fails at once with a failure of the
  link, and nothing else happens. -/
  refuses {hs : List Happening} {b' : SessionBench} : b.released = true → Course b hs b' →
    (∀ call, ∃ f, f.kind = .link ∧ b'.perform call = (b', some (.error f))) ∧
      ∃ f, f.kind = .link ∧ b'.discover = (b', .error f)

theorem Sound.bounded (sound : Sound b) (untimed : b.Untimed) : Bounded b where
  ends guarded possible course stays := course.ends sound possible guarded stays
  within guarded possible course stays := course.ends_within sound possible guarded stays
  passes := sound.exists_past
  performs guarded possible idle patient := sound.perform idle possible guarded patient
  untimed := untimed
  discovers := discover_eq_timeout_iff
  pairs := pairings_undergo
  refuses {_ b'} gone course := by
    have gone' := course.released sound gone
    have refused (action : String) : b'.refusal? action = some (.noClient action) := if_pos gone'
    refine ⟨fun call => ⟨.noClient call.label, rfl, ?_⟩, .noClient "discover", rfl, ?_⟩
    · rw [SessionBench.perform, refused]
    · have still : b'.touchTree = b' := by rw [touchTree, gone']; rfl
      rw [discover, Gatt.Session.discover, refused, still]

end SessionBench

end SensorLink.Bench
