/-
# What happens to a session

A session is used by its owner, who may begin any number of operations, cancel
them and release the session at any time; by its client, whose calls end as they
will; and by the clock.  Time does not pass while an end is ready to be taken up,
nor beyond the time at which one is due.

Each operation waits for at most one call, and has no result before its last call
has ended.  This is what every happening keeps.
-/

import Mathlib.Data.List.Perm.Basic
import SensorLink.Bench.Session

namespace SensorLink.Bench

open Gatt (Call Ending)

/-- Something that happens to a session. -/
inductive Happening where
  /-- An operation begins with a call. -/
  | begins (call : Call)
  /-- The first end that is ready is taken up. -/
  | settled
  | passes (time : Nat)
  | cancelled (operation : Nat)
  | released
  | linkDropped
  | delivered (handle : Option Int) (payload : List UInt8)
  /-- The client changes its mind about its calls. -/
  | rescripted (f : Script → Script)
  /-- Discovery, or looking a handle up, reads the client's tree. -/
  | treeTouched
  | linkChecked
  /-- The bystander is asked for a transition. -/
  | asked (target : Connection.State)

/-- Whether a happening has nothing to do with the operations. -/
def Happening.isAside : Happening → Bool
  | begins _ | settled | passes _ | cancelled _ => false
  | _ => true

namespace SessionBench

/-- The session with one more operation. -/
def opened (b : SessionBench) : SessionBench :=
  { b with operations := b.operations + 1 }

/-- The session without the first end that is ready. -/
def popped (b : SessionBench) (rest : List Awaited) : SessionBench :=
  { b with clock := { b.clock with ready := rest } }

/-- The session after something happened. -/
def undergo (b : SessionBench) : Happening → SessionBench
  | .begins call => b.opened.startCall b.operations call
  | .settled =>
    match b.clock.ready with
    | [] => b
    | a :: rest => (b.popped rest).settle a
  | .passes time => { b with clock := b.clock.moveTo time }
  | .cancelled operation => b.cancel operation
  | .released => b.release
  | .linkDropped => b.dropLink
  | .delivered handle payload => (b.deliver handle payload).getD b
  | .rescripted f => b.rescript f
  | .treeTouched => b.touchTree
  | .linkChecked => b.checkLink.1
  | .asked target => (b.askTransition target).1

/-- What may happen next.  A session without its client begins nothing, and pairing is no operation
of its own. -/
def Possible (b : SessionBench) : Happening → Prop
  | .begins call => b.released = false ∧ call ≠ .pair
  | .passes time => b.clock.ready = [] ∧ b.clock.now ≤ time ∧ ∀ w ∈ b.clock.waiting, time ≤ w.1
  | _ => True

/-- A course of happenings from one state of a session to another. -/
inductive Course (b : SessionBench) : List Happening → SessionBench → Prop where
  | start : Course b [] b
  | next {hs : List Happening} {b' : SessionBench} {h : Happening} (course : Course b hs b')
      (possible : b'.Possible h) : Course b (hs ++ [h]) (b'.undergo h)

/-- Courses follow one another. -/
theorem Course.append {b b' b'' : SessionBench} {hs hs' : List Happening}
    (first : Course b hs b') (second : Course b' hs' b'') : Course b (hs ++ hs') b'' := by
  induction second with
  | start => rwa [List.append_nil]
  | next _ possible ih =>
    rw [← List.append_assoc]
    exact .next ih possible

/-- The ends that operations wait for. -/
def pending (b : SessionBench) : List Awaited :=
  b.clock.ready ++ b.clock.waiting.map Prod.snd

/-- The terms on which a session works are the same. -/
structure SameTerms (b b' : SessionBench) : Prop where
  limits : b'.limits = b.limits
  security : b'.security = b.security
  address : b'.address = b.address

/-- The operations and what they wait for are the same, too. -/
structure SameWork (b b' : SessionBench) : Prop extends SameTerms b b' where
  clock : b'.clock = b.clock
  operations : b'.operations = b.operations
  results : b'.results = b.results

/-- Nothing changes but what is seen from outside and the bystander. -/
structure SameSession (b b' : SessionBench) : Prop extends SameWork b b' where
  client : b'.client = b.client
  released : b'.released = b.released

theorem SameTerms.refl (b : SessionBench) : SameTerms b b := ⟨rfl, rfl, rfl⟩

theorem SameTerms.trans {b b' b'' : SessionBench} (first : SameTerms b b')
    (second : SameTerms b' b'') : SameTerms b b'' :=
  ⟨second.limits.trans first.limits, second.security.trans first.security,
    second.address.trans first.address⟩

theorem SameWork.refl (b : SessionBench) : SameWork b b := ⟨.refl b, rfl, rfl, rfl⟩

theorem SameWork.trans {b b' b'' : SessionBench} (first : SameWork b b')
    (second : SameWork b' b'') : SameWork b b'' :=
  ⟨first.toSameTerms.trans second.toSameTerms, second.clock.trans first.clock,
    second.operations.trans first.operations, second.results.trans first.results⟩

theorem SameSession.refl (b : SessionBench) : SameSession b b := ⟨.refl b, rfl, rfl⟩

theorem SameSession.trans {b b' b'' : SessionBench} (first : SameSession b b')
    (second : SameSession b' b'') : SameSession b b'' :=
  ⟨first.toSameWork.trans second.toSameWork, second.client.trans first.client,
    second.released.trans first.released⟩

variable (b : SessionBench)

theorem note_same (sight : SessionSight) : SameSession b (b.note sight) :=
  ⟨⟨⟨rfl, rfl, rfl⟩, rfl, rfl, rfl⟩, rfl, rfl⟩

theorem record_same (r : Journal.Record) : SameSession b (b.record r) := by
  unfold record
  split
  · exact b.note_same _
  · exact .refl b

theorem askTransition_same (target : Connection.State) :
    SameSession b (b.askTransition target).1 :=
  (b.record_same _).trans ⟨⟨⟨rfl, rfl, rfl⟩, rfl, rfl, rfl⟩, rfl, rfl⟩

theorem deliver_same (handle : Option Int) (payload : List UInt8) :
    SameSession b ((b.deliver handle payload).getD b) := by
  unfold deliver
  cases b.client.subscribers.lookup handle with
  | none => exact .refl b
  | some n => exact b.note_same _

theorem touchTree_same : SameSession b b.touchTree := by
  unfold touchTree
  split
  · exact b.askTransition_same _
  · exact .refl b

theorem checkLink_same : SameSession b b.checkLink.1 := by
  unfold checkLink
  split
  · exact .refl b
  · split
    · exact .refl b
    · exact b.record_same _

/-- A happening that has nothing to do with the operations leaves them as they are. -/
theorem undergo_work {h : Happening} (aside : h.isAside = true) : SameWork b (b.undergo h) := by
  cases h with
  | begins | settled | passes | cancelled => cases aside
  | released | linkDropped | rescripted => exact ⟨⟨rfl, rfl, rfl⟩, rfl, rfl, rfl⟩
  | delivered handle payload => exact (b.deliver_same handle payload).toSameWork
  | treeTouched => exact b.touchTree_same.toSameWork
  | linkChecked => exact b.checkLink_same.toSameWork
  | asked target => exact (b.askTransition_same target).toSameWork

/-- How a call that starts now will go. -/
def foresee (call : Call) : Gatt.Settlement :=
  b.toSession.settle call (b.client.outcomeOf call).alone

/-- The end of a call that starts now, for an operation. -/
def awaited (operation : Nat) (call : Call) : Awaited :=
  ⟨operation, call, (b.foresee call).ending⟩

theorem alone_ending_ne_cancelled (o : Outcome) : o.alone.ending ≠ .cancelled := by
  unfold Outcome.alone Outcome.ending
  split
  · nofun
  · cases o.failure <;> nofun

theorem foresee_ending_ne_cancelled (call : Call) : (b.foresee call).ending ≠ .cancelled := by
  have own := alone_ending_ne_cancelled (b.client.outcomeOf call)
  unfold foresee Gatt.Session.settle Gatt.Settlement.within
  split
  · split
    · exact own
    · nofun
    · split
      · exact own
      · nofun
    · exact own
  · nofun

/-- The client knows of a call that was made, and it is seen. -/
def noteCall (call : Call) : SessionBench :=
  if b.allows call then { b with client := b.client.noteCall call }.note (.called call) else b

theorem noteCall_work (call : Call) : SameWork b (b.noteCall call) ∧
    (b.noteCall call).client.script = b.client.script ∧
    (b.noteCall call).released = b.released := by
  have script : (b.client.noteCall call).script = b.client.script := by
    unfold Client.noteCall
    split <;> rfl
  unfold noteCall
  split
  · exact ⟨⟨⟨rfl, rfl, rfl⟩, rfl, rfl, rfl⟩, script, rfl⟩
  · exact ⟨.refl b, rfl, rfl⟩

/-- A call that starts is noted, and the clock holds its end. -/
theorem startCall_eq (operation : Nat) (call : Call) : b.startCall operation call =
    { b.noteCall call with
      clock := (b.foresee call).after.elim (b.clock.push (b.awaited operation call))
        (b.clock.wait · (b.awaited operation call)) } := by
  have clock := (b.noteCall_work call).1.clock
  unfold startCall
  dsimp only
  rw [← noteCall, clock]
  split <;> rename_i same <;> rw [foresee, same] <;> rfl

theorem clock_startCall (operation : Nat) (call : Call) : (b.startCall operation call).clock =
    (b.foresee call).after.elim (b.clock.push (b.awaited operation call))
      (b.clock.wait · (b.awaited operation call)) := by
  rw [startCall_eq]

/-- Nothing else changes but the client, which knows of the call, and the trace. -/
theorem startCall_terms (operation : Nat) (call : Call) :
    SameTerms b (b.startCall operation call) ∧
      (b.startCall operation call).operations = b.operations ∧
      (b.startCall operation call).results = b.results ∧
      (b.startCall operation call).client.script = b.client.script ∧
      (b.startCall operation call).released = b.released := by
  obtain ⟨work, script, released⟩ := b.noteCall_work call
  rw [startCall_eq]
  exact ⟨⟨work.limits, work.security, work.address⟩, work.operations, work.results, script,
    released⟩

/-- One more end is pending, unless the call never ends. -/
theorem pending_startCall (operation : Nat) (call : Call) :
    (b.startCall operation call).pending.Perm (b.awaited operation call :: b.pending) ∨
      (b.startCall operation call).pending = b.pending := by
  unfold pending
  rw [clock_startCall]
  cases (b.foresee call).after with
  | none =>
    left
    simp only [Option.elim_none, Clock.push, List.append_assoc, List.singleton_append]
    exact List.perm_middle
  | some span =>
    cases span with
    | none => exact .inr rfl
    | some d =>
      left
      simp only [Option.elim_some, Clock.wait, List.map_append, List.map_cons, List.map_nil]
      rw [← List.append_assoc]
      exact List.perm_append_comm

/-- What the session learns from the end of a call. -/
def learn (a : Awaited) : SessionBench :=
  match a.ending with
  | .returned _ =>
    let b := if b.client.reportsLoss a.call then b.note .disconnected else b
    { b with client := b.client.succeed 0 a.call }
  | _ => b

theorem settle_eq (a : Awaited) : b.settle a = (b.learn a).proceed a := rfl

theorem learn_work (a : Awaited) : SameWork b (b.learn a) ∧
    (b.learn a).client.script = b.client.script ∧ (b.learn a).released = b.released := by
  have succeed (c : Client) (n : Nat) (call : Call) : (c.succeed n call).script = c.script := by
    cases call <;> rfl
  unfold learn
  split
  · dsimp only
    split <;> exact ⟨⟨⟨rfl, rfl, rfl⟩, rfl, rfl, rfl⟩, succeed _ _ _, rfl⟩
  · exact ⟨.refl b, rfl, rfl⟩

/-- Whether an operation goes on to pairing after its call. -/
def GoesOn (a : Awaited) : Prop :=
  b.toSession.GoesOn a.call a.ending

/-- An end that is taken up ends its operation, or lets it go on to pairing. -/
theorem settle_cases {a : Awaited} (real : a.ending ≠ .cancelled) :
    (¬b.GoesOn a ∧ ∃ result, a.ending.result? a.call (b.limitText a.call) = some result ∧
      SameWork (b.finish a.operation result) (b.settle a) ∧
      (b.settle a).client.script = b.client.script ∧ (b.settle a).released = b.released) ∨
    (b.GoesOn a ∧ ∃ b', SameWork b b' ∧ b'.client.script = b.client.script ∧
      b'.released = b.released ∧ b.settle a = b'.startCall a.operation .pair) := by
  obtain ⟨work, script, released⟩ := b.learn_work a
  have next : (b.learn a).toSession.proceed a.call a.ending =
      b.toSession.proceed a.call a.ending := by
    unfold Gatt.Session.proceed Gatt.Session.limitText
    rw [work.limits, work.security, work.address]
  have finished (result : Except Failure (List UInt8)) :
      SameWork (b.finish a.operation result) ((b.learn a).finish a.operation result) :=
    ⟨⟨work.limits, work.security, work.address⟩, work.clock, work.operations,
      congrArg (List.cons (a.operation, result)) work.results⟩
  rw [settle_eq, proceed, next]
  rcases b.toSession.proceed_cases real with ⟨stops, result, ended, ends⟩ | ⟨goes, r, pairs⟩
  · rw [ends]
    exact .inl ⟨stops, result, ended, finished result, script, released⟩
  · have recorded := (b.learn a).record_same r
    rw [pairs]
    refine .inr ⟨goes, _, work.trans recorded.toSameWork, ?_, recorded.released.trans released, rfl⟩
    rw [recorded.client, script]

/-- What is known of the ends that are pending and of the results. -/
structure Sound (b : SessionBench) : Prop where
  /-- An operation that waits for an end has begun, and it has no result. -/
  known : ∀ a ∈ b.pending, a.operation < b.operations ∧ b.result? a.operation = none
  /-- No operation waits for two ends. -/
  single : (b.pending.map Awaited.operation).Nodup
  /-- Calls end by themselves. -/
  real : ∀ a ∈ b.pending, a.ending ≠ .cancelled
  /-- An operation that has a result has begun. -/
  begun : ∀ n result, b.result? n = some result → n < b.operations
  /-- No end is overdue. -/
  timely : ∀ w ∈ b.clock.waiting, b.clock.now ≤ w.1

variable {b : SessionBench}

theorem undergo_settled_nil (nothing : b.clock.ready = []) : b.undergo .settled = b := by
  simp only [undergo, nothing]

theorem undergo_settled {a : Awaited} {rest : List Awaited} (ready : b.clock.ready = a :: rest) :
    b.undergo .settled = (b.popped rest).settle a := by
  simp only [undergo, ready]

/-- Nothing about the operations changes. -/
theorem Sound.of_work {b' : SessionBench} (sound : Sound b) (work : SameWork b b') : Sound b' := by
  have pending : b'.pending = b.pending := by rw [SessionBench.pending, work.clock]; rfl
  have result (n : Nat) : b'.result? n = b.result? n := by rw [result?, work.results]; rfl
  refine ⟨?_, ?_, ?_, ?_, ?_⟩
  · simpa only [pending, result, work.operations] using sound.known
  · simpa only [pending] using sound.single
  · simpa only [pending] using sound.real
  · simpa only [result, work.operations] using sound.begun
  · simpa only [work.clock] using sound.timely

/-- Fewer ends are pending, and time has passed no further than they are due. -/
theorem Sound.of_pending {b' : SessionBench} (sound : Sound b)
    (fewer : b'.pending.Subperm b.pending) (operations : b'.operations = b.operations)
    (results : b'.results = b.results) (timely : ∀ w ∈ b'.clock.waiting, b'.clock.now ≤ w.1) :
    Sound b' := by
  have result (n : Nat) : b'.result? n = b.result? n := by rw [result?, results]; rfl
  refine ⟨?_, ?_, ?_, ?_, timely⟩
  · intro a mem
    rw [operations, result]
    exact sound.known a (fewer.subset mem)
  · obtain ⟨kept, same, within⟩ := fewer
    exact (same.map _).nodup_iff.mp ((within.map _).nodup sound.single)
  · exact fun a mem => sound.real a (fewer.subset mem)
  · intro n value
    rw [operations, result]
    exact sound.begun n value

/-- An operation that waits for nothing and has no result starts a call. -/
theorem Sound.startCall (sound : Sound b) {n : Nat} (begun : n < b.operations)
    (idle : ∀ a ∈ b.pending, a.operation ≠ n) (open' : b.result? n = none) (call : Call) :
    Sound (b.startCall n call) := by
  obtain ⟨-, operations, results, -, -⟩ := b.startCall_terms n call
  have result (m : Nat) : (b.startCall n call).result? m = b.result? m := by
    rw [result?, results]; rfl
  have now : (b.startCall n call).clock.now = b.clock.now := by
    rw [clock_startCall]
    cases (b.foresee call).after with
    | none => rfl
    | some span => cases span <;> rfl
  have timely : ∀ w ∈ (b.startCall n call).clock.waiting,
      (b.startCall n call).clock.now ≤ w.1 := by
    rw [now, clock_startCall]
    cases (b.foresee call).after with
    | none => exact sound.timely
    | some span =>
      cases span with
      | none => exact sound.timely
      | some d =>
        intro w mem
        rcases List.mem_append.mp mem with earlier | latest
        · exact sound.timely w earlier
        · rw [List.mem_singleton.mp latest]
          exact Nat.le_add_right ..
  rcases b.pending_startCall n call with more | same
  · refine ⟨?_, ?_, ?_, ?_, timely⟩
    · intro a mem
      rw [operations, result]
      rcases List.mem_cons.mp (more.mem_iff.mp mem) with rfl | earlier
      · exact ⟨begun, open'⟩
      · exact sound.known a earlier
    · rw [(more.map _).nodup_iff, List.map_cons, List.nodup_cons]
      refine ⟨?_, sound.single⟩
      intro mem
      obtain ⟨a, earlier, same⟩ := List.mem_map.mp mem
      exact idle a earlier same
    · intro a mem
      rcases List.mem_cons.mp (more.mem_iff.mp mem) with rfl | earlier
      · exact b.foresee_ending_ne_cancelled call
      · exact sound.real a earlier
    · intro m value
      rw [operations, result]
      exact sound.begun m value
  · exact sound.of_pending (same ▸ List.Subperm.refl _) operations results timely

/-- Taking the first end out leaves an operation that waits for nothing and has no result. -/
theorem Sound.popped (sound : Sound b) {a : Awaited} {rest : List Awaited}
    (ready : b.clock.ready = a :: rest) : Sound (b.popped rest) ∧
      (∀ a' ∈ (b.popped rest).pending, a'.operation ≠ a.operation) ∧
      a.operation < b.operations ∧ b.result? a.operation = none ∧ a.ending ≠ .cancelled := by
  have pending : b.pending = a :: (b.popped rest).pending := by
    rw [SessionBench.pending, ready]; rfl
  have here : a ∈ b.pending := pending ▸ List.mem_cons_self
  have single := sound.single
  rw [pending, List.map_cons, List.nodup_cons] at single
  refine ⟨?_, ?_, (sound.known a here).1, (sound.known a here).2, sound.real a here⟩
  · refine sound.of_pending ?_ rfl rfl sound.timely
    rw [pending]
    exact (List.sublist_cons_self ..).subperm
  · intro a' mem same
    exact single.1 (List.mem_map.mpr ⟨a', mem, same⟩)

/-- The end of an operation. -/
theorem Sound.finish (sound : Sound b) {n : Nat} (begun : n < b.operations)
    (idle : ∀ a ∈ b.pending, a.operation ≠ n) (result : Except Failure (List UInt8)) :
    Sound (b.finish n result) := by
  have other {m : Nat} (different : m ≠ n) : (b.finish n result).result? m = b.result? m := by
    rw [result?, SessionBench.finish, List.lookup_cons, beq_eq_false_iff_ne.mpr different]
    rfl
  refine ⟨?_, sound.single, sound.real, ?_, sound.timely⟩
  · intro a mem
    rw [other (idle a mem)]
    exact sound.known a mem
  · intro m value ended
    by_cases same : m = n
    · exact same ▸ begun
    · exact sound.begun m value (other same ▸ ended)

/-- Taking an end up. -/
theorem Sound.settle (sound : Sound b) {a : Awaited} (begun : a.operation < b.operations)
    (idle : ∀ a' ∈ b.pending, a'.operation ≠ a.operation) (open' : b.result? a.operation = none)
    (real : a.ending ≠ .cancelled) : Sound (b.settle a) := by
  rcases b.settle_cases real with ⟨-, result, -, work, -⟩ | ⟨-, b', work, -, -, settled⟩
  · exact (sound.finish begun idle result).of_work work
  · have pending : b'.pending = b.pending := by rw [SessionBench.pending, work.clock]; rfl
    have open'' : b'.result? a.operation = none := by
      rw [result?, work.results]
      exact open'
    rw [settled]
    exact (sound.of_work work).startCall (work.operations ▸ begun) (pending ▸ idle) open'' _

theorem pending_moveTo (time : Nat) :
    ({ b with clock := b.clock.moveTo time } : SessionBench).pending.Perm b.pending := by
  have split := (List.filter_append_perm (fun w : Nat × Awaited => decide (w.1 ≤ time))
    b.clock.waiting).map Prod.snd
  rw [List.map_append] at split
  unfold pending Clock.moveTo
  rw [List.append_assoc]
  exact split.append_left _

theorem pending_cancel (n : Nat) :
    (b.cancel n).pending = b.pending.filter fun a => !(a.operation == n) := by
  unfold pending cancel Clock.drop
  rw [List.filter_append, List.filter_map]
  rfl

theorem Sound.undergo (sound : Sound b) {h : Happening} (possible : b.Possible h) :
    Sound (b.undergo h) := by
  cases h with
  | begins call =>
    have more : Sound b.opened :=
      ⟨fun a mem => ⟨Nat.lt_succ_of_lt (sound.known a mem).1, (sound.known a mem).2⟩, sound.single,
        sound.real, fun n value ended => Nat.lt_succ_of_lt (sound.begun n value ended),
        sound.timely⟩
    refine more.startCall (Nat.lt_succ_self _) ?_ ?_ call
    · exact fun a mem => Nat.ne_of_lt (sound.known a mem).1
    · by_contra ended
      obtain ⟨value, ended⟩ := Option.ne_none_iff_exists'.mp ended
      exact Nat.lt_irrefl _ (sound.begun _ value ended)
  | settled =>
    cases ready : b.clock.ready with
    | nil =>
      rw [undergo_settled_nil ready]
      exact sound
    | cons a rest =>
      obtain ⟨popped, idle, begun, open', real⟩ := sound.popped ready
      rw [undergo_settled ready]
      exact popped.settle begun idle open' real
  | passes time =>
    obtain ⟨-, -, ahead⟩ := possible
    refine sound.of_pending (pending_moveTo time).subperm rfl rfl ?_
    intro w mem
    have waits := List.mem_of_mem_filter mem
    exact Nat.max_le.mpr ⟨sound.timely w waits, ahead w waits⟩
  | cancelled n =>
    refine sound.of_pending ?_ rfl rfl fun w mem => sound.timely w (List.mem_of_mem_filter mem)
    rw [SessionBench.undergo, pending_cancel]
    exact List.filter_sublist.subperm
  | released | linkDropped | rescripted | delivered | treeTouched | linkChecked | asked =>
    exact sound.of_work (b.undergo_work rfl)

theorem Course.sound {hs : List Happening} {b' : SessionBench} (course : Course b hs b')
    (sound : Sound b) : Sound b' := by
  induction course with
  | start => exact sound
  | next _ possible ih => exact ih.undergo possible

theorem settle_terms (b : SessionBench) (a : Awaited) : SameTerms b (b.settle a) := by
  by_cases cancelled : a.ending = .cancelled
  · have unchanged : b.settle a = b := by
      rw [settle_eq, learn, cancelled, proceed, cancelled]
      rfl
    rw [unchanged]
    exact .refl b
  · rcases b.settle_cases cancelled with ⟨-, result, -, work, -⟩ | ⟨-, b', work, -, -, settled⟩
    · exact ⟨work.limits, work.security, work.address⟩
    · exact settled ▸ work.toSameTerms.trans (b'.startCall_terms ..).1

theorem undergo_terms (b : SessionBench) (h : Happening) : SameTerms b (b.undergo h) := by
  cases h with
  | begins call =>
    obtain ⟨terms, -⟩ := b.opened.startCall_terms b.operations call
    exact ⟨terms.limits, terms.security, terms.address⟩
  | settled =>
    cases ready : b.clock.ready with
    | nil =>
      rw [undergo_settled_nil ready]
      exact .refl b
    | cons a rest =>
      have terms := (b.popped rest).settle_terms a
      rw [undergo_settled ready]
      exact ⟨terms.limits, terms.security, terms.address⟩
  | passes | cancelled => exact ⟨rfl, rfl, rfl⟩
  | released | linkDropped | rescripted | delivered | treeTouched | linkChecked | asked =>
    exact (b.undergo_work rfl).toSameTerms

theorem Course.terms {hs : List Happening} {b' : SessionBench} (course : Course b hs b') :
    SameTerms b b' := by
  induction course with
  | start => exact .refl b
  | next _ _ ih => exact ih.trans (undergo_terms _ _)

/-- A result stays. -/
theorem Sound.result?_undergo (sound : Sound b) {n : Nat} {result : Except Failure (List UInt8)}
    (ended : b.result? n = some result) (h : Happening) :
    (b.undergo h).result? n = some result := by
  have same {b' : SessionBench} (results : b'.results = b.results) :
      b'.result? n = some result := by
    rw [SessionBench.result?, results]
    exact ended
  cases h with
  | begins call => exact same (b.opened.startCall_terms b.operations call).2.2.1
  | settled =>
    cases ready : b.clock.ready with
    | nil =>
      rw [undergo_settled_nil ready]
      exact ended
    | cons a rest =>
      obtain ⟨-, -, -, open', real⟩ := sound.popped ready
      have other : n ≠ a.operation := by
        rintro rfl
        rw [open'] at ended
        cases ended
      rw [undergo_settled ready]
      rcases settle_cases (b.popped rest) real with
        ⟨-, result', -, work, -⟩ | ⟨-, b', work, -, -, settled⟩
      · rw [SessionBench.result?, work.results, SessionBench.finish, List.lookup_cons,
          beq_eq_false_iff_ne.mpr other]
        exact ended
      · rw [settled]
        exact same ((b'.startCall_terms ..).2.2.1.trans work.results)
  | passes | cancelled => exact ended
  | released | linkDropped | rescripted | delivered | treeTouched | linkChecked | asked =>
    exact same (b.undergo_work rfl).results

theorem Course.result? {hs : List Happening} {b' : SessionBench} (course : Course b hs b')
    (sound : Sound b) {n : Nat} {result : Except Failure (List UInt8)}
    (ended : b.result? n = some result) : b'.result? n = some result := by
  induction course with
  | start => exact ended
  | next before _ ih => exact (before.sound sound).result?_undergo ih _

end SessionBench

end SensorLink.Bench
