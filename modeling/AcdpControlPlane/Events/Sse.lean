import Mathlib.Data.List.Basic

/-!
# Streams that end with the drain

`createSseStream` (`src/events/sse-drain.ts`) wires a stream in steps: it is counted, it subscribes to the
start of the drain, then to the hub, and sets a heartbeat. What the hub or the client does may come between
these steps, and a stream that is closed by then gets its last resources nevertheless. They are released since
RxJS runs the teardown of a closed subscriber as soon as the subscribe call has returned it.
-/

namespace AcdpControlPlane.Sse

open List

inductive Message where
  | event
  | heartbeat
  | shutdown
  | complete
  | error
deriving DecidableEq

/-- How far the subscribe call has come. -/
inductive Wiring where
  | checked
  | joined
  | following
  | returned
deriving DecidableEq

structure SseStream where
  wiring : Wiring
  closed : Bool
  out : List Message
  drained : Bool
  hub : Bool
  heartbeat : Bool
  released : Bool
  late : Bool
  caught : Bool
  followed : Bool

namespace SseStream

/-- `subscriber.next`, which does nothing on a closed subscriber. -/
def next (st : SseStream) (message : Message) : SseStream :=
  if st.closed then st else { st with out := st.out ++ [message] }

/-- `subscriber.complete` and `subscriber.error`. -/
def close (st : SseStream) (message : Message) : SseStream := { st.next message with closed := true }

def terminate (st : SseStream) : SseStream := (st.next .shutdown).close .complete

/-- The first step: if the drain has started, the stream ends and the call returns. -/
def subscribed (draining : Bool) : SseStream :=
  let st : SseStream := ⟨.checked, false, [], false, false, false, false, draining, false, false⟩
  if draining then { st.terminate with wiring := .returned } else st

/-- The next step of the subscribe call. -/
def wire (draining : Bool) (st : SseStream) : SseStream :=
  match st.wiring with
  | .checked =>
    if draining then { st.terminate with wiring := .joined } else { st with wiring := .joined, drained := true }
  | .joined =>
    if st.closed then { st with wiring := .returned }
    else { st with wiring := .following, hub := true, followed := true }
  | .following => { st with wiring := .returned, heartbeat := true }
  | .returned => st

/-- The drain starts: whoever has subscribed to that ends. -/
def drain (st : SseStream) : SseStream :=
  let st := { st with caught := !st.closed }
  if st.drained then { st.terminate with drained := false } else st

def release (st : SseStream) : SseStream :=
  { st with drained := false, hub := false, heartbeat := false, released := true }

end SseStream

inductive StreamEvent where
  | wire
  | hubEvent
  | hubComplete
  | hubError
  | heartbeat
  | unsubscribe

inductive SseEvent where
  | subscribe
  | stream (i : ℕ) (event : StreamEvent)
  | drain

structure SseServer where
  draining : Bool
  streams : List SseStream
  gauge : Int

def SseStream.apply (draining : Bool) (st : SseStream) : StreamEvent → SseStream
  | .wire => st.wire draining
  | .hubEvent => if st.hub then st.next .event else st
  | .hubComplete => if st.hub then { st.close .complete with hub := false } else st
  | .hubError => if st.hub then { st.close .error with hub := false } else st
  | .heartbeat => if st.heartbeat then st.next .heartbeat else st
  | .unsubscribe => if st.wiring = .checked then st else { st with closed := true }

/-- The teardown of a stream runs once it is closed and was returned. -/
def settle : List SseStream → Int → List SseStream × Int
  | [], gauge => ([], gauge)
  | st :: rest, gauge =>
    let (rest, gauge) := settle rest gauge
    if st.closed ∧ st.wiring = .returned ∧ ¬ st.released then (st.release :: rest, gauge - 1)
    else (st :: rest, gauge)

namespace SseServer

def apply (s : SseServer) : SseEvent → SseServer
  | .subscribe => { s with streams := s.streams ++ [.subscribed s.draining], gauge := s.gauge + 1 }
  | .stream i event =>
    match s.streams[i]? with
    | some st => { s with streams := s.streams.set i (st.apply s.draining event) }
    | none => s
  | .drain => if s.draining then s else { s with draining := true, streams := s.streams.map SseStream.drain }

def step (s : SseServer) (event : SseEvent) : SseServer :=
  let s := s.apply event
  { s with streams := (settle s.streams s.gauge).1, gauge := (settle s.streams s.gauge).2 }

def run (events : List SseEvent) : SseServer := events.foldl step ⟨false, [], 0⟩

end SseServer

/-! ## One stream -/

def Message.Plain (m : Message) : Prop := m = .event ∨ m = .heartbeat

def Shape (closed : Bool) (out : List Message) : Prop :=
  ∃ pre tail, (∀ m ∈ pre, m.Plain) ∧ out = pre ++ tail ∧ (tail = [] ∨ closed = true) ∧
    tail ∈ [[], [.shutdown, .complete], [.complete], [.error]]

def Ended (out : List Message) : Prop := ∃ pre, out = pre ++ [.shutdown, .complete]

structure Good (draining : Bool) (st : SseStream) : Prop where
  shape : Shape st.closed st.out
  checked : st.wiring = .checked → st.closed = false ∧ st.drained = false ∧ st.hub = false
  joined : st.closed = false → st.wiring ≠ .checked → st.drained = true ∧ draining = false
  started : st.caught = true ∨ st.late = true → draining = true
  owed : st.caught = true ∨ st.late = true → st.wiring ≠ .checked → Ended st.out
  late : st.late = true → st.wiring = .returned ∧ st.followed = false
  released : st.released = true → st.closed = true ∧ st.wiring = .returned ∧ st.drained = false ∧
    st.hub = false ∧ st.heartbeat = false

section Streams

variable {draining : Bool} {st : SseStream} {m : Message} {out : List Message}

theorem Shape.plain (h : Shape false out) : ∀ m ∈ out, m.Plain := by
  obtain ⟨pre, tail, hp, rfl, ht | hc, -⟩ := h
  · rwa [ht, append_nil]
  · cases hc

theorem Shape.shutdown {closed : Bool} (h : Shape closed out) (pre post : List Message)
    (ho : out = pre ++ .shutdown :: post) : .shutdown ∉ pre ∧ post = [.complete] := by
  obtain ⟨plain, tail, hp, rfl, -, ht⟩ := h
  have hn : Message.shutdown ∉ plain := fun hm => by rcases hp _ hm with h | h <;> cases h
  rcases append_eq_append_iff.mp ho with ⟨more, rfl, heq⟩ | ⟨more, rfl, heq⟩
  · cases more with
    | nil =>
      refine ⟨by simpa using hn, ?_⟩
      rw [heq] at ht
      simpa using ht
    | cons m more =>
      rw [heq] at ht
      have hm : Message.shutdown ∈ more ++ .shutdown :: post :=
        mem_append_right _ (mem_cons_self ..)
      simp at ht
      simp [ht.2] at hm
  · cases more with
    | nil =>
      rw [nil_append] at heq
      refine ⟨by simpa using hn, ?_⟩
      rw [← heq] at ht
      simpa using ht
    | cons m more =>
      cases (cons.inj heq).1
      simp at hn

theorem Shape.append {closed : Bool} {tail : List Message} (h : Shape false out)
    (ht : tail ∈ [[], [.shutdown, .complete], [.complete], [.error]]) (hc : tail = [] ∨ closed = true) :
    Shape closed (out ++ tail) := ⟨out, tail, h.plain, rfl, hc, ht⟩

theorem Shape.relay (h : Shape false out) (hm : m.Plain) : Shape false (out ++ [m]) :=
  ⟨out ++ [m], [], forall_mem_append.mpr ⟨h.plain, forall_mem_singleton.mpr hm⟩,
    (append_nil _).symm, .inl rfl, by simp⟩

theorem Good.relay (h : Good draining st) (hm : m.Plain) : Good draining (st.next m) := by
  unfold SseStream.next
  split
  · exact h
  · next hc =>
    rw [Bool.not_eq_true] at hc
    refine ⟨hc ▸ (hc ▸ h.shape).relay hm, h.checked, h.joined, h.started, fun ho hw => ?_, h.late,
      h.released⟩
    cases (h.started ho).symm.trans (h.joined hc hw).2

theorem Good.end {tail : List Message} (h : Good draining st) (hclosed : st.closed = false)
    (hw : st.wiring ≠ .checked) (htail : tail ∈ [[], [.shutdown, .complete], [.complete], [.error]])
    (drained hub : Bool) :
    Good draining { st with out := st.out ++ tail, closed := true, drained, hub } := by
  have hshape := hclosed ▸ h.shape
  refine ⟨hshape.append htail (.inr rfl), fun hc => (hw hc).elim, nofun, h.started, fun howed _ => ?_, h.late,
    fun hrel => nomatch hclosed.symm.trans (h.released hrel).1⟩
  cases (h.started howed).symm.trans (h.joined hclosed hw).2

theorem terminate_open (hc : st.closed = false) :
    st.terminate = { st with out := st.out ++ [.shutdown, .complete], closed := true } := by
  simp [SseStream.terminate, SseStream.close, SseStream.next, hc]

theorem Good.subscribed (draining : Bool) : Good draining (.subscribed draining) := by
  cases draining with
  | true =>
    exact ⟨⟨[], _, nofun, rfl, .inr rfl, by simp⟩, nofun, nofun, fun _ => rfl, fun _ _ => ⟨[], rfl⟩,
      fun _ => ⟨rfl, rfl⟩, nofun⟩
  | false =>
    refine ⟨⟨[], [], nofun, rfl, .inl rfl, by simp⟩, fun _ => ⟨rfl, rfl, rfl⟩, fun _ hw => (hw rfl).elim, ?_,
      fun _ hw => (hw rfl).elim, nofun, nofun⟩
    rintro (hc | hl)
    · cases hc
    · cases hl

theorem Good.move {wiring : Wiring} (h : Good draining st) (hw : st.wiring ≠ .checked)
    (hret : st.wiring ≠ .returned) (hnew : wiring ≠ .checked) (hub heartbeat followed : Bool) :
    Good draining { st with wiring, hub, heartbeat, followed } :=
  ⟨h.shape, fun hc => (hnew hc).elim, fun hc _ => h.joined hc hw, h.started, fun howed _ => h.owed howed hw,
    fun hl => (hret (h.late hl).1).elim, fun hr => (hret (h.released hr).2.1).elim⟩

theorem Good.wire (h : Good draining st) : Good draining (st.wire draining) := by
  unfold SseStream.wire
  split
  · next hw =>
    have hclosed := (h.checked hw).1
    have hret : st.wiring ≠ .returned := by rw [hw]; nofun
    split
    · -- the drain has started since the check, and is replayed
      rw [terminate_open hclosed]
      exact ⟨(hclosed ▸ h.shape).append (by simp) (.inr rfl), nofun, nofun, h.started, fun _ _ => ⟨_, rfl⟩,
        fun hl => (hret (h.late hl).1).elim, fun hr => (hret (h.released hr).2.1).elim⟩
    · next hd =>
      exact ⟨h.shape, nofun, fun _ _ => ⟨rfl, Bool.not_eq_true _ ▸ hd⟩, h.started,
        fun howed => (hd (h.started howed)).elim, fun hl => (hret (h.late hl).1).elim,
        fun hr => (hret (h.released hr).2.1).elim⟩
  · next hw =>
    split <;> exact h.move (by rw [hw]; nofun) (by rw [hw]; nofun) (by nofun) ..
  · next hw => exact h.move (by rw [hw]; nofun) (by rw [hw]; nofun) (by nofun) ..
  · exact h

theorem Good.hubEnd (h : Good draining st) (hhub : st.hub = true) (hm : m = .complete ∨ m = .error) :
    Good draining { st.close m with hub := false } := by
  have hw : st.wiring ≠ .checked := fun hw => nomatch hhub.symm.trans (h.checked hw).2.2
  unfold SseStream.close SseStream.next
  split
  · next hclosed =>
    exact ⟨hclosed ▸ h.shape, fun hc => (hw hc).elim, nofun, h.started, h.owed, h.late,
      fun hr => (nomatch hhub.symm.trans (h.released hr).2.2.2.1)⟩
  · next hclosed =>
    exact h.end (Bool.not_eq_true _ ▸ hclosed) hw (by rcases hm with rfl | rfl <;> simp) st.drained false

theorem Good.apply (h : Good draining st) (event : StreamEvent) : Good draining (st.apply draining event) := by
  cases event <;> unfold SseStream.apply <;> dsimp only
  case wire => exact h.wire
  case hubEvent =>
    split
    · exact h.relay (.inl rfl)
    · exact h
  case heartbeat =>
    split
    · exact h.relay (.inr rfl)
    · exact h
  case hubComplete =>
    split
    · next hhub => exact h.hubEnd hhub (.inl rfl)
    · exact h
  case hubError =>
    split
    · next hhub => exact h.hubEnd hhub (.inr rfl)
    · exact h
  case unsubscribe =>
    split
    · exact h
    · next hw =>
      cases hclosed : st.closed with
      | true => exact hclosed ▸ h
      | false => simpa using @Good.end draining st [] h hclosed hw (by simp) st.drained st.hub

theorem Good.drain (h : Good false st) : Good true st.drain := by
  have hla : st.late ≠ true := fun hl => nomatch h.started (.inr hl)
  unfold SseStream.drain
  cases hcl : st.closed with
  | true =>
    have hw : st.wiring ≠ .checked := fun hw => nomatch hcl.symm.trans (h.checked hw).1
    have hk : ∀ drained, (st.released = true → drained = false) →
        Good true { st with closed := true, caught := false, drained } := fun drained hd =>
      ⟨hcl ▸ h.shape, fun hc => (hw hc).elim, nofun, fun _ => rfl,
        fun how => (how.elim nofun hla).elim, h.late, fun hr =>
          ⟨rfl, (h.released hr).2.1, hd hr, (h.released hr).2.2.2⟩⟩
    dsimp only
    split
    · exact hk false fun _ => rfl
    · exact hk st.drained fun hr => (h.released hr).2.2.1
  | false =>
    have ho : st.released ≠ true := fun hr => nomatch hcl.symm.trans (h.released hr).1
    by_cases hw : st.wiring = .checked
    · -- it will be told when it subscribes
      obtain ⟨-, hd, hh⟩ := h.checked hw
      simp only [hd, Bool.not_false, Bool.false_eq_true, if_false]
      exact ⟨hcl ▸ h.shape, fun _ => ⟨rfl, rfl, hh⟩, fun _ hn => (hn hw).elim, fun _ => rfl,
        fun _ hn => (hn hw).elim, h.late, fun hr => (ho hr).elim⟩
    · simp only [(h.joined hcl hw).1, if_true]
      rw [terminate_open rfl]
      exact ⟨(hcl ▸ h.shape).append (by simp) (.inr rfl), fun hc => (hw hc).elim, nofun, fun _ => rfl,
        fun _ _ => ⟨_, rfl⟩, h.late, fun hr => (ho hr).elim⟩

theorem Good.release (h : Good draining st) (hcl : st.closed = true) (hr : st.wiring = .returned) :
    Good draining st.release :=
  ⟨h.shape, fun hc => (nomatch hr.symm.trans hc), fun hc => (nomatch hcl.symm.trans hc), h.started, h.owed,
    h.late, fun _ => ⟨hcl, hr, rfl, rfl, rfl⟩⟩

end Streams

/-! ## All streams -/

structure Sound (s : SseServer) : Prop where
  good : ∀ st ∈ s.streams, Good s.draining st
  gauge : s.gauge = (s.streams.map (·.released)).count false

theorem settle_sound {draining : Bool} {streams : List SseStream} (h : ∀ st ∈ streams, Good draining st)
    (gauge : Int) :
    (∀ st ∈ (settle streams gauge).1, Good draining st ∧
      (st.closed = true → st.wiring = .returned → st.released = true)) ∧
    (settle streams gauge).2 - ((settle streams gauge).1.map (·.released)).count false =
      gauge - (streams.map (·.released)).count false := by
  induction streams with
  | nil => exact ⟨nofun, rfl⟩
  | cons st rest ih =>
    obtain ⟨hs, hre⟩ := forall_mem_cons.mp h
    obtain ⟨ih, ihg⟩ := ih hre
    unfold settle
    dsimp only
    split
    · next hd =>
      refine ⟨forall_mem_cons.mpr ⟨⟨hs.release hd.1 hd.2.1, fun _ _ => rfl⟩, ih⟩, ?_⟩
      have hn : st.release.released = true := rfl
      have ho : st.released = false := Bool.not_eq_true _ ▸ hd.2.2
      simp only [map_cons, hn, ho, count_cons, beq_self_eq_true, if_true]
      simp
      omega
    · next hd =>
      refine ⟨forall_mem_cons.mpr ⟨⟨hs, fun hc hw => ?_⟩, ih⟩, ?_⟩
      · by_contra hr
        exact hd ⟨hc, hw, hr⟩
      · simp only [map_cons, count_cons]
        omega

theorem released_next (st : SseStream) (m : Message) : (st.next m).released = st.released := by
  unfold SseStream.next
  split <;> rfl

theorem released_terminate (st : SseStream) : st.terminate.released = st.released :=
  (released_next _ _).trans (released_next _ _)

theorem released_apply (draining : Bool) (st : SseStream) (event : StreamEvent) :
    (st.apply draining event).released = st.released := by
  cases event <;> unfold SseStream.apply <;> dsimp only
  case wire =>
    unfold SseStream.wire
    split <;> (try split) <;> first | rfl | exact released_terminate st
  all_goals split <;> first | rfl | exact released_next st _

theorem Sound.apply {s : SseServer} (h : Sound s) (event : SseEvent) : Sound (s.apply event) := by
  cases event with
  | subscribe =>
    refine ⟨forall_mem_append.mpr ⟨h.good, forall_mem_singleton.mpr (.subscribed _)⟩, ?_⟩
    have hn : (SseStream.subscribed s.draining).released = false := by
      cases s.draining <;> rfl
    simp [SseServer.apply, h.gauge, hn]
  | stream i event =>
    unfold SseServer.apply
    dsimp only
    split
    · next st hi =>
      refine ⟨fun st' hs' => ?_, ?_⟩
      · obtain ho | rfl := mem_or_eq_of_mem_set hs'
        · exact h.good st' ho
        · exact (h.good st (mem_of_getElem? hi)).apply event
      · rw [h.gauge]
        congr 2
        refine ext_getElem? fun j => ?_
        rw [getElem?_map, getElem?_map, getElem?_set]
        split
        · next hij =>
          subst hij
          rw [if_pos (List.getElem?_eq_some_iff.mp hi).1, hi, Option.map_some, Option.map_some, released_apply]
        · rfl
    · exact h
  | drain =>
    unfold SseServer.apply
    dsimp only
    split
    · exact h
    · next hd =>
      refine ⟨forall_mem_map.mpr fun st hs => ?_, ?_⟩
      · have hg := h.good st hs
        rw [Bool.not_eq_true] at hd
        exact (hd ▸ hg).drain
      · rw [h.gauge, map_map]
        congr 2
        refine map_congr_left fun st _ => ?_
        unfold SseStream.drain
        dsimp only [Function.comp]
        split
        · exact (released_terminate { st with caught := !st.closed }).symm
        · rfl

theorem Sound.run (events : List SseEvent) :
    Sound (SseServer.run events) ∧ ∀ st ∈ (SseServer.run events).streams,
      st.closed = true → st.wiring = .returned → st.released = true := by
  refine foldlRecOn events SseServer.step (motive := fun s => Sound s ∧ ∀ st ∈ s.streams,
    st.closed = true → st.wiring = .returned → st.released = true) ⟨⟨nofun, rfl⟩, nofun⟩ fun s h event _ => ?_
  obtain ⟨h, -⟩ := h
  obtain ⟨hg, hga⟩ := settle_sound (h.apply event).good (s.apply event).gauge
  have hsa := (h.apply event).gauge
  refine ⟨⟨fun st hs => (hg st hs).1, ?_⟩, fun st hs => (hg st hs).2⟩
  dsimp only [SseServer.step]
  omega

end AcdpControlPlane.Sse
