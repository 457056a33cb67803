import Mathlib.Logic.Function.Basic
import TradingSdk.Transition.Run

namespace TradingSdk.Client

open Transition

/-- The closure variables of one stream, what it has outstanding (connects that await their URL,
sockets, timers) and how often it connected, constructed a socket, armed a timer and delivered a
message. A socket in `closing` has been told to close and has not reported it yet. -/
structure Stream where
  closed : Bool
  ws : Option Nat
  timer : Option Nat
  backoff : Nat
  backoffCapMs : Nat
  resolving : Nat
  live : List Nat
  closing : List Nat
  armed : List Nat
  connects : Nat
  sockets : Nat
  timers : Nat
  delivered : Nat

namespace Stream

/-- A stream that was never opened has nothing outstanding. -/
def blank : Stream := ⟨true, none, none, 0, 0, 0, [], [], [], 0, 0, 0, 0⟩

def fresh (backoffCapMs : Nat) : Stream :=
  ⟨false, none, none, 500, backoffCapMs, 0, [], [], [], 0, 0, 0, 0⟩

def scheduleReconnect (s : Stream) : Stream :=
  if s.closed then s
  else { s with
    timer := some s.timers
    armed := s.armed ++ [s.timers]
    timers := s.timers + 1
    backoff := min (s.backoff * 2) s.backoffCapMs }

/-- `connect` up to the await of its URL. -/
def connect (s : Stream) : Stream :=
  if s.closed then s
  else { s with resolving := s.resolving + 1, connects := s.connects + 1 }

/-- The await of a URL is over. -/
def resolved (s : Stream) : Stream := { s with resolving := s.resolving - 1 }

/-- The rest of `connect`. A constructor that throws rejects the promise of `connect`, which
nobody awaits. -/
def construct (s : Stream) (constructed : Bool) : Stream :=
  if s.closed || !constructed then s
  else { s with ws := some s.sockets, live := s.live ++ [s.sockets], sockets := s.sockets + 1 }

def onclose (s : Stream) (socket : Nat) : Stream :=
  scheduleReconnect { s with
    ws := none
    live := s.live.filter (· ≠ socket)
    closing := s.closing.filter (· ≠ socket) }

def onopen (s : Stream) : Stream := { s with backoff := 500 }

def deliver (s : Stream) : Stream := { s with delivered := s.delivered + 1 }

/-- A timer leaves the queue and calls `connect`. -/
def fire (s : Stream) (timer : Nat) : Stream :=
  connect { s with armed := s.armed.filter (· ≠ timer) }

def clearTimer (s : Stream) : Stream :=
  match s.timer with
  | none => s
  | some timer => { s with timer := none, armed := s.armed.filter (· ≠ timer) }

def closeSocket (s : Stream) : Stream :=
  match s.ws with
  | none => s
  | some socket =>
    { s with
      ws := none
      live := s.live.filter (· ≠ socket)
      closing := s.closing ++ s.live.filter (· = socket) }

def unsubscribe (s : Stream) : Stream := closeSocket (clearTimer { s with closed := true })

/-- The connects in progress, live sockets and pending timers together. -/
def active (s : Stream) : Nat := s.resolving + s.live.length + s.armed.length

/-- What the closure variables say about what is outstanding. -/
structure Sane (s : Stream) : Prop where
  single : s.closed = false → s.active ≤ 1
  current : ∀ socket ∈ s.live, s.ws = some socket
  pending : ∀ timer ∈ s.armed, s.timer = some timer
  silent : s.closed = true → s.live = [] ∧ s.armed = []
  kept : s.closed = false → s.closing = []

end Stream

/-- What a caller, or a callback of his, does to the client's streams. -/
inductive Command where
  | openStream (backoffCapMs : Nat)
  | unsubscribe (stream : Nat)
  | disconnect

/-- What a call of a user callback does before it returns or throws. An absent `onError` does
nothing. -/
structure Callback where
  commands : List Command
  throws : Bool

/-- A command that ends a stream. -/
def Command.stops (stream : Nat) : Command → Bool
  | .openStream _ => false
  | .unsubscribe other => other == stream
  | .disconnect => true

structure StreamClient where
  stream : Nat → Stream
  opened : Nat
  activeStreams : List Nat

/-- The events that reach a client, each with what the callbacks do that it runs. -/
inductive StreamEvent where
  | command (command : Command)
  | urlResolved (stream : Nat) (constructed : Bool)
  | urlRejected (stream : Nat) (onError : Callback)
  | opened (stream socket : Nat)
  | message (stream socket : Nat) (parsed : Bool) (onMessage onError : Callback)
  | error (stream socket : Nat) (onError : Callback)
  | closed (stream socket : Nat)
  | timer (stream timer : Nat)

namespace StreamClient

def init : StreamClient := ⟨fun _ => .blank, 0, []⟩

def modify (s : StreamClient) (stream : Nat) (f : Stream → Stream) : StreamClient :=
  { s with stream := Function.update s.stream stream (f (s.stream stream)) }

def openStream (s : StreamClient) (backoffCapMs : Nat) : StreamClient :=
  { stream := Function.update s.stream s.opened (Stream.fresh backoffCapMs).connect
    opened := s.opened + 1
    activeStreams := s.activeStreams ++ [s.opened] }

def unsubscribe (s : StreamClient) (stream : Nat) : StreamClient :=
  { s.modify stream Stream.unsubscribe with
    activeStreams := s.activeStreams.filter (· ≠ stream) }

/-- Unsubscribes from a copy of the set. -/
def disconnect (s : StreamClient) : StreamClient := s.activeStreams.foldl unsubscribe s

def runCommand (s : StreamClient) : Command → StreamClient
  | .openStream backoffCapMs => s.openStream backoffCapMs
  | .unsubscribe stream => s.unsubscribe stream
  | .disconnect => s.disconnect

def call (s : StreamClient) (callback : Callback) : StreamClient :=
  callback.commands.foldl runCommand s

/-- The handler of a rejected URL: an `onError` that throws leaves `connect` at once. -/
def onRejected (s : StreamClient) (stream : Nat) (onError : Callback) : StreamClient :=
  let t := (s.modify stream Stream.resolved).call onError
  if onError.throws then t else t.modify stream Stream.scheduleReconnect

/-- The message handler: a text that does not parse, or a callback that throws, goes to
`onError`. -/
def onmessage (s : StreamClient) (stream : Nat) (parsed : Bool) (onMessage onError : Callback) :
    StreamClient :=
  if parsed then
    let t := (s.modify stream Stream.deliver).call onMessage
    if onMessage.throws then t.call onError else t
  else s.call onError

/-- One event, where it can happen: a socket that was told to close delivers nothing, and each
socket reports its end once. -/
def step (s : StreamClient) : StreamEvent → Option StreamClient
  | .command command => some (s.runCommand command)
  | .urlResolved stream constructed =>
    if 0 < (s.stream stream).resolving then
      some (s.modify stream fun t => t.resolved.construct constructed)
    else none
  | .urlRejected stream onError =>
    if 0 < (s.stream stream).resolving then some (s.onRejected stream onError) else none
  | .opened stream socket =>
    if socket ∈ (s.stream stream).live then some (s.modify stream Stream.onopen) else none
  | .message stream socket parsed onMessage onError =>
    if socket ∈ (s.stream stream).live then some (s.onmessage stream parsed onMessage onError)
    else none
  | .error stream socket onError =>
    if socket ∈ (s.stream stream).live ++ (s.stream stream).closing then some (s.call onError)
    else none
  | .closed stream socket =>
    if socket ∈ (s.stream stream).live ++ (s.stream stream).closing then
      some (s.modify stream fun t => t.onclose socket)
    else none
  | .timer stream timer =>
    if timer ∈ (s.stream stream).armed then some (s.modify stream fun t => t.fire timer) else none

end StreamClient

namespace Stream

theorem sane_blank : blank.Sane := by constructor <;> simp [blank]

theorem sane_fresh (backoffCapMs : Nat) : (fresh backoffCapMs).connect.Sane := by
  constructor <;> simp [fresh, connect, active]

theorem active_fresh (backoffCapMs : Nat) : (fresh backoffCapMs).connect.active = 1 := rfl

/-- Nothing outstanding is left when the last thing outstanding ends. -/
theorem eq_nil_of_active {s : Stream} (h : s.active = 0) :
    s.resolving = 0 ∧ s.live = [] ∧ s.armed = [] := by
  simp only [active] at h
  refine ⟨by omega, List.eq_nil_of_length_eq_zero (by omega), ?_⟩
  exact List.eq_nil_of_length_eq_zero (by omega)

theorem Sane.scheduleReconnect {s : Stream} (h : s.Sane)
    (hactive : s.closed = false → s.active = 0) : s.scheduleReconnect.Sane := by
  rw [Stream.scheduleReconnect]
  split_ifs with hclosed
  · exact h
  · have hopen : s.closed = false := by simpa using hclosed
    obtain ⟨hresolving, hlive, harmed⟩ := eq_nil_of_active (hactive hopen)
    constructor
    · intro _
      simp [active, hresolving, hlive, harmed]
    · simp [hlive]
    · simp [harmed]
    · intro hc
      exact absurd hc hclosed
    · exact h.kept

theorem active_scheduleReconnect {s : Stream} (h : s.closed = false) :
    s.scheduleReconnect.active = s.active + 1 := by
  simp only [scheduleReconnect, h, Bool.false_eq_true, if_false, active, List.length_append,
    List.length_singleton]
  omega

theorem closed_scheduleReconnect (s : Stream) : s.scheduleReconnect.closed = s.closed := by
  rw [scheduleReconnect]
  split_ifs <;> rfl

theorem Sane.resolved {s : Stream} (h : s.Sane) : s.resolved.Sane := by
  refine ⟨fun hopen => ?_, h.current, h.pending, h.silent, h.kept⟩
  have hsingle := h.single hopen
  simp only [Stream.resolved, active] at hsingle ⊢
  omega

theorem active_resolved {s : Stream} (h : 0 < s.resolving) : s.resolved.active + 1 = s.active := by
  simp only [resolved, active]
  omega

theorem Sane.construct {s : Stream} (h : s.Sane) (hactive : s.closed = false → s.active = 0)
    (constructed : Bool) : (s.construct constructed).Sane := by
  rw [Stream.construct]
  split_ifs with hclosed
  · exact h
  · have hopen : s.closed = false := by
      cases hc : s.closed <;> simp_all
    obtain ⟨hresolving, hlive, harmed⟩ := eq_nil_of_active (hactive hopen)
    constructor
    · intro _
      simp [active, hresolving, hlive, harmed]
    · simp [hlive]
    · simp [harmed]
    · intro hc
      exact absurd hc (by simp [hopen])
    · exact h.kept

theorem active_construct {s : Stream} (h : s.closed = false) (constructed : Bool) :
    (s.construct constructed).active = s.active + constructed.toNat := by
  cases constructed with
  | false => simp [construct, active]
  | true =>
    simp only [construct, h, Bool.not_true, Bool.or_self, Bool.false_eq_true, if_false, active,
      List.length_append, List.length_singleton, Bool.toNat_true]
    omega

theorem closed_construct (s : Stream) (constructed : Bool) :
    (s.construct constructed).closed = s.closed := by
  rw [construct]
  split_ifs <;> rfl

/-- The entry that is removed was the only one. -/
theorem filter_ne_of_forall {l : List Nat} {k : Nat} (h : ∀ x ∈ l, x = k) :
    l.filter (· ≠ k) = [] := by
  rw [List.filter_eq_nil_iff]
  intro x hx
  simp [h x hx]

/-- A stream that is not closed has at most one socket, so its end leaves nothing outstanding. -/
theorem active_filter_live {s : Stream} (h : s.Sane) (hopen : s.closed = false) {socket : Nat}
    (hlive : socket ∈ s.live) :
    s.resolving + (s.live.filter (· ≠ socket)).length + s.armed.length = 0 := by
  have hsingle := h.single hopen
  have hpos := List.length_pos_of_mem hlive
  have hall : ∀ x ∈ s.live, x = socket := by
    intro x hx
    have hcurrent := h.current x hx
    rw [h.current socket hlive] at hcurrent
    exact (Option.some.inj hcurrent).symm
  rw [filter_ne_of_forall hall]
  simp only [active] at hsingle
  simp only [List.length_nil]
  omega

theorem Sane.onclose {s : Stream} (h : s.Sane) {socket : Nat}
    (hlive : s.closed = false → socket ∈ s.live) : (s.onclose socket).Sane := by
  refine Sane.scheduleReconnect ?_ fun hopen => active_filter_live h hopen (hlive hopen)
  refine ⟨fun hopen => ?_, ?_, h.pending, fun hclosed => ?_, fun hopen => ?_⟩
  · have hzero := active_filter_live h hopen (hlive hopen)
    simp only [active]
    omega
  · intro x hx
    obtain ⟨hx, hne⟩ := List.mem_filter.mp hx
    cases hc : s.closed with
    | false =>
      have hcurrent := h.current x hx
      rw [h.current socket (hlive hc)] at hcurrent
      simp [Option.some.inj hcurrent] at hne
    | true =>
      rw [(h.silent hc).1] at hx
      cases hx
  · exact ⟨by simp [(h.silent hclosed).1], (h.silent hclosed).2⟩
  · simp [h.kept hopen]

theorem active_onclose {s : Stream} (h : s.Sane) (hopen : s.closed = false) {socket : Nat}
    (hlive : socket ∈ s.live) : (s.onclose socket).active = 1 := by
  rw [onclose, active_scheduleReconnect (by exact hopen)]
  simp only [active]
  rw [active_filter_live h hopen hlive]

theorem closed_onclose (s : Stream) (socket : Nat) : (s.onclose socket).closed = s.closed :=
  closed_scheduleReconnect _

/-- The only pending timer fires, and nothing else is outstanding then. -/
theorem active_filter_armed {s : Stream} (h : s.Sane) (hopen : s.closed = false) {timer : Nat}
    (harmed : timer ∈ s.armed) :
    s.resolving + s.live.length + (s.armed.filter (· ≠ timer)).length = 0 := by
  have hsingle := h.single hopen
  have hpos := List.length_pos_of_mem harmed
  have hall : ∀ x ∈ s.armed, x = timer := by
    intro x hx
    have hpending := h.pending x hx
    rw [h.pending timer harmed] at hpending
    exact (Option.some.inj hpending).symm
  rw [filter_ne_of_forall hall]
  simp only [active] at hsingle
  simp only [List.length_nil]
  omega

theorem open_of_armed {s : Stream} (h : s.Sane) {timer : Nat} (harmed : timer ∈ s.armed) :
    s.closed = false := by
  cases hc : s.closed with
  | false => rfl
  | true =>
    rw [(h.silent hc).2] at harmed
    cases harmed

theorem open_of_live {s : Stream} (h : s.Sane) {socket : Nat} (hlive : socket ∈ s.live) :
    s.closed = false := by
  cases hc : s.closed with
  | false => rfl
  | true =>
    rw [(h.silent hc).1] at hlive
    cases hlive

theorem active_fire {s : Stream} (h : s.Sane) {timer : Nat} (harmed : timer ∈ s.armed) :
    (s.fire timer).active = 1 := by
  have hopen := open_of_armed h harmed
  have hzero := active_filter_armed h hopen harmed
  simp only [fire, connect, hopen, Bool.false_eq_true, if_false, active]
  omega

theorem Sane.fire {s : Stream} (h : s.Sane) {timer : Nat} (harmed : timer ∈ s.armed) :
    (s.fire timer).Sane := by
  have hactive := active_fire h harmed
  have hopen := open_of_armed h harmed
  refine ⟨fun _ => Nat.le_of_eq hactive, ?_, ?_, ?_, ?_⟩
  · intro x hx
    simp only [Stream.fire, connect, hopen, Bool.false_eq_true, if_false] at hx ⊢
    exact h.current x hx
  · intro x hx
    simp only [Stream.fire, connect, hopen, Bool.false_eq_true, if_false] at hx ⊢
    exact h.pending x (List.mem_of_mem_filter hx)
  · intro hclosed
    simp [Stream.fire, connect, hopen] at hclosed
  · intro _
    simp only [Stream.fire, connect, hopen, Bool.false_eq_true, if_false]
    exact h.kept hopen

theorem closed_fire (s : Stream) (timer : Nat) : (s.fire timer).closed = s.closed := by
  rw [fire, connect]
  split_ifs <;> rfl

theorem live_unsubscribe {s : Stream} (h : s.Sane) : s.unsubscribe.live = [] := by
  have hlive : (clearTimer { s with closed := true }).live = s.live := by
    rw [clearTimer]
    split <;> rfl
  have hws : (clearTimer { s with closed := true }).ws = s.ws := by
    rw [clearTimer]
    split <;> rfl
  rw [unsubscribe, closeSocket]
  split
  · next hnone =>
    rw [hlive, List.eq_nil_iff_forall_not_mem]
    intro x hx
    rw [hws, h.current x hx] at hnone
    cases hnone
  · next socket hsome =>
    show (clearTimer { s with closed := true }).live.filter _ = []
    rw [hlive]
    refine filter_ne_of_forall fun x hx => ?_
    rw [hws, h.current x hx] at hsome
    exact Option.some.inj hsome

theorem armed_unsubscribe {s : Stream} (h : s.Sane) : s.unsubscribe.armed = [] := by
  have hsame : s.unsubscribe.armed = (clearTimer { s with closed := true }).armed := by
    rw [unsubscribe, closeSocket]
    split <;> rfl
  rw [hsame, clearTimer]
  split
  · next hnone =>
    rw [List.eq_nil_iff_forall_not_mem]
    intro x hx
    have hpending := h.pending x hx
    replace hnone : s.timer = none := hnone
    rw [hnone] at hpending
    cases hpending
  · next timer hsome =>
    refine filter_ne_of_forall fun x hx => ?_
    have hpending := h.pending x hx
    replace hsome : s.timer = some timer := hsome
    rw [hsome] at hpending
    exact (Option.some.inj hpending).symm

theorem closed_unsubscribe (s : Stream) : s.unsubscribe.closed = true := by
  rw [unsubscribe, closeSocket, clearTimer]
  cases s.timer <;> cases s.ws <;> rfl

theorem Sane.unsubscribe {s : Stream} (h : s.Sane) : s.unsubscribe.Sane := by
  have hlive := live_unsubscribe h
  have harmed := armed_unsubscribe h
  have hclosed := closed_unsubscribe s
  refine ⟨?_, ?_, ?_, fun _ => ⟨hlive, harmed⟩, ?_⟩
  · intro hopen
    rw [hclosed] at hopen
    cases hopen
  · simp [hlive]
  · simp [harmed]
  · intro hopen
    rw [hclosed] at hopen
    cases hopen

/-- From here on the stream connects, opens and delivers nothing. -/
def Stopped (s t : Stream) : Prop :=
  t.closed = true ∧ t.connects = s.connects ∧ t.sockets = s.sockets ∧ t.delivered = s.delivered

theorem stopped_unsubscribe (s : Stream) : Stopped s s.unsubscribe := by
  refine ⟨closed_unsubscribe s, ?_⟩
  rw [unsubscribe, closeSocket, clearTimer]
  cases s.timer <;> cases s.ws <;> exact ⟨rfl, rfl, rfl⟩

theorem Stopped.trans {s t u : Stream} (h : Stopped s t) (h' : Stopped t u) : Stopped s u :=
  ⟨h'.1, h'.2.1.trans h.2.1, h'.2.2.1.trans h.2.2.1, h'.2.2.2.trans h.2.2.2⟩

theorem stopped_scheduleReconnect {s : Stream} (h : s.closed = true) :
    Stopped s s.scheduleReconnect := by
  rw [scheduleReconnect, if_pos h]
  exact ⟨h, rfl, rfl, rfl⟩

theorem stopped_construct {s : Stream} (h : s.closed = true) (constructed : Bool) :
    Stopped s (s.resolved.construct constructed) := by
  rw [construct, if_pos (by simp [resolved, h])]
  exact ⟨h, rfl, rfl, rfl⟩

theorem stopped_onclose {s : Stream} (h : s.closed = true) (socket : Nat) :
    Stopped s (s.onclose socket) :=
  Stopped.trans (t := { s with
    ws := none
    live := s.live.filter (· ≠ socket)
    closing := s.closing.filter (· ≠ socket) }) ⟨h, rfl, rfl, rfl⟩ (stopped_scheduleReconnect h)

end Stream

namespace StreamClient

open TradingSdk.Client.Stream

structure Inv (s : StreamClient) : Prop where
  sane : ∀ i, (s.stream i).Sane
  unopened : ∀ i, s.opened ≤ i → s.stream i = .blank
  listed : ∀ i, i ∈ s.activeStreams ↔ (s.stream i).closed = false

theorem inv_init : Inv init :=
  ⟨fun _ => sane_blank, fun _ _ => rfl, fun _ => by simp [init, blank]⟩

theorem stream_modify (s : StreamClient) (j i : Nat) (f : Stream → Stream) :
    (s.modify j f).stream i = if i = j then f (s.stream j) else s.stream i :=
  Function.update_apply ..

theorem Inv.opened_of_resolving {s : StreamClient} (hi : Inv s) {j : Nat}
    (h : 0 < (s.stream j).resolving) : j < s.opened := by
  by_contra hge
  rw [hi.unopened j (Nat.le_of_not_lt hge)] at h
  cases h

theorem Inv.opened_of_open {s : StreamClient} (hi : Inv s) {j : Nat}
    (h : (s.stream j).closed = false) : j < s.opened := by
  by_contra hge
  rw [hi.unopened j (Nat.le_of_not_lt hge)] at h
  cases h

theorem Inv.opened_of_socket {s : StreamClient} (hi : Inv s) {j socket : Nat}
    (h : socket ∈ (s.stream j).live ++ (s.stream j).closing) : j < s.opened := by
  by_contra hge
  rw [hi.unopened j (Nat.le_of_not_lt hge)] at h
  cases h

theorem Inv.modify {s : StreamClient} (hi : Inv s) {j : Nat} (hj : j < s.opened)
    {f : Stream → Stream} (hsane : (f (s.stream j)).Sane)
    (hclosed : (f (s.stream j)).closed = (s.stream j).closed) : Inv (s.modify j f) := by
  constructor
  · intro i
    rw [stream_modify]
    split_ifs
    · exact hsane
    · exact hi.sane i
  · intro i hge
    replace hge : s.opened ≤ i := hge
    rw [stream_modify, if_neg (by omega)]
    exact hi.unopened i hge
  · intro i
    rw [stream_modify]
    split_ifs with hsame
    · rw [hclosed, ← hsame]
      exact hi.listed i
    · exact hi.listed i

/-- What user code can do to the streams: nothing to one that exists, or stop it; one that it
starts has a connect in progress. -/
structure Follows (s t : StreamClient) : Prop where
  opened : s.opened ≤ t.opened
  streams : ∀ i, i < s.opened → t.stream i = s.stream i ∨ Stopped (s.stream i) (t.stream i)
  started : ∀ i, s.opened ≤ i → (t.stream i).closed = false → (t.stream i).active = 1

theorem Inv.follows {s : StreamClient} (hi : Inv s) : Follows s s := by
  refine ⟨Nat.le_refl _, fun i _ => .inl rfl, fun i hge hopen => ?_⟩
  rw [hi.unopened i hge] at hopen
  cases hopen

theorem Follows.trans {s t u : StreamClient} (h : Follows s t) (h' : Follows t u) :
    Follows s u := by
  refine ⟨Nat.le_trans h.opened h'.opened, ?_, ?_⟩
  · intro i hlt
    obtain hsame' | hstop' := h'.streams i (Nat.lt_of_lt_of_le hlt h.opened)
    · rw [hsame']
      exact h.streams i hlt
    · obtain hsame | hstop := h.streams i hlt
      · exact .inr (hsame ▸ hstop')
      · exact .inr (hstop.trans hstop')
  · intro i hge hopen
    by_cases hlt : i < t.opened
    · obtain hsame | hstop := h'.streams i hlt
      · rw [hsame] at hopen ⊢
        exact h.started i hge hopen
      · rw [hstop.1] at hopen
        cases hopen
    · exact h'.started i (Nat.le_of_not_lt hlt) hopen

theorem unsubscribe_step {s : StreamClient} (hi : Inv s) (j : Nat) :
    Inv (s.unsubscribe j) ∧ Follows s (s.unsubscribe j) := by
  have hstream : ∀ i, (s.unsubscribe j).stream i =
      if i = j then (s.stream j).unsubscribe else s.stream i := fun i => stream_modify s j i _
  refine ⟨⟨?_, ?_, ?_⟩, ⟨Nat.le_refl _, ?_, ?_⟩⟩
  · intro i
    rw [hstream]
    split_ifs
    · exact (hi.sane j).unsubscribe
    · exact hi.sane i
  · intro i hge
    rw [hstream]
    split_ifs with hsame
    · rw [← hsame, hi.unopened i hge]
      rfl
    · exact hi.unopened i hge
  · intro i
    rw [hstream]
    have hmem : i ∈ (s.unsubscribe j).activeStreams ↔ i ∈ s.activeStreams ∧ i ≠ j := by
      simp [unsubscribe]
    rw [hmem, hi.listed i]
    split_ifs with hsame
    · simp [hsame, closed_unsubscribe]
    · simp [hsame]
  · intro i _
    rw [hstream]
    split_ifs with hsame
    · exact .inr (hsame ▸ stopped_unsubscribe _)
    · exact .inl rfl
  · intro i hge hopen
    rw [hstream] at hopen
    split_ifs at hopen
    · rw [closed_unsubscribe] at hopen
      cases hopen
    · rw [hi.unopened i hge] at hopen
      cases hopen

theorem openStream_step {s : StreamClient} (hi : Inv s) (backoffCapMs : Nat) :
    Inv (s.openStream backoffCapMs) ∧ Follows s (s.openStream backoffCapMs) := by
  have hstream : ∀ i, (s.openStream backoffCapMs).stream i =
      if i = s.opened then (Stream.fresh backoffCapMs).connect else s.stream i :=
    fun i => Function.update_apply ..
  have hcount : (s.openStream backoffCapMs).opened = s.opened + 1 := rfl
  refine ⟨⟨?_, ?_, ?_⟩, ⟨Nat.le_succ _, ?_, ?_⟩⟩
  · intro i
    rw [hstream]
    split_ifs
    · exact sane_fresh backoffCapMs
    · exact hi.sane i
  · intro i hge
    rw [hcount] at hge
    rw [hstream, if_neg (by omega)]
    exact hi.unopened i (by omega)
  · intro i
    rw [hstream]
    have hmem : i ∈ (s.openStream backoffCapMs).activeStreams ↔
        i ∈ s.activeStreams ∨ i = s.opened := by
      simp [openStream]
    rw [hmem, hi.listed i]
    split_ifs with hsame
    · exact iff_of_true (.inr hsame) rfl
    · simp [hsame]
  · intro i hlt
    rw [hstream, if_neg (Nat.ne_of_lt hlt)]
    exact .inl rfl
  · intro i hge hopen
    rw [hstream] at hopen ⊢
    split_ifs at hopen ⊢
    · exact active_fresh backoffCapMs
    · rw [hi.unopened i hge] at hopen
      cases hopen

theorem foldl_step {α : Type} {f : StreamClient → α → StreamClient}
    (hf : ∀ {s : StreamClient}, Inv s → ∀ a, Inv (f s a) ∧ Follows s (f s a))
    (l : List α) {s : StreamClient} (hi : Inv s) : Inv (l.foldl f s) ∧ Follows s (l.foldl f s) := by
  induction l generalizing s with
  | nil => exact ⟨hi, hi.follows⟩
  | cons a l ih =>
    obtain ⟨hinv, hfollows⟩ := hf hi a
    obtain ⟨hinv', hfollows'⟩ := ih hinv
    exact ⟨hinv', hfollows.trans hfollows'⟩

theorem runCommand_step {s : StreamClient} (hi : Inv s) (command : Command) :
    Inv (s.runCommand command) ∧ Follows s (s.runCommand command) := by
  cases command with
  | openStream backoffCapMs => exact openStream_step hi backoffCapMs
  | unsubscribe stream => exact unsubscribe_step hi stream
  | disconnect => exact foldl_step (fun hs => unsubscribe_step hs) s.activeStreams hi

theorem call_step {s : StreamClient} (hi : Inv s) (callback : Callback) :
    Inv (s.call callback) ∧ Follows s (s.call callback) :=
  foldl_step (fun hs => runCommand_step hs) callback.commands hi

/-- A stream that is closed stays so, and nothing more happens on it. -/
structure Keeps (s t : StreamClient) : Prop where
  opened : s.opened ≤ t.opened
  stopped : ∀ i, i < s.opened → (s.stream i).closed = true → Stopped (s.stream i) (t.stream i)

theorem Keeps.refl (s : StreamClient) : Keeps s s :=
  ⟨Nat.le_refl _, fun _ _ hclosed => ⟨hclosed, rfl, rfl, rfl⟩⟩

theorem Keeps.trans {s t u : StreamClient} (h : Keeps s t) (h' : Keeps t u) : Keeps s u := by
  refine ⟨Nat.le_trans h.opened h'.opened, fun i hlt hclosed => ?_⟩
  have hstop := h.stopped i hlt hclosed
  exact hstop.trans (h'.stopped i (Nat.lt_of_lt_of_le hlt h.opened) hstop.1)

theorem Follows.keeps {s t : StreamClient} (h : Follows s t) : Keeps s t := by
  refine ⟨h.opened, fun i hlt hclosed => ?_⟩
  obtain hsame | hstop := h.streams i hlt
  · rw [hsame]
    exact ⟨hclosed, rfl, rfl, rfl⟩
  · exact hstop

theorem modify_step {s : StreamClient} (hi : Inv s) {j : Nat} (hj : j < s.opened)
    {f : Stream → Stream} (hsane : (f (s.stream j)).Sane)
    (hclosed : (f (s.stream j)).closed = (s.stream j).closed)
    (hstop : (s.stream j).closed = true → Stopped (s.stream j) (f (s.stream j))) :
    Inv (s.modify j f) ∧ Keeps s (s.modify j f) := by
  refine ⟨hi.modify hj hsane hclosed, Nat.le_refl _, fun i _ hi => ?_⟩
  rw [stream_modify]
  split_ifs with hsame
  · rw [hsame] at hi ⊢
    exact hstop hi
  · exact ⟨hi, rfl, rfl, rfl⟩

/-- The await of a URL that ends leaves nothing outstanding on an open stream. -/
theorem active_resolved_eq_zero {s : Stream} (h : s.Sane) (hopen : s.closed = false)
    (hresolving : 0 < s.resolving) : s.resolved.active = 0 := by
  have hsingle := h.single hopen
  have hactive := active_resolved hresolving
  omega

theorem onmessage_step {s : StreamClient} (hi : Inv s) {j socket : Nat}
    (hlive : socket ∈ (s.stream j).live) (parsed : Bool) (onMessage onError : Callback) :
    Inv (s.onmessage j parsed onMessage onError) ∧
      Keeps s (s.onmessage j parsed onMessage onError) := by
  have hopen := open_of_live (hi.sane j) hlive
  have hdeliver : Inv (s.modify j Stream.deliver) ∧ Keeps s (s.modify j Stream.deliver) := by
    refine modify_step hi (hi.opened_of_open hopen) ?_ rfl fun hclosed => ?_
    · obtain ⟨hsingle, hcurrent, hpending, hsilent, hkept⟩ := hi.sane j
      exact ⟨hsingle, hcurrent, hpending, hsilent, hkept⟩
    · rw [hopen] at hclosed
      cases hclosed
  rw [onmessage]
  split_ifs
  · obtain ⟨hinv, hfollows⟩ := call_step hdeliver.1 onMessage
    obtain ⟨hinv', hfollows'⟩ := call_step hinv onError
    exact ⟨hinv', (hdeliver.2.trans hfollows.keeps).trans hfollows'.keeps⟩
  · obtain ⟨hinv, hfollows⟩ := call_step hdeliver.1 onMessage
    exact ⟨hinv, hdeliver.2.trans hfollows.keeps⟩
  · obtain ⟨hinv, hfollows⟩ := call_step hi onError
    exact ⟨hinv, hfollows.keeps⟩

/-- A stream whose URL was rejected has nothing outstanding when `onError` returns or throws. -/
theorem active_of_call {s : StreamClient} (hi : Inv s) {j : Nat}
    (hresolving : 0 < (s.stream j).resolving) (onError : Callback)
    (hopen : (((s.modify j Stream.resolved).call onError).stream j).closed = false) :
    (((s.modify j Stream.resolved).call onError).stream j).active = 0 := by
  have hj := hi.opened_of_resolving hresolving
  have hinv : Inv (s.modify j Stream.resolved) := hi.modify hj (hi.sane j).resolved rfl
  obtain hsame | hstop := (call_step hinv onError).2.streams j hj
  · rw [stream_modify, if_pos rfl] at hsame
    rw [hsame] at hopen ⊢
    exact active_resolved_eq_zero (hi.sane j) hopen hresolving
  · rw [hstop.1] at hopen
    cases hopen

theorem onRejected_step {s : StreamClient} (hi : Inv s) {j : Nat}
    (hresolving : 0 < (s.stream j).resolving) (onError : Callback) :
    Inv (s.onRejected j onError) ∧ Keeps s (s.onRejected j onError) := by
  have hj := hi.opened_of_resolving hresolving
  have hresolved : Inv (s.modify j Stream.resolved) ∧ Keeps s (s.modify j Stream.resolved) :=
    modify_step hi hj (hi.sane j).resolved rfl fun hclosed => ⟨hclosed, rfl, rfl, rfl⟩
  obtain ⟨hinv, hfollows⟩ := call_step hresolved.1 onError
  have hkeeps := hresolved.2.trans hfollows.keeps
  rw [onRejected]
  split_ifs
  · exact ⟨hinv, hkeeps⟩
  · obtain ⟨hinv', hkeeps'⟩ := modify_step hinv (Nat.lt_of_lt_of_le hj hkeeps.opened)
      ((hinv.sane j).scheduleReconnect fun hopen => active_of_call hi hresolving onError hopen)
      (closed_scheduleReconnect _) stopped_scheduleReconnect
    exact ⟨hinv', hkeeps.trans hkeeps'⟩

/-- Whatever happens, the bookkeeping stays right and closed streams stay silent. -/
theorem step_keeps {s t : StreamClient} {e : StreamEvent} (hi : Inv s) (h : s.step e = some t) :
    Inv t ∧ Keeps s t := by
  cases e with
  | command command =>
    obtain rfl : s.runCommand command = t := Option.some.inj h
    obtain ⟨hinv, hfollows⟩ := runCommand_step hi command
    exact ⟨hinv, hfollows.keeps⟩
  | urlResolved j constructed =>
    obtain ⟨hresolving, ht⟩ := Option.ite_none_right_eq_some.mp h
    obtain rfl := Option.some.inj ht
    refine modify_step hi (hi.opened_of_resolving hresolving) ?_ (closed_construct _ _)
      fun hclosed => stopped_construct hclosed constructed
    exact (hi.sane j).resolved.construct
      (fun hopen => active_resolved_eq_zero (hi.sane j) hopen hresolving) constructed
  | urlRejected j onError =>
    obtain ⟨hresolving, ht⟩ := Option.ite_none_right_eq_some.mp h
    obtain rfl := Option.some.inj ht
    exact onRejected_step hi hresolving onError
  | opened j socket =>
    obtain ⟨hlive, ht⟩ := Option.ite_none_right_eq_some.mp h
    obtain rfl := Option.some.inj ht
    have hopen := open_of_live (hi.sane j) hlive
    obtain ⟨hsingle, hcurrent, hpending, hsilent, hkept⟩ := hi.sane j
    exact modify_step hi (hi.opened_of_open hopen) ⟨hsingle, hcurrent, hpending, hsilent, hkept⟩
      rfl fun hclosed => ⟨hclosed, rfl, rfl, rfl⟩
  | message j socket parsed onMessage onError =>
    obtain ⟨hlive, ht⟩ := Option.ite_none_right_eq_some.mp h
    obtain rfl := Option.some.inj ht
    exact onmessage_step hi hlive parsed onMessage onError
  | error j socket onError =>
    obtain ⟨-, ht⟩ := Option.ite_none_right_eq_some.mp h
    obtain rfl := Option.some.inj ht
    obtain ⟨hinv, hfollows⟩ := call_step hi onError
    exact ⟨hinv, hfollows.keeps⟩
  | closed j socket =>
    obtain ⟨hmem, ht⟩ := Option.ite_none_right_eq_some.mp h
    obtain rfl := Option.some.inj ht
    have hlive : (s.stream j).closed = false → socket ∈ (s.stream j).live := by
      intro hopen
      rw [(hi.sane j).kept hopen, List.append_nil] at hmem
      exact hmem
    exact modify_step hi (hi.opened_of_socket hmem) ((hi.sane j).onclose hlive)
      (closed_onclose _ _) fun hclosed => stopped_onclose hclosed socket
  | timer j timer =>
    obtain ⟨harmed, ht⟩ := Option.ite_none_right_eq_some.mp h
    obtain rfl := Option.some.inj ht
    have hopen := open_of_armed (hi.sane j) harmed
    refine modify_step hi (hi.opened_of_open hopen) ((hi.sane j).fire harmed) (closed_fire _ _) ?_
    intro hclosed
    rw [hopen] at hclosed
    cases hclosed

/-- Until it is unsubscribed a stream has exactly one of a connect in progress, a live socket and
a pending timer. -/
def Reconnecting (s : StreamClient) : Prop :=
  ∀ i, (s.stream i).closed = false → (s.stream i).active = 1

/-- No constructor throws, and no `onError` for a rejected URL, unless the stream is ended. -/
def Unharmed (s : StreamClient) : StreamEvent → Prop
  | .urlResolved stream constructed => constructed = true ∨ (s.stream stream).closed = true
  | .urlRejected stream onError =>
    onError.throws = false ∨ (s.stream stream).closed = true ∨
      onError.commands.any (Command.stops stream) = true
  | _ => True

theorem closed_unsubscribe_stream (s : StreamClient) (i j : Nat) :
    ((s.unsubscribe j).stream i).closed = ((s.stream i).closed || j == i) := by
  have hstream : (s.unsubscribe j).stream i =
      if i = j then (s.stream j).unsubscribe else s.stream i := stream_modify s j i _
  rw [hstream]
  split_ifs with hsame
  · simp [closed_unsubscribe, hsame]
  · simp [Ne.symm hsame]

theorem closed_foldl_unsubscribe (l : List Nat) (s : StreamClient) (i : Nat) :
    ((l.foldl unsubscribe s).stream i).closed = ((s.stream i).closed || l.contains i) := by
  induction l generalizing s with
  | nil => simp
  | cons j l ih =>
    rw [List.foldl_cons, ih, closed_unsubscribe_stream, List.contains_cons, Bool.or_assoc]
    simp only [BEq.comm]

theorem closed_disconnect {s : StreamClient} (hi : Inv s) (i : Nat) :
    (s.disconnect.stream i).closed = true := by
  rw [disconnect, closed_foldl_unsubscribe]
  cases hclosed : (s.stream i).closed with
  | true => rfl
  | false =>
    have hlisted := (hi.listed i).mpr hclosed
    simpa using hlisted

theorem closed_runCommand {s : StreamClient} (hi : Inv s) {i : Nat} (hlt : i < s.opened)
    (command : Command) :
    ((s.runCommand command).stream i).closed = ((s.stream i).closed || command.stops i) := by
  cases command with
  | openStream backoffCapMs =>
    have hstream : (s.openStream backoffCapMs).stream i = s.stream i :=
      Function.update_of_ne (Nat.ne_of_lt hlt) ..
    rw [runCommand, hstream, Command.stops, Bool.or_false]
  | unsubscribe j => exact closed_unsubscribe_stream s i j
  | disconnect =>
    rw [Command.stops, Bool.or_true]
    exact closed_disconnect hi i

theorem closed_call {s : StreamClient} (hi : Inv s) {i : Nat} (hlt : i < s.opened)
    (callback : Callback) :
    ((s.call callback).stream i).closed =
      ((s.stream i).closed || callback.commands.any (Command.stops i)) := by
  rw [call]
  induction callback.commands generalizing s with
  | nil => simp
  | cons command commands ih =>
    obtain ⟨hinv, hfollows⟩ := runCommand_step hi command
    rw [List.foldl_cons, ih hinv (Nat.lt_of_lt_of_le hlt hfollows.opened),
      closed_runCommand hi hlt, List.any_cons, Bool.or_assoc]

theorem Reconnecting.follows {s t : StreamClient} (h : s.Reconnecting) (hf : Follows s t) :
    t.Reconnecting := by
  intro i hopen
  by_cases hlt : i < s.opened
  · obtain hsame | hstop := hf.streams i hlt
    · rw [hsame] at hopen ⊢
      exact h i hopen
    · rw [hstop.1] at hopen
      cases hopen
  · exact hf.started i (Nat.le_of_not_lt hlt) hopen

/-- Every open stream but one is known to be reconnecting. -/
theorem reconnecting_modify {s : StreamClient} {j : Nat}
    (h : ∀ i, i ≠ j → (s.stream i).closed = false → (s.stream i).active = 1)
    (f : Stream → Stream) : (s.modify j f).Reconnecting ↔
      ((f (s.stream j)).closed = false → (f (s.stream j)).active = 1) := by
  constructor
  · intro hall
    have hj := hall j
    rw [stream_modify, if_pos rfl] at hj
    exact hj
  · intro hj i
    rw [stream_modify]
    split_ifs with hsame
    · exact hj
    · exact h i hsame

theorem reconnecting_urlResolved {s : StreamClient} (hi : Inv s) (h : s.Reconnecting) {j : Nat}
    (hresolving : 0 < (s.stream j).resolving) (constructed : Bool) :
    (s.modify j fun t => t.resolved.construct constructed).Reconnecting ↔
      constructed = true ∨ (s.stream j).closed = true := by
  have hsame : (s.stream j).resolved.closed = (s.stream j).closed := rfl
  rw [reconnecting_modify (fun i _ => h i), closed_construct, hsame]
  cases hclosed : (s.stream j).closed with
  | true => simp
  | false =>
    have hzero := active_resolved_eq_zero (hi.sane j) hclosed hresolving
    rw [active_construct (hsame.trans hclosed), hzero]
    cases constructed <;> simp

theorem reconnecting_onRejected {s : StreamClient} (hi : Inv s) (h : s.Reconnecting) {j : Nat}
    (hresolving : 0 < (s.stream j).resolving) (onError : Callback) :
    (s.onRejected j onError).Reconnecting ↔ onError.throws = false ∨ (s.stream j).closed = true ∨
      onError.commands.any (Command.stops j) = true := by
  have hj : j < (s.modify j Stream.resolved).opened := hi.opened_of_resolving hresolving
  have hresolved : Inv (s.modify j Stream.resolved) := hi.modify hj (hi.sane j).resolved rfl
  have hfollows := (call_step hresolved onError).2
  have hclosed := closed_call hresolved hj onError
  have hzero := active_of_call hi hresolving onError
  rw [onRejected]
  generalize (s.modify j Stream.resolved).call onError = t at hfollows hclosed hzero ⊢
  have hothers : ∀ i, i ≠ j → (t.stream i).closed = false → (t.stream i).active = 1 := by
    intro i hne hopen
    by_cases hlt : i < s.opened
    · obtain hsame | hstop := hfollows.streams i hlt
      · rw [stream_modify, if_neg hne] at hsame
        rw [hsame] at hopen ⊢
        exact h i hopen
      · rw [hstop.1] at hopen
        cases hopen
    · exact hfollows.started i (Nat.le_of_not_lt hlt) hopen
  have hended : (t.stream j).closed = true ↔ (s.stream j).closed = true ∨
      onError.commands.any (Command.stops j) = true := by
    rw [hclosed, stream_modify, if_pos rfl, Bool.or_eq_true]
    rfl
  cases hthrows : onError.throws with
  | false =>
    refine iff_of_true ?_ (.inl rfl)
    simp only [Bool.false_eq_true, if_false]
    rw [reconnecting_modify hothers, closed_scheduleReconnect]
    intro hopen
    rw [active_scheduleReconnect hopen, hzero hopen]
  | true =>
    simp only [if_true, Bool.true_eq_false, false_or]
    rw [← hended]
    constructor
    · intro hall
      by_contra hopen
      have hone := hall j (by simpa using hopen)
      rw [hzero (by simpa using hopen)] at hone
      cases hone
    · intro hend i hopen
      by_cases hsame : i = j
      · rw [hsame, hend] at hopen
        cases hopen
      · exact hothers i hsame hopen

/-- A step leaves a stream dead exactly when a constructor, or `onError` for a rejected URL, throws
while the stream is subscribed. -/
theorem reconnecting_step {s t : StreamClient} {e : StreamEvent} (h : s.step e = some t)
    (hi : Inv s) (hr : s.Reconnecting) : t.Reconnecting ↔ s.Unharmed e := by
  cases e with
  | command command =>
    obtain rfl : s.runCommand command = t := Option.some.inj h
    exact iff_of_true (hr.follows (runCommand_step hi command).2) trivial
  | urlResolved j constructed =>
    obtain ⟨hresolving, ht⟩ := Option.ite_none_right_eq_some.mp h
    obtain rfl := Option.some.inj ht
    exact reconnecting_urlResolved hi hr hresolving constructed
  | urlRejected j onError =>
    obtain ⟨hresolving, ht⟩ := Option.ite_none_right_eq_some.mp h
    obtain rfl := Option.some.inj ht
    exact reconnecting_onRejected hi hr hresolving onError
  | opened j socket =>
    obtain ⟨hlive, ht⟩ := Option.ite_none_right_eq_some.mp h
    obtain rfl := Option.some.inj ht
    refine iff_of_true ?_ trivial
    exact (reconnecting_modify (fun i _ => hr i) Stream.onopen).mpr (hr j)
  | message j socket parsed onMessage onError =>
    obtain ⟨hlive, ht⟩ := Option.ite_none_right_eq_some.mp h
    obtain rfl := Option.some.inj ht
    refine iff_of_true ?_ trivial
    have hopen := open_of_live (hi.sane j) hlive
    obtain ⟨hsingle, hcurrent, hpending, hsilent, hkept⟩ := hi.sane j
    have hdeliver : Inv (s.modify j Stream.deliver) :=
      hi.modify (hi.opened_of_open hopen) ⟨hsingle, hcurrent, hpending, hsilent, hkept⟩ rfl
    have hrd : (s.modify j Stream.deliver).Reconnecting :=
      (reconnecting_modify (fun i _ => hr i) Stream.deliver).mpr (hr j)
    obtain ⟨hinv, hfollows⟩ := call_step hdeliver onMessage
    rw [onmessage]
    split_ifs
    · exact (hrd.follows hfollows).follows (call_step hinv onError).2
    · exact hrd.follows hfollows
    · exact hr.follows (call_step hi onError).2
  | error j socket onError =>
    obtain ⟨-, ht⟩ := Option.ite_none_right_eq_some.mp h
    obtain rfl := Option.some.inj ht
    exact iff_of_true (hr.follows (call_step hi onError).2) trivial
  | closed j socket =>
    obtain ⟨hmem, ht⟩ := Option.ite_none_right_eq_some.mp h
    obtain rfl := Option.some.inj ht
    refine iff_of_true ?_ trivial
    rw [reconnecting_modify (fun i _ => hr i), closed_onclose]
    intro hopen
    rw [(hi.sane j).kept hopen, List.append_nil] at hmem
    exact active_onclose (hi.sane j) hopen hmem
  | timer j timer =>
    obtain ⟨harmed, ht⟩ := Option.ite_none_right_eq_some.mp h
    obtain rfl := Option.some.inj ht
    refine iff_of_true ?_ trivial
    rw [reconnecting_modify (fun i _ => hr i)]
    intro _
    exact active_fire (hi.sane j) harmed

theorem inv_run {s t : StreamClient} {events : List StreamEvent} (hi : Inv s)
    (h : run step s events = some t) : Inv t ∧ Keeps s t :=
  run_invariant (fun u => Inv u ∧ Keeps s u)
    (fun _ _ _ hstep hu =>
      ⟨(step_keeps hu.1 hstep).1, hu.2.trans (step_keeps hu.1 hstep).2⟩) h ⟨hi, Keeps.refl s⟩

/-- Over every run a stream has at most one thing outstanding until it is unsubscribed, which is
what `activeStreams` lists, and nothing happens on it afterwards. It keeps reconnecting throughout
exactly when no constructor, and no `onError` for a rejected URL, throws while it is subscribed. -/
theorem openStream_reconnects (events : List StreamEvent) (s : StreamClient)
    (h : run step init events = some s) :
    (everyState step Reconnecting init events ↔ everyStep step Unharmed init events) ∧
    (∀ i, (s.stream i).closed = false → (s.stream i).active ≤ 1) ∧
    (∀ i, i ∈ s.activeStreams ↔ i < s.opened ∧ (s.stream i).closed = false) ∧
    (∀ i, ((s.unsubscribe i).stream i).closed = true ∧ (s.disconnect.stream i).closed = true) ∧
    (∀ i, i < s.opened → (s.stream i).closed = true →
      ∀ later s', run step s later = some s' →
        (s'.stream i).live = [] ∧ Stopped (s.stream i) (s'.stream i)) := by
  have hi : Inv s := (inv_run inv_init h).1
  refine ⟨?_, fun i => (hi.sane i).single, ?_, ?_, ?_⟩
  · refine everyState_iff_everyStep Inv (fun u e v hstep hu _ _ => (step_keeps hu hstep).1)
      (fun u e v hstep hu hr => reconnecting_step hstep hu hr) h inv_init ?_
    intro i hopen
    cases hopen
  · intro i
    rw [hi.listed i]
    constructor
    · intro hopen
      exact ⟨hi.opened_of_open hopen, hopen⟩
    · intro hboth
      exact hboth.2
  · intro i
    refine ⟨?_, closed_disconnect hi i⟩
    rw [closed_unsubscribe_stream]
    simp
  · intro i hlt hclosed later s' hlater
    obtain ⟨hinv', hkeeps⟩ := inv_run hi hlater
    have hstop := hkeeps.stopped i hlt hclosed
    exact ⟨((hinv'.sane i).silent hstop.1).1, hstop⟩

/-- A stream that connects, gets a message, loses its socket and connects again. -/
def reconnectRun : List StreamEvent :=
  [.command (.openStream 30000), .urlResolved 0 true, .opened 0 0,
    .message 0 0 true ⟨[], false⟩ ⟨[], false⟩, .closed 0 0, .timer 0 0, .urlResolved 0 true]

theorem openStream_reconnects_reconnectRun :
    ∃ s, run step init reconnectRun = some s ∧ (s.stream 0).sockets = 2 ∧
      (s.stream 0).active ≤ 1 ∧ everyState step Reconnecting init reconnectRun := by
  have hrun : ∃ s, run step init reconnectRun = some s ∧ (s.stream 0).sockets = 2 ∧
      (s.stream 0).closed = false := ⟨_, rfl, rfl, rfl⟩
  obtain ⟨s, hs, hsockets, hopen⟩ := hrun
  have hall := openStream_reconnects reconnectRun s hs
  refine ⟨s, hs, hsockets, hall.2.1 0 hopen, hall.1.mpr ?_⟩
  simp [everyStep, reconnectRun, Unharmed]

/-- The gateway's URL is rejected by the constructor, or `onError` throws for a rejected URL: the
stream is subscribed and has nothing outstanding. -/
theorem openStream_dies :
    (∃ s, run step init [.command (.openStream 30000), .urlResolved 0 false] = some s ∧
      0 ∈ s.activeStreams ∧ (s.stream 0).active = 0 ∧ ¬ s.Reconnecting) ∧
    (∃ s, run step init [.command (.openStream 30000), .urlRejected 0 ⟨[], true⟩] = some s ∧
      0 ∈ s.activeStreams ∧ (s.stream 0).active = 0 ∧ ¬ s.Reconnecting) := by
  refine ⟨⟨_, rfl, List.mem_singleton_self 0, rfl, ?_⟩, ⟨_, rfl, List.mem_singleton_self 0, rfl, ?_⟩⟩
  · intro hall
    exact absurd (hall 0 rfl) (by decide)
  · intro hall
    exact absurd (hall 0 rfl) (by decide)

end StreamClient

end TradingSdk.Client
