import TradingSdk.Core.Crypto
import TradingSdk.Json.Value
import TradingSdk.Transition.Run

namespace TradingSdk.Client

open Json Serde Transition

/-- The events of one account, by their ids. -/
structure EventLog where
  ids : List Nat
  increasing : ids.Pairwise (· < ·)
  bounded : ∀ id ∈ ids, 1 ≤ id ∧ id < 2^63

/-- What the gateway sends on a connection. It reads the number out of the text of the URL. -/
def EventLog.replay (log : EventLog) (afterId : Option Number) : List Nat :=
  log.ids.filter fun (id : Nat) => afterId.all fun after => decide (after.toInt < (id : Int))

/-- The number in the `event_id` of a frame. -/
def eventId (id : Nat) : Number := .ofInt id

/-- A request for a connection: its `after_id`, the message that is signed for it, and the last
event received by then. -/
structure Request where
  afterId : Option Number
  message : Option Bytes
  last : Option Nat

/-- The request asks, and is signed, for what follows the last event. -/
def Request.Resumes (ownerHex : String) (r : Request) : Prop :=
  r.afterId = r.last.map eventId ∧
    ∀ message, r.message = some message → ∃ chainId timestampMs,
      message = accountWsAuthMessage chainId ownerHex (r.last.getD 0 : Nat) timestampMs

/-- The consumer got the id of every event that arrived, these are the first ones of the log
without a gap or a repetition, and every connection asked for the rest. -/
structure Recovers {α : Type} (log : EventLog) (ownerHex : String) (value : Nat → α)
    (received : List Nat) (delivered : List α) (requests : List Request) : Prop where
  delivered : delivered = received.map value
  gapFree : received <+: log.ids
  increasing : received.Pairwise (· < ·)
  resumed : ∀ r ∈ requests, r.Resumes ownerHex

/-- `openStream` has one of a connect in progress, which awaits its URL, a socket and a timer. A
socket has the frames left that the gateway sends on it. -/
inductive Connection where
  | reconnecting
  | signing (afterId : Option Number)
  | connected (frames : List Nat)

/-- The cursor of `subscribeAccountEvents` and its connection, the ids that arrived as the gateway
sent them, the ids that `onEvent` got, and the requests so far. -/
structure AccountEvents where
  afterId : Int
  connection : Connection
  received : List Nat
  delivered : List Double
  requests : List Request

/-- A URL resolves with the chain id and the time of its signature where a key is loaded. -/
inductive AccountEventsEvent where
  | connect
  | urlRejected
  | urlResolved (signer : Option (FixedBytes 32 × Int))
  | message
  | closed

/-- `BigInt` of a number throws on a fraction and on an infinity. -/
def bigInt : Double → Option Int
  | .finite q => if q.den = 1 then some q.num else none
  | .infinite _ => none

namespace AccountEvents

def init : AccountEvents := ⟨0, .reconnecting, [], [], []⟩

/-- The callback of a frame with a numeric `event_id`. -/
def onmessage (s : AccountEvents) (id : Double) : AccountEvents :=
  match bigInt id with
  | none => s
  | some big =>
    { s with
      afterId := if big > s.afterId then big else s.afterId
      delivered := s.delivered ++ [id] }

/-- The part of `buildUrl` before its await. -/
def params (s : AccountEvents) : Option Number :=
  if s.afterId > 0 then some (.ofInt s.afterId) else none

/-- The part of `buildUrl` after its await. -/
def signedMessage (s : AccountEvents) (ownerHex : String)
    (signer : Option (FixedBytes 32 × Int)) : Option Bytes :=
  signer.map fun (chainId, timestampMs) =>
    accountWsAuthMessage chainId ownerHex s.afterId timestampMs

def step (log : EventLog) (ownerHex : String) (s : AccountEvents) :
    AccountEventsEvent → Option AccountEvents
  | .connect =>
    match s.connection with
    | .reconnecting => some { s with connection := .signing s.params }
    | _ => none
  | .urlRejected =>
    match s.connection with
    | .signing _ => some { s with connection := .reconnecting }
    | _ => none
  | .urlResolved signer =>
    match s.connection with
    | .signing afterId => some { s with
        connection := .connected (log.replay afterId)
        requests := s.requests ++
          [⟨afterId, s.signedMessage ownerHex signer, s.received.getLast?⟩] }
    | _ => none
  | .message =>
    match s.connection with
    | .connected (id :: frames) => some { s.onmessage (eventId id).toDouble with
        connection := .connected frames
        received := s.received ++ [id] }
    | _ => none
  | .closed =>
    match s.connection with
    | .connected _ => some { s with connection := .reconnecting }
    | _ => none

/-- An id that is a double is read as it is. -/
def exact (id : Nat) : Double := .finite id

/-- The frame that arrives has an id that is a double. -/
def Representable (s : AccountEvents) : AccountEventsEvent → Prop
  | .message =>
    match s.connection with
    | .connected (id :: _) => (eventId id).toDouble = exact id
    | _ => True
  | _ => True

end AccountEvents

/-- Where the generator of `AccountEventStream` is: before a connect, in the loop over the frames of
a connection, or at its end. -/
inductive EventLoop where
  | reconnecting
  | connected (frames : List Nat)
  | returned

structure AccountEventStream where
  lastEventId : Option Int
  closed : Bool
  attempt : Nat
  loop : EventLoop
  received : List Nat
  delivered : List Int
  requests : List Request

inductive AccountEventStreamEvent where
  | connect (accepted : Bool)
  | message
  | finished
  | failed
  | close

namespace AccountEventStream

def init : AccountEventStream := ⟨none, false, 0, .reconnecting, [], [], []⟩

/-- The handler of an exception inside the loop. -/
def fail (s : AccountEventStream) (maxAttempts : Option Nat) : AccountEventStream :=
  if s.closed then { s with loop := .returned }
  else if maxAttempts.any (· < s.attempt + 1) then
    { s with attempt := s.attempt + 1, loop := .returned }
  else { s with attempt := s.attempt + 1, loop := .reconnecting }

/-- A request that is refused raises, and one that is accepted resets the attempts. -/
def connect (s : AccountEventStream) (log : EventLog) (maxAttempts : Option Nat)
    (accepted : Bool) : AccountEventStream :=
  let afterId := s.lastEventId.map Number.ofInt
  let t : AccountEventStream := { s with
    requests := s.requests ++ [⟨afterId, none, s.received.getLast?⟩] }
  if accepted then { t with attempt := 0, loop := .connected (log.replay afterId) }
  else t.fail maxAttempts

/-- A frame with an `event_id`. -/
def onFrame (s : AccountEventStream) (id : Int) : AccountEventStream :=
  { s with
    lastEventId := some (max (s.lastEventId.getD 0) id)
    delivered := s.delivered ++ [id] }

def step (log : EventLog) (maxAttempts : Option Nat) (s : AccountEventStream) :
    AccountEventStreamEvent → Option AccountEventStream
  | .connect accepted =>
    match s.loop with
    | .reconnecting =>
      if s.closed then some { s with loop := .returned }
      else some (s.connect log maxAttempts accepted)
    | _ => none
  | .message =>
    match s.loop with
    | .connected (id :: frames) =>
      if s.closed then some { s with loop := .returned }
      else some { s.onFrame (eventId id).toInt with
        loop := .connected frames
        received := s.received ++ [id] }
    | _ => none
  | .finished =>
    match s.loop with
    | .connected _ => some { s with loop := .reconnecting }
    | _ => none
  | .failed =>
    match s.loop with
    | .connected _ => some (s.fail maxAttempts)
    | _ => none
  | .close => some { s with closed := true }

end AccountEventStream

namespace EventLog

variable {log : EventLog}

/-- What the gateway sends after the last event received is what is left of the log. -/
theorem append_replay {received : List Nat} (h : received <+: log.ids) :
    received ++ log.replay (received.getLast?.map eventId) = log.ids := by
  obtain ⟨rest, hrest⟩ := h
  have hsorted := log.increasing
  rw [← hrest] at hsorted
  have hreplay : log.replay (received.getLast?.map eventId) = rest := by
    rw [replay, ← hrest, List.filter_append]
    obtain rfl | ⟨front, last, rfl⟩ := List.eq_nil_or_concat' received
    · simp
    · have hmem : last ∈ front ++ [last] := by simp
      have hbefore :
          (front ++ [last]).filter (fun id : Nat => decide ((last : Int) < (id : Int))) = [] := by
        rw [List.filter_eq_nil_iff]
        intro id hid
        rw [List.mem_append, List.mem_singleton] at hid
        obtain hid | rfl := hid
        · have hlt : id < last := by
            have hfront := (List.pairwise_append.mp hsorted).1
            exact (List.pairwise_append.mp hfront).2.2 id hid last (List.mem_singleton_self _)
          simp only [decide_eq_true_eq]
          omega
        · simp
      have hafter :
          rest.filter (fun id : Nat => decide ((last : Int) < (id : Int))) = rest := by
        rw [List.filter_eq_self]
        intro id hid
        have hlt := (List.pairwise_append.mp hsorted).2.2 last hmem id hid
        simp only [decide_eq_true_eq]
        omega
      simp only [List.getLast?_append, List.getLast?_singleton, Option.some_or, Option.map_some,
        Option.all_some, eventId, Number.toInt_ofInt]
      rw [hbefore, hafter, List.nil_append]
  rw [hreplay, hrest]

/-- The frame that arrives next extends what was received by the next event. -/
theorem prefix_of_append {received frames : List Nat} {id : Nat}
    (h : received ++ id :: frames = log.ids) : received ++ [id] <+: log.ids :=
  ⟨frames, by rw [List.append_assoc]; exact h⟩

theorem increasing_of_prefix {received : List Nat} (h : received <+: log.ids) :
    received.Pairwise (· < ·) :=
  log.increasing.sublist h.sublist

theorem last_lt {received frames : List Nat} {id : Nat}
    (h : received ++ id :: frames = log.ids) : received.getLast?.getD 0 < id := by
  have hsorted := log.increasing
  have hbounded := log.bounded
  rw [← h] at hsorted hbounded
  cases hlast : received.getLast? with
  | none => exact (hbounded id (by simp)).1
  | some last =>
    have hmem : last ∈ received := List.mem_of_getLast? hlast
    exact (List.pairwise_append.mp hsorted).2.2 last hmem id (List.mem_cons_self ..)

theorem pos_of_prefix {received : List Nat} (h : received <+: log.ids) {last : Nat}
    (hlast : received.getLast? = some last) : 0 < last :=
  (log.bounded last (h.subset (List.mem_of_getLast? hlast))).1

theorem getLast?_append_singleton (received : List Nat) (id : Nat) :
    (received ++ [id]).getLast? = some id := by
  simp

end EventLog

theorem Recovers.request {α : Type} {log : EventLog} {ownerHex : String} {value : Nat → α}
    {received : List Nat} {delivered : List α} {requests : List Request}
    (h : Recovers log ownerHex value received delivered requests) {r : Request}
    (hr : r.Resumes ownerHex) :
    Recovers log ownerHex value received delivered (requests ++ [r]) := by
  refine ⟨h.delivered, h.gapFree, h.increasing, fun r' hr' => ?_⟩
  rw [List.mem_append, List.mem_singleton] at hr'
  obtain hr' | rfl := hr'
  · exact h.resumed r' hr'
  · exact hr

/-- A frame that is next in the log and is delivered as it is. -/
theorem Recovers.receive {α : Type} {log : EventLog} {ownerHex : String} {value : Nat → α}
    {received frames : List Nat} {delivered : List α} {requests : List Request} {id : Nat}
    (h : Recovers log ownerHex value received delivered requests)
    (hnext : received ++ id :: frames = log.ids) :
    Recovers log ownerHex value (received ++ [id]) (delivered ++ [value id]) requests := by
  have hgap := EventLog.prefix_of_append hnext
  refine ⟨?_, hgap, EventLog.increasing_of_prefix hgap, h.resumed⟩
  rw [h.delivered, List.map_append, List.map_singleton]

namespace AccountEvents

variable {log : EventLog} {ownerHex : String}

def RecoversAt (log : EventLog) (ownerHex : String) (s : AccountEvents) : Prop :=
  Recovers log ownerHex exact s.received s.delivered s.requests

/-- The cursor is the last event, and a socket brings what follows it. -/
structure Cursor (log : EventLog) (s : AccountEvents) : Prop where
  afterId : s.afterId = (s.received.getLast?.getD 0 : Nat)
  signing : ∀ afterId, s.connection = .signing afterId → afterId = s.received.getLast?.map eventId
  connected : ∀ frames, s.connection = .connected frames → s.received ++ frames = log.ids

theorem bigInt_exact (id : Nat) : bigInt (exact id) = some (id : Int) := by
  simp [bigInt, exact]

theorem onmessage_exact (s : AccountEvents) (id : Nat) (hlast : s.afterId < id) :
    s.onmessage (exact id) =
      { s with afterId := id, delivered := s.delivered ++ [exact id] } := by
  simp only [onmessage, bigInt_exact]
  rw [if_pos hlast]

theorem onmessage_delivered (s : AccountEvents) (id : Double) :
    (s.onmessage id).delivered = s.delivered ∨
      (s.onmessage id).delivered = s.delivered ++ [id] := by
  rw [onmessage]
  split
  · exact .inl rfl
  · exact .inr rfl

theorem params_eq {s : AccountEvents} (hc : Cursor log s) (h : s.received <+: log.ids) :
    s.params = s.received.getLast?.map eventId := by
  rw [params, hc.afterId]
  cases hlast : s.received.getLast? with
  | none => rfl
  | some last =>
    have hpos := EventLog.pos_of_prefix h hlast
    have hcast : ((some last).getD 0 : Nat) = last := rfl
    rw [hcast, if_pos (by exact_mod_cast hpos)]
    rfl

theorem resumes_signed {s : AccountEvents} (hc : Cursor log s) (ownerHex : String)
    (signer : Option (FixedBytes 32 × Int)) :
    Request.Resumes ownerHex ⟨s.received.getLast?.map eventId, s.signedMessage ownerHex signer,
      s.received.getLast?⟩ := by
  refine ⟨rfl, fun message hmessage => ?_⟩
  obtain ⟨⟨chainId, timestampMs⟩, -, rfl⟩ := Option.map_eq_some_iff.mp hmessage
  refine ⟨chainId, timestampMs, ?_⟩
  rw [hc.afterId]

/-- A frame is delivered as it was sent exactly when its id is a double. -/
theorem recovers_message {s : AccountEvents} {id : Nat} {frames : List Nat} (hc : Cursor log s)
    (hr : RecoversAt log ownerHex s) (hconnected : s.connection = .connected (id :: frames)) :
    RecoversAt log ownerHex { s.onmessage (eventId id).toDouble with
        connection := .connected frames
        received := s.received ++ [id] } ↔ (eventId id).toDouble = exact id := by
  have hnext := hc.connected _ hconnected
  constructor
  · intro ht
    have hmap := ht.delivered
    have hlength := congrArg List.length hmap
    have hsame := hr.delivered
    obtain hskip | hpush := onmessage_delivered s (eventId id).toDouble
    · simp only [hskip, hsame, List.length_map, List.length_append, List.length_singleton]
        at hlength
      omega
    · simp only [hpush, hsame, List.map_append, List.map_singleton] at hmap
      exact List.singleton_inj.mp (List.append_cancel_left hmap)
  · intro hexact
    have hlast : s.afterId < id := by
      rw [hc.afterId]
      exact_mod_cast EventLog.last_lt hnext
    rw [hexact, onmessage_exact s id hlast]
    exact hr.receive hnext

/-- Everything that a step can do. -/
inductive Steps (log : EventLog) (ownerHex : String) (s : AccountEvents) :
    AccountEventsEvent → AccountEvents → Prop
  | connect : s.connection = .reconnecting →
      Steps log ownerHex s .connect { s with connection := .signing s.params }
  | urlRejected : Steps log ownerHex s .urlRejected { s with connection := .reconnecting }
  | urlResolved (signer : Option (FixedBytes 32 × Int)) (afterId : Option Number) :
      s.connection = .signing afterId → Steps log ownerHex s (.urlResolved signer) { s with
        connection := .connected (log.replay afterId)
        requests := s.requests ++ [⟨afterId, s.signedMessage ownerHex signer, s.received.getLast?⟩] }
  | message (id : Nat) (frames : List Nat) : s.connection = .connected (id :: frames) →
      Steps log ownerHex s .message { s.onmessage (eventId id).toDouble with
        connection := .connected frames
        received := s.received ++ [id] }
  | closed : Steps log ownerHex s .closed { s with connection := .reconnecting }

theorem steps_of_step {s t : AccountEvents} {e : AccountEventsEvent}
    (h : step log ownerHex s e = some t) : Steps log ownerHex s e t := by
  cases e with
  | connect =>
    rw [step] at h
    split at h
    · next hconnection => exact Option.some.inj h ▸ .connect hconnection
    · cases h
  | urlRejected =>
    rw [step] at h
    split at h
    · exact Option.some.inj h ▸ .urlRejected
    · cases h
  | urlResolved signer =>
    rw [step] at h
    split at h
    · next afterId hsigning => exact Option.some.inj h ▸ .urlResolved signer afterId hsigning
    · cases h
  | message =>
    rw [step] at h
    split at h
    · next id frames hconnected => exact Option.some.inj h ▸ .message id frames hconnected
    · cases h
  | closed =>
    rw [step] at h
    split at h
    · exact Option.some.inj h ▸ .closed
    · cases h

/-- A step that leaves the cursor where it is, with what it puts in place of the connection. -/
theorem Cursor.reconnect {s : AccountEvents} (hc : Cursor log s) {connection : Connection}
    (hsigning : ∀ afterId, connection = .signing afterId →
      afterId = s.received.getLast?.map eventId)
    (hconnected : ∀ frames, connection = .connected frames → s.received ++ frames = log.ids)
    (requests : List Request) :
    Cursor log { s with connection := connection, requests := requests } :=
  ⟨hc.afterId, hsigning, hconnected⟩

theorem Cursor.receive {s : AccountEvents} {id : Nat} {frames : List Nat} (hc : Cursor log s)
    (hconnected : s.connection = .connected (id :: frames))
    (hexact : (eventId id).toDouble = exact id) :
    Cursor log { s.onmessage (eventId id).toDouble with
      connection := .connected frames
      received := s.received ++ [id] } := by
  have hnext := hc.connected _ hconnected
  have hlast : s.afterId < id := by
    rw [hc.afterId]
    exact_mod_cast EventLog.last_lt hnext
  rw [hexact, onmessage_exact s id hlast]
  refine ⟨?_, fun afterId hsigning => ?_, fun frames' hconnected' => ?_⟩
  · rw [EventLog.getLast?_append_singleton]
    rfl
  · cases hsigning
  · obtain rfl := Connection.connected.inj hconnected'
    rw [List.append_assoc]
    exact hnext

theorem cursor_step {s t : AccountEvents} {e : AccountEventsEvent}
    (h : step log ownerHex s e = some t) (hc : Cursor log s) (hr : RecoversAt log ownerHex s)
    (ht : RecoversAt log ownerHex t) : Cursor log t := by
  cases steps_of_step h with
  | connect =>
    refine hc.reconnect (fun afterId hsigning => ?_) (fun frames h => by cases h) s.requests
    obtain rfl := Connection.signing.inj hsigning
    exact params_eq hc hr.gapFree
  | urlRejected =>
    exact hc.reconnect (fun _ h => by cases h) (fun _ h => by cases h) s.requests
  | urlResolved signer afterId hsigning =>
    refine hc.reconnect (fun _ h => by cases h) (fun frames hconnected => ?_) _
    obtain rfl := Connection.connected.inj hconnected
    rw [hc.signing afterId hsigning]
    exact EventLog.append_replay hr.gapFree
  | message id frames hconnected =>
    exact hc.receive hconnected ((recovers_message hc hr hconnected).mp ht)
  | closed =>
    exact hc.reconnect (fun _ h => by cases h) (fun _ h => by cases h) s.requests

theorem recovers_step {s t : AccountEvents} {e : AccountEventsEvent}
    (h : step log ownerHex s e = some t) (hc : Cursor log s) (hr : RecoversAt log ownerHex s) :
    RecoversAt log ownerHex t ↔ s.Representable e := by
  cases steps_of_step h with
  | connect => exact iff_of_true hr trivial
  | urlRejected => exact iff_of_true hr trivial
  | urlResolved signer afterId hsigning =>
    refine iff_of_true (Recovers.request hr ?_) trivial
    rw [hc.signing afterId hsigning]
    exact resumes_signed hc ownerHex signer
  | message id frames hconnected =>
    rw [recovers_message hc hr hconnected, Representable, hconnected]
  | closed => exact iff_of_true hr trivial

theorem cursor_init : Cursor log init := by
  refine ⟨rfl, ?_, ?_⟩
  · intro afterId h
    cases h
  · intro frames h
    cases h

theorem recovers_init : RecoversAt log ownerHex init := by
  refine ⟨rfl, List.nil_prefix, List.Pairwise.nil, ?_⟩
  intro r hr
  cases hr

end AccountEvents

namespace AccountEventStream

variable {log : EventLog} {ownerHex : String}

def value (id : Nat) : Int := id

structure Sound (log : EventLog) (ownerHex : String) (s : AccountEventStream) : Prop where
  recovers : Recovers log ownerHex value s.received s.delivered s.requests
  lastEventId : s.lastEventId = s.received.getLast?.map value
  connected : ∀ frames, s.loop = .connected frames → s.received ++ frames = log.ids

theorem sound_init : Sound log ownerHex init := by
  refine ⟨⟨rfl, List.nil_prefix, List.Pairwise.nil, ?_⟩, rfl, ?_⟩
  · intro r hr
    cases hr
  · intro frames h
    cases h

/-- A stream that leaves the loop over its frames keeps the rest. -/
theorem Sound.leave {s t : AccountEventStream} (hs : Sound log ownerHex s)
    (hreceived : t.received = s.received) (hdelivered : t.delivered = s.delivered)
    (hrequests : t.requests = s.requests) (hlast : t.lastEventId = s.lastEventId)
    (hloop : ∀ frames, t.loop = .connected frames → s.loop = .connected frames) :
    Sound log ownerHex t := by
  refine ⟨?_, ?_, fun frames hframes => ?_⟩
  · rw [hreceived, hdelivered, hrequests]
    exact hs.recovers
  · rw [hlast, hreceived]
    exact hs.lastEventId
  · rw [hreceived]
    exact hs.connected frames (hloop frames hframes)

theorem Sound.fail {s : AccountEventStream} (hs : Sound log ownerHex s)
    (maxAttempts : Option Nat) : Sound log ownerHex (s.fail maxAttempts) := by
  rw [AccountEventStream.fail]
  split_ifs
  · exact hs.leave rfl rfl rfl rfl fun frames h => by cases h
  · exact hs.leave rfl rfl rfl rfl fun frames h => by cases h
  · exact hs.leave rfl rfl rfl rfl fun frames h => by cases h

theorem Sound.connect {s : AccountEventStream} (hs : Sound log ownerHex s)
    (maxAttempts : Option Nat) (accepted : Bool) :
    Sound log ownerHex (s.connect log maxAttempts accepted) := by
  have hafter : s.lastEventId.map Number.ofInt = s.received.getLast?.map eventId := by
    rw [hs.lastEventId, Option.map_map]
    rfl
  have hrequest : Request.Resumes ownerHex
      ⟨s.lastEventId.map Number.ofInt, none, s.received.getLast?⟩ := by
    refine ⟨hafter, fun message hmessage => ?_⟩
    cases hmessage
  have hrecovers := hs.recovers.request hrequest
  rw [AccountEventStream.connect]
  split_ifs
  · refine ⟨hrecovers, hs.lastEventId, fun frames hframes => ?_⟩
    obtain rfl := EventLoop.connected.inj hframes
    rw [hafter]
    exact EventLog.append_replay hs.recovers.gapFree
  · have hrequested : Sound log ownerHex { s with
        requests := s.requests ++
          [⟨s.lastEventId.map Number.ofInt, none, s.received.getLast?⟩] } :=
      ⟨hrecovers, hs.lastEventId, hs.connected⟩
    exact hrequested.fail maxAttempts

theorem Sound.receive {s : AccountEventStream} (hs : Sound log ownerHex s) {id : Nat}
    {frames : List Nat} (hloop : s.loop = .connected (id :: frames)) :
    Sound log ownerHex { s.onFrame (eventId id).toInt with
      loop := .connected frames
      received := s.received ++ [id] } := by
  have hnext := hs.connected _ hloop
  have hlast := EventLog.last_lt hnext
  have hvalue : (eventId id).toInt = value id := Number.toInt_ofInt _
  have hmax : max (s.lastEventId.getD 0) (value id) = value id := by
    rw [hs.lastEventId]
    apply max_eq_right
    cases hgetLast : s.received.getLast? with
    | none => exact Int.natCast_nonneg id
    | some last =>
      rw [hgetLast] at hlast
      exact Int.ofNat_le.mpr hlast.le
  rw [hvalue, onFrame, hmax]
  refine ⟨hs.recovers.receive hnext, ?_, fun frames' hframes => ?_⟩
  · rw [EventLog.getLast?_append_singleton]
    rfl
  · obtain rfl := EventLoop.connected.inj hframes
    rw [List.append_assoc]
    exact hnext

theorem sound_step {maxAttempts : Option Nat} {s t : AccountEventStream}
    {e : AccountEventStreamEvent} (h : step log maxAttempts s e = some t)
    (hs : Sound log ownerHex s) : Sound log ownerHex t := by
  cases e with
  | connect accepted =>
    simp only [step] at h
    split at h
    · split_ifs at h
      · obtain rfl := Option.some.inj h
        exact hs.leave rfl rfl rfl rfl fun frames hframes => by cases hframes
      · obtain rfl := Option.some.inj h
        exact hs.connect maxAttempts accepted
    · cases h
  | message =>
    simp only [step] at h
    split at h
    · next id frames hloop =>
      split_ifs at h
      · obtain rfl := Option.some.inj h
        exact hs.leave rfl rfl rfl rfl fun frames hframes => by cases hframes
      · obtain rfl := Option.some.inj h
        exact hs.receive hloop
    · cases h
  | finished =>
    simp only [step] at h
    split at h
    · obtain rfl := Option.some.inj h
      exact hs.leave rfl rfl rfl rfl fun frames hframes => by cases hframes
    · cases h
  | failed =>
    simp only [step] at h
    split at h
    · obtain rfl := Option.some.inj h
      exact hs.fail maxAttempts
    · cases h
  | close =>
    obtain rfl := Option.some.inj h
    exact hs.leave rfl rfl rfl rfl fun frames hframes => hframes

end AccountEventStream

/-- The Python stream recovers every gap on every run. The TypeScript stream does so throughout a
run exactly when each id that arrives is a double, as every id below 2^53 is. -/
theorem accountEvents_recover (log : EventLog) (ownerHex : String) :
    (∀ events s, run (AccountEvents.step log ownerHex) .init events = some s →
      (everyState (AccountEvents.step log ownerHex) (AccountEvents.RecoversAt log ownerHex)
          .init events ↔
        everyStep (AccountEvents.step log ownerHex) AccountEvents.Representable .init events)) ∧
    ∀ maxAttempts events s, run (AccountEventStream.step log maxAttempts) .init events = some s →
      Recovers log ownerHex AccountEventStream.value s.received s.delivered s.requests := by
  constructor
  · intro events s h
    exact everyState_iff_everyStep (AccountEvents.Cursor log)
      (fun _ _ _ hstep hc hr ht => AccountEvents.cursor_step hstep hc hr ht)
      (fun _ _ _ hstep hc hr => AccountEvents.recovers_step hstep hc hr) h
      AccountEvents.cursor_init AccountEvents.recovers_init
  · intro maxAttempts events s h
    have hsound : AccountEventStream.Sound log ownerHex s :=
      run_invariant (AccountEventStream.Sound log ownerHex)
        (fun _ _ _ hstep hs => AccountEventStream.sound_step hstep hs) h
        AccountEventStream.sound_init
    exact hsound.recovers

def smallLog : EventLog where
  ids := [1, 5]
  increasing := by decide
  bounded := by decide

theorem representable_of_lt {id : Nat} (h : id < 2^53) :
    (eventId id).toDouble = AccountEvents.exact id := by
  rw [eventId, Number.toDouble_ofInt, AccountEvents.exact]
  exact_mod_cast Double.ofRat_natCast h

theorem accountEvents_recover_small :
    everyState (AccountEvents.step smallLog "ab") (AccountEvents.RecoversAt smallLog "ab") .init
      [.connect, .urlResolved none, .message, .closed, .connect] ∧
    ∃ s, run (AccountEventStream.step smallLog none) .init
      [.connect true, .message, .failed, .connect true, .message] = some s ∧
      s.delivered = [1, 5] ∧
      Recovers smallLog "ab" AccountEventStream.value s.received s.delivered s.requests := by
  obtain ⟨hts, hpython⟩ := accountEvents_recover smallLog "ab"
  constructor
  · refine (hts _ _ rfl).mpr ⟨trivial, fun s hs => ⟨trivial, fun t ht => ?_⟩⟩
    obtain rfl := Option.some.inj hs
    obtain rfl := Option.some.inj ht
    refine ⟨representable_of_lt (by decide), fun u hu => ⟨trivial, fun v hv => ⟨trivial, ?_⟩⟩⟩
    intro w hw
    trivial
  · have hrun : ∃ s, run (AccountEventStream.step smallLog none) .init
        [.connect true, .message, .failed, .connect true, .message] = some s ∧
        s.delivered = [1, 5] := ⟨_, rfl, rfl⟩
    obtain ⟨s, hs, hdelivered⟩ := hrun
    exact ⟨s, hs, hdelivered, hpython none _ s hs⟩

/-- Two ids above 2^53. The first one reads as the second one. -/
def roundedLog : EventLog where
  ids := [9007199254740995, 9007199254740996]
  increasing := by decide
  bounded := by decide

theorem toDouble_rounded :
    (eventId 9007199254740995).toDouble = AccountEvents.exact 9007199254740996 := by
  rw [eventId, Number.toDouble_ofInt]
  decide +kernel

/-- The consumer gets the first event under the id of the second one, and the reconnect asks for
what follows the second one, so that it is lost. -/
theorem accountEvents_lost : ∃ s, run (AccountEvents.step roundedLog "ab") .init
      [.connect, .urlResolved none, .message, .closed, .connect, .urlResolved none] = some s ∧
    s.received = [9007199254740995] ∧ s.delivered = [AccountEvents.exact 9007199254740996] ∧
    s.connection = .connected [] ∧ ¬ AccountEvents.RecoversAt roundedLog "ab" s := by
  let first : Request := ⟨none, none, none⟩
  let second : Request := ⟨some (.ofInt 9007199254740996), none, some 9007199254740995⟩
  let connected : AccountEvents := ⟨0, .connected roundedLog.ids, [], [], [first]⟩
  have hmessage : connected.onmessage (eventId 9007199254740995).toDouble =
      { connected with
        afterId := 9007199254740996
        delivered := [AccountEvents.exact 9007199254740996] } := by
    rw [toDouble_rounded]
    exact AccountEvents.onmessage_exact connected 9007199254740996 (by decide)
  have hreplay : roundedLog.replay (some (.ofInt 9007199254740996)) = [] := by
    simp [EventLog.replay, roundedLog, Number.toInt_ofInt]
  let received : AccountEvents := ⟨9007199254740996, .connected [9007199254740996],
    [9007199254740995], [AccountEvents.exact 9007199254740996], [first]⟩
  let signing : AccountEvents :=
    { received with connection := .signing (some (.ofInt 9007199254740996)) }
  let lost : AccountEvents :=
    { received with
      connection := .connected []
      requests := [first, second] }
  have hreceived : AccountEvents.step roundedLog "ab" connected .message = some received := by
    show some { connected.onmessage (eventId 9007199254740995).toDouble with
      connection := .connected [9007199254740996]
      received := [9007199254740995] } = _
    rw [hmessage]
  have hlost : AccountEvents.step roundedLog "ab" signing (.urlResolved none) = some lost := by
    show some { signing with
      connection := .connected (roundedLog.replay (some (.ofInt 9007199254740996)))
      requests := [first, second] } = _
    rw [hreplay]
  refine ⟨lost, ?_, rfl, rfl, rfl, ?_⟩
  · refine run_cons_eq_some.mpr ⟨_, rfl, run_cons_eq_some.mpr ⟨connected, rfl, ?_⟩⟩
    refine run_cons_eq_some.mpr ⟨received, hreceived, run_cons_eq_some.mpr ⟨_, rfl, ?_⟩⟩
    exact run_cons_eq_some.mpr ⟨signing, rfl, run_cons_eq_some.mpr ⟨lost, hlost, rfl⟩⟩
  · intro hrecovers
    have hdelivered := List.singleton_inj.mp hrecovers.delivered
    have hvalue := Double.finite.inj hdelivered
    norm_num at hvalue

end TradingSdk.Client
