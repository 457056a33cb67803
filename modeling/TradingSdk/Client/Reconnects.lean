import Mathlib.Algebra.Order.Field.Rat
import Mathlib.Tactic.Linarith
import TradingSdk.Client.AccountEvents
import TradingSdk.Transition.History

namespace TradingSdk.Client

open Transition

/-- Where `_run` is: in front of a connect, in the loop over the frames, or at its end, which is an
exception where `time.sleep` refuses a negative time. -/
inductive RunLoop where
  | reconnecting
  | connected
  | returned
  | raised
  deriving DecidableEq

/-- The variables of `_run`, and the times that it has slept. -/
structure StreamRun where
  closed : Bool
  attempt : Nat
  backoff : ℚ
  loop : RunLoop
  sleeps : List ℚ
  deriving DecidableEq

/-- The sleep after so many failures in a row. -/
def delay (cap : ℚ) : Nat → ℚ
  | 0 => 1 / 2
  | k + 1 => min (2 ^ k) cap

namespace StreamRun

section Step

variable (cap : ℚ) (maxAttempts : Option Nat)

def init : StreamRun := ⟨false, 0, 1 / 2, .reconnecting, []⟩

/-- The handler of an exception. -/
def fail (s : StreamRun) : StreamRun :=
  if s.closed then { s with loop := .returned }
  else if maxAttempts.any (· < s.attempt + 1) then
    { s with attempt := s.attempt + 1, loop := .returned }
  else if s.backoff < 0 then { s with attempt := s.attempt + 1, loop := .raised }
  else { s with
    attempt := s.attempt + 1
    loop := .reconnecting
    sleeps := s.sleeps ++ [s.backoff]
    backoff := min (s.backoff * 2) cap }

/-- The loop of either stream. A connection that ends in order is no exception. -/
def step (s : StreamRun) : AccountEventStreamEvent → Option StreamRun
  | .connect accepted =>
    match s.loop with
    | .reconnecting =>
      if s.closed then some { s with loop := .returned }
      else if accepted then some { s with attempt := 0, backoff := 1 / 2, loop := .connected }
      else some (s.fail cap maxAttempts)
    | _ => none
  | .message =>
    match s.loop with
    | .connected => some (if s.closed then { s with loop := .returned } else s)
    | _ => none
  | .finished =>
    match s.loop with
    | .connected => some { s with loop := .reconnecting }
    | _ => none
  | .failed =>
    match s.loop with
    | .connected => some (s.fail cap maxAttempts)
    | _ => none
  | .close => some { s with closed := true }

end Step

/-- After `k` failures in a row since the last connection the loop has slept the first `k` delays, and
it ends when it is closed or when one failure more than allowed has come. -/
structure Paced (cap : ℚ) (maxAttempts : Option Nat) (s : StreamRun) (k : Nat) : Prop where
  backoff : s.backoff = delay cap k
  slept : (List.range k).map (delay cap) <:+ s.sleeps
  allowed : ∀ n, maxAttempts = some n → k ≤ n
  attempt : s.attempt = k ∨ s.loop = .returned ∧ s.attempt = k + 1 ∧ maxAttempts = some k
  connected : s.loop = .connected → k = 0
  ended : s.loop = .returned → s.closed = true ∨ s.attempt = k + 1 ∧ maxAttempts = some k
  sleeps : ∀ d ∈ s.sleeps, 0 ≤ d ∧ d ≤ max (1 / 2) cap
  runs : s.loop ≠ .raised

section Pace

variable {cap : ℚ} {maxAttempts : Option Nat}

/-- Doubling up to the cap. -/
theorem delay_succ (hcap : 0 ≤ cap) (k : Nat) : min (delay cap k * 2) cap = delay cap (k + 1) := by
  cases k with
  | zero => norm_num [delay]
  | succ k =>
    rw [delay, delay, pow_succ]
    obtain h | h := le_total ((2 : ℚ) ^ k) cap
    · rw [min_eq_left h]
    · have hdouble : cap ≤ cap * 2 := by linarith
      rw [min_eq_right h, min_eq_right hdouble, min_eq_right (by linarith)]

theorem delay_bounds (hcap : 0 ≤ cap) (k : Nat) : 0 ≤ delay cap k ∧ delay cap k ≤ max (1 / 2) cap := by
  cases k with
  | zero => exact ⟨by norm_num [delay], le_max_left _ _⟩
  | succ k => exact ⟨le_min (by positivity) hcap, (min_le_right _ _).trans (le_max_right _ _)⟩

theorem paced_init : Paced cap maxAttempts init 0 := by
  constructor <;> simp [init, delay]

/-- Leaving the loop of a stream that is closed. -/
theorem Paced.leave {s : StreamRun} {k : Nat} (hs : Paced cap maxAttempts s k)
    (hclosed : s.closed = true) (hgoing : s.loop ≠ .returned) :
    Paced cap maxAttempts { s with loop := .returned } k := by
  obtain hattempt | ⟨hreturned, -⟩ := hs.attempt
  · constructor
    · exact hs.backoff
    · exact hs.slept
    · exact hs.allowed
    · exact .inl hattempt
    · simp
    · exact fun _ => .inl hclosed
    · exact hs.sleeps
    · simp
  · exact absurd hreturned hgoing

/-- A failure ends the loop or is followed by the next delay. -/
theorem Paced.fail {s : StreamRun} {k : Nat} (hcap : 0 ≤ cap) (hs : Paced cap maxAttempts s k)
    (hgoing : s.loop ≠ .returned) : ∃ k', Paced cap maxAttempts (s.fail cap maxAttempts) k' := by
  have hattempt : s.attempt = k := hs.attempt.resolve_right fun h => hgoing h.1
  have hdelay := delay_bounds hcap k
  rw [StreamRun.fail]
  split_ifs with hclosed hexhausted hnegative
  · exact ⟨k, hs.leave hclosed hgoing⟩
  · obtain ⟨n, hn, hlt⟩ := (Option.any_eq_true _ _).mp hexhausted
    have hle := hs.allowed n hn
    have hover : n < s.attempt + 1 := of_decide_eq_true hlt
    obtain rfl : n = k := by omega
    have hlast : s.attempt + 1 = n + 1 ∧ maxAttempts = some n := ⟨by omega, hn⟩
    refine ⟨n, ?_⟩
    constructor
    · exact hs.backoff
    · exact hs.slept
    · exact hs.allowed
    · exact .inr ⟨rfl, hlast⟩
    · simp
    · exact fun _ => .inr hlast
    · exact hs.sleeps
    · simp
  · rw [hs.backoff] at hnegative
    exact absurd hdelay.1 (not_le_of_gt hnegative)
  · have hbackoff : min (s.backoff * 2) cap = delay cap (k + 1) := by
      rw [hs.backoff, delay_succ hcap]
    have hslept : (List.range (k + 1)).map (delay cap) <:+ s.sleeps ++ [s.backoff] := by
      rw [List.range_succ, List.map_append, hs.backoff]
      obtain ⟨before, hbefore⟩ := hs.slept
      exact ⟨before, by rw [← List.append_assoc, hbefore]; rfl⟩
    have hallowed : ∀ n, maxAttempts = some n → k + 1 ≤ n := by
      intro n hn
      simp only [hn, Option.any_some, decide_eq_true_eq] at hexhausted
      omega
    have hsleeps : ∀ d ∈ s.sleeps ++ [s.backoff], 0 ≤ d ∧ d ≤ max (1 / 2) cap := by
      intro d hd
      obtain hd | hd := List.mem_append.mp hd
      · exact hs.sleeps d hd
      · rw [List.mem_singleton.mp hd, hs.backoff]
        exact hdelay
    refine ⟨k + 1, ?_⟩
    constructor
    · exact hbackoff
    · exact hslept
    · exact hallowed
    · exact .inl (congrArg (· + 1) hattempt)
    · simp
    · simp
    · exact hsleeps
    · simp

theorem paced_step (hcap : 0 ≤ cap) {s t : StreamRun} {e : AccountEventStreamEvent} {k : Nat}
    (hst : step cap maxAttempts s e = some t) (hs : Paced cap maxAttempts s k) :
    ∃ k', Paced cap maxAttempts t k' := by
  cases e with
  | close =>
    obtain rfl := Option.some.inj hst
    refine ⟨k, ?_⟩
    constructor
    · exact hs.backoff
    · exact hs.slept
    · exact hs.allowed
    · exact hs.attempt
    · exact hs.connected
    · exact fun _ => .inl rfl
    · exact hs.sleeps
    · exact hs.runs
  | connect accepted =>
    rw [step] at hst
    split at hst
    case h_2 => cases hst
    case h_1 hloop =>
      have hgoing : s.loop ≠ .returned := by simp [hloop]
      split_ifs at hst with hclosed haccepted
      · exact Option.some.inj hst ▸ ⟨k, hs.leave hclosed hgoing⟩
      · obtain rfl := Option.some.inj hst
        exact ⟨0, rfl, List.nil_suffix, by simp, .inl rfl, by simp, by simp, hs.sleeps, by simp⟩
      · exact Option.some.inj hst ▸ hs.fail hcap hgoing
  | message =>
    rw [step] at hst
    split at hst
    case h_2 => cases hst
    case h_1 hloop =>
      obtain rfl := Option.some.inj hst
      split_ifs with hclosed
      · exact ⟨k, hs.leave hclosed (by simp [hloop])⟩
      · exact ⟨k, hs⟩
  | finished =>
    rw [step] at hst
    split at hst
    case h_2 => cases hst
    case h_1 hloop =>
      obtain rfl := Option.some.inj hst
      have hattempt : s.attempt = k := hs.attempt.resolve_right fun h => by simp [hloop] at h
      refine ⟨k, ?_⟩
      constructor
      · exact hs.backoff
      · exact hs.slept
      · exact hs.allowed
      · exact .inl hattempt
      · simp
      · simp
      · exact hs.sleeps
      · simp
  | failed =>
    rw [step] at hst
    split at hst
    case h_2 => cases hst
    case h_1 hloop => exact Option.some.inj hst ▸ hs.fail hcap (by simp [hloop])

theorem paced_of_run (hcap : 0 ≤ cap) {s : StreamRun} {es : List AccountEventStreamEvent}
    (hrun : run (step cap maxAttempts) init es = some s) : ∃ k, Paced cap maxAttempts s k :=
  run_invariant (fun s => ∃ k, Paced cap maxAttempts s k)
    (fun _ _ _ hst ⟨_, hs⟩ => paced_step hcap hst hs) hrun ⟨0, paced_init⟩

end Pace

end StreamRun

def EventLoop.phase : EventLoop → RunLoop
  | .reconnecting => .reconnecting
  | .connected _ => .connected
  | .returned => .returned

/-- The account stream is at this point of its loop. -/
structure Follows (a : AccountEventStream) (s : StreamRun) : Prop where
  closed : s.closed = a.closed
  attempt : s.attempt = a.attempt
  loop : s.loop = a.loop.phase

namespace Follows

variable {cap : ℚ} {maxAttempts : Option Nat} {log : EventLog} {a b : AccountEventStream}
  {s : StreamRun}

/-- A failure of the account stream is one of the loop, where the sleep is no error. -/
theorem fail {a : AccountEventStream} (h : Follows a s) (hsleep : 0 ≤ s.backoff) :
    Follows (a.fail maxAttempts) (s.fail cap maxAttempts) := by
  rw [AccountEventStream.fail, StreamRun.fail, h.closed, h.attempt, if_neg (not_lt.mpr hsleep)]
  split_ifs
  · exact ⟨rfl, rfl, rfl⟩
  · exact ⟨rfl, rfl, rfl⟩
  · exact ⟨rfl, rfl, rfl⟩

theorem step (h : Follows a s) (hsleep : 0 ≤ s.backoff) {e : AccountEventStreamEvent}
    (hst : a.step log maxAttempts e = some b) :
    ∃ t, s.step cap maxAttempts e = some t ∧ Follows b t := by
  cases e with
  | close =>
    obtain rfl := Option.some.inj hst
    exact ⟨_, rfl, rfl, h.attempt, h.loop⟩
  | connect accepted =>
    rw [AccountEventStream.step] at hst
    split at hst
    case h_2 => cases hst
    case h_1 hloop =>
      have hwaits : s.loop = .reconnecting := by rw [h.loop, hloop]; rfl
      rw [StreamRun.step, hwaits]
      split_ifs at hst with hclosed
      · obtain rfl := Option.some.inj hst
        exact ⟨_, if_pos (h.closed.trans hclosed), h.closed, h.attempt, rfl⟩
      · obtain rfl := Option.some.inj hst
        have hopen : ¬ s.closed = true := by rwa [h.closed]
        rw [AccountEventStream.connect]
        simp only [if_neg hopen]
        split_ifs with haccepted
        · exact ⟨_, rfl, h.closed, rfl, rfl⟩
        · exact ⟨_, rfl, fail ⟨h.closed, h.attempt, h.loop⟩ hsleep⟩
  | message =>
    rw [AccountEventStream.step] at hst
    split at hst
    case h_2 => cases hst
    case h_1 id frames hloop =>
      have hreads : s.loop = .connected := by rw [h.loop, hloop]; rfl
      rw [StreamRun.step, hreads]
      split_ifs at hst with hclosed
      · obtain rfl := Option.some.inj hst
        exact ⟨_, congrArg some (if_pos (h.closed.trans hclosed)), h.closed, h.attempt, rfl⟩
      · obtain rfl := Option.some.inj hst
        have hopen : ¬ s.closed = true := by rwa [h.closed]
        exact ⟨s, congrArg some (if_neg hopen), h.closed, h.attempt, hreads⟩
  | finished =>
    rw [AccountEventStream.step] at hst
    split at hst
    case h_2 => cases hst
    case h_1 frames hloop =>
      obtain rfl := Option.some.inj hst
      have hreads : s.loop = .connected := by rw [h.loop, hloop]; rfl
      rw [StreamRun.step, hreads]
      exact ⟨_, rfl, h.closed, h.attempt, rfl⟩
  | failed =>
    rw [AccountEventStream.step] at hst
    split at hst
    case h_2 => cases hst
    case h_1 frames hloop =>
      obtain rfl := Option.some.inj hst
      have hreads : s.loop = .connected := by rw [h.loop, hloop]; rfl
      rw [StreamRun.step, hreads]
      exact ⟨_, rfl, h.fail hsleep⟩

end Follows

namespace StreamRun

variable {cap : ℚ} {maxAttempts : Option Nat}

/-- Every run of the account stream is one of the loop that sleeps. -/
theorem follows_of_run (hcap : 0 ≤ cap) {log : EventLog} {a : AccountEventStream}
    {es : List AccountEventStreamEvent}
    (hrun : run (AccountEventStream.step log maxAttempts) .init es = some a) :
    ∃ s, run (step cap maxAttempts) init es = some s ∧ Follows a s := by
  refine run_history
    (fun es a => ∃ s, run (step cap maxAttempts) init es = some s ∧ Follows a s)
    ⟨init, rfl, rfl, rfl, rfl⟩ ?_ hrun
  rintro es a e b ⟨s, hs, hfollows⟩ hst
  obtain ⟨k, hpaced⟩ := paced_of_run hcap hs
  have hsleep : 0 ≤ s.backoff := hpaced.backoff ▸ (delay_bounds hcap k).1
  obtain ⟨t, ht, hnext⟩ := hfollows.step hsleep hst
  refine ⟨t, ?_, hnext⟩
  rw [run_append, hs, Option.bind_some, run, ht]
  rfl

/-- A connection that ends in order is followed by the next one at once. -/
theorem run_finished (hcap : 0 ≤ cap) {es : List AccountEventStreamEvent} {s : StreamRun}
    (hrun : run (step cap maxAttempts) init es = some s) (hconnected : s.loop = .connected) :
    run (step cap maxAttempts) init (es ++ [.finished]) = some { s with loop := .reconnecting } ∧
    (s.closed = false →
      run (step cap maxAttempts) init (es ++ [.finished, .connect true]) = some s) := by
  obtain ⟨k, hpaced⟩ := paced_of_run hcap hrun
  obtain rfl := hpaced.connected hconnected
  have hfinished : step cap maxAttempts s .finished = some { s with loop := .reconnecting } := by
    rw [step, hconnected]
  constructor
  · rw [run_append, hrun, Option.bind_some, run, hfinished]
    rfl
  · intro hopen
    have hattempt : s.attempt = 0 := hpaced.attempt.resolve_right fun h => by
      rw [hconnected] at h
      cases h.1
    have hconnect : step cap maxAttempts { s with loop := .reconnecting } (.connect true) =
        some s := by
      obtain ⟨closed, attempt, backoff, loop, sleeps⟩ := s
      obtain rfl : closed = false := hopen
      obtain rfl : attempt = 0 := hattempt
      obtain rfl : backoff = 1 / 2 := hpaced.backoff
      obtain rfl : loop = .connected := hconnected
      rfl
    rw [run_append, hrun, Option.bind_some, run, hfinished, Option.bind_some, run, hconnect]
    rfl

/-- However many of them end in order one after the other. -/
theorem run_orderly (hcap : 0 ≤ cap) {es : List AccountEventStreamEvent} {s : StreamRun}
    (hrun : run (step cap maxAttempts) init es = some s) (hconnected : s.loop = .connected)
    (hopen : s.closed = false) (n : Nat) : run (step cap maxAttempts) init
      (es ++ (List.replicate n [.finished, .connect true]).flatten) = some s := by
  induction n with
  | zero => rwa [List.replicate_zero, List.flatten_nil, List.append_nil]
  | succ n ih =>
    rw [List.replicate_succ', List.flatten_append, ← List.append_assoc, List.flatten_singleton]
    exact (run_finished hcap ih hconnected).2 hopen

/-- Whatever connections come about, are refused, break or end, each stream of the Python client
sleeps half a second and then powers of two up to the cap between its failures in a row, starts over
after a connection, ends only when it is closed or its failures in a row exceed the attempts, and
sleeps nothing behind a connection that ends in order. -/
theorem reconnects_paced (hcap : 0 ≤ cap) :
    (∀ log es (a : AccountEventStream),
      run (AccountEventStream.step log maxAttempts) .init es = some a →
      ∃ s k, run (step cap maxAttempts) init es = some s ∧ Follows a s ∧
        Paced cap maxAttempts s k) ∧
    (∀ es s, run (step cap none) init es = some s →
      (∃ k, Paced cap none s k) ∧ (s.loop = .returned → s.closed = true)) ∧
    ∀ es s, run (step cap maxAttempts) init es = some s → s.loop = .connected →
      run (step cap maxAttempts) init (es ++ [.finished]) =
        some { s with loop := .reconnecting } ∧
      (s.closed = false → ∀ n, run (step cap maxAttempts) init
        (es ++ (List.replicate n [.finished, .connect true]).flatten) = some s) := by
  refine ⟨?_, ?_, ?_⟩
  · intro log es a hrun
    obtain ⟨s, hs, hfollows⟩ := follows_of_run hcap hrun
    obtain ⟨k, hpaced⟩ := paced_of_run hcap hs
    exact ⟨s, k, hs, hfollows, hpaced⟩
  · intro es s hs
    obtain ⟨k, hpaced⟩ := paced_of_run hcap hs
    refine ⟨⟨k, hpaced⟩, fun hreturned => ?_⟩
    obtain hclosed | ⟨-, hnone⟩ := hpaced.ended hreturned
    · exact hclosed
    · cases hnone
  · intro es s hs hconnected
    exact ⟨(run_finished hcap hs hconnected).1, run_orderly hcap hs hconnected⟩

/-- Three refusals after a connection that broke. -/
theorem reconnects_paced_refused :
    ∃ s k, run (step (3 / 2) (some 3)) init
        [.connect true, .failed, .connect false, .connect false, .connect false] = some s ∧
      s.sleeps = [1 / 2, 1, 3 / 2] ∧ s.loop = .returned ∧ s.closed = false ∧
      Paced (3 / 2) (some 3) s k := by
  have hlast : run (step (3 / 2) (some 3)) init
      [.connect true, .failed, .connect false, .connect false, .connect false] =
        some ⟨false, 4, 3 / 2, .returned, [1 / 2, 1, 3 / 2]⟩ := by decide +kernel
  obtain ⟨hevents, -⟩ := @reconnects_paced (3 / 2) (some 3) (by norm_num)
  obtain ⟨s, k, hs, -, hpaced⟩ := hevents smallLog
    [.connect true, .failed, .connect false, .connect false, .connect false] _ rfl
  obtain rfl := Option.some.inj (hs.symm.trans hlast)
  exact ⟨_, k, hs, rfl, rfl, rfl, hpaced⟩

end StreamRun

end TradingSdk.Client
