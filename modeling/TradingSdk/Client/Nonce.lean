import Mathlib.Algebra.Order.Ring.Int
import Mathlib.Order.Lattice
import TradingSdk.Transition.Run

namespace TradingSdk

open Transition

/-- The pure step of the Python allocator, which the conformance vectors pin. -/
def nonceStep (last nowMs : Int) : Int := max nowMs (last + 1)

/-- The step of the spec crate, whose successor saturates at the top of `u64`. -/
def specNonceStep (last nowMs : UInt64) : Nat := max nowMs.toNat (min (last.toNat + 1) (2^64 - 1))

theorem specNonceStep_eq (last nowMs : UInt64) (h : last.toNat + 1 < 2^64) :
    (specNonceStep last nowMs : Int) = nonceStep last.toNat nowMs.toNat := by
  simp only [specNonceStep, nonceStep]
  omega

/-- The TypeScript step: the successor of the last nonce, never more than a minute ahead. -/
def nextTimestampNonce (last now : Int) : Int :=
  let limit := now + 60000
  let next := if last ≥ now then last + 1 else now
  if next > limit then limit else next

theorem nextTimestampNonce_eq (last now : Int) :
    nextTimestampNonce last now = min (nonceStep last now) (now + 60000) := by
  simp only [nextTimestampNonce, nonceStep]
  split_ifs <;> omega

/-- At every call the previous nonce is less than a minute ahead of the clock. -/
def WithinDrift : Int → List Int → Prop
  | _, [] => True
  | last, now :: rest => last < now + 60000 ∧ WithinDrift (nextTimestampNonce last now) rest

theorem nextTimestampNonce_eq_nonceStep_iff (last now : Int) :
    nextTimestampNonce last now = nonceStep last now ↔ last < now + 60000 := by
  rw [nextTimestampNonce_eq, nonceStep]
  omega

theorem lt_nextTimestampNonce_iff (last now : Int) :
    last < nextTimestampNonce last now ↔ last < now + 60000 := by
  rw [nextTimestampNonce_eq, nonceStep]
  omega

theorem outputs_eq_iff_withinDrift (last : Int) (readings : List Int) :
    outputs nextTimestampNonce last readings = outputs nonceStep last readings ↔
      WithinDrift last readings := by
  induction readings generalizing last with
  | nil => simp [outputs, WithinDrift]
  | cons now rest ih =>
    have hstep := nextTimestampNonce_eq_nonceStep_iff last now
    simp only [outputs, WithinDrift, List.cons.injEq]
    constructor
    · rintro ⟨hhead, htail⟩
      rw [← hhead] at htail
      exact ⟨hstep.mp hhead, (ih _).mp htail⟩
    · rintro ⟨hdrift, htail⟩
      have hhead := hstep.mpr hdrift
      exact ⟨hhead, hhead ▸ (ih _).mpr htail⟩

theorem outputs_increasing_iff_withinDrift (last : Int) (readings : List Int) :
    (last :: outputs nextTimestampNonce last readings).IsChain (· < ·) ↔
      WithinDrift last readings := by
  induction readings generalizing last with
  | nil => simp [outputs, WithinDrift]
  | cons now rest ih =>
    simp only [outputs, WithinDrift, List.isChain_cons_cons, lt_nextTimestampNonce_iff, ih]

/-- Every output follows the capped rule. The run is the specified one, and is strictly increasing,
exactly as long as the cap is not reached. -/
theorem nextTimestampNonce_run (last : Int) (readings : List Int) :
    outputs nextTimestampNonce last readings =
      outputs (fun last now => min (max now (last + 1)) (now + 60000)) last readings ∧
    (outputs nextTimestampNonce last readings = outputs nonceStep last readings ↔
      WithinDrift last readings) ∧
    ((last :: outputs nextTimestampNonce last readings).Pairwise (· < ·) ↔
      WithinDrift last readings) := by
  refine ⟨?_, outputs_eq_iff_withinDrift last readings, ?_⟩
  · have hstep : nextTimestampNonce = fun last now => min (max now (last + 1)) (now + 60000) := by
      funext last now
      exact nextTimestampNonce_eq last now
    rw [hstep]
  · rw [← outputs_increasing_iff_withinDrift, List.isChain_iff_pairwise]

/-- A clock a minute behind the last nonce makes the next one repeat it. -/
theorem nextTimestampNonce_repeats :
    outputs nextTimestampNonce 0 [60000, 0] = [60000, 60000] ∧
    ¬ (outputs nextTimestampNonce 0 [60000, 0]).Pairwise (· < ·) ∧
    outputs nextTimestampNonce 0 [60000, 0] ≠ outputs nonceStep 0 [60000, 0] := by
  decide

/-- A finished call: its caller, the clock value the caller had read and the nonce it got. -/
structure Allocation (Thread : Type) where
  thread : Thread
  now : Int
  nonce : Int

/-- The allocator with the local variable `now` of every thread that has read the clock but not
yet taken the lock, and the finished calls in the order of the lock. -/
structure NonceAllocator (Thread : Type) where
  last : Int
  reading : Thread → Option Int
  returned : List (Allocation Thread)

/-- The two atomic steps of `allocate`. -/
inductive AllocateStep (Thread : Type) where
  | readClock (thread : Thread) (now : Int)
  | update (thread : Thread)

namespace NonceAllocator

variable {Thread : Type}

def init : NonceAllocator Thread := ⟨0, fun _ => none, []⟩

variable [DecidableEq Thread]

/-- A thread reads the clock when it has no call in flight; it enters the lock with what it read. -/
def step (s : NonceAllocator Thread) : AllocateStep Thread → Option (NonceAllocator Thread)
  | .readClock thread now =>
    match s.reading thread with
    | none => some { s with reading := Function.update s.reading thread (some now) }
    | some _ => none
  | .update thread =>
    match s.reading thread with
    | none => none
    | some now =>
      let candidate := nonceStep s.last now
      some
        { last := candidate
          reading := Function.update s.reading thread none
          returned := s.returned ++ [⟨thread, now, candidate⟩] }

/-- Everything that a step can do to the lock-protected part. -/
theorem step_cases {s s' : NonceAllocator Thread} {e : AllocateStep Thread}
    (h : s.step e = some s') :
    (s'.last = s.last ∧ s'.returned = s.returned) ∨
    ∃ thread now, e = .update thread ∧ s.reading thread = some now ∧
      s'.last = nonceStep s.last now ∧
      s'.returned = s.returned ++ [⟨thread, now, nonceStep s.last now⟩] := by
  cases e with
  | readClock thread now =>
    simp only [step] at h
    split at h
    · obtain rfl := Option.some.inj h
      exact .inl ⟨rfl, rfl⟩
    · cases h
  | update thread =>
    simp only [step] at h
    split at h
    · cases h
    · next now hnow =>
      obtain rfl := Option.some.inj h
      exact .inr ⟨thread, now, rfl, hnow, rfl, rfl⟩

/-- `last` bounds every nonce handed out, and they are in order. -/
structure Inv (s : NonceAllocator Thread) : Prop where
  bounded : ∀ c ∈ s.returned, c.nonce ≤ s.last
  fresh : ∀ c ∈ s.returned, c.now ≤ c.nonce
  ordered : (s.returned.map Allocation.nonce).Pairwise (· < ·)

omit [DecidableEq Thread] in
theorem inv_init : Inv (init : NonceAllocator Thread) := by
  constructor <;> simp [init]

/-- The update raises `last` past every earlier nonce, however stale the reading is. -/
theorem inv_step (s : NonceAllocator Thread) (e : AllocateStep Thread) (s' : NonceAllocator Thread)
    (h : s.step e = some s') (hi : Inv s) : Inv s' := by
  obtain ⟨hlast, hret⟩ | ⟨thread, now, -, -, hlast, hret⟩ := step_cases h
  · exact ⟨hret ▸ hlast ▸ hi.bounded, hret ▸ hi.fresh, hret ▸ hi.ordered⟩
  · have hgt : s.last < s'.last := by rw [hlast, nonceStep]; omega
    have hnow : now ≤ s'.last := by rw [hlast, nonceStep]; omega
    rw [← hlast] at hret
    constructor
    · intro c hc
      rw [hret, List.mem_append, List.mem_singleton] at hc
      obtain hc | rfl := hc
      · exact (hi.bounded c hc).trans hgt.le
      · exact le_rfl
    · intro c hc
      rw [hret, List.mem_append, List.mem_singleton] at hc
      obtain hc | rfl := hc
      · exact hi.fresh c hc
      · exact hnow
    · rw [hret, List.map_append, List.pairwise_append]
      refine ⟨hi.ordered, List.pairwise_singleton _ _, ?_⟩
      intro a ha b hb
      obtain ⟨c, hc, rfl⟩ := List.mem_map.mp ha
      obtain rfl := List.mem_singleton.mp hb
      exact (hi.bounded c hc).trans_lt hgt

/-- Whatever the interleaving and the clock, the nonces are distinct, increase in the order of the
lock and never fall behind the clock of their caller. -/
theorem allocate_interleaved (events : List (AllocateStep Thread)) (s : NonceAllocator Thread)
    (h : run step init events = some s) :
    (s.returned.map Allocation.nonce).Nodup ∧
    (s.returned.map Allocation.nonce).Pairwise (· < ·) ∧
    ∀ c ∈ s.returned, c.now ≤ c.nonce := by
  have hi : Inv s := run_invariant Inv inv_step h inv_init
  exact ⟨hi.ordered.imp fun hlt => ne_of_lt hlt, hi.ordered, hi.fresh⟩

/-- Two threads read the clock in one order and take the lock in the other. -/
def overtaken : List (AllocateStep Nat) :=
  [.readClock 0 5, .readClock 1 9, .update 1, .update 0]

theorem allocate_interleaved_overtaken :
    ∃ s, run step (init : NonceAllocator Nat) overtaken = some s ∧
      s.returned.map Allocation.nonce = [9, 10] ∧
      (s.returned.map Allocation.nonce).Pairwise (· < ·) :=
  ⟨_, rfl, by decide, (allocate_interleaved overtaken _ rfl).2.1⟩

end NonceAllocator

end TradingSdk
