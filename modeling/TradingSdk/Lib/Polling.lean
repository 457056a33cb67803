import Mathlib.Algebra.Order.Ring.Int
import Mathlib.Tactic.Linarith

namespace TradingSdk.Polling

/-- The sleeps of a loop: the first one, and each from the one before. -/
structure Backoff where
  first : ℕ
  next : ℕ → ℕ

namespace Backoff

def delay (b : Backoff) : ℕ → ℕ
  | 0 => b.first
  | k + 1 => b.next (b.delay k)

/-- All the sleeps in front of a question. -/
def elapsed (b : Backoff) : ℕ → ℕ
  | 0 => 0
  | k + 1 => b.elapsed k + b.delay k

/-- A clock that each sleep moves on by its own length at least. -/
def Paces (b : Backoff) (now : ℕ → ℤ) : Prop := ∀ k, now k + b.delay k ≤ now (k + 1)

theorem paces_elapsed (b : Backoff) : b.Paces fun k => b.elapsed k := by
  intro k
  exact (Nat.cast_add (b.elapsed k) (b.delay k)).ge

theorem Paces.elapsed_le {b : Backoff} {now : ℕ → ℤ} (h : b.Paces now) (k : ℕ) :
    now 0 + b.elapsed k ≤ now k := by
  induction k with
  | zero => simp [elapsed]
  | succ k ih =>
    have hstep := h k
    rw [elapsed, Nat.cast_add]
    linarith

end Backoff

/-- How a loop ends: with a question that was answered, or at the deadline. -/
inductive Ending (β : Type) where
  | answered (k : ℕ) (b : β)
  | expired (k : ℕ)

variable {α β : Type}

/-- The test of the clock at which it ends. -/
def Ending.test : Ending β → ℕ
  | .answered k _ => k
  | .expired k => k

def Ending.questions : Ending β → ℕ
  | .answered k _ => k + 1
  | .expired k => k

def Ending.result : Ending β → Option β
  | .answered _ b => some b
  | .expired _ => none

section Poll

variable (accept : α → Option β) (deadline : ℤ) (now : ℕ → ℤ) (answer : ℕ → α)

/-- The loop from its `k`-th test on. The clock is read in front of every sleep, and the question
comes behind it. -/
def poll : ℕ → ℕ → Option (Ending β)
  | 0, _ => none
  | fuel + 1, k =>
    if now k < deadline then
      match accept (answer k) with
      | some b => some (.answered k b)
      | none => poll fuel (k + 1)
    else some (.expired k)

/-- From test `k` on the loop asks and is refused up to test `j`. -/
structure Asks (k j : ℕ) : Prop where
  le : k ≤ j
  inTime : ∀ i, k ≤ i → i < j → now i < deadline
  refused : ∀ i, k ≤ i → i < j → accept (answer i) = none

/-- What the last test finds. -/
def Ends : Ending β → Prop
  | .answered k b => now k < deadline ∧ accept (answer k) = some b
  | .expired k => deadline ≤ now k

variable {accept deadline now answer}

theorem asks_refl (k : ℕ) : Asks accept deadline now answer k k :=
  ⟨le_rfl, fun _ h h' => absurd h (Nat.not_le.mpr h'), fun _ h h' => absurd h (Nat.not_le.mpr h')⟩

theorem Asks.cons {k j : ℕ} (hnow : now k < deadline) (hnone : accept (answer k) = none)
    (h : Asks accept deadline now answer (k + 1) j) : Asks accept deadline now answer k j := by
  refine ⟨Nat.le_of_succ_le h.le, ?_, ?_⟩
  · intro i hk hj
    obtain rfl | hlt := Nat.eq_or_lt_of_le hk
    · exact hnow
    · exact h.inTime i hlt hj
  · intro i hk hj
    obtain rfl | hlt := Nat.eq_or_lt_of_le hk
    · exact hnone
    · exact h.refused i hlt hj

theorem Asks.tail {k j : ℕ} (h : Asks accept deadline now answer k j) (hlt : k < j) :
    Asks accept deadline now answer (k + 1) j :=
  ⟨hlt, fun i hk hj => h.inTime i (Nat.le_of_succ_le hk) hj,
    fun i hk hj => h.refused i (Nat.le_of_succ_le hk) hj⟩

theorem ends_answered {k : ℕ} {e : Ending β} {b : β} (htest : e.test = k) (hnow : now k < deadline)
    (hb : accept (answer k) = some b) (h : Ends accept deadline now answer e) :
    e = .answered k b := by
  subst htest
  cases e with
  | answered j c => rw [Option.some.inj (h.2.symm.trans hb), Ending.test]
  | expired j => exact absurd hnow (not_lt.mpr h)

theorem ends_expired {k : ℕ} {e : Ending β} (htest : e.test = k) (hnow : ¬ now k < deadline)
    (h : Ends accept deadline now answer e) : e = .expired k := by
  subst htest
  cases e with
  | answered j c => exact absurd h.1 hnow
  | expired j => rfl

theorem not_ends {k : ℕ} {e : Ending β} (htest : e.test = k) (hnow : now k < deadline)
    (hnone : accept (answer k) = none) : ¬ Ends accept deadline now answer e := by
  intro h
  subst htest
  cases e with
  | answered j c =>
    rw [Ending.test, h.2] at hnone
    cases hnone
  | expired j => exact absurd hnow (not_lt.mpr h)

/-- The loop ends at the first test that finds the deadline past or an answer accepted. -/
theorem poll_eq_some_iff {fuel k : ℕ} {e : Ending β} :
    poll accept deadline now answer fuel k = some e ↔
      e.test < k + fuel ∧ Asks accept deadline now answer k e.test ∧
        Ends accept deadline now answer e := by
  induction fuel generalizing k with
  | zero =>
    constructor
    · intro h
      cases h
    · rintro ⟨hlt, hasks, -⟩
      have hle := hasks.le
      omega
  | succ fuel ih =>
    rw [poll]
    split_ifs with hnow
    · split
      · next c hc =>
        constructor
        · intro h
          obtain rfl := Option.some.inj h
          exact ⟨Nat.lt_add_of_pos_right (Nat.succ_pos fuel), asks_refl k, hnow, hc⟩
        · rintro ⟨-, hasks, hends⟩
          obtain heq | hlt := Nat.eq_or_lt_of_le hasks.le
          · rw [ends_answered heq.symm hnow hc hends]
          · rw [hasks.refused k le_rfl hlt] at hc
            cases hc
      · next hnone =>
        rw [ih]
        constructor
        · rintro ⟨hlt, hasks, hends⟩
          exact ⟨by omega, hasks.cons hnow hnone, hends⟩
        · rintro ⟨hlt, hasks, hends⟩
          obtain heq | hk := Nat.eq_or_lt_of_le hasks.le
          · exact absurd hends (not_ends heq.symm hnow hnone)
          · exact ⟨by omega, hasks.tail hk, hends⟩
    · constructor
      · intro h
        obtain rfl := Option.some.inj h
        exact ⟨Nat.lt_add_of_pos_right (Nat.succ_pos fuel), asks_refl k, not_lt.mp hnow⟩
      · rintro ⟨-, hasks, hends⟩
        obtain heq | hk := Nat.eq_or_lt_of_le hasks.le
        · rw [ends_expired heq.symm hnow hends]
        · exact absurd (hasks.inTime k le_rfl hk) hnow

/-- More fuel changes nothing. -/
theorem poll_mono {fuel fuel' k : ℕ} {e : Ending β} (hfuel : fuel ≤ fuel')
    (h : poll accept deadline now answer fuel k = some e) :
    poll accept deadline now answer fuel' k = some e := by
  obtain ⟨hlt, hasks, hends⟩ := poll_eq_some_iff.mp h
  exact poll_eq_some_iff.mpr ⟨by omega, hasks, hends⟩

/-- The clock is short of the deadline at each test that leads to a question. The question itself
may come behind it, after the sleep. -/
theorem inTime_of_poll {fuel : ℕ} {e : Ending β}
    (h : poll accept deadline now answer fuel 0 = some e) :
    ∀ k < e.questions, now k < deadline := by
  obtain ⟨-, hasks, hends⟩ := poll_eq_some_iff.mp h
  intro k hk
  cases e with
  | answered j b =>
    obtain heq | hlt := Nat.eq_or_lt_of_le (Nat.le_of_lt_succ hk)
    · rw [heq]
      exact hends.1
    · exact hasks.inTime k (Nat.zero_le _) hlt
  | expired j => exact hasks.inTime k (Nat.zero_le _) hk

/-- The answers that a loop has seen. -/
def Ending.answers (e : Ending β) (answer : ℕ → α) : List α := (List.range e.questions).map answer

/-- The result of the loop is the first one among its answers. -/
theorem findSome_of_poll {fuel : ℕ} {e : Ending β}
    (h : poll accept deadline now answer fuel 0 = some e) :
    (e.answers answer).findSome? accept = e.result := by
  obtain ⟨-, hasks, hends⟩ := poll_eq_some_iff.mp h
  have hbefore : ((List.range e.test).map answer).findSome? accept = none := by
    rw [List.findSome?_eq_none_iff]
    intro a ha
    obtain ⟨k, hk, rfl⟩ := List.mem_map.mp ha
    exact hasks.refused k (Nat.zero_le _) (List.mem_range.mp hk)
  cases e with
  | answered j b =>
    have hlast : accept (answer j) = some b := hends.2
    rw [Ending.test] at hbefore
    rw [Ending.answers, Ending.questions, List.range_succ, List.map_append, List.findSome?_append,
      hbefore]
    simp [hlast, Ending.result]
  | expired j => exact hbefore

/-- A loop without an ending has asked in vain all along. -/
theorem poll_eq_none {fuel k : ℕ} (h : poll accept deadline now answer fuel k = none) :
    Asks accept deadline now answer k (k + fuel) := by
  induction fuel generalizing k with
  | zero => exact asks_refl k
  | succ fuel ih =>
    rw [poll] at h
    split_ifs at h with hnow
    split at h
    · cases h
    · next hnone =>
      have htail := ih h
      rw [Nat.add_right_comm] at htail
      exact htail.cons hnow hnone

/-- On a clock that keeps pace the sleeps alone bring the deadline: the loop ends after as many
questions as fit in front of it. -/
theorem poll_ends {b : Backoff} (hpaces : b.Paces now) {n : ℕ}
    (hdeadline : deadline ≤ now 0 + b.elapsed n) :
    ∃ e, poll accept deadline now answer (n + 1) 0 = some e ∧ e.questions ≤ n := by
  have hlate : deadline ≤ now n := hdeadline.trans (hpaces.elapsed_le n)
  cases h : poll accept deadline now answer (n + 1) 0 with
  | none =>
    have hasks := poll_eq_none h
    have hn := hasks.inTime n (Nat.zero_le _) (by omega)
    exact absurd hn (not_lt.mpr hlate)
  | some e =>
    refine ⟨e, rfl, ?_⟩
    obtain ⟨hlt, -, hends⟩ := poll_eq_some_iff.mp h
    cases e with
    | answered j b =>
      have hne : j ≠ n := by
        rintro rfl
        exact absurd hends.1 (not_lt.mpr hlate)
      have hj : j < 0 + (n + 1) := hlt
      show j + 1 ≤ n
      omega
    | expired j =>
      have hj : j < 0 + (n + 1) := hlt
      show j ≤ n
      omega

end Poll

end TradingSdk.Polling
