import Mathlib.Data.List.Nodup
import Mathlib.Logic.Function.Basic
import TradingSdk.Client.Delivery
import TradingSdk.Transition.Run

namespace TradingSdk.Client

open Json Transition

/-- A delivery result together with the verifier that observed it. -/
structure Delivery where
  verifier : Nat
  result : TxResult

/-- A background verifier that still polls. -/
structure Verifier where
  txHash : Value
  deadline : Int

/-- What a call of `awaitPendingVerifies` returned. -/
structure Drained (Drain : Type) where
  drain : Drain
  results : List Delivery

/-- The delivery state of a client between two awaits: its two fields, the verifiers that still
run, the snapshot that each drain in progress awaits, and what was observed and returned so far. -/
structure DeliveryState (Drain : Type) where
  autoVerifyDelivery : Bool
  pendingVerifies : List Nat
  deliveryResults : List Delivery
  spawned : Nat
  running : Nat → Option Verifier
  awaiting : Drain → Option (List Nat)
  observed : List Delivery
  returned : List (Drained Drain)

/-- The steps, each up to its next await, with the clock readings that it takes. -/
inductive DeliveryEvent (Drain : Type) where
  | setUnsafeFastSubmit (unsafeFast : Bool)
  | submitted (r : TxResult) (now now' : Int)
  | polled (verifier : Nat) (poll : Poll) (now : Int)
  | awaitPendingVerifies (drain : Drain)
  | settled (drain : Drain)

namespace DeliveryState

variable {Drain : Type}

def init (autoVerifyDelivery : Bool) : DeliveryState Drain :=
  ⟨autoVerifyDelivery, [], [], 0, fun _ => none, fun _ => none, [], []⟩

/-- Everything that was returned, in the order of the drains. -/
def drained (s : DeliveryState Drain) : List Delivery := s.returned.flatMap Drained.results

/-- The condition under which a submission leaves a verifier behind. -/
def verifies (s : DeliveryState Drain) (r : TxResult) : Bool :=
  s.autoVerifyDelivery && isTruthy (some r.hash) && !isFinalResult r

/-- The first reading sets the deadline, the second one is compared with it. A verifier that never
enters its loop has left the set before it is added to it. -/
def spawnDeliveryVerifier (s : DeliveryState Drain) (txHash : Value) (now now' : Int) :
    DeliveryState Drain :=
  let deadline := now + 5000
  { s with
    spawned := s.spawned + 1
    running :=
      if now' < deadline then Function.update s.running s.spawned (some ⟨txHash, deadline⟩)
      else s.running
    pendingVerifies := s.pendingVerifies ++ [s.spawned] }

/-- The `finally` block of a verifier. -/
def finish (s : DeliveryState Drain) (verifier : Nat) : DeliveryState Drain :=
  { s with
    running := Function.update s.running verifier none
    pendingVerifies := s.pendingVerifies.filter (· ≠ verifier) }

def observe (s : DeliveryState Drain) (d : Delivery) : DeliveryState Drain :=
  { s with deliveryResults := s.deliveryResults ++ [d], observed := s.observed ++ [d] }

/-- The delivery result that a poll brings. One that cannot be classified counts as a failure. -/
def pollResult (txHash : Value) : Poll → Option TxResult
  | .nothing => none
  | .executed code height log events =>
    (txFromEngineCode code { hash := some txHash, height, log, events }).toOption

variable [DecidableEq Drain]

/-- The loop of `awaitPendingVerifies` from its test on. -/
def drainLoop (s : DeliveryState Drain) (drain : Drain) : DeliveryState Drain :=
  if s.pendingVerifies.isEmpty then
    { s with
      deliveryResults := []
      awaiting := Function.update s.awaiting drain none
      returned := s.returned ++ [⟨drain, s.deliveryResults⟩] }
  else { s with awaiting := Function.update s.awaiting drain (some s.pendingVerifies) }

/-- One step, where the event can happen. -/
def step (s : DeliveryState Drain) : DeliveryEvent Drain → Option (DeliveryState Drain)
  | .setUnsafeFastSubmit unsafeFast => some { s with autoVerifyDelivery := !unsafeFast }
  | .submitted r now now' =>
    some (if s.verifies r then s.spawnDeliveryVerifier r.hash now now' else s)
  | .polled verifier poll now =>
    (s.running verifier).map fun v =>
      match pollResult v.txHash poll with
      | some r => (s.observe ⟨verifier, r⟩).finish verifier
      | none => if now < v.deadline then s else s.finish verifier
  | .awaitPendingVerifies drain =>
    match s.awaiting drain with
    | none => some (s.drainLoop drain)
    | some _ => none
  | .settled drain =>
    match s.awaiting drain with
    | none => none
    | some snapshot =>
      if snapshot.all fun v => (s.running v).isNone then some (s.drainLoop drain) else none

/-- Everything that a step can do. -/
inductive Steps (s : DeliveryState Drain) : DeliveryState Drain → Prop
  | idle : Steps s s
  | setUnsafeFastSubmit (unsafeFast : Bool) : Steps s { s with autoVerifyDelivery := !unsafeFast }
  | spawned (txHash : Value) (now now' : Int) : Steps s (s.spawnDeliveryVerifier txHash now now')
  | observed (verifier : Nat) (v : Verifier) (r : TxResult)
      (hrunning : s.running verifier = some v) :
      Steps s ((s.observe ⟨verifier, r⟩).finish verifier)
  | timedOut (verifier : Nat) (v : Verifier) (hrunning : s.running verifier = some v) :
      Steps s (s.finish verifier)
  | awaits (drain : Drain) (hpending : s.pendingVerifies ≠ []) :
      Steps s { s with awaiting := Function.update s.awaiting drain (some s.pendingVerifies) }
  | returns (drain : Drain) (hpending : s.pendingVerifies = []) :
      Steps s { s with
        deliveryResults := []
        awaiting := Function.update s.awaiting drain none
        returned := s.returned ++ [⟨drain, s.deliveryResults⟩] }

theorem steps_drainLoop (s : DeliveryState Drain) (drain : Drain) :
    Steps s (s.drainLoop drain) := by
  rw [drainLoop]
  split_ifs with hempty
  · exact .returns drain (List.isEmpty_iff.mp hempty)
  · exact .awaits drain fun h => hempty (List.isEmpty_iff.mpr h)

theorem steps_of_step {s s' : DeliveryState Drain} {e : DeliveryEvent Drain}
    (h : s.step e = some s') : Steps s s' := by
  cases e with
  | setUnsafeFastSubmit unsafeFast => exact Option.some.inj h ▸ .setUnsafeFastSubmit unsafeFast
  | submitted r now now' =>
    obtain rfl := Option.some.inj h
    split_ifs
    · exact .spawned r.hash now now'
    · exact .idle
  | polled verifier poll now =>
    obtain ⟨v, hv, rfl⟩ := Option.map_eq_some_iff.mp h
    split
    · next r _ => exact .observed verifier v r hv
    · split_ifs
      · exact .idle
      · exact .timedOut verifier v hv
  | awaitPendingVerifies drain =>
    rw [step] at h
    split at h
    · exact Option.some.inj h ▸ steps_drainLoop s drain
    · cases h
  | settled drain =>
    rw [step] at h
    split at h
    · cases h
    · split_ifs at h
      exact Option.some.inj h ▸ steps_drainLoop s drain

/-- Every observed result is either returned or still in the buffer, in the order of observation,
and a verifier observes one result at most, with which it ends. -/
structure Inv (s : DeliveryState Drain) : Prop where
  ledger : s.observed = s.drained ++ s.deliveryResults
  distinct : (s.observed.map Delivery.verifier).Nodup
  finished : ∀ d ∈ s.observed, d.verifier < s.spawned ∧ s.running d.verifier = none
  pending : ∀ v, (s.running v).isSome → v ∈ s.pendingVerifies
  made : ∀ v ∈ s.pendingVerifies, v < s.spawned

omit [DecidableEq Drain] in
theorem inv_init (autoVerifyDelivery : Bool) :
    Inv (init autoVerifyDelivery : DeliveryState Drain) := by
  constructor <;> simp [init, drained]

omit [DecidableEq Drain] in
theorem running_spawn (s : DeliveryState Drain) (txHash : Value) (now now' : Int) {v : Nat}
    (hv : v ≠ s.spawned) :
    (s.spawnDeliveryVerifier txHash now now').running v = s.running v := by
  simp only [spawnDeliveryVerifier]
  split_ifs
  · exact Function.update_of_ne hv ..
  · rfl

omit [DecidableEq Drain] in
theorem running_finish (s : DeliveryState Drain) (v u : Nat) :
    (s.finish v).running u = if u = v then none else s.running u :=
  Function.update_apply ..

omit [DecidableEq Drain] in
theorem mem_finish {s : DeliveryState Drain} {v u : Nat} :
    u ∈ (s.finish v).pendingVerifies ↔ u ∈ s.pendingVerifies ∧ u ≠ v := by
  simp [finish]

omit [DecidableEq Drain] in
theorem Inv.spawn {s : DeliveryState Drain} (hi : Inv s) (txHash : Value) (now now' : Int) :
    Inv (s.spawnDeliveryVerifier txHash now now') := by
  refine ⟨hi.ledger, hi.distinct, ?_, ?_, ?_⟩
  · intro d hd
    obtain ⟨hlt, hnone⟩ := hi.finished d hd
    refine ⟨Nat.lt_succ_of_lt hlt, ?_⟩
    rw [running_spawn s txHash now now' (Nat.ne_of_lt hlt)]
    exact hnone
  · intro v hv
    by_cases hnew : v = s.spawned
    · exact List.mem_append_right _ (by simp [hnew])
    · rw [running_spawn s txHash now now' hnew] at hv
      exact List.mem_append_left _ (hi.pending v hv)
  · intro v hv
    obtain hold | hnew := List.mem_append.mp hv
    · exact Nat.lt_succ_of_lt (hi.made v hold)
    · obtain rfl := List.mem_singleton.mp hnew
      exact Nat.lt_succ_self _

omit [DecidableEq Drain] in
theorem Inv.finish {s : DeliveryState Drain} (hi : Inv s) (v : Nat) : Inv (s.finish v) := by
  refine ⟨hi.ledger, hi.distinct, ?_, ?_, ?_⟩
  · intro d hd
    refine ⟨(hi.finished d hd).1, ?_⟩
    rw [running_finish, (hi.finished d hd).2, ite_self]
  · intro u hu
    rw [running_finish] at hu
    split_ifs at hu with hsame
    · cases hu
    · exact mem_finish.mpr ⟨hi.pending u hu, hsame⟩
  · intro u hu
    exact hi.made u (mem_finish.mp hu).1

omit [DecidableEq Drain] in
/-- The first result of a running verifier is new. -/
theorem Inv.observe {s : DeliveryState Drain} (hi : Inv s) {v : Nat} {verifier : Verifier}
    (hrunning : s.running v = some verifier) (r : TxResult) :
    Inv ((s.observe ⟨v, r⟩).finish v) := by
  have hnew : v ∉ s.observed.map Delivery.verifier := by
    intro hmem
    obtain ⟨d, hd, rfl⟩ := List.mem_map.mp hmem
    rw [(hi.finished d hd).2] at hrunning
    cases hrunning
  have hlt : v < s.spawned := hi.made v (hi.pending v (by simp [hrunning]))
  have hf := hi.finish v
  refine ⟨?_, ?_, ?_, hf.pending, hf.made⟩
  · show s.observed ++ [⟨v, r⟩] = s.drained ++ (s.deliveryResults ++ [(⟨v, r⟩ : Delivery)])
    rw [hi.ledger, List.append_assoc]
  · show ((s.observed ++ [(⟨v, r⟩ : Delivery)]).map Delivery.verifier).Nodup
    rw [List.map_append, List.nodup_append']
    refine ⟨hi.distinct, List.nodup_singleton _, ?_⟩
    simpa using hnew
  · intro d hd
    obtain hold | hlast := List.mem_append.mp hd
    · exact hf.finished d hold
    · obtain rfl := List.mem_singleton.mp hlast
      refine ⟨hlt, ?_⟩
      rw [running_finish, if_pos rfl]

theorem Inv.returns {s : DeliveryState Drain} (hi : Inv s) (drain : Drain) :
    Inv { s with
      deliveryResults := []
      awaiting := Function.update s.awaiting drain none
      returned := s.returned ++ [⟨drain, s.deliveryResults⟩] } := by
  refine ⟨?_, hi.distinct, hi.finished, hi.pending, hi.made⟩
  simp only [drained, List.flatMap_append, List.append_nil, List.flatMap_singleton]
  exact hi.ledger

theorem inv_steps {s s' : DeliveryState Drain} (hi : Inv s) (h : Steps s s') : Inv s' := by
  cases h with
  | idle => exact hi
  | setUnsafeFastSubmit => exact ⟨hi.ledger, hi.distinct, hi.finished, hi.pending, hi.made⟩
  | spawned txHash now now' => exact hi.spawn txHash now now'
  | observed verifier v r hrunning => exact hi.observe hrunning r
  | timedOut verifier v hrunning => exact hi.finish verifier
  | awaits drain => exact ⟨hi.ledger, hi.distinct, hi.finished, hi.pending, hi.made⟩
  | returns drain => exact hi.returns drain

theorem inv_run {s s' : DeliveryState Drain} {events : List (DeliveryEvent Drain)} (hi : Inv s)
    (h : run step s events = some s') : Inv s' :=
  run_invariant Inv (fun _ _ _ hstep hs => inv_steps hs (steps_of_step hstep)) h hi

/-- A drain that returns finds no verifier running and returns all that was observed so far. -/
theorem return_of_steps {s s' : DeliveryState Drain} (hi : Inv s) (h : Steps s s') :
    s'.returned = s.returned ∨
      (∀ v, s.running v = none) ∧ s.returned.length < s'.returned.length ∧
        s'.drained = s.observed ∧ s'.observed = s.observed := by
  cases h with
  | returns drain hpending =>
    refine .inr ⟨?_, by simp, ?_, rfl⟩
    · intro v
      by_contra hsome
      have hmem := hi.pending v (Option.isSome_iff_ne_none.mpr hsome)
      rw [hpending] at hmem
      cases hmem
    · have hledger := (hi.returns drain).ledger
      exact (hledger.trans (List.append_nil _)).symm
  | _ => exact .inl rfl

omit [DecidableEq Drain] in
theorem drained_subset_observed {s : DeliveryState Drain} (hi : Inv s) {d : Delivery}
    (hd : d ∈ s.drained) : d ∈ s.observed :=
  hi.ledger ▸ List.mem_append_left _ hd

theorem observed_steps {s s' : DeliveryState Drain} {d : Delivery} (h : Steps s s')
    (hd : d ∈ s.observed) : d ∈ s'.observed := by
  cases h with
  | observed verifier v r _ => exact List.mem_append_left _ hd
  | _ => exact hd

theorem drained_steps {s s' : DeliveryState Drain} {d : Delivery} (hi : Inv s) (h : Steps s s')
    (hd : d ∈ s.drained) : d ∈ s'.drained := by
  obtain hsame | ⟨-, -, hall, -⟩ := return_of_steps hi h
  · rw [drained, hsame]
    exact hd
  · exact hall ▸ drained_subset_observed hi hd

/-- A result that was observed before a drain returns is among the returned ones after it. -/
theorem drained_of_run {s s' : DeliveryState Drain} {events : List (DeliveryEvent Drain)}
    {d : Delivery} (hi : Inv s) (hd : d ∈ s.observed) (h : run step s events = some s')
    (hreturned : s.returned.length < s'.returned.length) : d ∈ s'.drained := by
  have hkeep : Inv s' ∧ d ∈ s'.observed ∧ (s'.returned = s.returned ∨ d ∈ s'.drained) := by
    refine run_invariant (fun t => Inv t ∧ d ∈ t.observed ∧
      (t.returned = s.returned ∨ d ∈ t.drained)) ?_ h ⟨hi, hd, .inl rfl⟩
    rintro t e t' hstep ⟨ht, hobserved, hdrained⟩
    have hsteps := steps_of_step hstep
    refine ⟨inv_steps ht hsteps, observed_steps hsteps hobserved, ?_⟩
    obtain hsame | ⟨-, -, hall, -⟩ := return_of_steps ht hsteps
    · obtain hearlier | hbefore := hdrained
      · exact .inl (hsame.trans hearlier)
      · exact .inr (drained_steps ht hsteps hbefore)
    · exact .inr (hall ▸ hobserved)
  obtain ⟨-, -, hsame | hdrained⟩ := hkeep
  · rw [hsame] at hreturned
    exact absurd hreturned (Nat.lt_irrefl _)
  · exact hdrained

/-- The pending set holds no finished verifier. -/
def Exact (s : DeliveryState Drain) : Prop := ∀ v ∈ s.pendingVerifies, (s.running v).isSome

/-- A verifier that this step spawns finds its deadline ahead of the clock. -/
def PunctualStep (s : DeliveryState Drain) : DeliveryEvent Drain → Prop
  | .submitted r now now' => s.verifies r = true → now' < now + 5000
  | _ => True

/-- Whenever a verifier is spawned the clock advances by less than its 5 s between the two
readings. -/
def Punctual : DeliveryState Drain → List (DeliveryEvent Drain) → Prop :=
  everyStep step PunctualStep

/-- A finished verifier in the pending set. -/
def Stuck (s : DeliveryState Drain) (v : Nat) : Prop :=
  v ∈ s.pendingVerifies ∧ s.running v = none

omit [DecidableEq Drain] in
theorem exact_spawn {s : DeliveryState Drain} (he : s.Exact) (txHash : Value)
    {now now' : Int} (hpunctual : now' < now + 5000) :
    (s.spawnDeliveryVerifier txHash now now').Exact := by
  intro v hv
  by_cases hnew : v = s.spawned
  · rw [hnew]
    simp [spawnDeliveryVerifier, hpunctual]
  · rw [running_spawn s txHash now now' hnew]
    obtain hold | hlast := List.mem_append.mp hv
    · exact he v hold
    · exact absurd (List.mem_singleton.mp hlast) hnew

omit [DecidableEq Drain] in
theorem exact_finish {s : DeliveryState Drain} (he : s.Exact) (v : Nat) : (s.finish v).Exact := by
  intro u hu
  obtain ⟨hmem, hne⟩ := mem_finish.mp hu
  rw [running_finish, if_neg hne]
  exact he u hmem

theorem exact_drainLoop {s : DeliveryState Drain} (he : s.Exact) (drain : Drain) :
    (s.drainLoop drain).Exact := by
  rw [drainLoop]
  split_ifs <;> exact he

theorem exact_step {s s' : DeliveryState Drain} {e : DeliveryEvent Drain}
    (he : s.Exact) (hpunctual : s.PunctualStep e) (h : s.step e = some s') : s'.Exact := by
  cases e with
  | setUnsafeFastSubmit unsafeFast => exact Option.some.inj h ▸ he
  | submitted r now now' =>
    obtain rfl := Option.some.inj h
    split_ifs with hverifies
    · exact exact_spawn he r.hash (hpunctual hverifies)
    · exact he
  | polled verifier poll now =>
    obtain ⟨v, -, rfl⟩ := Option.map_eq_some_iff.mp h
    split
    · exact exact_finish (s := s.observe _) he verifier
    · split_ifs
      · exact he
      · exact exact_finish he verifier
  | awaitPendingVerifies drain =>
    rw [step] at h
    split at h
    · exact Option.some.inj h ▸ exact_drainLoop he drain
    · cases h
  | settled drain =>
    rw [step] at h
    split at h
    · cases h
    · split_ifs at h
      exact Option.some.inj h ▸ exact_drainLoop he drain

/-- Nothing removes a finished verifier. -/
theorem stuck_steps {s s' : DeliveryState Drain} {v : Nat} (hi : Inv s) (hv : s.Stuck v)
    (h : Steps s s') : s'.Stuck v := by
  have hfinish : ∀ u, s.running u ≠ none → (s.finish u).Stuck v := by
    intro u hu
    have hne : v ≠ u := fun hsame => hu (hsame ▸ hv.2)
    exact ⟨mem_finish.mpr ⟨hv.1, hne⟩, by rw [running_finish, if_neg hne]; exact hv.2⟩
  cases h with
  | spawned txHash now now' =>
    refine ⟨List.mem_append_left _ hv.1, ?_⟩
    rw [running_spawn s txHash now now' (Nat.ne_of_lt (hi.made v hv.1))]
    exact hv.2
  | observed u w r hrunning => exact hfinish u (by simp [hrunning])
  | timedOut u w hrunning => exact hfinish u (by simp [hrunning])
  | _ => exact hv

theorem stuck_of_late {s s' : DeliveryState Drain} {e : DeliveryEvent Drain} (hi : Inv s)
    (hlate : ¬ s.PunctualStep e) (h : s.step e = some s') : s'.Stuck s.spawned := by
  cases e with
  | submitted r now now' =>
    obtain ⟨hverifies, hnow⟩ := Classical.not_imp.mp hlate
    obtain rfl := Option.some.inj h
    rw [if_pos hverifies]
    refine ⟨List.mem_append_right _ (List.mem_singleton_self _), ?_⟩
    have hnone : s.running s.spawned = none := by
      by_contra hsome
      have hlt := hi.made _ (hi.pending _ (Option.isSome_iff_ne_none.mpr hsome))
      exact Nat.lt_irrefl _ hlt
    simpa [spawnDeliveryVerifier, hnow] using hnone
  | _ => exact absurd trivial hlate

/-- While a finished verifier is in the set no drain returns. -/
theorem returned_of_stuck {s s' : DeliveryState Drain} {v : Nat}
    {events : List (DeliveryEvent Drain)} (hi : Inv s) (hv : s.Stuck v)
    (h : run step s events = some s') : s'.returned = s.returned := by
  have hkeep : Inv s' ∧ s'.Stuck v ∧ s'.returned = s.returned := by
    refine run_invariant (fun t => Inv t ∧ t.Stuck v ∧ t.returned = s.returned) ?_ h
      ⟨hi, hv, rfl⟩
    rintro t e t' hstep ⟨ht, hstuck, hreturned⟩
    have hsteps := steps_of_step hstep
    refine ⟨inv_steps ht hsteps, stuck_steps ht hstuck hsteps, ?_⟩
    rw [← hreturned]
    cases hsteps with
    | returns drain hpending =>
      have hmem := hstuck.1
      rw [hpending] at hmem
      cases hmem
    | _ => rfl
  exact hkeep.2.2

/-- A run leaves finished verifiers in the set exactly when some deadline had passed before its
verifier began to poll. -/
theorem exact_run_iff {s s' : DeliveryState Drain} {events : List (DeliveryEvent Drain)}
    (hi : Inv s) (he : s.Exact) (h : run step s events = some s') :
    s'.Exact ↔ Punctual s events := by
  induction events generalizing s with
  | nil => exact iff_of_true (Option.some.inj h ▸ he) trivial
  | cons e es ih =>
    obtain ⟨t, hstep, htail⟩ := run_cons_eq_some.mp h
    have ht : Inv t := inv_steps hi (steps_of_step hstep)
    by_cases hpunctual : s.PunctualStep e
    · rw [ih ht (exact_step he hpunctual hstep) htail, Punctual, everyStep]
      constructor
      · intro hrest
        refine ⟨hpunctual, fun t' hstep' => ?_⟩
        rw [hstep] at hstep'
        exact Option.some.inj hstep' ▸ hrest
      · intro hboth
        exact hboth.2 t hstep
    · refine iff_of_false ?_ fun hboth => hpunctual hboth.1
      have hstuck : Inv s' ∧ s'.Stuck s.spawned :=
        run_invariant (fun t => Inv t ∧ t.Stuck s.spawned)
          (fun _ _ _ hs ht => ⟨inv_steps ht.1 (steps_of_step hs),
            stuck_steps ht.1 ht.2 (steps_of_step hs)⟩)
          htail ⟨ht, stuck_of_late hi hpunctual hstep⟩
      intro hexact
      have hsome := hexact _ hstuck.2.1
      rw [hstuck.2.2] at hsome
      cases hsome

/-- Without a finished verifier in the set, a drain returns once no verifier runs. -/
theorem settled_of_exact {s : DeliveryState Drain} (he : s.Exact) (hnone : ∀ v, s.running v = none)
    {drain : Drain} {snapshot : List Nat} (hawaiting : s.awaiting drain = some snapshot) :
    ∃ s', s.step (.settled drain) = some s' ∧
      s'.returned = s.returned ++ [⟨drain, s.deliveryResults⟩] := by
  have hall : (snapshot.all fun v => (s.running v).isNone) = true := by
    simp [hnone]
  have hpending : s.pendingVerifies.isEmpty = true := by
    rw [List.isEmpty_iff, List.eq_nil_iff_forall_not_mem]
    intro v hv
    have hsome := he v hv
    rw [hnone v] at hsome
    cases hsome
  refine ⟨s.drainLoop drain, ?_, ?_⟩
  · simp only [step, hawaiting, hall, if_true]
  · rw [drainLoop, if_pos hpending]

/-- Over every interleaving and every clock each observed result is returned at most once, and once
for sure by the first drain that returns after it; a drain returns only what was observed, and only
when no verifier runs. The pending set is the set of running verifiers, so that finished ones block
no drain, exactly when the clock lets every spawned verifier poll at all. -/
theorem awaitPendingVerifies_drains (autoVerifyDelivery : Bool)
    (events : List (DeliveryEvent Drain)) (s : DeliveryState Drain)
    (h : run step (init autoVerifyDelivery) events = some s) :
    (s.drained.map Delivery.verifier).Nodup ∧
    (∀ d ∈ s.drained, d ∈ s.observed) ∧
    (∀ later s', run step s later = some s' → s.returned.length < s'.returned.length →
      ∀ d ∈ s.observed, d ∈ s'.drained) ∧
    (∀ e s', s.step e = some s' → s.returned.length < s'.returned.length →
      ∀ v, s.running v = none) ∧
    ((∀ v, v ∈ s.pendingVerifies ↔ (s.running v).isSome) ↔
      Punctual (init autoVerifyDelivery) events) ∧
    (Punctual (init autoVerifyDelivery) events → (∀ v, s.running v = none) →
      ∀ drain snapshot, s.awaiting drain = some snapshot →
        ∃ s', s.step (.settled drain) = some s' ∧
          s'.returned = s.returned ++ [⟨drain, s.deliveryResults⟩]) := by
  have hstart : Inv (init autoVerifyDelivery : DeliveryState Drain) := inv_init autoVerifyDelivery
  have hi : Inv s := inv_run hstart h
  have hexact : s.Exact ↔ Punctual (init autoVerifyDelivery) events := by
    refine exact_run_iff hstart ?_ h
    intro v hv
    cases hv
  refine ⟨?_, fun d => drained_subset_observed hi, ?_, ?_, ?_, ?_⟩
  · have hledger := hi.distinct
    rw [hi.ledger, List.map_append] at hledger
    exact hledger.of_append_left
  · intro later s' hlater hreturned d hd
    exact drained_of_run hi hd hlater hreturned
  · intro e s' hstep hreturned
    obtain hsame | ⟨hnone, -⟩ := return_of_steps hi (steps_of_step hstep)
    · rw [hsame] at hreturned
      exact absurd hreturned (Nat.lt_irrefl _)
    · exact hnone
  · rw [← hexact]
    constructor
    · intro hiff v hv
      exact (hiff v).mp hv
    · intro he v
      exact ⟨he v, hi.pending v⟩
  · intro hpunctual hnone drain snapshot hawaiting
    exact settled_of_exact (hexact.mpr hpunctual) hnone hawaiting

/-- A submission that is verified in the background, executed, and drained. -/
def executedRun : List (DeliveryEvent Nat) :=
  [.submitted (txTimeout (.string (text "ab")) none) 0 10, .awaitPendingVerifies 0,
    .polled 0 (.executed (.finite 0) none none none) 300, .settled 0]

theorem awaitPendingVerifies_drains_executedRun :
    ∃ s, run step (init true) executedRun = some s ∧ s.drained.length = 1 ∧
      (s.drained.map Delivery.verifier).Nodup ∧ ∀ d ∈ s.drained, d ∈ s.observed := by
  have hrun : ∃ s, run step (init true) executedRun = some s ∧ s.drained.length = 1 := ⟨_, rfl, rfl⟩
  obtain ⟨s, hs, hlen⟩ := hrun
  have hall := awaitPendingVerifies_drains true executedRun s hs
  exact ⟨s, hs, hlen, hall.1, hall.2.1⟩

/-- The clock jumps by 5 s between the two readings of a spawn. -/
def clockJump : List (DeliveryEvent Nat) :=
  [.submitted (txTimeout (.string (text "ab")) none) 0 5000, .awaitPendingVerifies 0]

/-- The verifier has finished and stays in the set, and no drain ever returns. -/
theorem pendingVerifies_stuck : ∃ s : DeliveryState Nat, run step (init true) clockJump = some s ∧
    0 ∈ s.pendingVerifies ∧ s.running 0 = none ∧ s.awaiting 0 = some [0] ∧
    ∀ later s', run step s later = some s' → s'.returned = [] := by
  have hrun : ∃ s : DeliveryState Nat, run step (init true) clockJump = some s ∧ s.Stuck 0 ∧
      s.awaiting 0 = some [0] ∧ s.returned = [] :=
    ⟨_, rfl, ⟨List.mem_singleton_self _, rfl⟩, rfl, rfl⟩
  obtain ⟨s, hs, hstuck, hawaiting, hreturned⟩ := hrun
  refine ⟨s, hs, hstuck.1, hstuck.2, hawaiting, fun later s' hlater => ?_⟩
  exact (returned_of_stuck (inv_run (inv_init true) hs) hstuck hlater).trans hreturned

end DeliveryState

end TradingSdk.Client
