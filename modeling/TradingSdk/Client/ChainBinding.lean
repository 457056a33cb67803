import Mathlib.Logic.Function.Basic
import TradingSdk.Transition.Run

namespace TradingSdk.Client

open Transition

/-- The promise of one `/status` fetch. -/
inductive FetchPromise (ChainId : Type) where
  | fetching
  | resolved (chainId : ChainId)
  | rejected

/-- One call that needs the chain id: `ready`, a submission or the auth of a stream. It awaits a
promise or a chain id that was cached when it asked, and then goes on with it or fails. -/
inductive BindingCall (ChainId : Type) where
  | idle
  | awaiting (promise : Nat)
  | cached (chainId : ChainId)
  | bound (chainId : ChainId)
  | failed

/-- The two fields of the client, the promises made so far and the calls that await them. -/
structure ChainBinding (Caller ChainId : Type) where
  chainId : Option ChainId
  chainIdPromise : Option Nat
  made : Nat
  promise : Nat → FetchPromise ChainId
  call : Caller → BindingCall ChainId

/-- What happens between two awaits: a call of `resolveChainId`, the outcome of a fetch, a call
that resumes with its promise, and a failure of the codec that a call initializes beside it. -/
inductive BindingEvent (Caller ChainId : Type) where
  | resolveChainId (caller : Caller)
  | fetched (promise : Nat) (bound : ChainId)
  | fetchFailed (promise : Nat)
  | resume (caller : Caller)
  | initWasmFailed (caller : Caller)

namespace ChainBinding

variable {Caller ChainId : Type}

/-- A fresh client, with or without an explicit chain id. -/
def init (chainId : Option ChainId) : ChainBinding Caller ChainId :=
  ⟨chainId, none, 0, fun _ => .rejected, fun _ => .idle⟩

/-- A `/status` fetch that has not come back. -/
def InFlight (s : ChainBinding Caller ChainId) (promise : Nat) : Prop :=
  promise < s.made ∧ s.promise promise = .fetching

def settle (s : ChainBinding Caller ChainId) (promise : Nat) (p : FetchPromise ChainId) :
    ChainBinding Caller ChainId :=
  { s with promise := Function.update s.promise promise p }

theorem promise_settle (s : ChainBinding Caller ChainId) (promise other : Nat)
    (p : FetchPromise ChainId) :
    (s.settle promise p).promise other = if other = promise then p else s.promise other :=
  Function.update_apply ..

variable [DecidableEq Caller]

def setCall (s : ChainBinding Caller ChainId) (caller : Caller) (c : BindingCall ChainId) :
    ChainBinding Caller ChainId :=
  { s with call := Function.update s.call caller c }

theorem call_setCall (s : ChainBinding Caller ChainId) (caller other : Caller)
    (c : BindingCall ChainId) :
    (s.setCall caller c).call other = if other = caller then c else s.call other :=
  Function.update_apply ..

/-- The cached id, else the promise in flight, else a new fetch. -/
def resolveChainId (s : ChainBinding Caller ChainId) (caller : Caller) :
    ChainBinding Caller ChainId :=
  match s.chainId with
  | some chainId => s.setCall caller (.cached chainId)
  | none =>
    match s.chainIdPromise with
    | some promise => s.setCall caller (.awaiting promise)
    | none =>
      { (s.settle s.made .fetching).setCall caller (.awaiting s.made) with
        chainIdPromise := some s.made
        made := s.made + 1 }

section Step

variable (allowUnbound : Bool) (unbound : ChainId)

/-- One step, where the event can happen. -/
def step (s : ChainBinding Caller ChainId) :
    BindingEvent Caller ChainId → Option (ChainBinding Caller ChainId)
  | .resolveChainId caller =>
    match s.call caller with
    | .idle => some (s.resolveChainId caller)
    | _ => none
  | .fetched promise bound =>
    match decide (promise < s.made), s.promise promise with
    | true, .fetching => some { s.settle promise (.resolved bound) with chainId := some bound }
    | _, _ => none
  | .fetchFailed promise =>
    match decide (promise < s.made), s.promise promise with
    | true, .fetching =>
      if allowUnbound then
        some { s.settle promise (.resolved unbound) with
          chainIdPromise := none
          chainId := some unbound }
      else some { s.settle promise .rejected with chainIdPromise := none }
    | _, _ => none
  | .resume caller =>
    match s.call caller with
    | .cached chainId => some (s.setCall caller (.bound chainId))
    | .awaiting promise =>
      match s.promise promise with
      | .fetching => none
      | .resolved chainId => some (s.setCall caller (.bound chainId))
      | .rejected => some (s.setCall caller .failed)
    | _ => none
  | .initWasmFailed caller =>
    match s.call caller with
    | .cached _ => some (s.setCall caller .failed)
    | .awaiting _ => some (s.setCall caller .failed)
    | _ => none

variable {allowUnbound unbound}

/-- Everything that a step can do. -/
inductive Steps (s : ChainBinding Caller ChainId) : ChainBinding Caller ChainId → Prop
  | cached (caller : Caller) (chainId : ChainId) (hcall : s.call caller = .idle)
      (hcached : s.chainId = some chainId) : Steps s (s.setCall caller (.cached chainId))
  | joined (caller : Caller) (promise : Nat) (hcall : s.call caller = .idle)
      (hcached : s.chainId = none) (hpromise : s.chainIdPromise = some promise) :
      Steps s (s.setCall caller (.awaiting promise))
  | fetches (caller : Caller) (hcall : s.call caller = .idle) (hcached : s.chainId = none)
      (hpromise : s.chainIdPromise = none) :
      Steps s { (s.settle s.made .fetching).setCall caller (.awaiting s.made) with
        chainIdPromise := some s.made
        made := s.made + 1 }
  | fetched (promise : Nat) (bound : ChainId) (hflight : s.InFlight promise) :
      Steps s { s.settle promise (.resolved bound) with chainId := some bound }
  | unbound (promise : Nat) (chainId : ChainId) (hflight : s.InFlight promise) :
      Steps s { s.settle promise (.resolved chainId) with
        chainIdPromise := none
        chainId := some chainId }
  | fetchFailed (promise : Nat) (hflight : s.InFlight promise) :
      Steps s { s.settle promise .rejected with chainIdPromise := none }
  | bound (caller : Caller) (chainId : ChainId)
      (hcall : s.call caller = .cached chainId ∨
        ∃ promise, s.call caller = .awaiting promise ∧ s.promise promise = .resolved chainId) :
      Steps s (s.setCall caller (.bound chainId))
  | failed (caller : Caller)
      (hcall : (∃ chainId, s.call caller = .cached chainId) ∨
        ∃ promise, s.call caller = .awaiting promise) :
      Steps s (s.setCall caller .failed)

omit [DecidableEq Caller] in
theorem inFlight_of_match {s : ChainBinding Caller ChainId} {promise : Nat}
    (hmade : decide (promise < s.made) = true) (hfetching : s.promise promise = .fetching) :
    s.InFlight promise :=
  ⟨of_decide_eq_true hmade, hfetching⟩

theorem steps_of_step {s s' : ChainBinding Caller ChainId} {e : BindingEvent Caller ChainId}
    (h : step allowUnbound unbound s e = some s') : Steps s s' := by
  cases e with
  | resolveChainId caller =>
    rw [step] at h
    split at h
    · next hidle =>
      obtain rfl := Option.some.inj h
      rw [resolveChainId]
      cases hc : s.chainId with
      | some chainId => exact .cached caller chainId hidle hc
      | none =>
        cases hp : s.chainIdPromise with
        | some promise => exact .joined caller promise hidle hc hp
        | none => exact .fetches caller hidle hc hp
    · cases h
  | fetched promise bound =>
    rw [step] at h
    split at h
    · next hmade hfetching =>
      exact Option.some.inj h ▸ .fetched promise bound (inFlight_of_match hmade hfetching)
    · cases h
  | fetchFailed promise =>
    rw [step] at h
    split at h
    · next hmade hfetching =>
      split_ifs at h
      · exact Option.some.inj h ▸ .unbound promise unbound (inFlight_of_match hmade hfetching)
      · exact Option.some.inj h ▸ .fetchFailed promise (inFlight_of_match hmade hfetching)
    · cases h
  | resume caller =>
    rw [step] at h
    split at h
    · next chainId hcall => exact Option.some.inj h ▸ .bound caller chainId (.inl hcall)
    · next promise hcall =>
      split at h
      · cases h
      · next chainId hresolved =>
        exact Option.some.inj h ▸ .bound caller chainId (.inr ⟨promise, hcall, hresolved⟩)
      · exact Option.some.inj h ▸ .failed caller (.inr ⟨promise, hcall⟩)
    · cases h
  | initWasmFailed caller =>
    rw [step] at h
    split at h
    · next chainId hcall => exact Option.some.inj h ▸ .failed caller (.inl ⟨chainId, hcall⟩)
    · next promise hcall => exact Option.some.inj h ▸ .failed caller (.inr ⟨promise, hcall⟩)
    · cases h

/-- A fetch is out only while nothing is cached, and the client keeps its promise. Every value that
a call holds or may still get from a promise is the cached one. -/
structure Inv (s : ChainBinding Caller ChainId) : Prop where
  flight : ∀ promise, s.InFlight promise →
    s.chainIdPromise = some promise ∧ s.chainId = none
  kept : ∀ promise, s.chainIdPromise = some promise → promise < s.made
  awaited : ∀ caller promise, s.call caller = .awaiting promise → promise < s.made
  resolved : ∀ promise chainId, s.promise promise = .resolved chainId → s.chainId = some chainId
  cached : ∀ caller chainId, s.call caller = .cached chainId → s.chainId = some chainId
  bound : ∀ caller chainId, s.call caller = .bound chainId → s.chainId = some chainId

omit [DecidableEq Caller] in
theorem inv_init (chainId : Option ChainId) :
    Inv (init chainId : ChainBinding Caller ChainId) := by
  constructor <;> simp [init, InFlight]

/-- Only the fetch in flight can fill the cache, and then it was empty. -/
theorem chainId_of_steps {s s' : ChainBinding Caller ChainId} {chainId : ChainId} (hi : Inv s)
    (h : Steps s s') (hc : s.chainId = some chainId) : s'.chainId = some chainId := by
  cases h with
  | fetched promise bound hflight =>
    rw [(hi.flight promise hflight).2] at hc
    cases hc
  | unbound promise bound hflight =>
    rw [(hi.flight promise hflight).2] at hc
    cases hc
  | _ => exact hc

/-- Changing the state of one call keeps the invariant when the new state is justified. -/
theorem Inv.setCall {s : ChainBinding Caller ChainId} (hi : Inv s) (caller : Caller)
    {c : BindingCall ChainId} (hawaiting : ∀ promise, c = .awaiting promise → promise < s.made)
    (hvalue : ∀ chainId, c = .cached chainId ∨ c = .bound chainId → s.chainId = some chainId) :
    Inv (s.setCall caller c) := by
  have hcall : ∀ other, (s.setCall caller c).call other = c ∨
      (s.setCall caller c).call other = s.call other := by
    intro other
    rw [call_setCall]
    split_ifs
    · exact .inl rfl
    · exact .inr rfl
  refine ⟨hi.flight, hi.kept, ?_, hi.resolved, ?_, ?_⟩
  · intro other promise ho
    obtain hnew | hold := hcall other
    · exact hawaiting promise (hnew.symm.trans ho)
    · exact hi.awaited other promise (hold.symm.trans ho)
  · intro other chainId ho
    obtain hnew | hold := hcall other
    · exact hvalue chainId (.inl (hnew.symm.trans ho))
    · exact hi.cached other chainId (hold.symm.trans ho)
  · intro other chainId ho
    obtain hnew | hold := hcall other
    · exact hvalue chainId (.inr (hnew.symm.trans ho))
    · exact hi.bound other chainId (hold.symm.trans ho)

omit [DecidableEq Caller] in
/-- Once the fetch in flight is settled none is left. -/
theorem Inv.not_inFlight_settle {s : ChainBinding Caller ChainId} (hi : Inv s) {promise : Nat}
    (hflight : s.InFlight promise) {p : FetchPromise ChainId} (hp : p ≠ .fetching) (other : Nat)
    (ho : (s.settle promise p).InFlight other) : False := by
  obtain ⟨hmade, hfetching⟩ := ho
  rw [promise_settle] at hfetching
  split_ifs at hfetching with hsame
  · exact hp hfetching
  · have hkept := (hi.flight other ⟨hmade, hfetching⟩).1
    rw [(hi.flight promise hflight).1] at hkept
    exact hsame (Option.some.inj hkept).symm

omit [DecidableEq Caller] in
/-- A fetch that comes back settles its promise with the value that it caches. -/
theorem Inv.bind {s : ChainBinding Caller ChainId} (hi : Inv s) {promise : Nat}
    (hflight : s.InFlight promise) (chainId : ChainId) (kept : Option Nat)
    (hkept : ∀ other, kept = some other → other < s.made) :
    Inv { s.settle promise (.resolved chainId) with
      chainIdPromise := kept
      chainId := some chainId } := by
  have hempty := (hi.flight promise hflight).2
  refine ⟨fun other ho => ?_, hkept, hi.awaited, ?_, ?_, ?_⟩
  · exact (hi.not_inFlight_settle hflight (by simp) other ho).elim
  · intro other value ho
    replace ho : (s.settle promise (.resolved chainId)).promise other = .resolved value := ho
    rw [promise_settle] at ho
    split_ifs at ho
    · exact congrArg some (FetchPromise.resolved.inj ho)
    · have hvalue := hi.resolved other value ho
      rw [hempty] at hvalue
      cases hvalue
  · intro caller value ho
    have hvalue := hi.cached caller value ho
    rw [hempty] at hvalue
    cases hvalue
  · intro caller value ho
    have hvalue := hi.bound caller value ho
    rw [hempty] at hvalue
    cases hvalue

omit [DecidableEq Caller] in
theorem Inv.reject {s : ChainBinding Caller ChainId} (hi : Inv s) {promise : Nat}
    (hflight : s.InFlight promise) :
    Inv { s.settle promise .rejected with chainIdPromise := none } := by
  refine ⟨fun other ho => ?_, by simp, hi.awaited, ?_, hi.cached, hi.bound⟩
  · exact (hi.not_inFlight_settle hflight (by simp) other ho).elim
  · intro other value ho
    replace ho : (s.settle promise .rejected).promise other = .resolved value := ho
    rw [promise_settle] at ho
    split_ifs at ho
    exact hi.resolved other value ho

/-- A new fetch starts when none is out. -/
theorem Inv.fetch {s : ChainBinding Caller ChainId} (hi : Inv s) (caller : Caller)
    (hcached : s.chainId = none) (hpromise : s.chainIdPromise = none) :
    Inv { (s.settle s.made .fetching).setCall caller (.awaiting s.made) with
      chainIdPromise := some s.made
      made := s.made + 1 } := by
  have hstart : Inv { s.settle s.made .fetching with
      chainIdPromise := some s.made
      made := s.made + 1 } := by
    refine ⟨?_, ?_, ?_, ?_, hi.cached, hi.bound⟩
    · rintro other ⟨hmade, hfetching⟩
      replace hmade : other < s.made + 1 := hmade
      replace hfetching : (s.settle s.made .fetching).promise other = .fetching := hfetching
      rw [promise_settle] at hfetching
      split_ifs at hfetching with hsame
      · exact ⟨congrArg some hsame.symm, hcached⟩
      · have hlt : other < s.made := by omega
        have hkept := (hi.flight other ⟨hlt, hfetching⟩).1
        rw [hpromise] at hkept
        cases hkept
    · intro other ho
      obtain rfl := Option.some.inj ho
      exact Nat.lt_succ_self _
    · intro other promise ho
      exact Nat.lt_succ_of_lt (hi.awaited other promise ho)
    · intro other value ho
      replace ho : (s.settle s.made .fetching).promise other = .resolved value := ho
      rw [promise_settle] at ho
      split_ifs at ho
      exact hi.resolved other value ho
  refine hstart.setCall caller ?_ ?_
  · intro promise hp
    obtain rfl := BindingCall.awaiting.inj hp
    exact Nat.lt_succ_self _
  · rintro chainId (hc | hc) <;> cases hc

theorem inv_steps {s s' : ChainBinding Caller ChainId} (hi : Inv s) (h : Steps s s') :
    Inv s' := by
  cases h with
  | cached caller chainId hcall hcached =>
    refine hi.setCall caller (by simp) ?_
    rintro value (hv | hv)
    · exact BindingCall.cached.inj hv ▸ hcached
    · cases hv
  | joined caller promise hcall hcached hpromise =>
    refine hi.setCall caller ?_ (by simp)
    intro other ho
    exact BindingCall.awaiting.inj ho ▸ hi.kept promise hpromise
  | fetches caller hcall hcached hpromise => exact hi.fetch caller hcached hpromise
  | fetched promise bound hflight => exact hi.bind hflight bound s.chainIdPromise hi.kept
  | unbound promise chainId hflight => exact hi.bind hflight chainId none (by simp)
  | fetchFailed promise hflight => exact hi.reject hflight
  | bound caller chainId hcall =>
    have hvalue : s.chainId = some chainId := by
      obtain hc | ⟨promise, -, hp⟩ := hcall
      · exact hi.cached caller chainId hc
      · exact hi.resolved promise chainId hp
    refine hi.setCall caller (by simp) ?_
    rintro value (hv | hv)
    · cases hv
    · exact BindingCall.bound.inj hv ▸ hvalue
  | failed caller hcall => exact hi.setCall caller (by simp) (by simp)

theorem inv_run {s s' : ChainBinding Caller ChainId} {events : List (BindingEvent Caller ChainId)}
    (hi : Inv s) (h : run (step allowUnbound unbound) s events = some s') : Inv s' :=
  run_invariant Inv (fun _ _ _ hstep hs => inv_steps hs (steps_of_step hstep)) h hi

theorem chainId_of_run {s s' : ChainBinding Caller ChainId} {chainId : ChainId}
    {events : List (BindingEvent Caller ChainId)} (hi : Inv s)
    (h : run (step allowUnbound unbound) s events = some s') (hc : s.chainId = some chainId) :
    s'.chainId = some chainId := by
  have hboth : Inv s' ∧ s'.chainId = some chainId :=
    run_invariant (fun t => Inv t ∧ t.chainId = some chainId)
      (fun _ _ _ hstep ht =>
        ⟨inv_steps ht.1 (steps_of_step hstep), chainId_of_steps ht.1 (steps_of_step hstep) ht.2⟩)
      h ⟨hi, hc⟩
  exact hboth.2

/-- A call that awaits a rejected promise, or has failed. -/
def Doomed (s : ChainBinding Caller ChainId) (caller : Caller) (promise : Nat) : Prop :=
  promise < s.made ∧ s.promise promise = .rejected ∧
    (s.call caller = .awaiting promise ∨ s.call caller = .failed)

theorem doomed_setCall {s : ChainBinding Caller ChainId} {caller other : Caller} {promise : Nat}
    (h : s.Doomed caller promise) {c : BindingCall ChainId}
    (hc : other = caller → c = .failed) : (s.setCall other c).Doomed caller promise := by
  refine ⟨h.1, h.2.1, ?_⟩
  rw [call_setCall]
  split_ifs with ho
  · exact .inr (hc ho.symm)
  · exact h.2.2

omit [DecidableEq Caller] in
theorem doomed_settle {s : ChainBinding Caller ChainId} {caller : Caller} {promise other : Nat}
    (h : s.Doomed caller promise) (ho : other ≠ promise) (p : FetchPromise ChainId) :
    (s.settle other p).Doomed caller promise := by
  refine ⟨h.1, ?_, h.2.2⟩
  rw [promise_settle, if_neg ho.symm]
  exact h.2.1

theorem doomed_steps {s s' : ChainBinding Caller ChainId} {caller : Caller} {promise : Nat}
    (hd : s.Doomed caller promise) (h : Steps s s') : s'.Doomed caller promise := by
  have hbusy : s.call caller ≠ .idle := by
    obtain hc | hc := hd.2.2 <;> simp [hc]
  have hsettled : ∀ other, s.InFlight other → other ≠ promise := by
    rintro other ⟨-, hfetching⟩ rfl
    rw [hd.2.1] at hfetching
    cases hfetching
  cases h with
  | cached other chainId hcall _ =>
    exact doomed_setCall hd fun ho => absurd (ho ▸ hcall) hbusy
  | joined other p hcall _ _ => exact doomed_setCall hd fun ho => absurd (ho ▸ hcall) hbusy
  | fetches other hcall _ _ =>
    have hsame : s.made ≠ promise := (Nat.ne_of_lt hd.1).symm
    have hnew := @doomed_setCall _ _ _ _ _ other _ (doomed_settle hd hsame .fetching)
      (.awaiting s.made) fun ho => absurd (ho ▸ hcall) hbusy
    exact ⟨Nat.lt_succ_of_lt hnew.1, hnew.2⟩
  | fetched other bound hflight => exact doomed_settle hd (hsettled other hflight) _
  | unbound other chainId hflight => exact doomed_settle hd (hsettled other hflight) _
  | fetchFailed other hflight => exact doomed_settle hd (hsettled other hflight) _
  | bound other chainId hcall =>
    refine doomed_setCall hd fun ho => ?_
    subst ho
    obtain hc | ⟨p, hc, hp⟩ := hcall <;> obtain hd' | hd' := hd.2.2 <;> rw [hc] at hd'
    · cases hd'
    · cases hd'
    · obtain rfl := BindingCall.awaiting.inj hd'
      rw [hd.2.1] at hp
      cases hp
    · cases hd'
  | failed other _ => exact doomed_setCall hd fun _ => rfl

theorem doomed_run {s s' : ChainBinding Caller ChainId} {caller : Caller} {promise : Nat}
    {events : List (BindingEvent Caller ChainId)} (hd : s.Doomed caller promise)
    (h : run (step allowUnbound unbound) s events = some s') : s'.Doomed caller promise :=
  run_invariant (fun t => t.Doomed caller promise)
    (fun _ _ _ hstep ht => doomed_steps ht (steps_of_step hstep)) h hd

/-- What a failed fetch leaves behind when the client must not sign unbound. -/
theorem fetchFailed_eq {s s' : ChainBinding Caller ChainId} {promise : Nat}
    (h : step false unbound s (.fetchFailed promise) = some s') :
    s.InFlight promise ∧ s' = { s.settle promise .rejected with chainIdPromise := none } := by
  rw [step] at h
  split at h
  · next hmade hfetching =>
    rw [if_neg Bool.false_ne_true] at h
    exact ⟨inFlight_of_match hmade hfetching, (Option.some.inj h).symm⟩
  · cases h

/-- A call that resumes with a rejected promise fails. -/
theorem resume_doomed {s : ChainBinding Caller ChainId} {caller : Caller} {promise : Nat}
    (hd : s.Doomed caller promise) (hcall : s.call caller = .awaiting promise) :
    step allowUnbound unbound s (.resume caller) = some (s.setCall caller .failed) := by
  simp only [step, hcall, hd.2.1]

theorem resolveChainId_fetches {s : ChainBinding Caller ChainId} {caller : Caller}
    (hcall : s.call caller = .idle) (hcached : s.chainId = none)
    (hpromise : s.chainIdPromise = none) :
    ∃ s', step allowUnbound unbound s (.resolveChainId caller) = some s' ∧
      s'.InFlight s.made ∧ s'.call caller = .awaiting s.made := by
  refine ⟨_, by simp only [step, hcall, resolveChainId, hcached, hpromise]; rfl,
    ⟨Nat.lt_succ_self _, ?_⟩, ?_⟩
  · exact Function.update_self ..
  · exact Function.update_self ..

/-- Over every interleaving: one fetch at a time, a chain id that never changes and that every
successful call obtains; and after a fetch that failed all its calls fail, nothing is cached and
the next call fetches again. -/
theorem resolveChainId_singleFlight (allowUnbound : Bool) (unbound : ChainId)
    (chainId : Option ChainId) (events : List (BindingEvent Caller ChainId))
    (s : ChainBinding Caller ChainId)
    (h : run (step allowUnbound unbound) (init chainId) events = some s) :
    (∀ p q, s.InFlight p → s.InFlight q → p = q) ∧
    (∀ bound later s', s.chainId = some bound →
      run (step allowUnbound unbound) s later = some s' → s'.chainId = some bound) ∧
    (∀ caller bound, s.call caller = .bound bound → s.chainId = some bound) ∧
    ∀ promise s', allowUnbound = false →
      step allowUnbound unbound s (.fetchFailed promise) = some s' →
      s'.chainId = none ∧
      (∀ caller, s'.call caller = .awaiting promise → ∀ later s'',
        run (step allowUnbound unbound) s' later = some s'' →
        s''.call caller = .failed ∨ s''.call caller = .awaiting promise ∧
          step allowUnbound unbound s'' (.resume caller) = some (s''.setCall caller .failed)) ∧
      ∀ caller, s'.call caller = .idle →
        ∃ s'', step allowUnbound unbound s' (.resolveChainId caller) = some s'' ∧
          s''.InFlight s'.made ∧ s''.call caller = .awaiting s'.made := by
  have hi : Inv s := inv_run (inv_init chainId) h
  refine ⟨?_, ?_, hi.bound, ?_⟩
  · intro p q hp hq
    have hkept := (hi.flight p hp).1
    rw [(hi.flight q hq).1] at hkept
    exact (Option.some.inj hkept).symm
  · intro bound later s' hc hlater
    exact chainId_of_run hi hlater hc
  · rintro promise s' rfl hfail
    obtain ⟨hflight, rfl⟩ := fetchFailed_eq hfail
    refine ⟨(hi.flight promise hflight).2, ?_, ?_⟩
    · intro caller hcall later s'' hlater
      have hdoomed : Doomed { s.settle promise .rejected with chainIdPromise := none } caller
          promise := ⟨hflight.1, Function.update_self .., .inl hcall⟩
      have hd := doomed_run hdoomed hlater
      obtain hwaiting | hfailed := hd.2.2
      · exact .inr ⟨hwaiting, resume_doomed hd hwaiting⟩
      · exact .inl hfailed
    · intro caller hcall
      exact resolveChainId_fetches hcall (hi.flight promise hflight).2 rfl

end Step

/-- Two calls share a fetch that fails; a third one fetches again and binds the client. -/
def retried : List (BindingEvent Nat Nat) :=
  [.resolveChainId 0, .resolveChainId 1, .fetchFailed 0, .resume 0, .resolveChainId 2,
    .fetched 1 7, .resume 2, .resume 1]

theorem resolveChainId_singleFlight_retried :
    ∃ s, run (step false 0) (init none) retried = some s ∧ s.call 0 = .failed ∧
      s.call 1 = .failed ∧ s.call 2 = .bound 7 ∧ s.chainId = some 7 :=
  ⟨_, rfl, rfl, rfl, rfl, (resolveChainId_singleFlight false 0 none retried _ rfl).2.2.1 2 7 rfl⟩

end ChainBinding

end TradingSdk.Client
