import Mathlib.Logic.Function.Basic
import TradingSdk.Transition.Run

namespace TradingSdk.Client

open Transition

/-- The promise of one `instantiate`. -/
inductive Instantiation where
  | running
  | resolved
  | rejected
  deriving DecidableEq

/-- One call of `ready`: it finds the core loaded, or awaits an instantiation and then resolves or
throws what that threw. -/
inductive ReadyCall where
  | idle
  | awaiting (attempt : Nat)
  | resolved
  | threw (attempt : Nat)

/-- The two variables of the module, the instantiations so far and the calls of `ready`. -/
structure WasmLoader (Caller WasmCore : Type) where
  cached : Option WasmCore
  initPromise : Option Nat
  made : Nat
  instantiation : Nat → Instantiation
  call : Caller → ReadyCall

/-- What happens between two awaits. A call resumes after the instantiation that it awaits. -/
inductive LoaderEvent (Caller WasmCore : Type) where
  | ready (caller : Caller)
  | instantiated (attempt : Nat) (mod : WasmCore)
  | instantiationFailed (attempt : Nat)
  | resume (caller : Caller)

namespace WasmLoader

variable {Caller WasmCore : Type}

def init : WasmLoader Caller WasmCore := ⟨none, none, 0, fun _ => .rejected, fun _ => .idle⟩

/-- An instantiation that has not come back. -/
def InFlight (s : WasmLoader Caller WasmCore) (attempt : Nat) : Prop :=
  attempt < s.made ∧ s.instantiation attempt = .running

def settle (s : WasmLoader Caller WasmCore) (attempt : Nat) (outcome : Instantiation) :
    WasmLoader Caller WasmCore :=
  { s with instantiation := Function.update s.instantiation attempt outcome }

theorem instantiation_settle (s : WasmLoader Caller WasmCore) (attempt other : Nat)
    (outcome : Instantiation) : (s.settle attempt outcome).instantiation other =
      if other = attempt then outcome else s.instantiation other :=
  Function.update_apply ..

/-- The exports, or nothing where `getWasm` throws. -/
def getWasm (s : WasmLoader Caller WasmCore) : Option WasmCore := s.cached

variable [DecidableEq Caller]

def setCall (s : WasmLoader Caller WasmCore) (caller : Caller) (c : ReadyCall) :
    WasmLoader Caller WasmCore :=
  { s with call := Function.update s.call caller c }

theorem call_setCall (s : WasmLoader Caller WasmCore) (caller other : Caller) (c : ReadyCall) :
    (s.setCall caller c).call other = if other = caller then c else s.call other :=
  Function.update_apply ..

/-- A new instantiation, which the call awaits. -/
def instantiate (s : WasmLoader Caller WasmCore) (caller : Caller) : WasmLoader Caller WasmCore :=
  { (s.settle s.made .running).setCall caller (.awaiting s.made) with
    initPromise := some s.made
    made := s.made + 1 }

/-- `ready` up to its await. -/
def ready (s : WasmLoader Caller WasmCore) (caller : Caller) : WasmLoader Caller WasmCore :=
  match s.cached with
  | some _ => s.setCall caller .resolved
  | none =>
    match s.initPromise with
    | some attempt => s.setCall caller (.awaiting attempt)
    | none => s.instantiate caller

/-- The `catch` of `ready`: it clears the promise that failed, unless a newer one is there. -/
def catchInit (s : WasmLoader Caller WasmCore) (caller : Caller) (attempt : Nat) :
    WasmLoader Caller WasmCore :=
  { s.setCall caller (.threw attempt) with
    initPromise := if s.initPromise = some attempt then none else s.initPromise }

def step (s : WasmLoader Caller WasmCore) :
    LoaderEvent Caller WasmCore → Option (WasmLoader Caller WasmCore)
  | .ready caller =>
    match s.call caller with
    | .idle => some (s.ready caller)
    | _ => none
  | .instantiated attempt mod =>
    if attempt < s.made ∧ s.instantiation attempt = .running then
      some { s.settle attempt .resolved with cached := some mod }
    else none
  | .instantiationFailed attempt =>
    if attempt < s.made ∧ s.instantiation attempt = .running then some (s.settle attempt .rejected)
    else none
  | .resume caller =>
    match s.call caller with
    | .awaiting attempt =>
      match s.instantiation attempt with
      | .running => none
      | .resolved => some (s.setCall caller .resolved)
      | .rejected => some (s.catchInit caller attempt)
    | _ => none

/-- Everything that a step can do. -/
inductive Steps (s : WasmLoader Caller WasmCore) : WasmLoader Caller WasmCore → Prop
  | found (caller : Caller) (mod : WasmCore) (hcall : s.call caller = .idle)
      (hcached : s.cached = some mod) : Steps s (s.setCall caller .resolved)
  | joined (caller : Caller) (attempt : Nat) (hcall : s.call caller = .idle)
      (hcached : s.cached = none) (hpromise : s.initPromise = some attempt) :
      Steps s (s.setCall caller (.awaiting attempt))
  | started (caller : Caller) (hcall : s.call caller = .idle) (hcached : s.cached = none)
      (hpromise : s.initPromise = none) : Steps s (s.instantiate caller)
  | instantiated (attempt : Nat) (mod : WasmCore) (hflight : s.InFlight attempt) :
      Steps s { s.settle attempt .resolved with cached := some mod }
  | failed (attempt : Nat) (hflight : s.InFlight attempt) : Steps s (s.settle attempt .rejected)
  | resolved (caller : Caller) (attempt : Nat) (hcall : s.call caller = .awaiting attempt)
      (hresolved : s.instantiation attempt = .resolved) : Steps s (s.setCall caller .resolved)
  | threw (caller : Caller) (attempt : Nat) (hcall : s.call caller = .awaiting attempt)
      (hrejected : s.instantiation attempt = .rejected) : Steps s (s.catchInit caller attempt)

theorem steps_of_step {s s' : WasmLoader Caller WasmCore} {e : LoaderEvent Caller WasmCore}
    (h : step s e = some s') : Steps s s' := by
  cases e with
  | ready caller =>
    rw [step] at h
    split at h
    · next hidle =>
      obtain rfl := Option.some.inj h
      rw [ready]
      cases hc : s.cached with
      | some mod => exact .found caller mod hidle hc
      | none =>
        cases hp : s.initPromise with
        | some attempt => exact .joined caller attempt hidle hc hp
        | none => exact .started caller hidle hc hp
    · cases h
  | instantiated attempt mod =>
    rw [step] at h
    split_ifs at h with hflight
    exact Option.some.inj h ▸ .instantiated attempt mod hflight
  | instantiationFailed attempt =>
    rw [step] at h
    split_ifs at h with hflight
    exact Option.some.inj h ▸ .failed attempt hflight
  | resume caller =>
    rw [step] at h
    split at h
    · next attempt hcall =>
      split at h
      · cases h
      · next hresolved => exact Option.some.inj h ▸ .resolved caller attempt hcall hresolved
      · next hrejected => exact Option.some.inj h ▸ .threw caller attempt hcall hrejected
    · cases h

/-- Every instantiation but the last has failed. The module keeps the last one while it runs, once
it has loaded the core, and after its failure until a call that awaited it has thrown. -/
structure Inv (s : WasmLoader Caller WasmCore) : Prop where
  earlier : ∀ attempt, attempt + 1 < s.made → s.instantiation attempt = .rejected
  latest : ∀ attempt, s.initPromise = some attempt → attempt + 1 = s.made
  kept : ∀ attempt, attempt < s.made → s.instantiation attempt ≠ .rejected →
    s.initPromise = some attempt
  loaded : s.cached.isSome = true ↔ ∃ attempt < s.made, s.instantiation attempt = .resolved
  awaited : ∀ attempt, s.initPromise = some attempt → s.instantiation attempt ≠ .resolved →
    ∃ caller, s.call caller = .awaiting attempt
  awaiting : ∀ caller attempt, s.call caller = .awaiting attempt → attempt < s.made
  resolved : ∀ caller, s.call caller = .resolved → s.cached.isSome = true
  threw : ∀ caller attempt, s.call caller = .threw attempt → attempt < s.made ∧
    s.instantiation attempt = .rejected ∧ s.initPromise ≠ some attempt

omit [DecidableEq Caller] in
theorem inv_init : Inv (init : WasmLoader Caller WasmCore) := by
  constructor <;> simp [init]

/-- Changing the state of one call keeps the invariant when the new state is justified, and the call
is not the last to await a promise that is kept. -/
theorem Inv.setCall {s : WasmLoader Caller WasmCore} (hi : Inv s) (caller : Caller) {c : ReadyCall}
    (hleave : ∀ attempt, s.call caller = .awaiting attempt → s.initPromise = some attempt →
      s.instantiation attempt = .resolved)
    (hawaiting : ∀ attempt, c = .awaiting attempt → attempt < s.made)
    (hresolved : c = .resolved → s.cached.isSome = true)
    (hthrew : ∀ attempt, c = .threw attempt → attempt < s.made ∧
      s.instantiation attempt = .rejected ∧ s.initPromise ≠ some attempt) :
    Inv (s.setCall caller c) := by
  have hcall : ∀ other, (s.setCall caller c).call other = c ∨
      (s.setCall caller c).call other = s.call other := by
    intro other
    rw [call_setCall]
    split_ifs
    · exact .inl rfl
    · exact .inr rfl
  refine ⟨hi.earlier, hi.latest, hi.kept, hi.loaded, ?_, ?_, ?_, ?_⟩
  · intro attempt hpromise hunresolved
    obtain ⟨other, hother⟩ := hi.awaited attempt hpromise hunresolved
    have hne : other ≠ caller := by
      rintro rfl
      exact hunresolved (hleave attempt hother hpromise)
    refine ⟨other, ?_⟩
    rw [call_setCall, if_neg hne]
    exact hother
  · intro other attempt ho
    obtain hnew | hold := hcall other
    · exact hawaiting attempt (hnew.symm.trans ho)
    · exact hi.awaiting other attempt (hold.symm.trans ho)
  · intro other ho
    obtain hnew | hold := hcall other
    · exact hresolved (hnew.symm.trans ho)
    · exact hi.resolved other (hold.symm.trans ho)
  · intro other attempt ho
    obtain hnew | hold := hcall other
    · exact hthrew attempt (hnew.symm.trans ho)
    · exact hi.threw other attempt (hold.symm.trans ho)

omit [DecidableEq Caller] in
/-- While an instantiation runs it is the one that the module keeps, and no core is loaded. -/
theorem Inv.inFlight {s : WasmLoader Caller WasmCore} (hi : Inv s) {attempt : Nat}
    (h : s.InFlight attempt) : s.initPromise = some attempt ∧ attempt + 1 = s.made ∧
      s.cached = none := by
  have hkept := hi.kept attempt h.1 (by rw [h.2]; decide)
  refine ⟨hkept, hi.latest attempt hkept, ?_⟩
  cases hc : s.cached with
  | none => rfl
  | some mod =>
    obtain ⟨other, hother, hresolved⟩ := hi.loaded.mp (by rw [hc]; rfl)
    have hsame := hi.kept other hother (by rw [hresolved]; decide)
    rw [hkept] at hsame
    obtain rfl := Option.some.inj hsame
    rw [h.2] at hresolved
    cases hresolved

omit [DecidableEq Caller] in
/-- Until a core is loaded and an instantiation runs, all of them have failed. -/
theorem Inv.all_rejected {s : WasmLoader Caller WasmCore} (hi : Inv s) (hpromise : s.initPromise = none)
    {attempt : Nat} (h : attempt < s.made) : s.instantiation attempt = .rejected := by
  by_contra hne
  rw [hi.kept attempt h hne] at hpromise
  cases hpromise

theorem Inv.instantiate {s : WasmLoader Caller WasmCore} (hi : Inv s) (caller : Caller)
    (hcached : s.cached = none) (hpromise : s.initPromise = none) : Inv (s.instantiate caller) := by
  have hinst : ∀ attempt, (s.instantiate caller).instantiation attempt =
      if attempt = s.made then .running else s.instantiation attempt :=
    fun attempt => instantiation_settle s s.made attempt .running
  have hcalls : ∀ other, (s.instantiate caller).call other =
      if other = caller then .awaiting s.made else s.call other := fun other =>
    call_setCall (s.settle s.made .running) caller other (.awaiting s.made)
  have hmade : (s.instantiate caller).made = s.made + 1 := rfl
  have hkeeps : (s.instantiate caller).initPromise = some s.made := rfl
  have hold : ∀ attempt, attempt < s.made → (s.instantiate caller).instantiation attempt = .rejected := by
    intro attempt h
    rw [hinst, if_neg (by omega)]
    exact hi.all_rejected hpromise h
  refine ⟨?_, ?_, ?_, ?_, ?_, ?_, ?_, ?_⟩
  · intro attempt h
    exact hold attempt (by omega)
  · intro attempt h
    rw [hkeeps] at h
    obtain rfl := Option.some.inj h
    rfl
  · intro attempt h hne
    by_cases hlast : attempt = s.made
    · rw [hkeeps, hlast]
    · exact absurd (hold attempt (by omega)) hne
  · have hunloaded : (s.instantiate caller).cached.isSome = false := by
      show s.cached.isSome = false
      rw [hcached]
      rfl
    rw [hunloaded]
    refine iff_of_false Bool.false_ne_true ?_
    rintro ⟨attempt, h, hresolved⟩
    rw [hinst] at hresolved
    split_ifs at hresolved with hlast
    rw [hi.all_rejected hpromise (by omega)] at hresolved
    cases hresolved
  · intro attempt h _
    rw [hkeeps] at h
    obtain rfl := Option.some.inj h
    exact ⟨caller, by rw [hcalls, if_pos rfl]⟩
  · intro other attempt ho
    rw [hcalls] at ho
    split_ifs at ho
    · obtain rfl := ReadyCall.awaiting.inj ho
      exact Nat.lt_succ_self _
    · exact Nat.lt_succ_of_lt (hi.awaiting other attempt ho)
  · intro other ho
    rw [hcalls] at ho
    split_ifs at ho
    exact hi.resolved other ho
  · intro other attempt ho
    rw [hcalls] at ho
    split_ifs at ho
    obtain ⟨hlt, hrejected, -⟩ := hi.threw other attempt ho
    refine ⟨Nat.lt_succ_of_lt hlt, hold attempt hlt, ?_⟩
    rw [hkeeps]
    intro h
    exact absurd (Option.some.inj h) (by omega)

omit [DecidableEq Caller] in
theorem Inv.load {s : WasmLoader Caller WasmCore} (hi : Inv s) {attempt : Nat} (mod : WasmCore)
    (hflight : s.InFlight attempt) : Inv { s.settle attempt .resolved with cached := some mod } := by
  obtain ⟨hkept, hlast, -⟩ := hi.inFlight hflight
  have hinst := fun other => s.instantiation_settle attempt other .resolved
  refine ⟨?_, hi.latest, ?_, ?_, ?_, hi.awaiting, fun _ _ => rfl, ?_⟩
  · intro other h
    replace h : other + 1 < s.made := h
    show (s.settle attempt .resolved).instantiation other = .rejected
    rw [hinst, if_neg (by omega)]
    exact hi.earlier other h
  · intro other h hne
    replace hne : (s.settle attempt .resolved).instantiation other ≠ .rejected := hne
    rw [hinst] at hne
    split_ifs at hne with hsame
    · rw [hsame]
      exact hkept
    · exact hi.kept other h hne
  · refine iff_of_true rfl ⟨attempt, hflight.1, ?_⟩
    show (s.settle attempt .resolved).instantiation attempt = .resolved
    rw [hinst, if_pos rfl]
  · intro other h hne
    obtain rfl : other = attempt := Option.some.inj (h.symm.trans hkept)
    replace hne : (s.settle other .resolved).instantiation other ≠ .resolved := hne
    rw [hinst, if_pos rfl] at hne
    exact absurd rfl hne
  · intro caller other ho
    obtain ⟨hlt, hrejected, hne⟩ := hi.threw caller other ho
    have hother : other ≠ attempt := by
      rintro rfl
      exact hne hkept
    refine ⟨hlt, ?_, hne⟩
    show (s.settle attempt .resolved).instantiation other = .rejected
    rw [hinst, if_neg hother]
    exact hrejected

omit [DecidableEq Caller] in
theorem Inv.fail {s : WasmLoader Caller WasmCore} (hi : Inv s) {attempt : Nat}
    (hflight : s.InFlight attempt) : Inv (s.settle attempt .rejected) := by
  obtain ⟨hkept, hlast, hunloaded⟩ := hi.inFlight hflight
  have hinst := fun other => s.instantiation_settle attempt other .rejected
  have hrejected : ∀ other, s.instantiation other = .rejected →
      (s.settle attempt .rejected).instantiation other = .rejected := by
    intro other h
    rw [hinst]
    split_ifs
    · rfl
    · exact h
  refine ⟨fun other h => hrejected other (hi.earlier other h), hi.latest, ?_, ?_, ?_, hi.awaiting,
    hi.resolved, ?_⟩
  · intro other h hne
    exact hi.kept other h fun hr => hne (hrejected other hr)
  · refine hi.loaded.trans (exists_congr fun other => and_congr_right fun h => ?_)
    rw [hinst]
    split_ifs with hsame
    · rw [hsame, hflight.2]
      decide
    · rfl
  · intro other h _
    obtain rfl : other = attempt := Option.some.inj (h.symm.trans hkept)
    exact hi.awaited other hkept (by rw [hflight.2]; decide)
  · intro caller other ho
    obtain ⟨hlt, hr, hne⟩ := hi.threw caller other ho
    exact ⟨hlt, hrejected other hr, hne⟩

omit [DecidableEq Caller] in
/-- A promise that failed may be dropped. -/
theorem Inv.clear {s : WasmLoader Caller WasmCore} (hi : Inv s) {attempt : Nat}
    (hrejected : s.instantiation attempt = .rejected) :
    Inv { s with initPromise := if s.initPromise = some attempt then none else s.initPromise } := by
  by_cases hsame : s.initPromise = some attempt
  · rw [if_pos hsame]
    refine ⟨hi.earlier, by simp, ?_, hi.loaded, by simp, hi.awaiting, hi.resolved, ?_⟩
    · intro other h hne
      have hkept := hi.kept other h hne
      rw [hsame] at hkept
      obtain rfl := Option.some.inj hkept
      exact absurd hrejected hne
    · intro caller other ho
      obtain ⟨hlt, hr, -⟩ := hi.threw caller other ho
      exact ⟨hlt, hr, by simp⟩
  · rw [if_neg hsame]
    exact hi

theorem inv_steps {s s' : WasmLoader Caller WasmCore} (h : Steps s s') (hi : Inv s) : Inv s' := by
  have hidle : ∀ {caller : Caller}, s.call caller = .idle → ∀ attempt,
      s.call caller = .awaiting attempt → s.initPromise = some attempt →
      s.instantiation attempt = .resolved := by
    intro caller hcall attempt ho
    rw [hcall] at ho
    cases ho
  cases h with
  | found caller mod hcall hcached =>
    exact hi.setCall caller (hidle hcall) (by simp) (fun _ => by rw [hcached]; rfl) (by simp)
  | joined caller attempt hcall hcached hpromise =>
    refine hi.setCall caller (hidle hcall) ?_ (by simp) (by simp)
    intro other ho
    obtain rfl := ReadyCall.awaiting.inj ho
    exact (hi.latest _ hpromise) ▸ Nat.lt_succ_self _
  | started caller hcall hcached hpromise => exact hi.instantiate caller hcached hpromise
  | instantiated attempt mod hflight => exact hi.load mod hflight
  | failed attempt hflight => exact hi.fail hflight
  | resolved caller attempt hcall hresolved =>
    have hlt := hi.awaiting caller attempt hcall
    refine hi.setCall caller ?_ (by simp) (fun _ => hi.loaded.mpr ⟨attempt, hlt, hresolved⟩) (by simp)
    intro other ho _
    obtain rfl := ReadyCall.awaiting.inj (hcall.symm.trans ho)
    exact hresolved
  | threw caller attempt hcall hrejected =>
    have hlt := hi.awaiting caller attempt hcall
    have hgone : (if s.initPromise = some attempt then none else s.initPromise) ≠ some attempt := by
      split_ifs with hsame
      · exact Option.some_ne_none _ ∘ Eq.symm
      · exact hsame
    refine (hi.clear hrejected).setCall caller ?_ (by simp) (by simp) ?_
    · intro other ho hkept
      obtain rfl := ReadyCall.awaiting.inj (hcall.symm.trans ho)
      exact absurd hkept hgone
    · intro other ho
      obtain rfl := ReadyCall.threw.inj ho
      exact ⟨hlt, hrejected, hgone⟩

theorem inv_of_run {s : WasmLoader Caller WasmCore} {es : List (LoaderEvent Caller WasmCore)}
    (hrun : run step init es = some s) : Inv s :=
  run_invariant Inv (fun _ _ _ hst hi => inv_steps (steps_of_step hst) hi) hrun inv_init

/-- The core that is loaded stays. -/
theorem cached_of_steps {s s' : WasmLoader Caller WasmCore} {mod : WasmCore} (hi : Inv s)
    (h : Steps s s') (hc : s.cached = some mod) : s'.cached = some mod := by
  cases h with
  | instantiated attempt other hflight =>
    rw [(hi.inFlight hflight).2.2] at hc
    cases hc
  | _ => exact hc

/-- Whatever the interleaving of the calls of `ready`, one instantiation is out at a time and follows
the failure of all before it, a call that resolves leaves `getWasm` with the one core that stays, and
a failure is neither made up nor kept: once a call has thrown, the next one starts over. -/
theorem ready_singleFlight {s : WasmLoader Caller WasmCore} {es : List (LoaderEvent Caller WasmCore)}
    (hrun : run step init es = some s) :
    (∀ attempt other, s.InFlight attempt → other < s.made → other ≠ attempt →
      s.instantiation other = .rejected) ∧
    (∀ caller, s.call caller = .resolved → ∃ mod, s.getWasm = some mod ∧
      ∀ s' es', run step s es' = some s' → s'.getWasm = some mod) ∧
    (∀ caller attempt, s.call caller = .threw attempt →
      s.instantiation attempt = .rejected ∧ s.initPromise ≠ some attempt) ∧
    (s.getWasm = none → (∀ caller attempt, s.call caller ≠ .awaiting attempt) → ∀ caller,
      s.call caller = .idle → ∃ s', step s (.ready caller) = some s' ∧ s'.InFlight s.made) := by
  have hi := inv_of_run hrun
  refine ⟨?_, ?_, ?_, ?_⟩
  · intro attempt other hflight hother hne
    by_contra hr
    have hkept := hi.kept other hother hr
    rw [(hi.inFlight hflight).1] at hkept
    exact hne (Option.some.inj hkept).symm
  · intro caller hcall
    obtain ⟨mod, hmod⟩ := Option.isSome_iff_exists.mp (hi.resolved caller hcall)
    refine ⟨mod, hmod, fun s' es' hrun' => ?_⟩
    have hboth := run_invariant (fun t => Inv t ∧ t.cached = some mod)
      (fun t e t' hst ht => ⟨inv_steps (steps_of_step hst) ht.1,
        cached_of_steps ht.1 (steps_of_step hst) ht.2⟩) hrun' ⟨hi, hmod⟩
    exact hboth.2
  · intro caller attempt hcall
    exact (hi.threw caller attempt hcall).2
  · intro hunloaded hnone caller hidle
    have hpromise : s.initPromise = none := by
      cases hp : s.initPromise with
      | none => rfl
      | some attempt =>
        by_cases hresolved : s.instantiation attempt = .resolved
        · have hlt : attempt < s.made := (hi.latest attempt hp) ▸ Nat.lt_succ_self _
          have hloaded := hi.loaded.mpr ⟨attempt, hlt, hresolved⟩
          rw [show s.cached = none from hunloaded] at hloaded
          cases hloaded
        · obtain ⟨other, hother⟩ := hi.awaited attempt hp hresolved
          exact absurd hother (hnone other attempt)
    refine ⟨s.instantiate caller, ?_, Nat.lt_succ_self _, ?_⟩
    · rw [step, hidle]
      simp only [ready, show s.cached = none from hunloaded, hpromise]
    · show (s.settle s.made .running).instantiation s.made = .running
      rw [instantiation_settle, if_pos rfl]

/-- Two calls share an instantiation that fails, and a call after the first of them has thrown loads
the core while the other has yet to throw. -/
theorem ready_singleFlight_retry : ∃ s : WasmLoader Nat String,
    run step init [.ready 0, .ready 1, .instantiationFailed 0, .resume 0, .ready 2,
      .instantiated 1 "core", .resume 1, .resume 2] = some s ∧
    (∃ mod, s.getWasm = some mod ∧ ∀ s' es', run step s es' = some s' → s'.getWasm = some mod) ∧
    s.instantiation 0 = .rejected := by
  have hrun : ∃ s : WasmLoader Nat String,
      run step init [.ready 0, .ready 1, .instantiationFailed 0, .resume 0, .ready 2,
        .instantiated 1 "core", .resume 1, .resume 2] = some s ∧ s.call 2 = .resolved ∧
      s.call 1 = .threw 0 := ⟨_, rfl, rfl, rfl⟩
  obtain ⟨s, hs, hresolved, hfailed⟩ := hrun
  refine ⟨s, hs, ?_⟩
  obtain ⟨-, hloaded, hthrew, -⟩ := ready_singleFlight hs
  exact ⟨hloaded 2 hresolved, (hthrew 1 0 hfailed).1⟩

end WasmLoader

end TradingSdk.Client
