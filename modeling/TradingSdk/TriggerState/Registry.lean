import TradingSdk.TriggerState.TypeScript

namespace TradingSdk.TriggerState

namespace Reading

variable (R : Reading)

structure HoldsConfig (v : Value) (c : TriggerMarketConfig) : Prop where
  tuple : v.IsTuple 6
  version : R.IsUint (v.slot 0) c.version
  enabled : v.slot 1 = .bool c.enabled
  maxTriggerSlippageBps : R.IsUint (v.slot 2) c.maxTriggerSlippageBps
  maxMarkAgeMs : R.IsUint (v.slot 3) c.maxMarkAgeMs
  maxFuturePublishSkewMs : R.IsUint (v.slot 4) c.maxFuturePublishSkewMs
  maxActiveBrackets : R.IsUint (v.slot 5) c.maxActiveBrackets

structure HoldsPending (v : Value) (p : PendingTriggerMarketConfig) : Prop where
  tuple : v.IsTuple 3
  config : R.HoldsConfig (v.slot 0) p.config
  acceptedHeight : R.IsUint (v.slot 1) p.acceptedHeight
  effectiveHeight : R.IsUint (v.slot 2) p.effectiveHeight

structure HoldsState (v : Value) (s : TriggerMarketConfigState) : Prop where
  tuple : v.IsTuple 2
  current : IsNullable R.HoldsConfig (v.slot 0) s.current
  pending : IsNullable R.HoldsPending (v.slot 1) s.pending

structure HoldsInfo (v : Value) (i : TriggerMarketConfigInfo) : Prop where
  tuple : v.IsTuple 2
  market : R.IsUint (v.slot 0) i.market
  state : R.HoldsState (v.slot 1) i.state

/-- A list of rows, each a market and the state of its configuration. -/
def HoldsRegistry (v : Value) (is : List TriggerMarketConfigInfo) : Prop :=
  v.isArray = true ∧ List.Forall₂ R.HoldsInfo v.items is

end Reading

/-- A configuration within its bounds, which only bind once it is enabled. -/
structure TriggerMarketConfig.Valid (c : TriggerMarketConfig) : Prop where
  version : c.version ≠ 0
  slippage : c.maxTriggerSlippageBps ≤ 9999
  bounds : c.enabled = true → c.maxTriggerSlippageBps ≠ 0 ∧ c.maxMarkAgeMs ≠ 0 ∧
    c.maxFuturePublishSkewMs ≠ 0 ∧ c.maxActiveBrackets ≠ 0

/-- The configuration after the current one, at the height after its acceptance. -/
structure PendingTriggerMarketConfig.Valid (current : Option TriggerMarketConfig)
    (p : PendingTriggerMarketConfig) : Prop where
  config : p.config.Valid
  version : p.config.version = current.elim 1 fun c => c.version + 1
  accepted : p.acceptedHeight ≠ 0
  effective : p.effectiveHeight = p.acceptedHeight + 1
  range : p.acceptedHeight + 1 < 2^64

structure TriggerMarketConfigState.Valid (s : TriggerMarketConfigState) : Prop where
  current : ∀ c, s.current = some c → c.Valid
  pending : ∀ p, s.pending = some p → p.Valid s.current
  nonempty : s.current.isSome = true ∨ s.pending.isSome = true

structure ValidRegistry (is : List TriggerMarketConfigInfo) : Prop where
  markets : ∀ i ∈ is, i.market < 2^32
  increasing : is.Pairwise fun i j => i.market < j.market
  states : ∀ i ∈ is, i.state.Valid

/-- No market is configured twice. -/
theorem ValidRegistry.unique {is : List TriggerMarketConfigInfo} (h : ValidRegistry is) :
    (is.map TriggerMarketConfigInfo.market).Nodup := by
  rw [List.Nodup, List.pairwise_map]
  exact h.increasing.imp fun hlt => hlt.ne

section Unique

variable {R : Reading}

theorem IsNullable.unique {α : Type} {P : Value → α → Prop} {v : Value} {a b : Option α}
    (ha : IsNullable P v a) (hb : IsNullable P v b) (hunique : ∀ a b, P v a → P v b → a = b) :
    a = b := by
  cases a with
  | none =>
    cases b with
    | none => rfl
    | some b =>
      rw [IsNullable, hb.1] at ha
      cases ha
  | some a =>
    cases b with
    | none =>
      rw [IsNullable, ha.1] at hb
      cases hb
    | some b => rw [hunique a b ha.2 hb.2]

theorem Reading.IsUint.unique {v : Value} {m n : Nat} (hm : R.IsUint v m) (hn : R.IsUint v n) :
    m = n :=
  Option.some.inj (hm.symm.trans hn)

theorem Reading.HoldsConfig.unique {v : Value} {c d : TriggerMarketConfig}
    (hc : R.HoldsConfig v c) (hd : R.HoldsConfig v d) : c = d := by
  have henabled := hc.enabled.symm.trans hd.enabled
  cases c
  cases d
  simp only [TriggerMarketConfig.mk.injEq]
  exact ⟨hc.version.unique hd.version, Value.bool.inj henabled,
    hc.maxTriggerSlippageBps.unique hd.maxTriggerSlippageBps,
    hc.maxMarkAgeMs.unique hd.maxMarkAgeMs,
    hc.maxFuturePublishSkewMs.unique hd.maxFuturePublishSkewMs,
    hc.maxActiveBrackets.unique hd.maxActiveBrackets⟩

theorem Reading.HoldsPending.unique {v : Value} {p q : PendingTriggerMarketConfig}
    (hp : R.HoldsPending v p) (hq : R.HoldsPending v q) : p = q := by
  cases p
  cases q
  simp only [PendingTriggerMarketConfig.mk.injEq]
  exact ⟨hp.config.unique hq.config, hp.acceptedHeight.unique hq.acceptedHeight,
    hp.effectiveHeight.unique hq.effectiveHeight⟩

theorem Reading.HoldsState.unique {v : Value} {s t : TriggerMarketConfigState}
    (hs : R.HoldsState v s) (ht : R.HoldsState v t) : s = t := by
  cases s
  cases t
  simp only [TriggerMarketConfigState.mk.injEq]
  exact ⟨hs.current.unique ht.current fun _ _ => HoldsConfig.unique,
    hs.pending.unique ht.pending fun _ _ => HoldsPending.unique⟩

theorem Reading.HoldsInfo.unique {v : Value} {i j : TriggerMarketConfigInfo}
    (hi : R.HoldsInfo v i) (hj : R.HoldsInfo v j) : i = j := by
  cases i
  cases j
  simp only [TriggerMarketConfigInfo.mk.injEq]
  exact ⟨hi.market.unique hj.market, hi.state.unique hj.state⟩

theorem Reading.HoldsRegistry.unique {v : Value} {is js : List TriggerMarketConfigInfo}
    (hi : R.HoldsRegistry v is) (hj : R.HoldsRegistry v js) : is = js := by
  have hunique : Relator.RightUnique R.HoldsInfo := fun _ _ _ => HoldsInfo.unique
  exact List.right_unique_forall₂' hunique hi.2 hj.2

end Unique

theorem Reading.isConfig_iff {R : Reading} {v : Value} {c : TriggerMarketConfig} :
    R.IsConfig v c ↔ R.HoldsConfig v c ∧ c.Valid := by
  constructor
  · intro h
    refine ⟨⟨h.tuple, h.version, h.enabled, h.maxTriggerSlippageBps, h.maxMarkAgeMs,
      h.maxFuturePublishSkewMs, h.maxActiveBrackets⟩, h.nonzero, h.slippage, ?_⟩
    intro henabled
    have hbounds := h.bounds
    simp only [henabled, true_and, not_or] at hbounds
    exact hbounds
  · intro h
    obtain ⟨hv, hc⟩ := h
    refine ⟨hv.tuple, hv.version, hv.enabled, hv.maxTriggerSlippageBps, hv.maxMarkAgeMs,
      hv.maxFuturePublishSkewMs, hv.maxActiveBrackets, hc.version, hc.slippage, ?_⟩
    intro hzero
    obtain ⟨hslippage, hage, hskew, hbrackets⟩ := hc.bounds hzero.1
    obtain h0 | h0 | h0 | h0 := hzero.2
    · exact hslippage h0
    · exact hage h0
    · exact hskew h0
    · exact hbrackets h0

/-- A nullable slot has the shape and obeys the rules of what it holds, if it holds anything. -/
theorem isNullable_and_iff {α : Type} {P Q : Value → α → Prop} {S : α → Prop} {v : Value}
    {a : Option α} (h : ∀ a, P v a ↔ Q v a ∧ S a) :
    IsNullable P v a ↔ IsNullable Q v a ∧ ∀ b, a = some b → S b := by
  cases a with
  | none => simp [IsNullable]
  | some a => simp [IsNullable, h, and_assoc]

namespace TypeScript

theorem isPending_iff {current : Option TriggerMarketConfig} {v : Value}
    {p : PendingTriggerMarketConfig} :
    reading.IsPending current v p ↔ reading.HoldsPending v p ∧ p.Valid current := by
  constructor
  · intro h
    obtain ⟨hconfig, hvalid⟩ := Reading.isConfig_iff.mp h.config
    have hle := isUint_le h.acceptedHeight
    have hnext := h.next
    rw [u64Max] at hle
    refine ⟨⟨h.tuple, hconfig, h.acceptedHeight, h.effectiveHeight⟩, hvalid, h.version, ?_, ?_, ?_⟩
    · omega
    · omega
    · omega
  · intro h
    obtain ⟨hv, hp⟩ := h
    have haccepted := hp.accepted
    have heffective := hp.effective
    have hrange := hp.range
    refine ⟨hv.tuple, Reading.isConfig_iff.mpr ⟨hv.config, hp.config⟩, hv.acceptedHeight,
      hv.effectiveHeight, ?_, hp.version⟩
    omega

theorem isState_iff {v : Value} {s : TriggerMarketConfigState} :
    reading.IsState v s ↔ reading.HoldsState v s ∧ s.Valid := by
  have hcurrent := @isNullable_and_iff _ reading.IsConfig _ _ (v.slot 0) s.current
    fun _ => Reading.isConfig_iff
  have hpending := @isNullable_and_iff _ (reading.IsPending s.current) _ _ (v.slot 1) s.pending
    fun _ => isPending_iff
  have hnonempty : ¬ (s.current.isNone = true ∧ s.pending.isNone = true) ↔
      s.current.isSome = true ∨ s.pending.isSome = true := by
    cases s.current <;> cases s.pending <;> simp
  constructor
  · intro h
    obtain ⟨hholds, hvalid⟩ := hcurrent.mp h.current
    obtain ⟨hholds', hvalid'⟩ := hpending.mp h.pending
    exact ⟨⟨h.tuple, hholds, hholds'⟩, hvalid, hvalid', hnonempty.mp h.nonempty⟩
  · intro h
    obtain ⟨hv, hs⟩ := h
    exact ⟨hv.tuple, hcurrent.mpr ⟨hv.current, hs.current⟩,
      hpending.mpr ⟨hv.pending, hs.pending⟩, hnonempty.mpr hs.nonempty⟩

/-- The comparison with the row before puts the markets of the whole list in order. -/
theorem isRegistry_iff {previousMarket : Int} {vs : List Value}
    {is : List TriggerMarketConfigInfo} :
    reading.IsRegistry previousMarket vs is ↔ List.Forall₂ reading.HoldsInfo vs is ∧
      ValidRegistry is ∧ ∀ i ∈ is, previousMarket < i.market := by
  induction vs generalizing previousMarket is with
  | nil =>
    cases is with
    | nil => exact iff_of_true trivial ⟨.nil, ⟨by simp, .nil, by simp⟩, by simp⟩
    | cons i is => simp [Reading.IsRegistry]
  | cons v vs ih =>
    cases is with
    | nil => simp [Reading.IsRegistry]
    | cons i is =>
      rw [Reading.IsRegistry, ih]
      constructor
      · intro h
        obtain ⟨hrow, horder, hholds, hvalid, hrest⟩ := h
        obtain ⟨hstate, hstateValid⟩ := isState_iff.mp hrow.state
        refine ⟨.cons ⟨hrow.tuple, hrow.market, hstate⟩ hholds, ⟨?_, ?_, ?_⟩, ?_⟩
        · exact List.forall_mem_cons.mpr ⟨hrow.marketBound, hvalid.markets⟩
        · refine List.pairwise_cons.mpr ⟨fun j hj => ?_, hvalid.increasing⟩
          exact_mod_cast hrest j hj
        · exact List.forall_mem_cons.mpr ⟨hstateValid, hvalid.states⟩
        · refine List.forall_mem_cons.mpr ⟨not_le.mp horder, fun j hj => ?_⟩
          exact (not_le.mp horder).trans (hrest j hj)
      · intro h
        obtain ⟨hholds, hvalid, hprevious⟩ := h
        obtain ⟨hhead, hholds⟩ := List.forall₂_cons.mp hholds
        obtain ⟨hfirst, hincreasing⟩ := List.pairwise_cons.mp hvalid.increasing
        obtain ⟨hbound, hmarkets⟩ := List.forall_mem_cons.mp hvalid.markets
        obtain ⟨hstate, hstates⟩ := List.forall_mem_cons.mp hvalid.states
        refine ⟨⟨hhead.tuple, hhead.market, hbound, isState_iff.mpr ⟨hhead.state, hstate⟩⟩,
          not_le.mpr (hprevious i List.mem_cons_self), hholds, ⟨hmarkets, hincreasing, hstates⟩, ?_⟩
        intro j hj
        exact_mod_cast hfirst j hj

theorem decodeTriggerMarketConfigInfos_ok_iff_valid {v : Value}
    {is : List TriggerMarketConfigInfo} :
    decodeTriggerMarketConfigInfos v = .ok is ↔ reading.HoldsRegistry v is ∧ ValidRegistry is := by
  have hstart : ∀ i ∈ is, (-1 : Int) < i.market := by
    intro i _
    omega
  rw [decodeTriggerMarketConfigInfos_ok_iff, isRegistry_iff, Reading.HoldsRegistry, and_assoc,
    and_iff_left hstart]

/-- A registry of the right shape is accepted exactly when it obeys the rules, and it is returned as
it stands. -/
theorem decodeTriggerMarketConfigInfos_exact {v : Value} {is : List TriggerMarketConfigInfo}
    (h : reading.HoldsRegistry v is) :
    ((∃ js, decodeTriggerMarketConfigInfos v = .ok js) ↔ ValidRegistry is) ∧
      ∀ js, decodeTriggerMarketConfigInfos v = .ok js → js = is := by
  have hsame : ∀ js, decodeTriggerMarketConfigInfos v = .ok js → js = is := by
    intro js hjs
    exact (decodeTriggerMarketConfigInfos_ok_iff_valid.mp hjs).1.unique h
  refine ⟨?_, hsame⟩
  constructor
  · intro hok
    obtain ⟨js, hjs⟩ := hok
    have hvalid := (decodeTriggerMarketConfigInfos_ok_iff_valid.mp hjs).2
    rwa [hsame js hjs] at hvalid
  · intro hvalid
    exact ⟨is, decodeTriggerMarketConfigInfos_ok_iff_valid.mpr ⟨h, hvalid⟩⟩

/-- The rows of market 3, whose first configuration is pending at the last height but one, and of
market 7, which has been switched off. -/
def sampleRegistry : List TriggerMarketConfigInfo :=
  [⟨3, none, some ⟨⟨1, true, 75, 5000, 1000, 8⟩, 2^64 - 2, 2^64 - 1⟩⟩,
   ⟨7, some ⟨4, false, 0, 0, 0, 0⟩, none⟩]

def sampleRegistryValue : Value :=
  .arr [.arr [.wide 3, .arr [.nil, .arr [.arr [.wide 1, .bool true, .wide 75, .wide 5000, .wide 1000,
      .wide 8], .wide (2^64 - 2), .wide (2^64 - 1)]]],
    .arr [.str "7", .arr [.arr [.wide 4, .bool false, .wide 0, .wide 0, .wide 0, .wide 0], .nil]]]

theorem sampleRegistry_holds : reading.HoldsRegistry sampleRegistryValue sampleRegistry := by
  have hpending : reading.HoldsInfo
      (.arr [.wide 3, .arr [.nil, .arr [.arr [.wide 1, .bool true, .wide 75, .wide 5000,
        .wide 1000, .wide 8], .wide (2^64 - 2), .wide (2^64 - 1)]]])
      ⟨3, none, some ⟨⟨1, true, 75, 5000, 1000, 8⟩, 2^64 - 2, 2^64 - 1⟩⟩ :=
    ⟨⟨rfl, rfl⟩, rfl, ⟨rfl, rfl⟩, rfl, rfl, ⟨rfl, rfl⟩, ⟨⟨rfl, rfl⟩, rfl, rfl, rfl, rfl, rfl, rfl⟩,
      rfl, rfl⟩
  have hcurrent : reading.HoldsInfo
      (.arr [.str "7", .arr [.arr [.wide 4, .bool false, .wide 0, .wide 0, .wide 0, .wide 0], .nil]])
      ⟨7, some ⟨4, false, 0, 0, 0, 0⟩, none⟩ :=
    ⟨⟨rfl, rfl⟩, rfl, ⟨rfl, rfl⟩, ⟨rfl, ⟨rfl, rfl⟩, rfl, rfl, rfl, rfl, rfl, rfl⟩, rfl⟩
  exact ⟨rfl, .cons hpending (.cons hcurrent .nil)⟩

theorem sampleRegistry_valid : ValidRegistry sampleRegistry := by
  have hfirst : TriggerMarketConfigState.Valid
      ⟨none, some ⟨⟨1, true, 75, 5000, 1000, 8⟩, 2^64 - 2, 2^64 - 1⟩⟩ := by
    refine ⟨fun c hc => (by cases hc), fun p hp => ?_, .inr rfl⟩
    obtain rfl := Option.some.inj hp
    exact ⟨⟨by decide, by decide, by decide⟩, rfl, by decide, rfl, by decide⟩
  have hsecond : TriggerMarketConfigState.Valid ⟨some ⟨4, false, 0, 0, 0, 0⟩, none⟩ := by
    refine ⟨fun c hc => ?_, fun p hp => (by cases hp), .inl rfl⟩
    obtain rfl := Option.some.inj hc
    exact ⟨by decide, by decide, by decide⟩
  refine ⟨by decide, by decide, ?_⟩
  intro i hi
  simp only [sampleRegistry, List.mem_cons, List.not_mem_nil, or_false] at hi
  obtain rfl | rfl := hi
  · exact hfirst
  · exact hsecond

theorem decodeTriggerMarketConfigInfos_exact_sample :
    decodeTriggerMarketConfigInfos sampleRegistryValue = .ok sampleRegistry := by
  obtain ⟨hiff, hsame⟩ := decodeTriggerMarketConfigInfos_exact sampleRegistry_holds
  obtain ⟨js, hjs⟩ := hiff.mpr sampleRegistry_valid
  rw [hjs, hsame js hjs]

end TypeScript

end TradingSdk.TriggerState
