import TradingSdk.Lib.Except
import TradingSdk.Python.Agreement

namespace TradingSdk.Python

open Serde Js

/-- An instance of a dataclass built from keyword arguments. -/
def newInstance (attributes : List Attribute) (postInit : Attrs → Except PyError Unit)
    (kwargs : Attrs) : Except PyError Attrs := do
  if !(kwargs.all fun e => (attributes.map Attribute.name).contains e.1) then
    throw (.typeError "__init__() got an unexpected keyword argument")
  if !(attributes.all fun a => (a.value kwargs).isSome) then
    throw (.typeError "__init__() missing a required positional argument")
  postInit (initialise attributes kwargs)
  return initialise attributes kwargs

theorem Builder.construct_eq_newInstance (cls : Builder) (kwargs : Attrs) :
    cls.construct kwargs = newInstance cls.attributes cls.postInit kwargs :=
  rfl

/-- An argument in the text of a call: a value, or `TriggerLimb(..)`. -/
inductive Arg where
  | literal (v : Content)
  | triggerLimb (kwargs : Attrs)

def Arg.eval : Arg → Except PyError Content
  | .literal v => .ok v
  | .triggerLimb kwargs =>
    (newInstance TriggerLimb.attributes TriggerLimb.postInit kwargs).map Content.map

/-- The arguments of a call, evaluated from left to right. -/
def evalArgs (args : List (String × Arg)) : Except PyError Attrs :=
  args.mapM fun arg => arg.2.eval.map fun v => (arg.1, v)

/-- `cls(name=arg, ..)`. -/
def Builder.call (cls : Builder) (args : List (String × Arg)) : Except PyError Attrs := do
  let kwargs ← evalArgs args
  cls.construct kwargs

def SetTriggerMarketConfig.attributes : List Attribute :=
  [⟨"market", .int, none⟩, ⟨"enabled", .bool, none⟩, ⟨"max_trigger_slippage_bps", .int, none⟩,
   ⟨"max_mark_age_ms", .int, none⟩, ⟨"max_future_publish_skew_ms", .int, none⟩,
   ⟨"max_active_brackets", .int, none⟩, ⟨"expected_current_version", .optional .int, some .null⟩]

def isBool : Content → Bool
  | .bool _ => true
  | _ => false

/-- `if value`, of a value that is a `bool`. -/
def truth : Content → Bool
  | .bool b => b
  | _ => false

/-- `value == 0`, of a value that is an `int`. -/
def isZero : Content → Bool
  | .int n => n == 0
  | _ => false

def SetTriggerMarketConfig.postInit (self : Attrs) : Except PyError Unit := do
  triggerUint "market" (attr self "market") u32Max false
  raiseIf (!isBool (attr self "enabled")) "enabled must be boolean"
  unlessNone (attr self "expected_current_version") fun version =>
    triggerUint "expected_current_version" version u64Max false
  triggerUint "max_trigger_slippage_bps" (attr self "max_trigger_slippage_bps")
    maxTriggerSlippageBps false
  forM ["max_mark_age_ms", "max_future_publish_skew_ms", "max_active_brackets"] fun name =>
    triggerUint name (attr self name) u64Max false
  raiseIf (truth (attr self "enabled") && (isZero (attr self "max_trigger_slippage_bps") ||
      isZero (attr self "max_mark_age_ms") || isZero (attr self "max_future_publish_skew_ms") ||
      isZero (attr self "max_active_brackets")))
    ("enabled trigger config requires non-zero slippage, mark-age, " ++
      "future-skew and bracket bounds")

def intOrNone : Option UInt64 → Content
  | none => .null
  | some n => .int n.toNat

def limbAttrs (limb : TriggerLimb) : Attrs :=
  [("trigger_price", .int limb.triggerPrice.toNat),
   ("max_slippage_bps", .int limb.maxSlippageBps.toNat),
   ("client_trigger_id", intOrNone limb.clientTriggerId)]

def limbOrNone : Option TriggerLimb → Content
  | none => .null
  | some limb => .map (limbAttrs limb)

def setPositionTriggersAttrs (x : SetPositionTriggers) : Attrs :=
  [("market", .int x.market.toNat), ("owner", .bytes x.owner.1),
   ("expected_position_epoch", .int x.expectedPositionEpoch.toNat),
   ("stop_loss", limbOrNone x.stopLoss), ("take_profit", limbOrNone x.takeProfit),
   ("client_group_id", intOrNone x.clientGroupId)]

def cancelPositionTriggersAttrs (x : CancelPositionTriggers) : Attrs :=
  [("market", .int x.market.toNat), ("owner", .bytes x.owner.1),
   ("expected_position_epoch", .int x.expectedPositionEpoch.toNat)]

def setTriggerMarketConfigAttrs (x : SetTriggerMarketConfig) : Attrs :=
  [("market", .int x.market.toNat), ("enabled", .bool x.enabled),
   ("max_trigger_slippage_bps", .int x.maxTriggerSlippageBps.toNat),
   ("max_mark_age_ms", .int x.maxMarkAgeMs.toNat),
   ("max_future_publish_skew_ms", .int x.maxFuturePublishSkewMs.toNat),
   ("max_active_brackets", .int x.maxActiveBrackets.toNat),
   ("expected_current_version", intOrNone x.expectedCurrentVersion)]

/-- Keyword arguments that give each of these attributes its value. `None` may be left out. -/
structure Gives (kwargs values : Attrs) : Prop where
  each : ∀ e ∈ kwargs, values.lookup e.1 = some e.2
  others : ∀ e ∈ values, e.1 ∈ kwargs.map Prod.fst ∨ e.2 = .null

/-- An argument that gives this value: an instance only by its constructor. -/
def Arg.Gives : Arg → Content → Prop
  | .literal v, w => v = w ∧ ∀ self, v ≠ .map self
  | .triggerLimb kwargs, w => ∃ self, w = .map self ∧ Python.Gives kwargs self

structure ArgsGive (args : List (String × Arg)) (values : Attrs) : Prop where
  each : ∀ e ∈ args, ∃ v, values.lookup e.1 = some v ∧ e.2.Gives v
  others : ∀ e ∈ values, e.1 ∈ args.map Prod.fst ∨ e.2 = .null

theorem gives_self {values : Attrs} (h : (values.map Prod.fst).Nodup) : Gives values values :=
  ⟨fun _ he => lookup_of_mem h he, fun _ he => .inl (List.mem_map_of_mem he)⟩

section Construct

variable {attributes : List Attribute} {postInit : Attrs → Except PyError Unit}
  {kwargs values : Attrs}

theorem Gives.value {a : Attribute} (h : Gives kwargs values) (hname : a.name ∈ values.map Prod.fst)
    (hdefault : attr values a.name = .null → a.default = some .null) :
    a.value kwargs = some (attr values a.name) := by
  rw [Attribute.value]
  cases hv : kwargs.lookup a.name with
  | some v =>
    have hvalue := h.each _ (mem_of_lookup hv)
    rw [attr, hvalue]
    rfl
  | none =>
    obtain ⟨v, hlookup⟩ := Option.isSome_iff_exists.mp (lookup_isSome_iff_mem.mpr hname)
    obtain hgiven | hnull := h.others _ (mem_of_lookup hlookup)
    · have hsome := lookup_isSome_iff_mem.mpr hgiven
      rw [hv] at hsome
      cases hsome
    · have hattr : attr values a.name = .null := by
        rw [attr, hlookup]
        exact hnull
      rw [hattr, hdefault hattr]
      rfl

/-- Keyword arguments that give each attribute its value are stored as these values, once
`__post_init__` has passed them. -/
theorem newInstance_of_gives (h : Gives kwargs values)
    (hnames : values.map Prod.fst = attributes.map Attribute.name)
    (hnodup : (attributes.map Attribute.name).Nodup)
    (hdefault : ∀ a ∈ attributes, attr values a.name = .null → a.default = some .null) :
    newInstance attributes postInit kwargs = (postInit values).map fun _ => values := by
  have hvalue : ∀ a ∈ attributes, a.value kwargs = some (attr values a.name) := by
    intro a ha
    refine h.value ?_ (hdefault a ha)
    rw [hnames]
    exact List.mem_map_of_mem ha
  have hknown : (kwargs.all fun e => (attributes.map Attribute.name).contains e.1) = true := by
    rw [List.all_eq_true]
    intro e he
    rw [List.contains_iff_mem, ← hnames]
    exact lookup_isSome_iff_mem.mp (Option.isSome_iff_exists.mpr ⟨_, h.each e he⟩)
  have hall : (attributes.all fun a => (a.value kwargs).isSome) = true := by
    rw [List.all_eq_true]
    intro a ha
    rw [hvalue a ha]
    rfl
  have hinit : initialise attributes kwargs = values := by
    have hentries := entries_of_names hnodup hnames
    rw [entries, List.map_map] at hentries
    refine Eq.trans (List.map_congr_left fun a ha => ?_) hentries
    rw [hvalue a ha]
    rfl
  rw [newInstance, hknown, hall, hinit]
  cases postInit values <;> rfl

theorem newInstance_isOk_iff (h : Gives kwargs values)
    (hnames : values.map Prod.fst = attributes.map Attribute.name)
    (hnodup : (attributes.map Attribute.name).Nodup)
    (hdefault : ∀ a ∈ attributes, attr values a.name = .null → a.default = some .null) :
    (∃ self, newInstance attributes postInit kwargs = .ok self) ↔ postInit values = .ok () := by
  rw [newInstance_of_gives h hnames hnodup hdefault]
  cases postInit values with
  | error e => simp [Except.map]
  | ok u => simp [Except.map]

end Construct

theorem triggerUint_eq_ok {name : String} {n maximum : Nat} {nonzero : Bool} :
    triggerUint name (.int n) maximum nonzero = .ok () ↔ n ≤ maximum ∧ (nonzero = true → n ≠ 0) := by
  rw [triggerUint]
  split_ifs with hrange hzero
  · have hgt : ¬ n ≤ maximum := by omega
    simp [hgt]
  · have hn : n = 0 := by omega
    simp [hn, hzero.1]
  · have hle : n ≤ maximum := by omega
    simp only [true_iff]
    refine ⟨hle, fun hnonzero hn => hzero ⟨hnonzero, ?_⟩⟩
    omega

theorem toNat_le_u64Max (n : UInt64) : n.toNat ≤ u64Max :=
  Nat.le_sub_one_of_lt n.toNat_lt

theorem triggerUint_u64 {name : String} (n : UInt64) :
    triggerUint name (.int n.toNat) u64Max false = .ok () :=
  triggerUint_eq_ok.mpr ⟨toNat_le_u64Max n, fun h => by cases h⟩

theorem triggerUint_u32 {name : String} (n : UInt32) :
    triggerUint name (.int n.toNat) u32Max false = .ok () :=
  triggerUint_eq_ok.mpr ⟨Nat.le_sub_one_of_lt n.toNat_lt, fun h => by cases h⟩

theorem triggerUint_nonzero_u64 {name : String} {n : UInt64} :
    triggerUint name (.int n.toNat) u64Max true = .ok () ↔ n ≠ 0 := by
  rw [triggerUint_eq_ok, and_iff_right (toNat_le_u64Max n), imp_iff_right rfl, ne_eq, ne_eq,
    ← UInt64.toNat_inj, UInt64.toNat_zero]

theorem triggerUint_slippage {name : String} {n : UInt32} {nonzero : Bool} :
    triggerUint name (.int n.toNat) maxTriggerSlippageBps nonzero = .ok () ↔
      n ≤ TradingSdk.maxTriggerSlippageBps ∧ (nonzero = true → 1 ≤ n) := by
  have hmax : TradingSdk.maxTriggerSlippageBps.toNat = maxTriggerSlippageBps := rfl
  rw [triggerUint_eq_ok, UInt32.le_iff_toNat_le, UInt32.le_iff_toNat_le, hmax, UInt32.toNat_one,
    Nat.one_le_iff_ne_zero]

theorem intOrNone_eq_ok {name : String} {id : Option UInt64} :
    unlessNone (intOrNone id) (fun id => triggerUint name id u64Max true) = .ok () ↔
      id ≠ some 0 := by
  rw [unlessNone_eq_ok]
  cases id with
  | none => simp [intOrNone, Content.isNull]
  | some n =>
    rw [intOrNone, triggerUint_nonzero_u64, ne_eq, ne_eq, Option.some_inj]
    exact or_iff_right Bool.false_ne_true

theorem limb_postInit_iff (limb : TriggerLimb) :
    TriggerLimb.postInit (limbAttrs limb) = .ok () ↔ limb.validateFields = .ok () := by
  have hprice : attr (limbAttrs limb) "trigger_price" = .int limb.triggerPrice.toNat := rfl
  have hslippage : attr (limbAttrs limb) "max_slippage_bps" = .int limb.maxSlippageBps.toNat := rfl
  have hid : attr (limbAttrs limb) "client_trigger_id" = intOrNone limb.clientTriggerId := rfl
  rw [TriggerLimb.postInit, pass_eq_ok, pass_eq_ok, hprice, hslippage, hid,
    triggerUint_nonzero_u64, triggerUint_slippage, intOrNone_eq_ok,
    TriggerLimb.validateFields_eq_ok, and_comm (a := limb.maxSlippageBps ≤ _), imp_iff_right rfl]

theorem checkOwner_address (a : Address) : checkOwner (.bytes a.1) = .ok () :=
  if_pos a.2

theorem limbId_limbOrNone (limb : Option TriggerLimb) :
    limbId (limbOrNone limb) = intOrNone (limb.bind TriggerLimb.clientTriggerId) := by
  cases limb <;> rfl

theorem sameInt_limbIds (stop take : Option TriggerLimb) :
    sameInt (limbId (limbOrNone stop)) (limbId (limbOrNone take)) =
      duplicateClientTriggerId stop take := by
  rw [limbId_limbOrNone, limbId_limbOrNone, Bool.eq_iff_iff, duplicateClientTriggerId_eq_true]
  cases stop.bind TriggerLimb.clientTriggerId with
  | none => simp [intOrNone, sameInt]
  | some m =>
    cases take.bind TriggerLimb.clientTriggerId with
    | none => simp [intOrNone, sameInt]
    | some n =>
      simp only [intOrNone, sameInt, beq_iff_eq, Nat.cast_inj, UInt64.toNat_inj, Option.some_inj]
      constructor
      · intro h
        exact ⟨n, h, rfl⟩
      · intro h
        obtain ⟨id, hm, hn⟩ := h
        exact hm.trans hn.symm

theorem isNull_limbOrNone (limb : Option TriggerLimb) : (limbOrNone limb).isNull = limb.isNone := by
  cases limb <;> rfl

/-- The action checks everything about its limbs but what the limbs check themselves. -/
theorem setPositionTriggers_postInit_iff (x : SetPositionTriggers) :
    setPositionTriggers.postInit (setPositionTriggersAttrs x) = .ok () ↔
      x.expectedPositionEpoch ≠ 0 ∧ (x.stopLoss.isNone && x.takeProfit.isNone) = false ∧
        x.clientGroupId ≠ some 0 ∧ duplicateClientTriggerId x.stopLoss x.takeProfit = false := by
  have hmarket : attr (setPositionTriggersAttrs x) "market" = .int x.market.toNat := rfl
  have howner : attr (setPositionTriggersAttrs x) "owner" = .bytes x.owner.1 := rfl
  have hepoch : attr (setPositionTriggersAttrs x) "expected_position_epoch" =
      .int x.expectedPositionEpoch.toNat := rfl
  have hstop : attr (setPositionTriggersAttrs x) "stop_loss" = limbOrNone x.stopLoss := rfl
  have htake : attr (setPositionTriggersAttrs x) "take_profit" = limbOrNone x.takeProfit := rfl
  have hgroup : attr (setPositionTriggersAttrs x) "client_group_id" = intOrNone x.clientGroupId :=
    rfl
  simp only [setPositionTriggers, pass_eq_ok]
  rw [hmarket, howner, hepoch, hstop, htake, hgroup, and_iff_right (triggerUint_u32 x.market),
    and_iff_right (checkOwner_address x.owner), triggerUint_nonzero_u64, raiseIf_eq_ok,
    intOrNone_eq_ok, raiseIf_eq_ok, sameInt_limbIds, isNull_limbOrNone, isNull_limbOrNone]

theorem cancelPositionTriggers_postInit_iff (x : CancelPositionTriggers) :
    cancelPositionTriggers.postInit (cancelPositionTriggersAttrs x) = .ok () ↔
      x.validateFields = .ok () := by
  have hmarket : attr (cancelPositionTriggersAttrs x) "market" = .int x.market.toNat := rfl
  have howner : attr (cancelPositionTriggersAttrs x) "owner" = .bytes x.owner.1 := rfl
  have hepoch : attr (cancelPositionTriggersAttrs x) "expected_position_epoch" =
      .int x.expectedPositionEpoch.toNat := rfl
  simp only [cancelPositionTriggers, pass_eq_ok]
  rw [hmarket, howner, hepoch, and_iff_right (triggerUint_u32 x.market),
    and_iff_right (checkOwner_address x.owner), triggerUint_nonzero_u64,
    CancelPositionTriggers.validateFields_eq_ok]

theorem isZero_u64 (n : UInt64) : isZero (.int n.toNat) = decide (n = 0) := by
  rw [isZero, Bool.eq_iff_iff, beq_iff_eq, decide_eq_true_eq, Nat.cast_eq_zero,
    ← UInt64.toNat_inj, UInt64.toNat_zero]

theorem isZero_u32 (n : UInt32) : isZero (.int n.toNat) = decide (n = 0) := by
  rw [isZero, Bool.eq_iff_iff, beq_iff_eq, decide_eq_true_eq, Nat.cast_eq_zero,
    ← UInt32.toNat_inj, UInt32.toNat_zero]

theorem setTriggerMarketConfig_postInit_iff (x : SetTriggerMarketConfig) :
    SetTriggerMarketConfig.postInit (setTriggerMarketConfigAttrs x) = .ok () ↔
      x.validateFields = .ok () := by
  have hmarket : attr (setTriggerMarketConfigAttrs x) "market" = .int x.market.toNat := rfl
  have henabled : attr (setTriggerMarketConfigAttrs x) "enabled" = .bool x.enabled := rfl
  have hversion : attr (setTriggerMarketConfigAttrs x) "expected_current_version" =
      intOrNone x.expectedCurrentVersion := rfl
  have hslippage : attr (setTriggerMarketConfigAttrs x) "max_trigger_slippage_bps" =
      .int x.maxTriggerSlippageBps.toNat := rfl
  have hage : attr (setTriggerMarketConfigAttrs x) "max_mark_age_ms" =
      .int x.maxMarkAgeMs.toNat := rfl
  have hskew : attr (setTriggerMarketConfigAttrs x) "max_future_publish_skew_ms" =
      .int x.maxFuturePublishSkewMs.toNat := rfl
  have hbrackets : attr (setTriggerMarketConfigAttrs x) "max_active_brackets" =
      .int x.maxActiveBrackets.toNat := rfl
  have hversionOk : unlessNone (intOrNone x.expectedCurrentVersion) (fun version =>
      triggerUint "expected_current_version" version u64Max false) = .ok () := by
    rw [unlessNone_eq_ok]
    cases x.expectedCurrentVersion with
    | none => exact .inl rfl
    | some n => exact .inr (triggerUint_u64 n)
  have hunsigned : forM ["max_mark_age_ms", "max_future_publish_skew_ms", "max_active_brackets"]
      (fun name => triggerUint name (attr (setTriggerMarketConfigAttrs x) name) u64Max false) =
        .ok () := by
    rw [forM_ok_iff]
    intro name hname
    simp only [List.mem_cons, List.not_mem_nil, or_false] at hname
    obtain rfl | rfl | rfl := hname
    · exact triggerUint_u64 x.maxMarkAgeMs
    · exact triggerUint_u64 x.maxFuturePublishSkewMs
    · exact triggerUint_u64 x.maxActiveBrackets
  have hboolean : (!isBool (.bool x.enabled)) = false := rfl
  have hmax : x.maxTriggerSlippageBps ≤ TradingSdk.maxTriggerSlippageBps ∧
      (false = true → 1 ≤ x.maxTriggerSlippageBps) ↔
        x.maxTriggerSlippageBps ≤ TradingSdk.maxTriggerSlippageBps :=
    and_iff_left fun h => by cases h
  simp only [SetTriggerMarketConfig.postInit, pass_eq_ok]
  rw [hunsigned, hmarket, henabled, hversion, hslippage, hage, hskew, hbrackets, hversionOk,
    triggerUint_u32, triggerUint_slippage, raiseIf_eq_ok, raiseIf_eq_ok, hboolean, hmax, isZero_u32,
    isZero_u64, isZero_u64, isZero_u64, truth, SetTriggerMarketConfig.missingBound_eq_false,
    SetTriggerMarketConfig.validateFields_eq_ok]
  simp only [true_and]

theorem evalArgs_eq_ok {args : List (String × Arg)} {kwargs : Attrs} :
    evalArgs args = .ok kwargs ↔
      List.Forall₂ (fun arg e => arg.1 = e.1 ∧ arg.2.eval = .ok e.2) args kwargs := by
  have hentry : ∀ (arg : String × Arg) (e : String × Content),
      (arg.2.eval.map fun v => (arg.1, v)) = .ok e ↔ arg.1 = e.1 ∧ arg.2.eval = .ok e.2 := by
    intro arg e
    cases arg.2.eval with
    | error err => simp [Except.map]
    | ok v => simp [Except.map, Prod.ext_iff]
  simp only [evalArgs, mapM_ok_iff, hentry]

theorem exists_evalArgs {args : List (String × Arg)} :
    (∃ kwargs, evalArgs args = .ok kwargs) ↔ ∀ arg ∈ args, ∃ v, arg.2.eval = .ok v := by
  constructor
  · intro h arg harg
    obtain ⟨kwargs, hkwargs⟩ := h
    obtain ⟨e, -, -, hv⟩ := exists_related_of_mem (evalArgs_eq_ok.mp hkwargs) harg
    exact ⟨e.2, hv⟩
  · intro h
    refine exists_mapM_ok fun arg harg => ?_
    obtain ⟨v, hv⟩ := h arg harg
    rw [hv]
    exact ⟨(arg.1, v), rfl⟩

theorem limbAttrs_default {limb : TriggerLimb} : ∀ a ∈ TriggerLimb.attributes,
    attr (limbAttrs limb) a.name = .null → a.default = some .null := by
  intro a ha hnull
  simp only [TriggerLimb.attributes, List.mem_cons, List.not_mem_nil, or_false] at ha
  obtain rfl | rfl | rfl := ha
  · cases hnull
  · cases hnull
  · rfl

theorem eval_triggerLimb {kwargs : Attrs} {limb : TriggerLimb} (h : Gives kwargs (limbAttrs limb)) :
    (Arg.triggerLimb kwargs).eval =
      (TriggerLimb.postInit (limbAttrs limb)).map fun _ => Content.map (limbAttrs limb) := by
  rw [Arg.eval, newInstance_of_gives h rfl (by decide) limbAttrs_default]
  cases TriggerLimb.postInit (limbAttrs limb) <;> rfl

section SetPositionTriggers

variable {x : SetPositionTriggers} {args : List (String × Arg)}

theorem limb_of_lookup {name : String} {values : Attrs}
    (h : (setPositionTriggersAttrs x).lookup name = some (.map values)) :
    ∃ limb, (x.stopLoss = some limb ∨ x.takeProfit = some limb) ∧ values = limbAttrs limb := by
  have hsome : ∀ limb : Option TriggerLimb, Content.map values = limbOrNone limb →
      ∃ l, limb = some l ∧ values = limbAttrs l := by
    intro limb hlimb
    cases limb with
    | none => cases hlimb
    | some l => exact ⟨l, rfl, Content.map.inj hlimb⟩
  have hgroup : Content.map values ≠ intOrNone x.clientGroupId := by
    cases x.clientGroupId <;> exact fun h => by cases h
  have hmem := mem_of_lookup h
  simp only [setPositionTriggersAttrs, List.mem_cons, Prod.mk.injEq, reduceCtorEq, and_false,
    false_or, List.not_mem_nil, or_false] at hmem
  obtain ⟨-, hstop⟩ | ⟨-, htake⟩ | ⟨-, hid⟩ := hmem
  · obtain ⟨l, hl, hvalues⟩ := hsome _ hstop
    exact ⟨l, .inl hl, hvalues⟩
  · obtain ⟨l, hl, hvalues⟩ := hsome _ htake
    exact ⟨l, .inr hl, hvalues⟩
  · exact absurd hid hgroup

/-- Only the constructor of a limb refuses an argument, and what it returns is the value given. -/
theorem eval_of_mem (h : ArgsGive args (setPositionTriggersAttrs x)) {e : String × Arg}
    (he : e ∈ args) : ∃ v, (setPositionTriggersAttrs x).lookup e.1 = some v ∧
      (∀ w, e.2.eval = .ok w → w = v) ∧
      (validateOptionalLimb x.stopLoss = .ok () → validateOptionalLimb x.takeProfit = .ok () →
        ∃ w, e.2.eval = .ok w) := by
  obtain ⟨v, hlookup, hgives⟩ := h.each e he
  refine ⟨v, hlookup, ?_⟩
  cases harg : e.2 with
  | literal v' =>
    rw [harg] at hgives
    exact ⟨fun w hw => (Except.ok.inj hw).symm.trans hgives.1, fun _ _ => ⟨v', rfl⟩⟩
  | triggerLimb kwargs =>
    rw [harg] at hgives
    obtain ⟨values, rfl, hkwargs⟩ := hgives
    obtain ⟨limb, hlimb, rfl⟩ := limb_of_lookup hlookup
    rw [eval_triggerLimb hkwargs]
    constructor
    · intro w hw
      cases hpost : TriggerLimb.postInit (limbAttrs limb) with
      | error e =>
        rw [hpost] at hw
        cases hw
      | ok u =>
        rw [hpost] at hw
        exact (Except.ok.inj hw).symm
    · intro hstop htake
      have hvalid : limb.validateFields = .ok () := by
        obtain hlimb | hlimb := hlimb
        · rwa [hlimb] at hstop
        · rwa [hlimb] at htake
      rw [(limb_postInit_iff limb).mpr hvalid]
      exact ⟨_, rfl⟩

/-- A limb whose constructor returns is valid. -/
theorem validateOptionalLimb_of_eval (h : ArgsGive args (setPositionTriggersAttrs x))
    {name : String} {limb : Option TriggerLimb}
    (hlookup : (setPositionTriggersAttrs x).lookup name = some (limbOrNone limb))
    (hargs : ∀ e ∈ args, ∃ w, e.2.eval = .ok w) : validateOptionalLimb limb = .ok () := by
  cases limb with
  | none => rfl
  | some limb =>
    obtain hname | hnull := h.others _ (mem_of_lookup hlookup)
    · obtain ⟨e, he, rfl⟩ := List.mem_map.mp hname
      obtain ⟨v, hv, hgives⟩ := h.each e he
      obtain ⟨w, hw⟩ := hargs e he
      obtain rfl := Option.some.inj (hlookup.symm.trans hv)
      cases harg : e.2 with
      | literal v' =>
        rw [harg] at hgives
        exact absurd hgives.1 (hgives.2 _)
      | triggerLimb kwargs =>
        rw [harg] at hgives hw
        obtain ⟨values, hvalues, hkwargs⟩ := hgives
        obtain rfl := Content.map.inj hvalues
        rw [eval_triggerLimb hkwargs] at hw
        refine (limb_postInit_iff limb).mp ?_
        cases hpost : TriggerLimb.postInit (limbAttrs limb) with
        | error e =>
          rw [hpost] at hw
          cases hw
        | ok u => rfl
    · cases hnull

theorem gives_of_evalArgs (h : ArgsGive args (setPositionTriggersAttrs x)) {kwargs : Attrs}
    (heval : evalArgs args = .ok kwargs) : Gives kwargs (setPositionTriggersAttrs x) := by
  have hall := evalArgs_eq_ok.mp heval
  refine ⟨?_, ?_⟩
  · intro e he
    obtain ⟨arg, harg, hname, hvalue⟩ := exists_related_of_mem hall.flip he
    obtain ⟨v, hlookup, hunique, -⟩ := eval_of_mem h harg
    rw [← hname, hlookup, hunique _ hvalue]
  · intro e he
    obtain hname | hnull := h.others e he
    · obtain ⟨arg, harg, hkey⟩ := List.mem_map.mp hname
      obtain ⟨e', he', heq, -⟩ := exists_related_of_mem hall harg
      exact .inl (List.mem_map.mpr ⟨e', he', heq.symm.trans hkey⟩)
    · exact .inr hnull

theorem setPositionTriggersAttrs_default : ∀ a ∈ setPositionTriggers.attributes,
    attr (setPositionTriggersAttrs x) a.name = .null → a.default = some .null := by
  intro a ha hnull
  simp only [setPositionTriggers, List.mem_cons, List.not_mem_nil, or_false] at ha
  obtain rfl | rfl | rfl | rfl | rfl | rfl := ha
  · cases hnull
  · cases hnull
  · cases hnull
  · rfl
  · rfl
  · rfl

/-- The constructors of an action and of its limbs accept together what the core accepts. -/
theorem setPositionTriggers_call_iff (h : ArgsGive args (setPositionTriggersAttrs x)) :
    (∃ self, setPositionTriggers.call args = .ok self) ↔ x.validateFields = .ok () := by
  have hconstruct : ∀ kwargs, evalArgs args = .ok kwargs →
      ((∃ self, setPositionTriggers.construct kwargs = .ok self) ↔
        setPositionTriggers.postInit (setPositionTriggersAttrs x) = .ok ()) := by
    intro kwargs hkwargs
    rw [Builder.construct_eq_newInstance]
    exact newInstance_isOk_iff (gives_of_evalArgs h hkwargs) rfl (by decide)
      setPositionTriggersAttrs_default
  rw [SetPositionTriggers.validateFields_eq_ok]
  constructor
  · intro hcall
    obtain ⟨self, hself⟩ := hcall
    obtain ⟨kwargs, hkwargs, hself⟩ := bind_ok_iff.mp hself
    have hargs := exists_evalArgs.mp ⟨kwargs, hkwargs⟩
    obtain ⟨hepoch, hempty, hgroup, hids⟩ := (setPositionTriggers_postInit_iff x).mp
      ((hconstruct kwargs hkwargs).mp ⟨self, hself⟩)
    exact ⟨hepoch, hempty, hgroup, @validateOptionalLimb_of_eval _ _ h "stop_loss" _ rfl hargs,
      @validateOptionalLimb_of_eval _ _ h "take_profit" _ rfl hargs, hids⟩
  · intro hvalid
    obtain ⟨hepoch, hempty, hgroup, hstop, htake, hids⟩ := hvalid
    have hargs : ∀ e ∈ args, ∃ w, e.2.eval = .ok w := by
      intro e he
      obtain ⟨v, -, -, hok⟩ := eval_of_mem h he
      exact hok hstop htake
    obtain ⟨kwargs, hkwargs⟩ := exists_evalArgs.mpr hargs
    obtain ⟨self, hself⟩ := (hconstruct kwargs hkwargs).mpr
      ((setPositionTriggers_postInit_iff x).mpr ⟨hepoch, hempty, hgroup, hids⟩)
    exact ⟨self, bind_ok_iff.mpr ⟨kwargs, hkwargs, hself⟩⟩

end SetPositionTriggers

theorem cancelPositionTriggers_construct_iff {x : CancelPositionTriggers} {kwargs : Attrs}
    (h : Gives kwargs (cancelPositionTriggersAttrs x)) :
    (∃ self, cancelPositionTriggers.construct kwargs = .ok self) ↔ x.validateFields = .ok () := by
  rw [Builder.construct_eq_newInstance]
  refine Iff.trans (newInstance_isOk_iff h rfl (by decide) ?_)
    (cancelPositionTriggers_postInit_iff x)
  intro a ha hnull
  simp only [cancelPositionTriggers, List.mem_cons, List.not_mem_nil, or_false] at ha
  obtain rfl | rfl | rfl := ha <;> cases hnull

theorem setTriggerMarketConfig_newInstance_iff {x : SetTriggerMarketConfig} {kwargs : Attrs}
    (h : Gives kwargs (setTriggerMarketConfigAttrs x)) :
    (∃ self, newInstance SetTriggerMarketConfig.attributes SetTriggerMarketConfig.postInit kwargs =
      .ok self) ↔ x.validateFields = .ok () := by
  refine Iff.trans (newInstance_isOk_iff h rfl (by decide) ?_)
    (setTriggerMarketConfig_postInit_iff x)
  intro a ha hnull
  simp only [SetTriggerMarketConfig.attributes, List.mem_cons, List.not_mem_nil, or_false] at ha
  obtain rfl | rfl | rfl | rfl | rfl | rfl | rfl := ha <;> first | rfl | cases hnull

/-- A value of its own, an instance by a call of its constructor. -/
def argOf : Content → Arg
  | .map values => .triggerLimb values
  | v => .literal v

/-- Every action can be given to the constructors. -/
theorem argsGive_argOf (x : SetPositionTriggers) :
    ArgsGive ((setPositionTriggersAttrs x).map fun e => (e.1, argOf e.2))
      (setPositionTriggersAttrs x) := by
  have hnodup : ((setPositionTriggersAttrs x).map Prod.fst).Nodup := by
    show ["market", "owner", "expected_position_epoch", "stop_loss", "take_profit",
      "client_group_id"].Nodup
    decide
  refine ⟨?_, ?_⟩
  · intro arg harg
    obtain ⟨e, he, rfl⟩ := List.mem_map.mp harg
    have hlookup := lookup_of_mem hnodup he
    refine ⟨e.2, hlookup, ?_⟩
    cases hv : e.2 with
    | map values =>
      rw [hv] at hlookup
      obtain ⟨limb, -, rfl⟩ := limb_of_lookup hlookup
      refine ⟨limbAttrs limb, rfl, gives_self ?_⟩
      show ["trigger_price", "max_slippage_bps", "client_trigger_id"].Nodup
      decide
    | _ => exact ⟨rfl, fun _ h => by cases h⟩
  · intro e he
    refine .inl ?_
    rw [List.map_map]
    exact List.mem_map_of_mem he

/-- The core, TypeScript and Python accept the same trigger actions and market configurations. -/
theorem triggerValidators_agree :
    (∀ (x : SetPositionTriggers) (data : JsVal) (args : List (String × Arg)),
      SetPositionTriggers.schema.Typed "data" data x →
      ArgsGive args (setPositionTriggersAttrs x) →
      (validateSetPositionTriggers data = .ok () ↔ x.validateFields = .ok ()) ∧
      ((∃ self, setPositionTriggers.call args = .ok self) ↔ x.validateFields = .ok ())) ∧
    (∀ (x : CancelPositionTriggers) (data : JsVal) (kwargs : Attrs),
      CancelPositionTriggers.schema.Typed "data" data x →
      Gives kwargs (cancelPositionTriggersAttrs x) →
      (validateCancelPositionTriggers data = .ok () ↔ x.validateFields = .ok ()) ∧
      ((∃ self, cancelPositionTriggers.construct kwargs = .ok self) ↔
        x.validateFields = .ok ())) ∧
    (∀ (x : SetTriggerMarketConfig) (data : JsVal) (kwargs : Attrs),
      SetTriggerMarketConfig.schema.Typed "data" data x →
      Gives kwargs (setTriggerMarketConfigAttrs x) →
      (validateSetTriggerMarketConfig data = .ok () ↔ x.validateFields = .ok ()) ∧
      ((∃ self, newInstance SetTriggerMarketConfig.attributes SetTriggerMarketConfig.postInit
        kwargs = .ok self) ↔ x.validateFields = .ok ())) := by
  refine ⟨?_, ?_, ?_⟩
  · intro x data args htyped hgives
    exact ⟨SetPositionTriggers.validate_iff htyped, setPositionTriggers_call_iff hgives⟩
  · intro x data kwargs htyped hgives
    exact ⟨CancelPositionTriggers.validate_iff htyped, cancelPositionTriggers_construct_iff hgives⟩
  · intro x data kwargs htyped hgives
    exact ⟨SetTriggerMarketConfig.validate_iff htyped,
      setTriggerMarketConfig_newInstance_iff hgives⟩

/-- A stop loss at 95000 and a take profit at 105000, each with an identifier of its own. -/
def sampleTriggers : SetPositionTriggers where
  market := 1
  owner := Address.default
  expectedPositionEpoch := 7
  stopLoss := some ⟨95000, 75, some 11⟩
  takeProfit := some ⟨105000, 75, some 12⟩
  clientGroupId := none

/-- A cancellation that names no position. -/
def sampleCancelTriggers : CancelPositionTriggers := ⟨1, Address.default, 0⟩

/-- An enabled configuration without room for a bracket. -/
def sampleTriggerConfig : SetTriggerMarketConfig := ⟨1, none, true, 75, 5000, 1000, 0⟩

theorem triggerValidators_agree_sample :
    (validateSetPositionTriggers sampleTriggers.toTs = .ok () ∧
      ∃ self, setPositionTriggers.call
        ((setPositionTriggersAttrs sampleTriggers).map fun e => (e.1, argOf e.2)) = .ok self) ∧
    (¬ validateCancelPositionTriggers sampleCancelTriggers.toTs = .ok () ∧
      ¬ ∃ self, cancelPositionTriggers.construct
        (cancelPositionTriggersAttrs sampleCancelTriggers) = .ok self) ∧
    ¬ validateSetTriggerMarketConfig sampleTriggerConfig.toTs = .ok () ∧
      ¬ ∃ self, newInstance SetTriggerMarketConfig.attributes SetTriggerMarketConfig.postInit
        (setTriggerMarketConfigAttrs sampleTriggerConfig) = .ok self := by
  obtain ⟨hset, hcancel, hconfig⟩ := triggerValidators_agree
  obtain ⟨hts, hpython⟩ := hset sampleTriggers _ _ (sampleTriggers.typed_toTs "data")
    (argsGive_argOf sampleTriggers)
  obtain ⟨hcancelTs, hcancelPython⟩ := hcancel sampleCancelTriggers _ _
    (sampleCancelTriggers.typed_toTs "data") (gives_self (by decide))
  obtain ⟨hconfigTs, hconfigPython⟩ := hconfig sampleTriggerConfig _ _
    (sampleTriggerConfig.typed_toTs "data") (gives_self (by decide))
  have hepoch : ¬ sampleCancelTriggers.validateFields = .ok () := by decide
  have hbounds : ¬ sampleTriggerConfig.validateFields = .ok () := by decide
  rw [hts, hpython, hcancelTs, hcancelPython, hconfigTs, hconfigPython]
  exact ⟨⟨by decide, by decide⟩, ⟨hepoch, hepoch⟩, hbounds, hbounds⟩

end TradingSdk.Python
