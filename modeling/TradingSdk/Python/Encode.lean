import TradingSdk.Python.Actions

namespace TradingSdk.Python

open Serde

/-- The values within an annotation. Nested instances have passed their own `__post_init__`. -/
def TypeHint.Admits : TypeHint → Content → Prop
  | .int, v => ∃ n, v = .int n
  | .str, v => ∃ s, v = .str s
  | .bool, v => ∃ b, v = .bool b
  | .bytes, v => ∃ bs, v = .bytes bs
  | .any, _ => True
  | .dict, v => ∃ dict, v = .map dict
  | .triggerLimb, v => ∃ self : Attrs, v = .map self ∧
      self.map Prod.fst = TriggerLimb.attributes.map Attribute.name ∧
      TriggerLimb.postInit self = .ok ()
  | .atomicBasketLeg, v => ∃ self : Attrs, v = .map self ∧
      self.map Prod.fst = AtomicBasketLeg.attributes.map Attribute.name
  | .optional t, v => v = .null ∨ t.Admits v
  | .list t, v => ∃ items, v = .seq items ∧ ∀ w ∈ items, t.Admits w

/-- Keyword arguments give a field its value: within the annotation of the attribute that has its
name, or left out for the value of an absent one. -/
def FieldGiven (attributes : List Attribute) (name : String) {α : Type} (s : Schema α)
    (dflt : Option α) : Option Content → α → Prop
  | none, a => (dflt <|> s.absent) = some a
  | some v, a => (∀ t ∈ attributes.find? fun t => t.name == name, t.type.Admits v) ∧
      (s.Native v a ∨ s.Numbered v a)

def FieldsGiven (attributes : List Attribute) : {α : Type} → Fields α → Attrs → α → Prop
  | _, .nil, _, _ => True
  | _, .cons name s dflt fs, kwargs, (a, b) =>
    FieldGiven attributes name s dflt (kwargs.lookup name) a ∧ FieldsGiven attributes fs kwargs b

/-- Keyword arguments of a builder give exactly the field values of a payload. -/
def Given (cls : Builder) {α : Type} : Schema α → Attrs → α → Prop
  | .struct fs e, kwargs, a => FieldsGiven cls.attributes fs kwargs (e.symm a)
  | _, _, _ => False

theorem lookup_entries {keys : List String} {self : Attrs} {name : String} (h : name ∈ keys) :
    (entries keys self).lookup name = some (attr self name) := by
  induction keys with
  | nil => cases h
  | cons key keys ih =>
    rw [entries, List.map_cons]
    by_cases heq : name = key
    · rw [heq, List.lookup_cons_self]
    · rw [lookup_cons_of_ne heq]
      exact ih ((List.mem_cons.mp h).resolve_left heq)

theorem attr_cons (key : String) (v : Content) (self : Attrs) (name : String) :
    attr ((key, v) :: self) name = if key = name then v else attr self name := by
  split_ifs with h
  · rw [h, attr, List.lookup_cons_self, Option.getD_some]
  · rw [attr, lookup_cons_of_ne (Ne.symm h), attr]

theorem attr_initialise {attributes : List Attribute} {kwargs : Attrs} {name : String}
    {a : Attribute} (h : attributes.find? (fun t => t.name == name) = some a) :
    attr (initialise attributes kwargs) name = (a.value kwargs).getD .null := by
  induction attributes with
  | nil => cases h
  | cons t attributes ih =>
    rw [initialise, List.map_cons, attr_cons]
    rw [List.find?_cons] at h
    split_ifs with hname
    · rw [hname, beq_self_eq_true] at h
      rw [Option.some.inj h]
    · rw [beq_false_of_ne hname] at h
      exact ih h

/-- An instance with the attributes of its class, in their order, is its own dictionary. -/
theorem entries_of_names {keys : List String} {self : Attrs} (hnodup : keys.Nodup)
    (h : self.map Prod.fst = keys) : entries keys self = self := by
  induction self generalizing keys with
  | nil =>
    rw [← h]
    rfl
  | cons e self ih =>
    obtain ⟨key, v⟩ := e
    obtain rfl : key :: self.map Prod.fst = keys := h
    obtain ⟨hfresh, hrest⟩ := List.nodup_cons.mp hnodup
    have htail : entries (self.map Prod.fst) ((key, v) :: self) = entries (self.map Prod.fst) self := by
      refine List.map_congr_left fun name hname => ?_
      have hne : key ≠ name := fun heq => hfresh (heq ▸ hname)
      rw [attr_cons, if_neg hne]
    rw [entries, List.map_cons, attr_cons, if_pos rfl]
    exact congrArg _ (htail.trans (ih hrest rfl))

theorem construct_eq_ok {cls : Builder} {kwargs self : Attrs} (h : cls.construct kwargs = .ok self) :
    self = initialise cls.attributes kwargs ∧ cls.postInit self = .ok () ∧
      ∀ a ∈ cls.attributes, (a.value kwargs).isSome = true := by
  rw [Builder.construct] at h
  by_cases hunknown : kwargs.all (fun e => (cls.attributes.map Attribute.name).contains e.1) = true
  · by_cases hmissing : cls.attributes.all (fun a => (a.value kwargs).isSome) = true
    · simp only [hunknown, hmissing, Bool.not_true, if_neg Bool.false_ne_true] at h
      cases hpost : cls.postInit (initialise cls.attributes kwargs) with
      | error e =>
        rw [hpost] at h
        cases h
      | ok u =>
        rw [hpost] at h
        obtain rfl := Except.ok.inj h
        exact ⟨rfl, hpost, List.all_eq_true.mp hmissing⟩
    · simp only [hunknown, hmissing] at h
      cases h
  · simp only [hunknown] at h
    cases h

/-- Each field of a struct has an attribute, whose default reads as the value of an absent field. -/
def Supplied (attributes : List Attribute) : {α : Type} → Fields α → Prop
  | _, .nil => True
  | _, .cons name s dflt fs => (∃ t, attributes.find? (fun t => t.name == name) = some t ∧
      ∀ d ∈ t.default, s.ofContent d = (dflt <|> s.absent)) ∧ Supplied attributes fs

def TypeHint.takesInt : TypeHint → Bool
  | .int => true
  | .any => true
  | .optional t => t.takesInt
  | _ => false

/-- An attribute that takes an integer for the name of a variant holds the value of an absent
field. -/
def Named (attributes : List Attribute) : {α : Type} → Fields α → α → Prop
  | _, .nil, _ => True
  | _, .cons name s _ fs, (a, b) => (∀ t ∈ attributes.find? fun t => t.name == name,
      (t.type.takesInt && s.takesNumber) = false ∨ s.absent = some a) ∧ Named attributes fs b

theorem TypeHint.takesInt_of_admits {t : TypeHint} {n : Int} (h : t.Admits (.int n)) :
    t.takesInt = true := by
  induction t with
  | int => rfl
  | any => rfl
  | optional t ih =>
    obtain hnone | h := h
    · cases hnone
    · exact ih h
  | _ => obtain ⟨_, h, _⟩ := h <;> cases h

/-- Where no integer is taken for a name, given values are read as what they stand for. -/
theorem FieldGiven.ofContent {attributes : List Attribute} {name : String} {α : Type}
    {s : Schema α} {dflt : Option α} {kwargs : Attrs} {a : α} {t : Attribute}
    (ht : attributes.find? (fun t => t.name == name) = some t)
    (hvalue : (t.value kwargs).isSome = true)
    (hdefault : ∀ d ∈ t.default, s.ofContent d = (dflt <|> s.absent))
    (hnamed : (t.type.takesInt && s.takesNumber) = false ∨ s.absent = some a)
    (hl : s.lawful = true) (h : FieldGiven attributes name s dflt (kwargs.lookup name) a) :
    s.ofContent (attr (initialise attributes kwargs) name) = some a := by
  have hname : t.name = name := by simpa using List.find?_some ht
  rw [attr_initialise ht]
  rw [Attribute.value, hname] at hvalue ⊢
  cases hv : kwargs.lookup name with
  | none =>
    rw [hv] at h hvalue
    cases hd : t.default with
    | none =>
      rw [hd] at hvalue
      cases hvalue
    | some d => exact (hdefault d hd).trans h
  | some v =>
    rw [hv] at h
    obtain ⟨hadmits, hnative | hnumber⟩ := h
    · exact Schema.ofContent_of_native s hl hnative
    · obtain ⟨htakes, n, rfl⟩ := s.takesNumber_of_numbered hnumber
      obtain hnamed | habsent := hnamed
      · rw [TypeHint.takesInt_of_admits (hadmits t ht), htakes] at hnamed
        cases hnamed
      · cases s with
        | option s =>
          obtain rfl := Option.some.inj habsent
          cases hnumber
        | _ => cases habsent

theorem FieldsGiven.ofContents {attributes : List Attribute} {keys : List String}
    {kwargs : Attrs} (hvalues : ∀ t ∈ attributes, (t.value kwargs).isSome = true) : {α : Type} →
    (fs : Fields α) → {a : α} → (∀ name ∈ fs.names, name ∈ keys) → fs.lawful = true →
    Supplied attributes fs → Named attributes fs a → FieldsGiven attributes fs kwargs a →
    fs.ofContents (entries keys (initialise attributes kwargs)) = some a
  | _, .nil, _, _, _, _, _, _ => rfl
  | _, .cons name s dflt fs, (a, b), hkeys, hl, hsupplied, hnamed, hgiven => by
    simp only [Fields.lawful, Bool.and_eq_true] at hl
    obtain ⟨⟨t, ht, hdefault⟩, hsupplied⟩ := hsupplied
    obtain ⟨hhead, htail⟩ := hgiven
    have hvalue := hvalues t (List.mem_of_find?_eq_some ht)
    have hread := hhead.ofContent ht hvalue hdefault (hnamed.1 t ht) hl.1
    have hrest : ∀ name' ∈ fs.names, name' ∈ keys := fun name' h =>
      hkeys name' (List.mem_cons_of_mem _ h)
    rw [Fields.ofContents, lookup_entries (hkeys name List.mem_cons_self), readField, hread,
      Option.bind_some, FieldsGiven.ofContents hvalues fs hrest hl.2 hsupplied hnamed.2 htail,
      Option.map_some]

/-- The body of a payload struct. -/
def SchemaSupplied (attributes : List Attribute) {α : Type} : Schema α → Prop
  | .struct fs _ => Supplied attributes fs
  | _ => False

def schemaNames {α : Type} : Schema α → List String
  | .struct fs _ => fs.names
  | _ => []

theorem supplied_of_typedBuilder {kind : ActionKind} {cls : Builder}
    (h : typedBuilder kind = some cls) : SchemaSupplied cls.attributes kind.schema := by
  cases kind <;> cases h
  all_goals simp [SchemaSupplied, Supplied, ActionKind.schema, Builder.plain,
        placeOrder, PlaceOrder.schema, marketOrder, MarketOrder.schema, cancelOrder,
        CancelOrder.schema, cancelClientOrder, CancelClientOrder.schema, cancelAllOrders,
        CancelAllOrders.schema, cancelReplaceOrder, CancelReplaceOrder.schema, amendOrder,
        AmendOrder.schema, closePosition, ClosePosition.schema, setUserMarketLeverage,
        SetUserMarketLeverage.schema, approveAgent, ApproveAgent.schema, revokeAgent,
        RevokeAgent.schema, atomicBasketOrder, AtomicBasketOrder.schema, setPositionTriggers,
        SetPositionTriggers.schema, cancelPositionTriggers, CancelPositionTriggers.schema,
        createImpactMarket, CreateImpactMarket.schema, updateMarketFees, UpdateMarketFees.schema,
        oracleUpdateComposite, OracleUpdateComposite.schema, deposit, Deposit.schema, withdraw,
        Withdraw.schema, withdrawRequest, WithdrawRequest.schema, confirmDeposit,
        ConfirmDeposit.schema, confirmWithdrawal, ConfirmWithdrawal.schema, failWithdrawal,
        FailWithdrawal.schema]
  all_goals and_intros <;> rfl

theorem asWire_limb {v : Content} (h : (TypeHint.optional .triggerLimb).Admits v) :
    TriggerLimb.asWire v = v := by
  obtain rfl | ⟨self, rfl, hnames, -⟩ := h
  · rfl
  · exact congrArg Content.map (entries_of_names (by decide) hnames)

theorem asWire_leg {v : Content} (h : TypeHint.atomicBasketLeg.Admits v) :
    AtomicBasketLeg.asWire v = v := by
  obtain ⟨self, rfl, hnames⟩ := h
  exact congrArg Content.map (entries_of_names (by decide) hnames)

theorem legsAsWire_legs {v : Content} (h : (TypeHint.list .atomicBasketLeg).Admits v) :
    legsAsWire v = v := by
  obtain ⟨legs, rfl, hlegs⟩ := h
  have hmap : legs.map AtomicBasketLeg.asWire = legs := by
    rw [List.map_congr_left fun leg hleg => asWire_leg (hlegs leg hleg), List.map_id']
  rw [legsAsWire, hmap]

/-- A given attribute is within its annotation, and so is a default that is. -/
theorem FieldGiven.admits {attributes : List Attribute} {name : String} {α : Type} {s : Schema α}
    {dflt : Option α} {kwargs : Attrs} {a : α} {t : Attribute}
    (ht : attributes.find? (fun t => t.name == name) = some t)
    (hdefault : t.type.Admits (t.default.getD .null))
    (h : FieldGiven attributes name s dflt (kwargs.lookup name) a) :
    t.type.Admits (attr (initialise attributes kwargs) name) := by
  have hname : t.name = name := by simpa using List.find?_some ht
  rw [attr_initialise ht, Attribute.value, hname]
  cases hv : kwargs.lookup name with
  | none => exact hdefault
  | some v =>
    rw [hv] at h
    exact h.1 t ht

theorem atomicBasketOrder_fields {kwargs : Attrs} {x : AtomicBasketOrder}
    (h : Given atomicBasketOrder AtomicBasketOrder.schema kwargs x) :
    atomicBasketOrder.fields (initialise atomicBasketOrder.attributes kwargs) =
      entries (schemaNames AtomicBasketOrder.schema)
        (initialise atomicBasketOrder.attributes kwargs) := by
  obtain ⟨-, hlegs, -⟩ := h
  have hgiven : ∃ v, kwargs.lookup "legs" = some v := by
    cases hv : kwargs.lookup "legs" with
    | none =>
      rw [hv] at hlegs
      cases hlegs
    | some v => exact ⟨v, rfl⟩
  obtain ⟨v, hv⟩ := hgiven
  rw [hv] at hlegs
  have hattr : attr (initialise atomicBasketOrder.attributes kwargs) "legs" = v := by
    rw [attr_initialise (a := ⟨"legs", .list .atomicBasketLeg, none⟩) rfl, Attribute.value, hv]
    rfl
  have hwire : legsAsWire v = v := legsAsWire_legs (hlegs.1 _ rfl)
  show [_, ("legs", legsAsWire (attr (initialise atomicBasketOrder.attributes kwargs) "legs")), _] = _
  rw [hattr, hwire, ← hattr]
  rfl

theorem setPositionTriggers_fields {kwargs : Attrs} {x : SetPositionTriggers}
    (h : Given setPositionTriggers SetPositionTriggers.schema kwargs x) :
    setPositionTriggers.fields (initialise setPositionTriggers.attributes kwargs) =
      entries (schemaNames SetPositionTriggers.schema)
        (initialise setPositionTriggers.attributes kwargs) := by
  obtain ⟨-, -, -, hstop, htake, -⟩ := h
  have hstop := asWire_limb (hstop.admits (t := ⟨"stop_loss", _, _⟩) rfl (.inl rfl))
  have htake := asWire_limb (htake.admits (t := ⟨"take_profit", _, _⟩) rfl (.inl rfl))
  show [_, _, _, ("stop_loss", TriggerLimb.asWire _), ("take_profit", TriggerLimb.asWire _), _] = _
  rw [hstop, htake]
  rfl

theorem fields_eq_entries {kind : ActionKind} {cls : Builder} {kwargs : Attrs} {x : kind.Payload}
    (h : typedBuilder kind = some cls) (hgiven : Given cls kind.schema kwargs x) :
    cls.fields (initialise cls.attributes kwargs) =
      entries (schemaNames kind.schema) (initialise cls.attributes kwargs) := by
  cases kind <;> cases h
  case atomicBasketOrder => exact atomicBasketOrder_fields hgiven
  case setPositionTriggers => exact setPositionTriggers_fields hgiven
  all_goals rfl

/-- Whether no attribute takes an integer for the name of a variant. -/
def namesAll (attributes : List Attribute) : {α : Type} → Fields α → Bool
  | _, .nil => true
  | _, .cons name s _ fs =>
    !((attributes.find? fun t => t.name == name).any fun t => t.type.takesInt && s.takesNumber) &&
      namesAll attributes fs

theorem named_of_namesAll {attributes : List Attribute} : {α : Type} → (fs : Fields α) → {a : α} →
    namesAll attributes fs = true → Named attributes fs a
  | _, .nil, _, _ => trivial
  | _, .cons name s _ fs, (a, b), h => by
    simp only [namesAll, Bool.and_eq_true, Bool.not_eq_true'] at h
    refine ⟨?_, named_of_namesAll fs h.2⟩
    intro t ht
    have hhead := h.1
    rw [Option.mem_def.mp ht, Option.any_some] at hhead
    exact .inl hhead

/-- The mark source mode that a payload sets. -/
def markSourceMode : Action → Option MarkSourceMode
  | ⟨.updateMarketFees, x⟩ => UpdateMarketFees.markSourceMode x
  | _ => none

/-- The body of a payload struct. -/
def SchemaNamed (attributes : List Attribute) {α : Type} : Schema α → α → Prop
  | .struct fs e, a => Named attributes fs (e.symm a)
  | _, _ => False

theorem updateMarketFees_named {x : UpdateMarketFees} (h : x.markSourceMode = none) :
    SchemaNamed updateMarketFees.attributes UpdateMarketFees.schema x := by
  simp [SchemaNamed, Named, updateMarketFees, Builder.plain, UpdateMarketFees.schema,
    Address.schema, Schema.takesNumber, Schema.absent, h]

/-- A dictionary with an entry for each field is read as the payload that the builder holds. -/
theorem Given.ofContent {cls : Builder} {kwargs self : Attrs} {α : Type} {s : Schema α} {x : α}
    (hself : cls.construct kwargs = .ok self) (hl : s.lawful = true)
    (hsupplied : SchemaSupplied cls.attributes s) (hnamed : SchemaNamed cls.attributes s x)
    (h : Given cls s kwargs x) : s.ofContent (.map (entries (schemaNames s) self)) = some x := by
  obtain ⟨rfl, -, hvalues⟩ := construct_eq_ok hself
  cases s with
  | struct fs e =>
    simp only [Schema.lawful, Bool.and_eq_true] at hl
    have hread := FieldsGiven.ofContents hvalues fs (fun _ h => h) hl.2 hsupplied hnamed h
    rw [Schema.ofContent, Content.entries, Option.bind_some]
    show (fs.ofContents (entries fs.names _)).map e = _
    rw [hread, Option.map_some, e.apply_symm_apply]
  | _ => cases h

theorem named_of_markSourceMode {kind : ActionKind} {cls : Builder} {x : kind.Payload}
    (h : typedBuilder kind = some cls) (hmode : markSourceMode ⟨kind, x⟩ = none) :
    SchemaNamed cls.attributes kind.schema x := by
  cases kind <;> cases h
  case updateMarketFees => exact updateMarketFees_named hmode
  all_goals exact named_of_namesAll _ (by decide)

/-- A mark source mode is given as a number, which the dictionary passes on. -/
theorem updateMarketFees_misnamed {kwargs : Attrs} {x : UpdateMarketFees} {mode : MarkSourceMode}
    (hmode : x.markSourceMode = some mode)
    (h : Given updateMarketFees UpdateMarketFees.schema kwargs x) :
    UpdateMarketFees.schema.misnamed
      (.map (updateMarketFees.fields (initialise updateMarketFees.attributes kwargs))) = true := by
  have hgiven : FieldGiven updateMarketFees.attributes "mark_source_mode"
      (.option MarkSourceMode.schema) (some none) (kwargs.lookup "mark_source_mode")
      x.markSourceMode := by
    obtain ⟨-, -, -, -, -, -, -, -, -, -, -, -, -, hgiven, -⟩ := h
    exact hgiven
  have hattr : ∃ n, attr (initialise updateMarketFees.attributes kwargs) "mark_source_mode" =
      .int n := by
    rw [attr_initialise (a := ⟨"mark_source_mode", .optional .int, some .null⟩) rfl,
      Attribute.value]
    rw [hmode] at hgiven
    cases hv : kwargs.lookup "mark_source_mode" with
    | none =>
      rw [hv] at hgiven
      cases hgiven
    | some v =>
      rw [hv] at hgiven
      obtain ⟨hadmits, hnative | hnumber⟩ := hgiven
      · obtain rfl | ⟨n, rfl⟩ := hadmits _ rfl
        · cases hnative.1
        · exact ⟨n, rfl⟩
      · obtain ⟨-, n, rfl⟩ := Schema.takesNumber_of_numbered _ hnumber
        exact ⟨n, rfl⟩
  obtain ⟨n, hn⟩ := hattr
  have hentry : (updateMarketFees.fields (initialise updateMarketFees.attributes kwargs)).lookup
      "mark_source_mode" = some (.int n) := by
    rw [← hn]
    exact lookup_entries (by decide)
  simp [UpdateMarketFees.schema, Schema.misnamed, Fields.misnamed, hentry, Content.isNull,
    MarkSourceMode.schema]

theorem actionTypeOf_name {kind : ActionKind} {cls : Builder} (h : typedBuilder kind = some cls) :
    actionTypeOf cls.actionName = .ok kind.actionType := by
  cases kind <;> cases h <;> rfl

section Encode

variable (rmp : RmpSerde) (dyn : ContentSerde)

/-- A builder that holds the values of a payload without a mark source mode encodes the payload. -/
theorem encodeAction_eq {kind : ActionKind} {cls : Builder} {kwargs self : Attrs}
    {x : kind.Payload} (h : typedBuilder kind = some cls) (hself : cls.construct kwargs = .ok self)
    (hgiven : Given cls kind.schema kwargs x) (hmode : markSourceMode ⟨kind, x⟩ = none) :
    encodeAction rmp dyn ⟨cls, self⟩ =
      .ok (kind.actionType, (Action.mk kind x).payloadMsg.encode) := by
  have hfields : cls.fields self = entries (schemaNames kind.schema) self := by
    obtain ⟨rfl, -⟩ := construct_eq_ok hself
    exact fields_eq_entries h hgiven
  have hread := hgiven.ofContent hself kind.schema_lawful (supplied_of_typedBuilder h)
    (named_of_markSourceMode h hmode)
  rw [encodeAction, actionTypeOf_name h, hfields]
  show (liftNative (encodePayloadDyn rmp dyn kind.actionType _)).bind _ = _
  rw [encodePayloadDyn_of_ofContent rmp dyn hread]
  rfl

/-- A builder that holds a mark source mode is not encoded. -/
theorem encodeAction_mode {kind : ActionKind} {cls : Builder} {kwargs self : Attrs}
    {x : kind.Payload} {mode : MarkSourceMode} (hdyn : dyn.NamesVariants)
    (h : typedBuilder kind = some cls) (hself : cls.construct kwargs = .ok self)
    (hgiven : Given cls kind.schema kwargs x) (hmode : markSourceMode ⟨kind, x⟩ = some mode) :
    ∃ e, encodeAction rmp dyn ⟨cls, self⟩ = .error e := by
  obtain ⟨rfl, -, -⟩ := construct_eq_ok hself
  cases kind <;> cases h
  case updateMarketFees =>
    obtain ⟨e, he⟩ := hdyn _ _ (updateMarketFees_misnamed hmode hgiven)
    refine ⟨.core (.decodeError e), ?_⟩
    show (liftNative (encodePayloadDyn rmp dyn ActionKind.updateMarketFees.actionType _)).bind _ = _
    simp only [encodePayloadDyn, ActionKind.ofActionType_actionType, ActionKind.schema, he, mapErr]
    rfl
  all_goals cases hmode

end Encode

end TradingSdk.Python
