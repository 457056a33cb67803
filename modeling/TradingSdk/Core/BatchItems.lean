import TradingSdk.Core.Governance

namespace TradingSdk

open Serde Msgpack

/-- The arm of the same name. -/
def AdminBatchItem.toAction : AdminBatchItem → AdminAction
  | .createMarket x => .createMarket x
  | .createImpactMarket x => .createImpactMarket x

def AdminAction.IsCreation : AdminAction → Prop
  | .createMarket _ => True
  | .createImpactMarket _ => True
  | _ => False

theorem AdminAction.isCreation_iff (a : AdminAction) :
    a.IsCreation ↔ ∃ b : AdminBatchItem, b.toAction = a := by
  constructor
  · intro h
    cases a with
    | createMarket x => exact ⟨.createMarket x, rfl⟩
    | createImpactMarket x => exact ⟨.createImpactMarket x, rfl⟩
    | _ => cases h
  · intro h
    obtain ⟨b, rfl⟩ := h
    cases b <;> trivial

theorem AdminBatchItem.ofMsg_eq (c : BinForms) (m : Msg) : AdminBatchItem.schema.ofMsg c m =
    (untag m).bind fun (id, payload) =>
      if id.selects "CreateMarket" 0 then
        (payload.bind (CreateMarket.schema.ofMsg c)).map .createMarket
      else if id.selects "CreateImpactMarket" 1 then
        (payload.bind (CreateImpactMarket.schema.ofMsg c)).map .createImpactMarket
      else none := by
  rw [schema, Schema.ofMsg]
  cases untag m with
  | none => rfl
  | some tagged =>
    simp only [Option.bind_some, Variants.select]
    split_ifs <;> simp [Option.map_map, Function.comp_def]

theorem AdminAction.ofMsg_eq (c : BinForms) (m : Msg) : AdminAction.schema.ofMsg c m =
    (untag m).bind fun (id, payload) =>
      if id.selects "CreateMarket" 0 then
        (payload.bind (CreateMarket.schema.ofMsg c)).map .createMarket
      else if id.selects "UpdateAdminSignerRegistry" 1 then
        (payload.bind (UpdateAdminSignerRegistry.schema.ofMsg c)).map .updateAdminSignerRegistry
      else if id.selects "CreateImpactMarket" 2 then
        (payload.bind (CreateImpactMarket.schema.ofMsg c)).map .createImpactMarket
      else if id.selects "Batch" 3 then
        (payload.bind ((Schema.vec AdminBatchItem.schema).ofMsg c)).map .batch
      else if id.selects "SetTriggerMarketConfig" 4 then
        (payload.bind (SetTriggerMarketConfig.schema.ofMsg c)).map .setTriggerMarketConfig
      else none := by
  rw [schema, Schema.ofMsg]
  cases untag m with
  | none => rfl
  | some tagged =>
    simp only [Option.bind_some, Variants.select]
    split_ifs <;> simp [Option.map_map, Function.comp_def]

/-- The key is no index that the two types read as different arms. -/
def SharedKey (m : Msg) : Prop :=
  ∀ n payload, untag m = some (.index n, payload) → n ≠ 1 ∧ n ≠ 2

/-- An item reads the same under either type: by name, and by the index that the types share. -/
theorem AdminBatchItem.ofMsg_iff {c : BinForms} {m : Msg} (hkey : SharedKey m) (b : AdminBatchItem) :
    AdminBatchItem.schema.ofMsg c m = some b ↔ AdminAction.schema.ofMsg c m = some b.toAction := by
  rw [ofMsg_eq, AdminAction.ofMsg_eq]
  cases htag : untag m with
  | none => simp
  | some tagged =>
    obtain ⟨id, payload⟩ := tagged
    have hsame : id.selects "CreateImpactMarket" 1 = id.selects "CreateImpactMarket" 2 := by
      cases id with
      | name bytes => rfl
      | index n =>
        obtain ⟨h1, h2⟩ := hkey n payload htag
        simp [Ident.selects, h1, h2]
    have hother : id.selects "CreateImpactMarket" 2 = true →
        id.selects "UpdateAdminSignerRegistry" 1 = false := by
      cases id with
      | name bytes =>
        intro h
        obtain rfl := of_decide_eq_true h
        rw [selects_name]
        decide
      | index n =>
        intro h
        have h2 := of_decide_eq_true h
        exact absurd h2 (hkey n payload htag).2
    simp only [Option.bind_some, hsame]
    by_cases hmarket : id.selects "CreateMarket" 0 = true
    · rw [if_pos hmarket, if_pos hmarket]
      cases b <;> simp only [toAction, Option.map_eq_some_iff] <;> simp
    · rw [if_neg hmarket, if_neg hmarket]
      by_cases himpact : id.selects "CreateImpactMarket" 2 = true
      · rw [if_pos himpact, hother himpact, if_neg Bool.false_ne_true, if_pos himpact]
        cases b <;> simp only [toAction, Option.map_eq_some_iff] <;> simp
      · rw [if_neg himpact, if_neg himpact]
        split_ifs <;> cases b <;> simp only [toAction, Option.map_eq_some_iff] <;> simp

/-- A batch or a trigger configuration under its name or its index. -/
def HasForeignKey (id : Ident) : Prop :=
  id.selects "Batch" 3 = true ∨ id.selects "SetTriggerMarketConfig" 4 = true

theorem AdminBatchItem.ofMsg_foreign {c : BinForms} {m : Msg} {id : Ident} {payload : Option Msg}
    (htag : untag m = some (id, payload)) (hid : HasForeignKey id) :
    AdminBatchItem.schema.ofMsg c m = none := by
  have hkeys : id.selects "CreateMarket" 0 = false ∧ id.selects "CreateImpactMarket" 1 = false := by
    cases id with
    | name bytes =>
      rcases hid with h | h <;> obtain rfl := of_decide_eq_true h <;> simp only [selects_name] <;>
        decide
    | index n =>
      rcases hid with h | h <;> obtain rfl := of_decide_eq_true h <;> decide
  rw [ofMsg_eq, htag]
  simp only [Option.bind_some, hkeys.1, hkeys.2]
  rfl

/-- Neither a batch nor a trigger configuration is read as an item, whatever its form. -/
theorem AdminBatchItem.ofMsg_none {c : BinForms} {m : Msg} {a : AdminAction}
    (h : AdminAction.schema.ofMsg c m = some a)
    (ha : (∃ items, a = .batch items) ∨ ∃ x, a = .setTriggerMarketConfig x) :
    AdminBatchItem.schema.ofMsg c m = none := by
  rw [AdminAction.ofMsg_eq] at h
  cases htag : untag m with
  | none =>
    rw [htag] at h
    cases h
  | some tagged =>
    obtain ⟨id, payload⟩ := tagged
    rw [htag, Option.bind_some] at h
    apply ofMsg_foreign htag
    simp only at h
    split_ifs at h with h0 h1 h2 h3 h4
    · obtain ⟨x, -, rfl⟩ := Option.map_eq_some_iff.mp h
      simp at ha
    · obtain ⟨x, -, rfl⟩ := Option.map_eq_some_iff.mp h
      simp at ha
    · obtain ⟨x, -, rfl⟩ := Option.map_eq_some_iff.mp h
      simp at ha
    · exact .inl h3
    · exact .inr h4

def batchItems : Schema (List AdminBatchItem) := .vec AdminBatchItem.schema

def adminActions : Schema (List AdminAction) := .vec AdminAction.schema

def SharedKeys (c : BinForms) (m : Msg) : Prop :=
  ∀ items, seqItems c.binAsSeq m = some items → ∀ item ∈ items, SharedKey item

theorem mapM_map_iff {α β γ : Type} {f : α → Option β} {g : α → Option γ} {e : β → γ} {as : List α}
    (h : ∀ a ∈ as, ∀ b, f a = some b ↔ g a = some (e b)) (bs : List β) :
    as.mapM f = some bs ↔ as.mapM g = some (bs.map e) := by
  induction as generalizing bs with
  | nil => cases bs <;> simp
  | cons a as ih =>
    have htail := ih fun a' ha' => h a' (List.mem_cons_of_mem _ ha')
    have hhead := h a List.mem_cons_self
    simp only [List.mapM_cons, Option.bind_eq_bind, Option.bind_eq_some_iff, Option.pure_def,
      Option.some.injEq]
    constructor
    · intro h
      obtain ⟨b, hb, bs', hbs, rfl⟩ := h
      exact ⟨e b, (hhead b).mp hb, bs'.map e, (htail bs').mp hbs, rfl⟩
    · intro h
      obtain ⟨y, hy, ys, hys, hcons⟩ := h
      cases bs with
      | nil => cases hcons
      | cons b bs =>
        obtain ⟨rfl, rfl⟩ := List.cons.inj hcons
        exact ⟨b, (hhead b).mpr hy, bs, (htail bs).mpr hys, rfl⟩

theorem batchItems_ofMsg_iff {c : BinForms} {m : Msg} (hkeys : SharedKeys c m)
    (bs : List AdminBatchItem) : batchItems.ofMsg c m = some bs ↔
      adminActions.ofMsg c m = some (bs.map AdminBatchItem.toAction) := by
  rw [batchItems, adminActions, Schema.ofMsg, Schema.ofMsg]
  cases hitems : seqItems c.binAsSeq m with
  | none => simp
  | some items =>
    exact mapM_map_iff (fun item hitem b => AdminBatchItem.ofMsg_iff (hkeys items hitems item hitem) b) bs

/-- Lists of creations are the images of lists of items. -/
theorem forall_isCreation_iff (as : List AdminAction) :
    (∀ a ∈ as, a.IsCreation) ↔ ∃ bs : List AdminBatchItem, bs.map AdminBatchItem.toAction = as := by
  simp only [AdminAction.isCreation_iff]
  constructor
  · intro h
    induction as with
    | nil => exact ⟨[], rfl⟩
    | cons a as ih =>
      obtain ⟨b, rfl⟩ := h a List.mem_cons_self
      obtain ⟨bs, rfl⟩ := ih fun a' ha' => h a' (List.mem_cons_of_mem _ ha')
      exact ⟨b :: bs, rfl⟩
  · rintro ⟨bs, rfl⟩ a ha
    obtain ⟨b, -, rfl⟩ := List.mem_map.mp ha
    exact ⟨b, rfl⟩

/-- One item that no item type reads spoils the list. -/
theorem batchItems_ofMsg_none {c : BinForms} {m : Msg} {as : List AdminAction}
    (h : adminActions.ofMsg c m = some as)
    (has : ∃ a ∈ as, (∃ items, a = .batch items) ∨ ∃ x, a = .setTriggerMarketConfig x) :
    batchItems.ofMsg c m = none := by
  obtain ⟨items, hitems, hread⟩ := Option.bind_eq_some_iff.mp h
  obtain ⟨a, ha, hforeign⟩ := has
  obtain ⟨item, hitem, hitemread⟩ := mem_of_mapM hread ha
  have hnone := AdminBatchItem.ofMsg_none hitemread hforeign
  rw [batchItems, Schema.ofMsg, hitems, Option.bind_some]
  exact mapM_eq_none hitem hnone

theorem batchItems_toMsg (bs : List AdminBatchItem) :
    batchItems.toMsg bs = adminActions.toMsg (bs.map AdminBatchItem.toAction) := by
  have hitem (b : AdminBatchItem) :
      AdminBatchItem.schema.toMsg b = AdminAction.schema.toMsg b.toAction := by
    cases b <;> rfl
  rw [batchItems, adminActions, Schema.toMsg, Schema.toMsg, List.map_map]
  congr 1
  exact List.map_congr_left fun b _ => hitem b

theorem reads_iff {c : BinForms} {α β : Type} {s : Schema α} {t : Schema β} {bytes : Bytes} {a : α} {b : β}
    (h : ∀ w rest, decodeWire bytes = some (w, rest) →
      (s.ofMsg c w.offer = some a ↔ t.ofMsg c w.offer = some b)) :
    Reads c s bytes a ↔ Reads c t bytes b := by
  constructor
  · intro h
    obtain ⟨w, rest, hw, hread⟩ := h
    exact ⟨w, rest, hw, (h w rest hw).mp hread⟩
  · intro h
    obtain ⟨w, rest, hw, hread⟩ := h
    exact ⟨w, rest, hw, (h w rest hw).mpr hread⟩

theorem AdminAction.ofMsg_batch {c : BinForms} {key m : Msg} {id : Ident} (hkey : Ident.ofMsg key = some id)
    (hid : id.selects "Batch" 3 = true) : AdminAction.schema.ofMsg c (.map [(key, m)]) =
      (batchItems.ofMsg c m).map .batch := by
  have htag : untag (.map [(key, m)]) = some (id, some m) := by
    rw [untag, hkey]
    rfl
  have hkeys : id.selects "CreateMarket" 0 = false ∧ id.selects "UpdateAdminSignerRegistry" 1 = false ∧
      id.selects "CreateImpactMarket" 2 = false := by
    cases id with
    | name bytes =>
      obtain rfl := of_decide_eq_true hid
      simp only [selects_name]
      decide
    | index n =>
      obtain rfl := of_decide_eq_true hid
      decide
  rw [ofMsg_eq, htag]
  simp only [Option.bind_some, hkeys.1, hkeys.2.1, hkeys.2.2, hid]
  rfl

/-- A list of items reads as the same list of actions and the other way round, unless a key is an
index on which the two types differ; what no item type has is unreadable inside a batch. -/
theorem batchItems_restrict_adminActions (rmp : RmpSerde) (hsound : rmp.Sound)
    (hcomplete : rmp.Complete) :
    (∀ bytes, (∀ w rest, decodeWire bytes = some (w, rest) →
      SharedKeys rmp.toBinForms w.offer) →
      (∀ bs, Reads rmp.toBinForms batchItems bytes bs ↔
        Reads rmp.toBinForms adminActions bytes (bs.map AdminBatchItem.toAction)) ∧
      ((∃ bs, Reads rmp.toBinForms batchItems bytes bs) ↔
        ∃ as, Reads rmp.toBinForms adminActions bytes as ∧ ∀ a ∈ as, a.IsCreation)) ∧
    (∀ key id m as, Ident.ofMsg key = some id → id.selects "Batch" 3 = true →
      adminActions.ofMsg rmp.toBinForms m = some as →
      ((∃ a ∈ as, (∃ items, a = .batch items) ∨ ∃ x, a = .setTriggerMarketConfig x) ∨
        (∃ a ∈ as, ∃ x, a = .updateAdminSignerRegistry x) ∧ SharedKeys rmp.toBinForms m) →
      AdminAction.schema.ofMsg rmp.toBinForms (.map [(key, m)]) = none) ∧
    (∀ bs, rmp.toVec batchItems bs = rmp.toVec adminActions (bs.map AdminBatchItem.toAction)) ∧
    ∀ {α : Type} (s : Schema α) bytes, (∀ w rest, decodeWire bytes = some (w, rest) →
      w.offer.depth < 1024) → ∀ a, rmp.fromSlice s bytes = .ok a ↔ Reads rmp.toBinForms s bytes a := by
  refine ⟨?_, ?_, ?_, ?_⟩
  · intro bytes hkeys
    have hiff (bs : List AdminBatchItem) : Reads rmp.toBinForms batchItems bytes bs ↔
        Reads rmp.toBinForms adminActions bytes (bs.map AdminBatchItem.toAction) :=
      reads_iff fun w rest hw => batchItems_ofMsg_iff (hkeys w rest hw) bs
    refine ⟨hiff, ?_⟩
    constructor
    · intro h
      obtain ⟨bs, hbs⟩ := h
      exact ⟨_, (hiff bs).mp hbs, (forall_isCreation_iff _).mpr ⟨bs, rfl⟩⟩
    · intro h
      obtain ⟨as, has, hcreation⟩ := h
      obtain ⟨bs, rfl⟩ := (forall_isCreation_iff as).mp hcreation
      exact ⟨bs, (hiff bs).mpr has⟩
  · intro key id m as hkey hid has hforeign
    rw [AdminAction.ofMsg_batch hkey hid]
    rcases hforeign with hforeign | ⟨⟨a, ha, x, rfl⟩, hkeys⟩
    · rw [batchItems_ofMsg_none has hforeign]
      rfl
    · cases hread : batchItems.ofMsg rmp.toBinForms m with
      | none => rfl
      | some bs =>
        rw [batchItems_ofMsg_iff hkeys, has] at hread
        obtain rfl := Option.some.inj hread
        cases (forall_isCreation_iff _).mpr ⟨bs, rfl⟩ _ ha
  · intro bs
    rw [rmp.toVec_compact, rmp.toVec_compact, batchItems_toMsg]
  · intro α s bytes hdepth a
    exact RmpSerde.fromSlice_iff hsound hcomplete s fun w rest hw _ => hdepth w rest hw

def sampleImpactMarket : CreateImpactMarket :=
  ⟨0, 0, 0, "", 0, 0, 0, 0, 0, 0, 0, 0, Address.default, none, "", ""⟩

/-- An impact market as a batch item under the given key. -/
def keyedItem (key : Msg) : Msg :=
  .arr [.map [(key, CreateImpactMarket.schema.toMsg sampleImpactMarket)]]

theorem keyedItem_fits {key : Msg} (hkey : key.Fits) : (keyedItem key).Fits := by
  have hpayload := fits_of_encode_lt (CreateImpactMarket.schema.toMsg sampleImpactMarket)
    (Schema.toMsg_intsFit _ _) (by decide)
  exact ⟨by show 1 < 2^32; norm_num, ⟨by show 1 < 2^32; norm_num, hkey, hpayload, trivial⟩, trivial⟩

theorem keyedItem_ofMsg {c : BinForms} {key : Msg} {id : Ident} (hkey : Ident.ofMsg key = some id)
    (hid : id.selects "CreateMarket" 0 = false ∧ id.selects "CreateImpactMarket" 1 = true) :
    batchItems.ofMsg c (keyedItem key) = some [.createImpactMarket sampleImpactMarket] := by
  have hpayload := CreateImpactMarket.schema.ofMsg_toMsg c sampleImpactMarket (by decide)
  have hitem : AdminBatchItem.schema.ofMsg c
      (.map [(key, CreateImpactMarket.schema.toMsg sampleImpactMarket)]) =
      some (.createImpactMarket sampleImpactMarket) := by
    rw [AdminBatchItem.ofMsg_eq, untag, hkey]
    simp only [Option.map_some, Option.bind_some, hid.1, hid.2, hpayload]
    rfl
  rw [batchItems, Schema.ofMsg, keyedItem, seqItems, Option.bind_some, List.mapM_cons, hitem]
  rfl

theorem batchItems_restrict_adminActions_sample :
    (∀ bs, Reads .reference batchItems (keyedItem (.str (utf8 "CreateImpactMarket"))).encode bs ↔
      Reads .reference adminActions (keyedItem (.str (utf8 "CreateImpactMarket"))).encode
        (bs.map AdminBatchItem.toAction)) ∧
    Reads .reference batchItems (keyedItem (.str (utf8 "CreateImpactMarket"))).encode
      [.createImpactMarket sampleImpactMarket] := by
  have hdecode := decodeWire_encode (keyedItem (.str (utf8 "CreateImpactMarket")))
    (keyedItem_fits (by show List.length _ < _; decide)) []
  rw [List.append_nil] at hdecode
  obtain ⟨w, hw, hoffer⟩ := hdecode
  have hread : batchItems.ofMsg .reference w.offer =
      some [.createImpactMarket sampleImpactMarket] := by
    rw [hoffer]
    exact keyedItem_ofMsg rfl (by simp only [selects_name]; decide)
  refine ⟨(batchItems_restrict_adminActions .reference RmpSerde.reference_sound
    RmpSerde.reference_complete).1 _ ?_ |>.1, w, _, hw, hread⟩
  intro w' rest hw' items hitems item hitem n payload htag
  rw [hw] at hw'
  obtain ⟨rfl, rfl⟩ := Prod.mk.inj (Option.some.inj hw')
  rw [hoffer] at hitems
  obtain rfl := Option.some.inj hitems
  obtain rfl := List.mem_singleton.mp hitem
  cases htag

/-- Under the index 1 an impact market is a batch item and no action: there it names a registry. -/
theorem index_one_differs : ∃ bytes bs, RmpSerde.reference.fromSlice batchItems bytes = .ok bs ∧
    ∀ as, RmpSerde.reference.fromSlice adminActions bytes ≠ .ok as := by
  have hfits : (keyedItem (.int 1)).Fits := keyedItem_fits (by simp [Msg.Fits])
  have hitem : batchItems.ofMsg .reference (keyedItem (.int 1)) =
      some [.createImpactMarket sampleImpactMarket] := keyedItem_ofMsg rfl (by decide)
  have hregistry : UpdateAdminSignerRegistry.schema.ofMsg .reference
      (CreateImpactMarket.schema.toMsg sampleImpactMarket) = none := by decide
  have haction : adminActions.ofMsg .reference (keyedItem (.int 1)) = none := by
    have hread : AdminAction.schema.ofMsg .reference
        (.map [(.int 1, CreateImpactMarket.schema.toMsg sampleImpactMarket)]) = none := by
      have htag (payload : Msg) : untag (.map [(.int 1, payload)]) = some (.index 1, some payload) := rfl
      have hkeys : (Ident.index 1).selects "CreateMarket" 0 = false ∧
          (Ident.index 1).selects "UpdateAdminSignerRegistry" 1 = true := by decide
      rw [AdminAction.ofMsg_eq, htag]
      simp only [Option.bind_some, hkeys.1, hkeys.2, hregistry]
      rfl
    rw [adminActions, Schema.ofMsg, keyedItem, seqItems, Option.bind_some, List.mapM_cons, hread]
    rfl
  refine ⟨(keyedItem (.int 1)).encode ++ [], [.createImpactMarket sampleImpactMarket], ?_, ?_⟩
  · exact RmpSerde.reference.fromSlice_ok _ _ [] _ hfits (by decide) hitem
  · obtain ⟨e, he⟩ := RmpSerde.reference.fromSlice_error adminActions _ [] hfits haction
    intro as h
    rw [he] at h
    cases h

end TradingSdk
