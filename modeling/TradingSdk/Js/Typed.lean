import TradingSdk.Js.Codec

namespace TradingSdk.Serde

open Js

mutual
/-- The adapter handles every enumeration inside a value as its type requires. -/
def Schema.EnumsDenote : {α : Type} → Schema α → String → Prop
  | _, .option s, key => s.EnumsDenote key
  | _, .vec s, key => s.EnumsDenote key
  | _, .struct fs _, _ => fs.EnumsDenote
  | _, .enum vs e, key => ∀ v a, (Schema.enum vs e).Typed key v a → Denotes key (.enum vs e) v a
  | _, .u8, _ => True
  | _, .u32, _ => True
  | _, .u64, _ => True
  | _, .i16, _ => True
  | _, .bool, _ => True
  | _, .string, _ => True
  | _, .fixedBytes _ _, _ => True
  | _, .byteVec _, _ => True
def Fields.EnumsDenote : {α : Type} → Fields α → Prop
  | _, .nil => True
  | _, .cons name s _ fs => s.EnumsDenote (snakeToCamel name) ∧ fs.EnumsDenote
end

mutual
theorem Schema.enumsDenote : {α : Type} → (s : Schema α) → {key : String} → s.enumFree = true →
    s.EnumsDenote key
  | _, .option s, _, h => Schema.enumsDenote s h
  | _, .vec s, _, h => Schema.enumsDenote s h
  | _, .struct fs _, _, h => Fields.enumsDenote fs h
  | _, .enum _ _, _, h => by cases h
  | _, .u8, _, _ => trivial
  | _, .u32, _, _ => trivial
  | _, .u64, _, _ => trivial
  | _, .i16, _, _ => trivial
  | _, .bool, _, _ => trivial
  | _, .string, _, _ => trivial
  | _, .fixedBytes _ _, _, _ => trivial
  | _, .byteVec _, _, _ => trivial
theorem Fields.enumsDenote : {α : Type} → (fs : Fields α) → fs.enumFree = true → fs.EnumsDenote
  | _, .nil, _ => trivial
  | _, .cons _ s _ fs, h =>
    have ⟨hs, hfs⟩ := Bool.and_eq_true_iff.mp h
    ⟨Schema.enumsDenote s hs, Fields.enumsDenote fs hfs⟩
end

/-- The elements of an array, each converted on its own. -/
theorem items_of_related {α : Type} {s : Schema α} {R : JsVal → α → Prop}
    (hitem : ∀ v a, R v a → ∃ w, convertItem v = .ok w ∧ s.ofJs w = some a) {items : List JsVal}
    {as : List α} (h : List.Forall₂ R items as) :
    ∃ ws, convertItems items = .ok ws ∧ ws.mapM s.ofJs = some as := by
  induction h with
  | nil => exact ⟨[], rfl, rfl⟩
  | cons hhead _ ih =>
    obtain ⟨w, hconv, hread⟩ := hitem _ _ hhead
    obtain ⟨ws, hconvs, hreads⟩ := ih
    refine ⟨w :: ws, ?_, ?_⟩
    · rw [convertItems, hconv, hconvs]
      rfl
    · rw [List.mapM_cons, hread, hreads]
      rfl

theorem numbers_of_typed {α : Type} {s : Schema α} {key : String} {v : JsVal} {a : α}
    (h : s.isNumbers = true) (ht : s.Typed key v a) :
    ∃ w, convertItem v = .ok w ∧ s.ofJs w = some a := by
  cases s with
  | fixedBytes n form =>
    obtain rfl : v = .uint8Array a.1 := ht
    exact ⟨_, rfl, ofJs_fixedBytes form a⟩
  | byteVec form =>
    obtain rfl : v = .uint8Array a := ht
    exact ⟨_, rfl, ofJs_byteVec form a⟩
  | _ => cases h

mutual
/-- A value of the declared type reaches the core as the value that it holds. -/
theorem Schema.denotes_of_typed : {α : Type} → (s : Schema α) → {key : String} → {v : JsVal} →
    {a : α} → s.adapts key = true → s.EnumsDenote key → s.Typed key v a → Denotes key s v a
  | _, .u8, _, _, a, h, _, ht => by
    rw [ht]
    exact denotes_u8 h a
  | _, .u32, _, _, a, h, _, ht => by
    rw [ht]
    exact denotes_u32 h a
  | _, .u64, _, _, a, h, _, ht => by
    rw [ht]
    exact denotes_u64 h a
  | _, .i16, _, _, a, h, _, ht => by
    rw [ht]
    exact denotes_i16 h a
  | _, .bool, _, _, a, h, _, ht => by
    rw [ht]
    exact denotes_bool h a
  | _, .string, _, _, a, h, _, ht => by
    rw [ht]
    exact denotes_string h a
  | _, .fixedBytes _ form, _, _, a, h, _, ht => by
    rw [ht]
    exact denotes_fixedBytes form (byteKeyOk_plain h) a
  | _, .byteVec form, _, _, a, h, _, ht => by
    rw [ht]
    exact denotes_byteVec form (byteKeyOk_plain h) a
  | _, .option s, _, _, _, h, he, ht => by
    simp only [Schema.adapts, Bool.and_eq_true, Bool.not_eq_true'] at h
    obtain ⟨x, rfl, ht⟩ := ht
    exact denotes_option h.1 (Schema.denotes_of_typed s h.2 he ht)
  | _, .vec s, key, _, _, h, he, ht => by
    obtain ⟨items, rfl, hitems⟩ := ht
    rw [Schema.adapts] at h
    cases hlist : byteListKey key with
    | true =>
      have ho : key ≠ "oracleSource" := by rintro rfl; exact absurd hlist (by decide)
      have ha : key ≠ "action" := by rintro rfl; exact absurd hlist (by decide)
      rw [if_pos hlist] at h
      obtain ⟨ws, hconv, hread⟩ := items_of_related (fun _ _ ht => numbers_of_typed h ht) hitems
      exact denotes_array ho ha hconv hread
    | false =>
      rw [hlist, if_neg Bool.false_ne_true] at h
      simp only [Bool.and_eq_true, Bool.not_eq_true'] at h
      have ho : key ≠ "oracleSource" := plainKey_ne h.1.1 (by decide)
      have ha : key ≠ "action" := plainKey_ne h.1.1 (by decide)
      obtain ⟨ws, hconv, hread⟩ :=
        items_of_related (fun _ _ ht => Schema.item_of_typed s h.2 he ht) hitems
      exact denotes_array ho ha hconv hread
  | _, .struct fs e, key, _, a, h, he, ht => by
    simp only [Schema.adapts, Bool.and_eq_true] at h
    obtain ⟨entries, rfl, hnodup, hkeys, hfields⟩ := ht
    have ho : key ≠ "oracleSource" := plainKey_ne h.1 (by decide)
    have ha : key ≠ "action" := plainKey_ne h.1 (by decide)
    obtain ⟨result, hconv, hread⟩ := denotes_object hnodup hkeys (Fields.namesOk_of_adapts fs h.2)
      (Fields.denotes_of_typed fs h.2 he hfields)
    refine ⟨rfl, .object result, ?_, ofJs_struct_eq_some.mpr hread⟩
    rw [convertValue, if_neg ho, if_neg ha, hconv]
    rfl
  | _, .enum _ _, _, _, _, _, he, ht => he _ _ ht
theorem Schema.item_of_typed : {α : Type} → (s : Schema α) → {key : String} → {v : JsVal} →
    {a : α} → s.adaptsItem = true → s.EnumsDenote key → s.Typed key v a →
    ∃ w, convertItem v = .ok w ∧ s.ofJs w = some a
  | _, .struct fs e, _, _, a, h, he, ht => by
    rw [Schema.adaptsItem] at h
    obtain ⟨entries, rfl, hnodup, hkeys, hfields⟩ := ht
    obtain ⟨result, hconv, hread⟩ := denotes_object hnodup hkeys (Fields.namesOk_of_adapts fs h)
      (Fields.denotes_of_typed fs h he hfields)
    refine ⟨.object result, ?_, ofJs_struct_eq_some.mpr hread⟩
    rw [convertItem, hconv]
    rfl
theorem Fields.denotes_of_typed : {α : Type} → (fs : Fields α) → {entries : Entries} → {a : α} →
    fs.adapts = true → fs.EnumsDenote → fs.Typed entries a → DenotesFields fs entries a
  | _, .nil, _, _, _, _, _ => trivial
  | _, .cons name s dflt fs, entries, (a, b), h, he, ht => by
    simp only [Fields.adapts, Bool.and_eq_true] at h
    obtain ⟨hhead, htail⟩ := ht
    refine ⟨?_, Fields.denotes_of_typed fs h.2 he.2 htail⟩
    cases hv : entries.lookup (snakeToCamel name) with
    | none =>
      rw [hv] at hhead
      exact hhead
    | some v =>
      rw [hv] at hhead
      obtain hnull | ht := hhead
      · exact .inl hnull
      · exact .inr (Schema.denotes_of_typed s h.1.2 he.1 ht)
end

end TradingSdk.Serde

namespace TradingSdk

open Serde Js

section Enums

variable {key : String}

@[simp] theorem Side.enumsDenote : Side.schema.EnumsDenote (snakeToCamel "side") := by
  intro v a h
  obtain rfl : v = enumMember (snakeToCamel "side") _ := h
  cases a <;> exact ⟨rfl, _, rfl, rfl⟩

@[simp] theorem TimeInForce.enumsDenote :
    TimeInForce.schema.EnumsDenote (snakeToCamel "time_in_force") := by
  intro v a h
  obtain rfl : v = enumMember (snakeToCamel "time_in_force") _ := h
  cases a <;> exact ⟨rfl, _, rfl, rfl⟩

@[simp] theorem MarkSourceMode.enumsDenote :
    MarkSourceMode.schema.EnumsDenote (snakeToCamel "mark_source_mode") := by
  intro v a h
  obtain rfl : v = enumMember (snakeToCamel "mark_source_mode") _ := h
  cases a <;> exact ⟨rfl, _, rfl, rfl⟩

theorem PriceComparison.toJs_of_typed {v : JsVal} {a : PriceComparison}
    (h : PriceComparison.schema.Typed (snakeToCamel "comparison") v a) :
    v = PriceComparison.schema.toJs a := by
  obtain rfl : v = enumMember (snakeToCamel "comparison") _ := h
  cases a <;> rfl

/-- The adapter turns a tagged union into the object that the core would hand over. -/
theorem EventOracleSource.toWasm_of_typed {v : JsVal} {a : EventOracleSource}
    (h : EventOracleSource.schema.Typed "oracleSource" v a) :
    eventOracleSourceToWasm v = EventOracleSource.schema.toJs a := by
  cases a with
  | underlyingPriceVsStrike strikePrice comparison =>
    obtain ⟨entries, rfl, hkind, hfields⟩ : ∃ entries, v = .object entries ∧
      entries.lookup "kind" = some (.string "UnderlyingPriceVsStrike") ∧ _ := h
    have hstrike : (JsVal.object entries).get "strikePrice" = .bigint strikePrice.toNat :=
      get_of_typed rfl hfields
    have hcomparison :
        (JsVal.object entries).get "comparison" = PriceComparison.schema.toJs comparison :=
      PriceComparison.toJs_of_typed (get_of_typed rfl hfields.2)
    have hkind : (JsVal.object entries).get "kind" = .string "UnderlyingPriceVsStrike" := by
      rw [JsVal.get, hkind, Option.getD_some]
    simp only [eventOracleSourceToWasm, hkind, hstrike, hcomparison]
    rfl
  | marketOracle market strikePrice comparison =>
    obtain ⟨entries, rfl, hkind, hfields⟩ : ∃ entries, v = .object entries ∧
      entries.lookup "kind" = some (.string "MarketOracle") ∧ _ := h
    have hmarket : (JsVal.object entries).get "market" = .number market.toNat :=
      get_of_typed rfl hfields
    have hstrike : (JsVal.object entries).get "strikePrice" = .bigint strikePrice.toNat :=
      get_of_typed rfl hfields.2
    have hcomparison :
        (JsVal.object entries).get "comparison" = PriceComparison.schema.toJs comparison :=
      PriceComparison.toJs_of_typed (get_of_typed rfl hfields.2.2)
    have hkind : (JsVal.object entries).get "kind" = .string "MarketOracle" := by
      rw [JsVal.get, hkind, Option.getD_some]
    simp only [eventOracleSourceToWasm, hkind, hmarket, hstrike, hcomparison]
    rfl
  | relayerAttested =>
    obtain ⟨entries, rfl, hkind, -⟩ : ∃ entries, v = .object entries ∧
      entries.lookup "kind" = some (.string "RelayerAttested") ∧ _ := h
    have hkind : (JsVal.object entries).get "kind" = .string "RelayerAttested" := by
      rw [JsVal.get, hkind, Option.getD_some]
    simp only [eventOracleSourceToWasm, hkind]
    rfl

@[simp] theorem EventOracleSource.enumsDenote :
    EventOracleSource.schema.EnumsDenote (snakeToCamel "oracle_source") := by
  intro v a h
  have hkey : snakeToCamel "oracle_source" = "oracleSource" := by decide
  rw [hkey] at h ⊢
  have hwasm := EventOracleSource.toWasm_of_typed h
  obtain ⟨entries, rfl, -⟩ : ∃ entries, v = .object entries ∧ _ := h
  refine ⟨rfl, eventOracleSourceToWasm (.object entries), rfl, ?_⟩
  rw [hwasm]
  exact EventOracleSource.schema.ofJs_toJs a (by decide)

end Enums

theorem Action.validateAction_of_typed {kind : ActionKind} {x : kind.Payload} {data : JsVal}
    (ht : kind.schema.Typed "data" data x) (h : (Action.mk kind x).FieldsValid) :
    validateAction ⟨kind, data⟩ = .ok () := by
  cases kind
  case setPositionTriggers => exact (SetPositionTriggers.validate_iff ht).mpr h
  case cancelPositionTriggers => exact (CancelPositionTriggers.validate_iff ht).mpr h
  all_goals rfl

theorem object_of_typed {α : Type} {s : Schema α} {key : String} {v : JsVal} {a : α}
    (hs : s.adaptsItem = true) (ht : s.Typed key v a) : ∃ entries, v = .object entries := by
  cases s with
  | struct fs e =>
    obtain ⟨entries, rfl, -⟩ := ht
    exact ⟨entries, rfl⟩
  | _ => cases hs

/-- An action of its TypeScript type is encoded as the payload that it holds. -/
theorem encodePayloadBytes_of_typed (rmp : RmpSerde) (wasm : WasmSerde) {kind : ActionKind}
    {x : kind.Payload} {data : JsVal} (he : kind.schema.EnumsDenote "data")
    (ht : kind.schema.Typed "data" data x) (hvalid : (Action.mk kind x).FieldsValid) :
    encodePayloadBytes rmp wasm ⟨kind, data⟩ =
      if (Action.mk kind x).payloadMsg.encode.length ≤ wasm.capacity then
        .ok (Action.mk kind x).payloadMsg.encode
      else .error .trap := by
  obtain ⟨entries, rfl⟩ := object_of_typed kind.schema_adapts ht
  obtain ⟨w, hconv, hread⟩ := Schema.item_of_typed kind.schema kind.schema_adapts he ht
  obtain ⟨result, hresult, rfl⟩ := map_eq_ok hconv
  have hvalidate := Action.validateAction_of_typed ht hvalid
  rw [encodePayloadBytes_eq, hvalidate]
  show (convertEntries [] entries).bind _ = _
  rw [hresult]
  show wasmEncodePayload rmp wasm kind.actionType (.object (withOpenInterest kind result)) = _
  rw [wasmEncodePayload_eq rmp wasm kind _ x (ofJs_withOpenInterest hread)]

end TradingSdk
