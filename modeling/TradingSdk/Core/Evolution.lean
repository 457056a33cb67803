import TradingSdk.Core.Crypto
import TradingSdk.Serde.Evolution

namespace TradingSdk

open Serde Msgpack

/-- The structs that payloads are made of: those of the transaction types and those inside them. -/
inductive PayloadStruct where
  | action (kind : ActionKind)
  | atomicBasketLeg
  | feeTier
  | triggerLimb
  | bridgeWithdrawalReceipt
  | operatorReceiptProof
  | updateAdminSignerRegistry
  | setTriggerMarketConfig

namespace PayloadStruct

abbrev Value : PayloadStruct → Type
  | .action kind => kind.Payload
  | .atomicBasketLeg => AtomicBasketLeg
  | .feeTier => FeeTier
  | .triggerLimb => TriggerLimb
  | .bridgeWithdrawalReceipt => BridgeWithdrawalReceipt
  | .operatorReceiptProof => OperatorReceiptProof
  | .updateAdminSignerRegistry => UpdateAdminSignerRegistry
  | .setTriggerMarketConfig => SetTriggerMarketConfig

def schema : (p : PayloadStruct) → Schema p.Value
  | .action kind => kind.schema
  | .atomicBasketLeg => AtomicBasketLeg.schema
  | .feeTier => FeeTier.schema
  | .triggerLimb => TriggerLimb.schema
  | .bridgeWithdrawalReceipt => BridgeWithdrawalReceipt.schema
  | .operatorReceiptProof => OperatorReceiptProof.schema
  | .updateAdminSignerRegistry => UpdateAdminSignerRegistry.schema
  | .setTriggerMarketConfig => SetTriggerMarketConfig.schema

theorem schema_isStruct (p : PayloadStruct) : p.schema.isStruct = true := by
  cases p with
  | action kind => cases kind <;> rfl
  | _ => rfl

theorem schema_lawful (p : PayloadStruct) : p.schema.lawful = true := by
  cases p with
  | action kind => exact kind.schema_lawful
  | _ => decide

theorem schema_shallow (p : PayloadStruct) : p.schema.depth < 1024 := by
  cases p with
  | action kind => exact kind.schema_shallow
  | _ => decide

end PayloadStruct

/-- The first `k` encoded fields of a payload struct decode exactly if every later field has a
default; they give the value with those fields reset. A longer array is rejected. -/
theorem payloadStruct_evolution (rmp : RmpSerde) (p : PayloadStruct) (v : p.Value)
    (hfits : (p.schema.toMsg v).Fits) :
    p.schema.toMsg v = .arr (p.schema.items v) ∧
    (∀ k, (∃ w, rmp.fromSlice p.schema (Msg.arr ((p.schema.items v).take k)).encode = .ok w) ↔
      ∀ dflt ∈ p.schema.defaults.drop k, dflt.isSome) ∧
    (∀ k w, rmp.fromSlice p.schema (Msg.arr ((p.schema.items v).take k)).encode = .ok w →
      (p.schema.slots w).map some =
        ((p.schema.slots v).map some).take k ++ p.schema.defaults.drop k) ∧
    ∀ items, (Msg.arr items).Fits → p.schema.defaults.length < items.length →
      ∃ e, rmp.fromSlice p.schema (Msg.arr items).encode = .error e := by
  have hs := p.schema_isStruct
  have hl := p.schema_lawful
  have hread := rmp.fromSlice_take_iff hs p.schema_shallow hfits
  refine ⟨Schema.toMsg_items hs v, ?_, ?_, fun items h hlen => rmp.fromSlice_surplus hs h hlen⟩
  · intro k
    simp only [hread]
    exact Schema.ofItems_take_isSome_iff _ hs hl v k
  · intro k w h
    exact (Schema.ofItems_take_iff _ hs hl v w k).mp ((hread k w).mp h)

/-- An impact market from before the oracle source and the two texts. -/
theorem payloadStruct_evolution_impactMarket : ∃ x, RmpSerde.reference.fromSlice
    (PayloadStruct.action .createImpactMarket).schema (Msg.arr (((PayloadStruct.action
      .createImpactMarket).schema.items (impactMarket "" "").payload).take 13)).encode = .ok x := by
  have hfits := (impactMarket "" "").payloadMsg_fits (by decide)
  have hdefaults := (payloadStruct_evolution .reference (.action .createImpactMarket)
    (impactMarket "" "").payload hfits).2.1 13
  exact hdefaults.mpr (by decide)

/-- A market created before the cap has 11 elements; ten leave the ticker out. -/
example : CreateMarket.schema.defaults.map Option.isSome =
    [false, false, false, false, false, false, false, false, true, false, false, true] := rfl

/-- What is found in the array of an impact market whose description has 2^32 letters: the header
announces an empty text, and a letter follows in the place of the rules. -/
def misreadDescription : Msg := .arr (impactMarketFront ++ [.str [], .int 97])

theorem misreadDescription_fits : misreadDescription.Fits := by
  refine fits_of_encode_lt _ ?_ (by decide)
  simp [misreadDescription, impactMarketFront, Msg.IntsFit, IntsFitItems, List.replicate,
    Schema.toMsg_intsFit]

theorem misreadDescription_ofMsg (c : BinForms) :
    CreateImpactMarket.schema.ofMsg c misreadDescription = none := rfl

theorem encode_longDescription (n : Nat) (hn : n + 1 = 2^32) : ∃ rest,
    (impactMarket (repeatA (n + 1)) "").payloadMsg.encode = misreadDescription.encode ++ rest := by
  have hheader : strHeader (n + 1) = strHeader 0 := by
    rw [hn]
    decide
  have hitems : (impactMarketFront ++ [Msg.str [], .int 97]).length = 16 := rfl
  have hletter : intBytes 97 = [97] := by decide
  refine ⟨List.replicate n 97 ++ (strHeader (utf8 "").length ++ utf8 ""), ?_⟩
  rw [impactMarket_encode, misreadDescription, Msg.encode, hitems, encodeItems_append, utf8_repeatA,
    List.length_replicate, hheader, List.replicate_succ]
  simp only [encodeItems, Msg.encode, hletter, List.length_nil, List.append_nil, List.append_assoc,
    List.cons_append, List.nil_append]

/-- A text of 2^32 letters has no header of its length, so the array of all fields is rejected. -/
theorem longDescription_rejected :
    (∀ dflt ∈ (PayloadStruct.action .createImpactMarket).schema.defaults.drop 16, dflt.isSome) ∧
    ∀ rmp : RmpSerde, ∃ e, rmp.fromSlice (PayloadStruct.action .createImpactMarket).schema
      (Msg.arr (((PayloadStruct.action .createImpactMarket).schema.items
        (impactMarket (repeatA 4294967296) "").payload).take 16)).encode = .error e := by
  refine ⟨by decide, fun rmp => ?_⟩
  obtain ⟨rest, hrest⟩ := encode_longDescription 4294967295 (by norm_num)
  have hall : Msg.arr (((PayloadStruct.action .createImpactMarket).schema.items
      (impactMarket (repeatA 4294967296) "").payload).take 16) =
      (impactMarket (repeatA 4294967296) "").payloadMsg := rfl
  rw [hall, hrest]
  exact rmp.fromSlice_error _ misreadDescription rest misreadDescription_fits (misreadDescription_ofMsg _)

end TradingSdk
