import TradingSdk.Js.GovernanceQuery

namespace TradingSdk

open Serde Msgpack Js

/-- The TypeScript names of the fields of a struct. -/
def fieldKeys {α : Type} : Schema α → List String
  | .struct fs _ => fs.names.map snakeToCamel
  | _ => []

theorem bind_ok {α β : Type} (a : α) (f : α → Except JsError β) : (Except.ok a).bind f = f a := by
  rw [Except.bind]

theorem toTuple_array {items : List JsVal} {field : String} {n : Nat} (h : items.length = n) :
    toTuple (.array items) field n = .ok items := by
  rw [toTuple, toArray]
  exact if_neg (not_not.mpr h)

theorem toUnsignedBigInt_jsInt {n max : Int} (field : String) (hlo : 0 ≤ n) (hhi : n ≤ max) :
    toUnsignedBigInt (jsInt n) field max = .ok n := by
  have hrange : ¬ (n < 0 ∨ max < n) := by omega
  rw [jsInt]
  split_ifs with h
  · have hs : isSafeInteger n = true := isSafeInteger_of_bound (by omega) h.2
    rw [toUnsignedBigInt]
    simp only [hs, if_true]
    exact if_neg hrange
  · rw [toUnsignedBigInt]
    exact if_neg hrange

@[simp] theorem toU8_jsInt (n : UInt8) (field : String) :
    toU8 (jsInt n.toNat) field = .ok (.number n.toNat) := by
  have h := n.toNat_lt
  rw [toU8, toUnsignedNumber, toUnsignedBigInt_jsInt field (by omega) (by omega)]
  rfl

@[simp] theorem toU32_jsInt (n : UInt32) (field : String) :
    toU32 (jsInt n.toNat) field = .ok (.number n.toNat) := by
  have h := n.toNat_lt
  rw [toU32, toUnsignedNumber, toUnsignedBigInt_jsInt field (by omega) (by omega)]
  rfl

@[simp] theorem toU64_jsInt (n : UInt64) (field : String) :
    toU64 (jsInt n.toNat) field = .ok (.bigint n.toNat) := by
  have h := n.toNat_lt
  rw [toU64, toUnsignedBigInt_jsInt field (by omega) (by omega)]
  rfl

theorem toByteItems_numbers (field : String) (i : Nat) (bs : Bytes) :
    toByteItems field i (byteNumbers bs) = .ok bs := by
  induction bs generalizing i with
  | nil => rfl
  | cons b bs ih =>
    rw [byteNumbers, List.map_cons, toByteItems, readJsByte_number]
    rw [byteNumbers] at ih
    simp only [ih]
    rfl

@[simp] theorem toBytes_numbers {n : Nat} (bs : FixedBytes n) (field : String) :
    toBytes (.array (byteNumbers bs.1)) field n = .ok (.uint8Array bs.1) := by
  rw [toBytes]
  simp only [toByteItems_numbers]
  exact if_neg (not_not.mpr bs.2)

@[simp] theorem toString_string (s field : String) :
    Js.toString (.string s) field = .ok (.string s) := rfl

def CreateMarket.toTs (x : CreateMarket) : JsVal := .object
  [("market", .number x.market.toNat), ("imBps", .number x.imBps.toNat),
   ("mmBps", .number x.mmBps.toNat), ("takerFeeBps", .number x.takerFeeBps.toNat),
   ("makerFeeBps", .number x.makerFeeBps.toNat), ("signer", .uint8Array x.signer.1),
   ("fundingIntervalMs", .bigint x.fundingIntervalMs.toNat),
   ("maxFundingRateBps", .number x.maxFundingRateBps.toNat), ("poolId", .number x.poolId.toNat),
   ("szDecimals", .number x.szDecimals.toNat), ("ticker", .string x.ticker),
   ("maxOpenInterest", .bigint x.maxOpenInterest.toNat)]

theorem CreateMarket.fromWasmItem_toJs (x : CreateMarket) :
    fromWasmItem (CreateMarket.schema.toJs x) = .ok x.toTs := rfl

/-- The positional payload as the MessagePack decoder delivers it. -/
def CreateMarket.slots (x : CreateMarket) : List JsVal :=
  [jsInt x.market.toNat, jsInt x.imBps.toNat, jsInt x.mmBps.toNat, jsInt x.takerFeeBps.toNat,
   jsInt x.makerFeeBps.toNat, .array (byteNumbers x.signer.1), jsInt x.fundingIntervalMs.toNat,
   jsInt x.maxFundingRateBps.toNat, jsInt x.poolId.toNat, jsInt x.szDecimals.toNat,
   .string x.ticker, jsInt x.maxOpenInterest.toNat]

theorem CreateMarket.jsOfMsg_toMsg (x : CreateMarket) :
    jsOfMsg (CreateMarket.schema.toMsg x) = some (.array x.slots) := by
  have hsigner : jsOfMsg (newtypeBytes.toMsg x.signer.1) = some (.array (byteNumbers x.signer.1)) :=
    jsOfMsg_byteForm rfl _
  have hmsg : CreateMarket.schema.toMsg x = .arr [.int x.market.toNat, .int x.imBps.toNat,
    .int x.mmBps.toNat, .int x.takerFeeBps.toNat, .int x.makerFeeBps.toNat,
    newtypeBytes.toMsg x.signer.1, .int x.fundingIntervalMs.toNat, .int x.maxFundingRateBps.toNat,
    .int x.poolId.toNat, .int x.szDecimals.toNat, .str (utf8 x.ticker),
    .int x.maxOpenInterest.toNat] := rfl
  rw [hmsg, jsOfMsg]
  simp only [jsOfMsgs, jsOfMsg_int, jsOfMsg_utf8, hsigner, Option.bind_some, Option.map_some,
    CreateMarket.slots]

theorem decodeCreateMarket_array (v0 v1 v2 v3 v4 v5 v6 v7 v8 v9 v10 v11 : JsVal) :
    decodeCreateMarket (.array [v0, v1, v2, v3, v4, v5, v6, v7, v8, v9, v10, v11]) =
      (toU32 v0 "createMarket.market").bind fun market =>
      (toU32 v1 "createMarket.imBps").bind fun imBps =>
      (toU32 v2 "createMarket.mmBps").bind fun mmBps =>
      (toU32 v3 "createMarket.takerFeeBps").bind fun takerFeeBps =>
      (toU32 v4 "createMarket.makerFeeBps").bind fun makerFeeBps =>
      (toBytes v5 "createMarket.signer" 20).bind fun signer =>
      (toU64 v6 "createMarket.fundingIntervalMs").bind fun fundingIntervalMs =>
      (toU32 v7 "createMarket.maxFundingRateBps").bind fun maxFundingRateBps =>
      (toU8 v8 "createMarket.poolId").bind fun poolId =>
      (toU8 v9 "createMarket.szDecimals").bind fun szDecimals =>
      (toString v10 "createMarket.ticker").bind fun ticker =>
      (toU64 v11 "createMarket.maxOpenInterest").bind fun maxOpenInterest =>
      .ok (.object [("market", market), ("imBps", imBps), ("mmBps", mmBps),
        ("takerFeeBps", takerFeeBps), ("makerFeeBps", makerFeeBps), ("signer", signer),
        ("fundingIntervalMs", fundingIntervalMs), ("maxFundingRateBps", maxFundingRateBps),
        ("poolId", poolId), ("szDecimals", szDecimals), ("ticker", ticker),
        ("maxOpenInterest", maxOpenInterest)]) := rfl

theorem CreateMarket.decode_slots (x : CreateMarket) :
    decodeCreateMarket (.array x.slots) = .ok x.toTs := by
  rw [CreateMarket.slots, decodeCreateMarket_array]
  simp only [toU32_jsInt, toU8_jsInt, toU64_jsInt, toBytes_numbers, toString_string, bind_ok]
  rw [CreateMarket.toTs]

theorem PriceComparison.toMsg_eq (c : PriceComparison) : ∃ name, priceComparisons.contains name = true ∧
    PriceComparison.schema.toMsg c = .str (utf8 name) ∧
    PriceComparison.schema.toJs c = .string name := by
  cases c
  · exact ⟨"GreaterThan", rfl, rfl, rfl⟩
  · exact ⟨"LessThan", rfl, rfl, rfl⟩
  · exact ⟨"GreaterThanOrEqual", rfl, rfl, rfl⟩
  · exact ⟨"LessThanOrEqual", rfl, rfl, rfl⟩

theorem slot_zero (a : JsVal) (rest : List JsVal) : slot (a :: rest) 0 = a := rfl

theorem slot_one (a b : JsVal) (rest : List JsVal) : slot (a :: b :: rest) 1 = b := rfl

theorem slot_two (a b c : JsVal) (rest : List JsVal) : slot (a :: b :: c :: rest) 2 = c := rfl

theorem toPriceComparison_string {name : String} (h : priceComparisons.contains name = true)
    (field : String) : toPriceComparison (.string name) field = .ok (.string name) := by
  rw [toPriceComparison, if_pos h]

def optionalSource : Option EventOracleSource → JsVal
  | none => .undefined
  | some source => source.toTs

/-- A struct arrives as the array of its slots. -/
theorem jsOfMsg_arr {items : List Msg} {values : List JsVal} (h : jsOfMsgs items = some values) :
    jsOfMsg (.arr items) = some (.array values) := by
  rw [jsOfMsg, h, Option.map_some]

theorem jsOfMsg_variant (name : String) {m : Msg} {v : JsVal} (h : jsOfMsg m = some v) :
    jsOfMsg (.map [(.str (utf8 name), m)]) = some (.object [(name, v)]) := by
  rw [jsOfMsg, ofUtf8_utf8, h]
  rfl

theorem decodeOracleSource_variant (name : String) (payload : JsVal) (field : String) :
    decodeOracleSource (.object [(name, payload)]) field =
      if name = "UnderlyingPriceVsStrike" then (toTuple payload field 2).bind fun raw =>
        (toU64 (slot raw 0) s!"{field}.strikePrice").bind fun strikePrice =>
        (toPriceComparison (slot raw 1) s!"{field}.comparison").bind fun comparison =>
        .ok (.object [("kind", .string "UnderlyingPriceVsStrike"), ("strikePrice", strikePrice),
          ("comparison", comparison)])
      else if name = "MarketOracle" then (toTuple payload field 3).bind fun raw =>
        (toU32 (slot raw 0) s!"{field}.market").bind fun market =>
        (toU64 (slot raw 1) s!"{field}.strikePrice").bind fun strikePrice =>
        (toPriceComparison (slot raw 2) s!"{field}.comparison").bind fun comparison =>
        .ok (.object [("kind", .string "MarketOracle"), ("market", market),
          ("strikePrice", strikePrice), ("comparison", comparison)])
      else governanceError s!"{field} has unknown EventOracleSource variant \"{name}\"" := by
  rfl

theorem decodeOracleSource_toMsg (source : Option EventOracleSource) :
    ∃ v, jsOfMsg ((Schema.option EventOracleSource.schema).toMsg source) = some v ∧
      ∀ field, decodeOracleSource v field = .ok (optionalSource source) := by
  match source with
  | none => exact ⟨.null, rfl, fun _ => rfl⟩
  | some .relayerAttested => exact ⟨.string "RelayerAttested", jsOfMsg_utf8 _, fun _ => rfl⟩
  | some (.underlyingPriceVsStrike strikePrice comparison) =>
    obtain ⟨name, hname, hmsg, hjs⟩ := comparison.toMsg_eq
    have hmap : (Schema.option EventOracleSource.schema).toMsg
        (some (.underlyingPriceVsStrike strikePrice comparison)) =
        .map [(.str (utf8 "UnderlyingPriceVsStrike"),
          .arr [.int strikePrice.toNat, PriceComparison.schema.toMsg comparison])] := rfl
    refine ⟨.object [("UnderlyingPriceVsStrike", .array [jsInt strikePrice.toNat, .string name])],
      ?_, fun field => ?_⟩
    · rw [hmap, hmsg]
      apply jsOfMsg_variant
      apply jsOfMsg_arr
      simp only [jsOfMsgs, jsOfMsg_int, jsOfMsg_utf8, Option.bind_some, Option.map_some]
    · rw [optionalSource, EventOracleSource.toTs, hjs]
      have htuple : toTuple (.array [jsInt strikePrice.toNat, .string name]) field 2 =
          .ok [jsInt strikePrice.toNat, .string name] := toTuple_array rfl
      rw [decodeOracleSource_variant, if_pos rfl, htuple, bind_ok, slot_zero, slot_one,
        toU64_jsInt, bind_ok, toPriceComparison_string hname, bind_ok]
  | some (.marketOracle market strikePrice comparison) =>
    obtain ⟨name, hname, hmsg, hjs⟩ := comparison.toMsg_eq
    have hmap : (Schema.option EventOracleSource.schema).toMsg
        (some (.marketOracle market strikePrice comparison)) =
        .map [(.str (utf8 "MarketOracle"), .arr [.int market.toNat, .int strikePrice.toNat,
          PriceComparison.schema.toMsg comparison])] := rfl
    refine ⟨.object [("MarketOracle", .array [jsInt market.toNat, jsInt strikePrice.toNat,
      .string name])], ?_, fun field => ?_⟩
    · rw [hmap, hmsg]
      apply jsOfMsg_variant
      apply jsOfMsg_arr
      simp only [jsOfMsgs, jsOfMsg_int, jsOfMsg_utf8, Option.bind_some, Option.map_some]
    · rw [optionalSource, EventOracleSource.toTs, hjs]
      have htuple : toTuple (.array [jsInt market.toNat, jsInt strikePrice.toNat, .string name])
          field 3 = .ok [jsInt market.toNat, jsInt strikePrice.toNat, .string name] :=
        toTuple_array rfl
      rw [decodeOracleSource_variant, if_neg (by decide), if_pos rfl, htuple, bind_ok, slot_zero,
        slot_one, slot_two, toU32_jsInt, bind_ok, toU64_jsInt, bind_ok,
        toPriceComparison_string hname, bind_ok]

def CreateImpactMarket.slots (x : CreateImpactMarket) (source : JsVal) : List JsVal :=
  [jsInt x.impactMarketId.toNat, jsInt x.underlyingMarket.toNat, jsInt x.childMarketBase.toNat,
   .string x.question, jsInt x.deadlineMs.toNat, jsInt x.resolutionWindowMs.toNat,
   jsInt x.imBps.toNat, jsInt x.mmBps.toNat, jsInt x.takerFeeBps.toNat, jsInt x.makerFeeBps.toNat,
   jsInt x.fundingIntervalMs.toNat, jsInt x.maxFundingRateBps.toNat,
   .array (byteNumbers x.signer.1), source, .string x.description, .string x.rules]

theorem CreateImpactMarket.jsOfMsg_toMsg (x : CreateImpactMarket) {source : JsVal}
    (h : jsOfMsg ((Schema.option EventOracleSource.schema).toMsg x.oracleSource) = some source) :
    jsOfMsg (CreateImpactMarket.schema.toMsg x) = some (.array (x.slots source)) := by
  have hsigner : jsOfMsg (newtypeBytes.toMsg x.signer.1) = some (.array (byteNumbers x.signer.1)) :=
    jsOfMsg_byteForm rfl _
  have hmsg : CreateImpactMarket.schema.toMsg x = .arr [.int x.impactMarketId.toNat,
    .int x.underlyingMarket.toNat, .int x.childMarketBase.toNat, .str (utf8 x.question),
    .int x.deadlineMs.toNat, .int x.resolutionWindowMs.toNat, .int x.imBps.toNat,
    .int x.mmBps.toNat, .int x.takerFeeBps.toNat, .int x.makerFeeBps.toNat,
    .int x.fundingIntervalMs.toNat, .int x.maxFundingRateBps.toNat, newtypeBytes.toMsg x.signer.1,
    (Schema.option EventOracleSource.schema).toMsg x.oracleSource, .str (utf8 x.description),
    .str (utf8 x.rules)] := rfl
  rw [hmsg]
  apply jsOfMsg_arr
  simp only [jsOfMsgs, jsOfMsg_int, jsOfMsg_utf8, hsigner, h, Option.bind_some, Option.map_some,
    CreateImpactMarket.slots]

/-- All fields but the oracle source, in the decoder's order. -/
def CreateImpactMarket.entries (x : CreateImpactMarket) : Entries :=
  [("impactMarketId", .number x.impactMarketId.toNat),
   ("underlyingMarket", .number x.underlyingMarket.toNat),
   ("childMarketBase", .number x.childMarketBase.toNat), ("question", .string x.question),
   ("deadlineMs", .bigint x.deadlineMs.toNat),
   ("resolutionWindowMs", .bigint x.resolutionWindowMs.toNat), ("imBps", .number x.imBps.toNat),
   ("mmBps", .number x.mmBps.toNat), ("takerFeeBps", .number x.takerFeeBps.toNat),
   ("makerFeeBps", .number x.makerFeeBps.toNat),
   ("fundingIntervalMs", .bigint x.fundingIntervalMs.toNat),
   ("maxFundingRateBps", .number x.maxFundingRateBps.toNat), ("signer", .uint8Array x.signer.1),
   ("description", .string x.description), ("rules", .string x.rules)]

theorem decodeCreateImpactMarket_array
    (v0 v1 v2 v3 v4 v5 v6 v7 v8 v9 v10 v11 v12 v13 v14 v15 : JsVal) :
    decodeCreateImpactMarket
        (.array [v0, v1, v2, v3, v4, v5, v6, v7, v8, v9, v10, v11, v12, v13, v14, v15]) =
      (toU32 v0 "createImpactMarket.impactMarketId").bind fun impactMarketId =>
      (toU32 v1 "createImpactMarket.underlyingMarket").bind fun underlyingMarket =>
      (toU32 v2 "createImpactMarket.childMarketBase").bind fun childMarketBase =>
      (toString v3 "createImpactMarket.question").bind fun question =>
      (toU64 v4 "createImpactMarket.deadlineMs").bind fun deadlineMs =>
      (toU64 v5 "createImpactMarket.resolutionWindowMs").bind fun resolutionWindowMs =>
      (toU32 v6 "createImpactMarket.imBps").bind fun imBps =>
      (toU32 v7 "createImpactMarket.mmBps").bind fun mmBps =>
      (toU32 v8 "createImpactMarket.takerFeeBps").bind fun takerFeeBps =>
      (toU32 v9 "createImpactMarket.makerFeeBps").bind fun makerFeeBps =>
      (toU64 v10 "createImpactMarket.fundingIntervalMs").bind fun fundingIntervalMs =>
      (toU32 v11 "createImpactMarket.maxFundingRateBps").bind fun maxFundingRateBps =>
      (toBytes v12 "createImpactMarket.signer" 20).bind fun signer =>
      (toString v14 "createImpactMarket.description").bind fun description =>
      (toString v15 "createImpactMarket.rules").bind fun rules =>
      (decodeOracleSource v13 "createImpactMarket.oracleSource").bind fun oracleSource =>
      let decoded := [("impactMarketId", impactMarketId), ("underlyingMarket", underlyingMarket),
        ("childMarketBase", childMarketBase), ("question", question), ("deadlineMs", deadlineMs),
        ("resolutionWindowMs", resolutionWindowMs), ("imBps", imBps), ("mmBps", mmBps),
        ("takerFeeBps", takerFeeBps), ("makerFeeBps", makerFeeBps),
        ("fundingIntervalMs", fundingIntervalMs), ("maxFundingRateBps", maxFundingRateBps),
        ("signer", signer), ("description", description), ("rules", rules)]
      .ok (.object (if oracleSource.isTruthy then assign "oracleSource" oracleSource decoded
        else decoded)) := rfl

/-- The oracle source comes last, and only when there is one. -/
def CreateImpactMarket.allEntries (x : CreateImpactMarket) : Entries :=
  match x.oracleSource with
  | none => x.entries
  | some source => x.entries ++ [("oracleSource", source.toTs)]

theorem CreateImpactMarket.decode_slots (x : CreateImpactMarket) {source : JsVal}
    (h : ∀ field, decodeOracleSource source field = .ok (optionalSource x.oracleSource)) :
    decodeCreateImpactMarket (.array (x.slots source)) = .ok (.object x.allEntries) := by
  rw [CreateImpactMarket.slots, decodeCreateImpactMarket_array]
  simp only [toU32_jsInt, toU64_jsInt, toBytes_numbers, toString_string, h, bind_ok]
  rw [CreateImpactMarket.allEntries]
  cases x.oracleSource with
  | none => rfl
  | some source => cases source <;> rfl

theorem CreateImpactMarket.denotes_allEntries (x : CreateImpactMarket) :
    DenotesObject CreateImpactMarket.schema x.allEntries x := by
  obtain ⟨_, _, _, _, _, _, _, _, _, _, _, _, _, source, _, _⟩ := x
  cases source
  all_goals
    refine ⟨.inr (denotes_u32 (by decide) _), .inr (denotes_u32 (by decide) _),
      .inr (denotes_u32 (by decide) _), .inr (denotes_string (by decide) _),
      .inr (denotes_u64 (by decide) _), .inr (denotes_u64 (by decide) _),
      .inr (denotes_u32 (by decide) _), .inr (denotes_u32 (by decide) _),
      .inr (denotes_u32 (by decide) _), .inr (denotes_u32 (by decide) _),
      .inr (denotes_u64 (by decide) _), .inr (denotes_u32 (by decide) _),
      .inr (denotes_fixedBytes _ (by decide) _), ?_,
      .inr (denotes_string (by decide) _), .inr (denotes_string (by decide) _), trivial⟩
  case none => rfl
  case some source => exact .inr (denotes_option rfl source.denotes_toTs)

/-- Entries that stand for a struct convert to an object that the core reads as it. -/
theorem convertItem_of_denotes {α : Type} {s : Schema α} (hs : s.adaptsItem = true)
    {entries : Entries} {a : α} (hnodup : entries.keys.Nodup)
    (hkeys : ∀ k ∈ entries.keys, k ∈ fieldKeys s) (hd : DenotesObject s entries a) :
    ∃ w, convertItem (.object entries) = .ok w ∧ s.ofJs w = some a := by
  cases s with
  | struct fs e =>
    rw [Schema.adaptsItem] at hs
    obtain ⟨result, hconv, hread⟩ :=
      denotes_object hnodup hkeys (Fields.namesOk_of_adapts fs hs) hd
    refine ⟨.object result, ?_, ofJs_struct_eq_some.mpr hread⟩
    rw [convertItem, hconv]
    rfl
  | _ => cases hs

def CreateImpactMarket.keys (source : Bool) : List String :=
  ["impactMarketId", "underlyingMarket", "childMarketBase", "question", "deadlineMs",
   "resolutionWindowMs", "imBps", "mmBps", "takerFeeBps", "makerFeeBps", "fundingIntervalMs",
   "maxFundingRateBps", "signer", "description", "rules"] ++
    if source then ["oracleSource"] else []

theorem CreateImpactMarket.keys_ok (source : Bool) :
    (CreateImpactMarket.keys source).Nodup ∧
      ∀ k ∈ CreateImpactMarket.keys source, k ∈ fieldKeys CreateImpactMarket.schema := by
  cases source <;> decide +kernel

theorem CreateImpactMarket.allEntries_keys (x : CreateImpactMarket) :
    x.allEntries.keys = CreateImpactMarket.keys x.oracleSource.isSome := by
  rw [CreateImpactMarket.allEntries]
  cases x.oracleSource <;> rfl

def UpdateAdminSignerRegistry.members (x : UpdateAdminSignerRegistry) : List JsVal :=
  x.newMembers.map fun m => .uint8Array m.1

def UpdateAdminSignerRegistry.slots (x : UpdateAdminSignerRegistry) : List JsVal :=
  [jsInt x.newThreshold.toNat, .array (x.newMembers.map fun m => .array (byteNumbers m.1))]

def UpdateAdminSignerRegistry.entries (x : UpdateAdminSignerRegistry) : Entries :=
  [("newThreshold", .number x.newThreshold.toNat), ("newMembers", .array x.members)]

theorem jsOfMsgs_members (members : List SignerAddress) :
    jsOfMsgs (members.map SignerAddress.schema.toMsg) =
      some (members.map fun m => .array (byteNumbers m.1)) := by
  induction members with
  | nil => rfl
  | cons m ms ih =>
    have hm : jsOfMsg (SignerAddress.schema.toMsg m) = some (.array (byteNumbers m.1)) :=
      jsOfMsg_byteForm rfl _
    rw [List.map_cons, jsOfMsgs, hm, ih]
    rfl

theorem UpdateAdminSignerRegistry.jsOfMsg_toMsg (x : UpdateAdminSignerRegistry) :
    jsOfMsg (UpdateAdminSignerRegistry.schema.toMsg x) = some (.array x.slots) := by
  have hmsg : UpdateAdminSignerRegistry.schema.toMsg x = .arr [.int x.newThreshold.toNat,
    .arr (x.newMembers.map SignerAddress.schema.toMsg)] := rfl
  rw [hmsg]
  apply jsOfMsg_arr
  simp only [jsOfMsgs, jsOfMsg_int, jsOfMsg_arr (jsOfMsgs_members x.newMembers), Option.bind_some,
    Option.map_some, UpdateAdminSignerRegistry.slots]

theorem mapIndexed_members (members : List SignerAddress) (field : Nat → String) (i : Nat) :
    mapIndexed (fun m i => toBytes m (field i) 20) i
      (members.map fun m => .array (byteNumbers m.1)) =
      .ok (members.map fun m => .uint8Array m.1) := by
  induction members generalizing i with
  | nil => rfl
  | cons m ms ih =>
    rw [List.map_cons, mapIndexed, toBytes_numbers, ih]
    rfl

theorem decodeUpdateRegistry_array (v0 : JsVal) (members : List JsVal) :
    decodeUpdateRegistry (.array [v0, .array members]) =
      (toU32 v0 "updateRegistry.newThreshold").bind fun newThreshold =>
      (mapIndexed (fun m i => toBytes m s!"updateRegistry.newMembers[{i}]" 20) 0 members).bind
        fun newMembers =>
      .ok (.object [("newThreshold", newThreshold), ("newMembers", .array newMembers)]) := rfl

theorem UpdateAdminSignerRegistry.decode_slots (x : UpdateAdminSignerRegistry) :
    decodeUpdateRegistry (.array x.slots) = .ok (.object x.entries) := by
  rw [UpdateAdminSignerRegistry.slots, decodeUpdateRegistry_array, toU32_jsInt, bind_ok,
    mapIndexed_members x.newMembers (fun i => s!"updateRegistry.newMembers[{i}]"), bind_ok,
    UpdateAdminSignerRegistry.entries, UpdateAdminSignerRegistry.members]

theorem convertItems_bytes (members : List SignerAddress) :
    convertItems (members.map fun m => .uint8Array m.1) =
      .ok (members.map fun m => .uint8Array m.1) := by
  induction members with
  | nil => rfl
  | cons m ms ih =>
    rw [List.map_cons, convertItems, ih]
    rfl

theorem UpdateAdminSignerRegistry.denotes_entries (x : UpdateAdminSignerRegistry) :
    DenotesObject UpdateAdminSignerRegistry.schema x.entries x := by
  have hread : x.members.mapM SignerAddress.schema.ofJs = some x.newMembers :=
    mapM_map_of_inverse (fun m => ofJs_fixedBytes bareBytes m) x.newMembers
  exact ⟨.inr (denotes_u32 (by decide) _),
    .inr (denotes_array (by decide) (by decide) (convertItems_bytes x.newMembers) hread), trivial⟩

def SetTriggerMarketConfig.slots (x : SetTriggerMarketConfig) (version : JsVal) : List JsVal :=
  [jsInt x.market.toNat, version, .bool x.enabled, jsInt x.maxTriggerSlippageBps.toNat,
   jsInt x.maxMarkAgeMs.toNat, jsInt x.maxFuturePublishSkewMs.toNat,
   jsInt x.maxActiveBrackets.toNat]

def optionalJsInt : Option UInt64 → JsVal
  | none => .null
  | some n => jsInt n.toNat

theorem jsOfMsg_optionalJsInt (n : Option UInt64) :
    jsOfMsg ((Schema.option Schema.u64).toMsg n) = some (optionalJsInt n) := by
  cases n with
  | none => rfl
  | some n => exact jsOfMsg_int _

theorem SetTriggerMarketConfig.jsOfMsg_toMsg (x : SetTriggerMarketConfig) :
    jsOfMsg (SetTriggerMarketConfig.schema.toMsg x) =
      some (.array (x.slots (optionalJsInt x.expectedCurrentVersion))) := by
  have hmsg : SetTriggerMarketConfig.schema.toMsg x = .arr [.int x.market.toNat,
    (Schema.option Schema.u64).toMsg x.expectedCurrentVersion, .bool x.enabled,
    .int x.maxTriggerSlippageBps.toNat, .int x.maxMarkAgeMs.toNat,
    .int x.maxFuturePublishSkewMs.toNat, .int x.maxActiveBrackets.toNat] := rfl
  have hbool : jsOfMsg (.bool x.enabled) = some (.bool x.enabled) := by rw [jsOfMsg]
  rw [hmsg]
  apply jsOfMsg_arr
  simp only [jsOfMsgs, jsOfMsg_int, jsOfMsg_optionalJsInt, hbool, Option.bind_some,
    Option.map_some, SetTriggerMarketConfig.slots]

theorem decodeSetTriggerMarketConfig_array (v0 v1 v3 v4 v5 v6 : JsVal) (b : Bool) :
    decodeSetTriggerMarketConfig (.array [v0, v1, .bool b, v3, v4, v5, v6]) =
      (toU32 v0 "setTriggerMarketConfig.market").bind fun market =>
      (if v1.isNullish then .ok .null
        else toU64 v1 "setTriggerMarketConfig.expectedCurrentVersion").bind
        fun expectedCurrentVersion =>
      (toU32 v3 "setTriggerMarketConfig.maxTriggerSlippageBps").bind fun maxTriggerSlippageBps =>
      (toU64 v4 "setTriggerMarketConfig.maxMarkAgeMs").bind fun maxMarkAgeMs =>
      (toU64 v5 "setTriggerMarketConfig.maxFuturePublishSkewMs").bind
        fun maxFuturePublishSkewMs =>
      (toU64 v6 "setTriggerMarketConfig.maxActiveBrackets").bind fun maxActiveBrackets =>
      .ok (.object [("market", market), ("expectedCurrentVersion", expectedCurrentVersion),
        ("enabled", .bool b), ("maxTriggerSlippageBps", maxTriggerSlippageBps),
        ("maxMarkAgeMs", maxMarkAgeMs), ("maxFuturePublishSkewMs", maxFuturePublishSkewMs),
        ("maxActiveBrackets", maxActiveBrackets)]) := by
  cases v1 <;> rfl

theorem toU64_optionalJsInt (n : Option UInt64) (field : String) :
    (if (optionalJsInt n).isNullish then .ok .null else toU64 (optionalJsInt n) field) =
      .ok (optionalBigint n) := by
  match n with
  | none => rfl
  | some n =>
    have hn : (jsInt n.toNat).isNullish = false := by
      rw [jsInt]
      split_ifs <;> rfl
    rw [optionalJsInt, hn, if_neg Bool.false_ne_true, toU64_jsInt, optionalBigint]

theorem SetTriggerMarketConfig.decode_slots (x : SetTriggerMarketConfig) :
    decodeSetTriggerMarketConfig
      (.array (x.slots (optionalJsInt x.expectedCurrentVersion))) = .ok x.toTs := by
  rw [SetTriggerMarketConfig.slots, decodeSetTriggerMarketConfig_array, toU64_optionalJsInt]
  simp only [toU32_jsInt, toU64_jsInt, bind_ok]
  rw [SetTriggerMarketConfig.toTs]

end TradingSdk
