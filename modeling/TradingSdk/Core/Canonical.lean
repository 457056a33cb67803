import TradingSdk.Core.RoundTrip

namespace TradingSdk

open Serde Msgpack

/-- The parts of an envelope, the payload left opaque. -/
structure DecodedTxRaw where
  version : UInt8
  actionType : UInt8
  seq : UInt64
  payload : Bytes
  pubkey : FixedBytes 32
  signature : FixedBytes 64

def decodeTxRaw (rmp : RmpSerde) (bytes : Bytes) : Except ExecError DecodedTxRaw :=
  if bytes.isEmpty then .error (.decodeError "empty tx")
  else do
    let envelope ← mapErr .decodeError (rmp.fromSlice WireTxEnvelope.schema bytes)
    if supportedEnvelopeVersions.contains envelope.version then
      return ⟨envelope.version, envelope.actionType, envelope.seq, envelope.payload,
        envelope.pubkey, envelope.signature⟩
    else .error (unsupportedVersion envelope.version)

def encodeSignedTxRaw (rmp : RmpSerde) (actionType : UInt8) (payload : Bytes) (seq : UInt64)
    (pubkey : FixedBytes 32) (signature : FixedBytes 64) : Except ExecError Bytes :=
  mapErr .internalError (rmp.toVec WireTxEnvelope.schema
    ⟨envelopeVersion, actionType, seq, payload, pubkey, signature⟩)

/-- The input is a `fixarray(6)` of three integers and three byte strings, each behind its shortest
marker, and nothing follows. -/
def Canonical (bytes : Bytes) : Prop :=
  bytes.head? = some 0x96 ∧
  ∃ (version actionType seq : Nat) (payload pubkey signature : Bytes),
    decodeWire bytes = some (.arr [shortInt version, shortInt actionType, shortInt seq,
      shortBin payload, shortBin pubkey, shortBin signature], [])

/-- Bytes that are read out of a value are no more than one of its headers announces. -/
theorem ByteForm.length_lt {form : ByteForm} {binAsSeq : Bool} {w : Wire} {bs : Bytes}
    (hw : w.value.Fits) (h : form.ofMsg binAsSeq w.offer = some bs) : bs.length < 2^32 := by
  cases w with
  | arr items =>
    have hlen := hw.1
    rw [length_of_mapM h, itemOffers_eq_map, List.length_map]
    rwa [itemValues_eq_map, List.length_map] at hlen
  | map entries => cases h
  | leaf marker m =>
    cases m with
    | int n =>
      simp only [Wire.offer, leafOffer] at h
      split_ifs at h <;> cases h
    | arr items =>
      rw [length_of_mapM h]
      exact hw.1
    | bin bytes =>
      simp only [Wire.offer, leafOffer, ByteForm.ofMsg] at h
      split_ifs at h
      exact Option.some.inj h ▸ hw
    | str bytes =>
      simp only [Wire.offer, leafOffer, ByteForm.ofMsg] at h
      split at h
      · split_ifs at h
        exact Option.some.inj h ▸ hw
      · split_ifs at h
        exact Option.some.inj h ▸ hw
    | _ => cases h

/-- What a struct reads under a key is one of the values of the map. -/
theorem mem_of_entriesOf {name : String} {i : Nat} {entries : List (Msg × Msg)}
    {keyed : List (Ident × Msg)} {m : Msg} (hkeyed : readEntryKeys entries = some keyed)
    (hm : m ∈ entriesOf name i keyed) : ∃ entry ∈ entries, entry.2 = m := by
  obtain ⟨keyedEntry, hfilter, rfl⟩ := List.mem_map.mp hm
  obtain ⟨entry, hentry, hread⟩ := mem_of_mapM hkeyed (List.mem_filter.mp hfilter).1
  obtain ⟨id, -, rfl⟩ := Option.map_eq_some_iff.mp hread
  exact ⟨entry, hentry, rfl⟩

theorem ofSeq_req_cons {α β : Type} {forms : BinForms} {name : String} {s : Schema α}
    {fs : Fields β} {m : Msg} {ms : List Msg} {a : α} {b : β} :
    (Fields.req name s fs).ofSeq forms (m :: ms) = some (a, b) ↔
      s.ofMsg forms m = some a ∧ fs.ofSeq forms ms = some b := by
  have hcons : (Fields.req name s fs).ofSeq forms (m :: ms) =
      (s.ofMsg forms m).bind fun a => (fs.ofSeq forms ms).bind fun b => some (a, b) := rfl
  rw [hcons, Option.bind_eq_some_iff]
  simp [Option.bind_eq_some_iff]

theorem ofSeq_req {α β : Type} {forms : BinForms} {name : String} {s : Schema α} {fs : Fields β}
    {items : List Msg} {a : α} {b : β}
    (h : (Fields.req name s fs).ofSeq forms items = some (a, b)) :
    ∃ m ms, items = m :: ms ∧ s.ofMsg forms m = some a ∧ fs.ofSeq forms ms = some b := by
  cases items with
  | nil => cases h
  | cons m ms => exact ⟨m, ms, rfl, ofSeq_req_cons.mp h⟩

theorem ofEntries_req {α β : Type} {forms : BinForms} {name : String} {s : Schema α} {fs : Fields β}
    {i : Nat} {entries : List (Ident × Msg)} {a : α} {b : β} (hs : s.absent = none)
    (h : (Fields.req name s fs).ofEntries forms i entries = some (a, b)) :
    (∃ m ∈ entriesOf name i entries, s.ofMsg forms m = some a) ∧
      fs.ofEntries forms (i + 1) entries = some b := by
  rw [Fields.ofEntries] at h
  split at h
  · rw [hs] at h
    cases h
  · next m hentries =>
    obtain ⟨a', ha, h⟩ := Option.bind_eq_some_iff.mp h
    obtain ⟨b', hb, h⟩ := Option.bind_eq_some_iff.mp h
    obtain ⟨rfl, rfl⟩ := Prod.mk.inj (Option.some.inj h)
    rw [hentries]
    exact ⟨⟨m, List.mem_singleton_self m, ha⟩, hb⟩
  · cases h

theorem leafOffer_eq_arr {marker : UInt8} {m : Msg} {items : List Msg}
    (h : leafOffer marker m = .arr items) : m = .arr items := by
  cases m with
  | int n =>
    rw [leafOffer] at h
    split_ifs at h
  | _ => exact h

theorem leafOffer_eq_map {marker : UInt8} {m : Msg} {entries : List (Msg × Msg)}
    (h : leafOffer marker m = .map entries) : m = .map entries := by
  cases m with
  | int n =>
    rw [leafOffer] at h
    split_ifs at h
  | _ => exact h

theorem leaf_zero_offer (m : Msg) : (Wire.leaf 0 m).offer = m := by
  cases m with
  | int n =>
    rw [Wire.offer, leafOffer, if_neg]
    intro h
    obtain ⟨-, hmarker, -⟩ := h
    exact absurd hmarker (by decide)
  | _ => rfl

/-- The elements of an array are values within the format's range in their turn. -/
theorem Wire.offer_item {w : Wire} {items : List Msg} (hw : w.value.Fits) (h : w.offer = .arr items)
    {m : Msg} (hm : m ∈ items) : ∃ w' : Wire, w'.value.Fits ∧ w'.offer = m := by
  cases w with
  | leaf marker m' =>
    obtain rfl := leafOffer_eq_arr h
    exact ⟨.leaf 0 m, fitsItems_iff.mp hw.2 m hm, leaf_zero_offer m⟩
  | arr ws =>
    obtain rfl := Msg.arr.inj h
    rw [itemOffers_eq_map] at hm
    obtain ⟨w', hw', rfl⟩ := List.mem_map.mp hm
    have hfits := hw.2
    rw [itemValues_eq_map] at hfits
    exact ⟨w', fitsItems_iff.mp hfits _ (List.mem_map_of_mem hw'), rfl⟩
  | map entries => cases h

/-- So are the values of a map. -/
theorem Wire.offer_entry {w : Wire} {entries : List (Msg × Msg)} (hw : w.value.Fits)
    (h : w.offer = .map entries) {entry : Msg × Msg} (hentry : entry ∈ entries) :
    ∃ w' : Wire, w'.value.Fits ∧ w'.offer = entry.2 := by
  cases w with
  | leaf marker m' =>
    obtain rfl := leafOffer_eq_map h
    exact ⟨.leaf 0 entry.2, fitsEntries_snd hw.2 entry hentry, leaf_zero_offer _⟩
  | arr ws => cases h
  | map kvs =>
    obtain rfl := Msg.map.inj h
    rw [entryOffers_eq_map] at hentry
    obtain ⟨kv, hkv, rfl⟩ := List.mem_map.mp hentry
    have hfits := hw.2
    rw [entryValues_eq_map] at hfits
    exact ⟨kv.2, fitsEntries_snd hfits _ (List.mem_map_of_mem hkv), rfl⟩

/-- The payload of an envelope in any of its forms. -/
theorem WireTxEnvelope.payload_lt {forms : BinForms} {w : Wire} {x : WireTxEnvelope}
    (hw : w.value.Fits) (h : WireTxEnvelope.schema.ofMsg forms w.offer = some x) :
    x.payload.length < 2^32 := by
  obtain ⟨⟨version, actionType, seq, payload, pubkey, signature, u⟩, hparts, rfl⟩ :=
    Option.map_eq_some_iff.mp h
  cases hoffer : w.offer with
  | arr items =>
    rw [hoffer] at hparts
    obtain ⟨m₁, ms₁, rfl, -, h₁⟩ := ofSeq_req hparts
    obtain ⟨m₂, ms₂, rfl, -, h₂⟩ := ofSeq_req h₁
    obtain ⟨m₃, ms₃, rfl, -, h₃⟩ := ofSeq_req h₂
    obtain ⟨m₄, ms₄, rfl, hpayload, -⟩ := ofSeq_req h₃
    obtain ⟨w₄, hw₄, rfl⟩ := Wire.offer_item hw hoffer (m := m₄) (by simp)
    exact ByteForm.length_lt hw₄ hpayload
  | map entries =>
    rw [hoffer] at hparts
    obtain ⟨keyed, hkeyed, hparts⟩ := Option.bind_eq_some_iff.mp hparts
    obtain ⟨-, h₁⟩ := ofEntries_req rfl hparts
    obtain ⟨-, h₂⟩ := ofEntries_req rfl h₁
    obtain ⟨-, h₃⟩ := ofEntries_req rfl h₂
    obtain ⟨⟨m, hm', hpayload⟩, -⟩ := ofEntries_req rfl h₃
    obtain ⟨entry, hentry, rfl⟩ := mem_of_entriesOf hkeyed hm'
    obtain ⟨w₄, hw₄, hoffer₄⟩ := Wire.offer_entry hw hoffer hentry
    rw [← hoffer₄] at hpayload
    exact ByteForm.length_lt hw₄ hpayload
  | _ =>
    rw [hoffer] at hparts
    cases hparts

theorem u64_eq_some {forms : BinForms} {n : Int} {k : UInt64} :
    Schema.u64.ofMsg forms (.int n) = some k ↔ n = k.toNat := by
  have hk := k.toNat_lt
  rw [Schema.ofMsg, Option.map_eq_some_iff]
  constructor
  · intro h
    obtain ⟨l, hl, rfl⟩ := h
    obtain ⟨rfl, hlt⟩ := readUInt_eq_some.mp hl
    rw [UInt64.toNat_ofNat_of_lt' hlt]
  · rintro rfl
    exact ⟨k.toNat, readUInt_eq_some.mpr ⟨rfl, hk⟩, UInt64.ofNat_toNat⟩

theorem byteVec_eq_some {forms : BinForms} {bytes bs : Bytes} :
    (Schema.byteVec serdeBytes).ofMsg forms (.bin bytes) = some bs ↔ bytes = bs :=
  Option.some_inj

theorem fixedBytes_eq_some {n : Nat} {forms : BinForms} {bytes : Bytes} {bs : FixedBytes n} :
    (Schema.fixedBytes n serdeBytes).ofMsg forms (.bin bytes) = some bs ↔ bytes = bs.1 := by
  have hread : (Schema.fixedBytes n serdeBytes).ofMsg forms (.bin bytes) =
      if h : bytes.length = n then some ⟨bytes, h⟩ else none := rfl
  rw [hread]
  split_ifs with h
  · rw [Option.some_inj, Subtype.ext_iff]
  · simp only [false_iff]
    rintro rfl
    exact h bs.2

/-- What is read out of an array of six elements, the last three of them byte strings. -/
theorem WireTxEnvelope.ofMsg_arr {forms : BinForms} {version actionType seq : Msg}
    {payload pubkey signature : Bytes} {x : WireTxEnvelope} :
    WireTxEnvelope.schema.ofMsg forms (.arr [version, actionType, seq, .bin payload,
      .bin pubkey, .bin signature]) = some x ↔
    readByte version = some x.version ∧ readByte actionType = some x.actionType ∧
      Schema.u64.ofMsg forms seq = some x.seq ∧ payload = x.payload ∧ pubkey = x.pubkey.1 ∧
      signature = x.signature.1 := by
  constructor
  · intro h
    obtain ⟨⟨version', actionType', seq', payload', pubkey', signature', u⟩, hparts, rfl⟩ :=
      Option.map_eq_some_iff.mp h
    obtain ⟨hversion, h₁⟩ := ofSeq_req_cons.mp hparts
    obtain ⟨htype, h₂⟩ := ofSeq_req_cons.mp h₁
    obtain ⟨hseq, h₃⟩ := ofSeq_req_cons.mp h₂
    obtain ⟨hpayload, h₄⟩ := ofSeq_req_cons.mp h₃
    obtain ⟨hpubkey, h₅⟩ := ofSeq_req_cons.mp h₄
    obtain ⟨hsignature, -⟩ := ofSeq_req_cons.mp h₅
    exact ⟨hversion, htype, hseq, byteVec_eq_some.mp hpayload, fixedBytes_eq_some.mp hpubkey,
      fixedBytes_eq_some.mp hsignature⟩
  · intro h
    obtain ⟨hversion, htype, hseq, hpayload, hpubkey, hsignature⟩ := h
    apply Option.map_eq_some_iff.mpr
    refine ⟨(x.version, x.actionType, x.seq, x.payload, x.pubkey, x.signature, ()), ?_, rfl⟩
    refine ofSeq_req_cons.mpr ⟨hversion, ?_⟩
    refine ofSeq_req_cons.mpr ⟨htype, ?_⟩
    refine ofSeq_req_cons.mpr ⟨hseq, ?_⟩
    refine ofSeq_req_cons.mpr ⟨byteVec_eq_some.mpr hpayload, ?_⟩
    refine ofSeq_req_cons.mpr ⟨fixedBytes_eq_some.mpr hpubkey, ?_⟩
    exact ofSeq_req_cons.mpr ⟨fixedBytes_eq_some.mpr hsignature, rfl⟩

/-- What is read out of an array of integers and byte strings. -/
theorem WireTxEnvelope.ofMsg_eq_some {forms : BinForms} {version actionType seq : Int}
    {payload pubkey signature : Bytes} {x : WireTxEnvelope} :
    WireTxEnvelope.schema.ofMsg forms (.arr [.int version, .int actionType, .int seq,
      .bin payload, .bin pubkey, .bin signature]) = some x ↔
    version = x.version.toNat ∧ actionType = x.actionType.toNat ∧ seq = x.seq.toNat ∧
      payload = x.payload ∧ pubkey = x.pubkey.1 ∧ signature = x.signature.1 := by
  rw [WireTxEnvelope.ofMsg_arr, readByte_eq_some, readByte_eq_some, u64_eq_some]

theorem WireTxEnvelope.toMsg_eq (x : WireTxEnvelope) : WireTxEnvelope.schema.toMsg x =
    .arr [.int x.version.toNat, .int x.actionType.toNat, .int x.seq.toNat, .bin x.payload,
      .bin x.pubkey.1, .bin x.signature.1] := rfl

section Envelope

variable (rmp : RmpSerde)

theorem encodeSignedTxRaw_eq (actionType : UInt8) (payload : Bytes) (seq : UInt64)
    (pubkey : FixedBytes 32) (signature : FixedBytes 64) :
    encodeSignedTxRaw rmp actionType payload seq pubkey signature = .ok
      (WireTxEnvelope.schema.toMsg
        ⟨envelopeVersion, actionType, seq, payload, pubkey, signature⟩).encode := by
  rw [encodeSignedTxRaw, rmp.toVec_compact]
  rfl

variable {rmp}

theorem version_of_supported {version : UInt8}
    (h : supportedEnvelopeVersions.contains version = true) : version = envelopeVersion := by
  simpa [supportedEnvelopeVersions] using h

/-- Six leaves in their shortest forms are read off the bytes of their compact forms, and off no
others. -/
theorem decodeWire_envelope_iff {version actionType seq : Nat} {payload pubkey signature : Bytes}
    (h : (Msg.arr [.int version, .int actionType, .int seq, .bin payload, .bin pubkey,
      .bin signature]).Fits) {bytes : Bytes} :
    bytes.head? = some 0x96 ∧ decodeWire bytes = some (.arr [shortInt version, shortInt actionType,
        shortInt seq, shortBin payload, shortBin pubkey, shortBin signature], []) ↔
      (Msg.arr [.int version, .int actionType, .int seq, .bin payload, .bin pubkey,
        .bin signature]).encode = bytes := by
  obtain ⟨-, hversion, htype, hseq, hpayload, hpubkey, hsignature, -⟩ := h
  have hheader : arrHeader 6 = [0x96] := by decide
  have hhead (tail : Bytes) : readHead (0x96 :: tail) = some (.arr 6, tail) := rfl
  have hencode : (Msg.arr [.int version, .int actionType, .int seq, .bin payload, .bin pubkey,
      .bin signature]).encode = 0x96 :: (intBytes version ++ (intBytes actionType ++
        (intBytes seq ++ (binHeader payload.length ++ payload ++ (binHeader pubkey.length ++ pubkey ++
          (binHeader signature.length ++ signature ++ [])))))) := by
    rw [Msg.encode]
    simp only [List.length_cons, List.length_nil, Nat.reduceAdd, hheader, encodeItems, Msg.encode,
      List.cons_append, List.nil_append]
  rw [hencode]
  constructor
  · intro h
    obtain ⟨hfirst, hdecode⟩ := h
    obtain ⟨tail, rfl⟩ := List.head?_eq_some_iff.mp hfirst
    rw [decodeWire, List.length_cons, Nat.mul_add, readWire, hhead] at hdecode
    obtain ⟨⟨ws, rest⟩, hws, hpair⟩ := Option.map_eq_some_iff.mp hdecode
    obtain ⟨harr, rfl⟩ := Prod.mk.inj hpair
    obtain rfl := Wire.arr.inj harr
    obtain ⟨_, bs₁, h₁, m₁, hws⟩ := readWires_leaf_inv hws
    obtain ⟨_, bs₂, h₂, m₂, hws⟩ := readWires_leaf_inv hws
    obtain ⟨_, bs₃, h₃, m₃, hws⟩ := readWires_leaf_inv hws
    obtain ⟨_, bs₄, h₄, m₄, hws⟩ := readWires_leaf_inv hws
    obtain ⟨_, bs₅, h₅, m₅, hws⟩ := readWires_leaf_inv hws
    obtain ⟨_, bs₆, h₆, m₆, hws⟩ := readWires_leaf_inv hws
    rw [readWires] at hws
    obtain ⟨-, rfl⟩ := Prod.mk.inj (Option.some.inj hws)
    rw [readHead_shortInt h₁ m₁, readHead_shortInt h₂ m₂, readHead_shortInt h₃ m₃,
      readHead_shortBin hpayload h₄ m₄, readHead_shortBin hpubkey h₅ m₅,
      readHead_shortBin hsignature h₆ m₆]
  · rintro rfl
    refine ⟨rfl, ?_⟩
    have hpos := encode_length_pos (.int version)
    have hpos' := encode_length_pos (.int actionType)
    have hpos'' := encode_length_pos (.int seq)
    generalize htail : intBytes version ++ _ = tail
    obtain ⟨fuel, hfuel⟩ : ∃ fuel, 2 * tail.length + 1 = fuel + 7 := by
      refine ⟨2 * tail.length - 6, ?_⟩
      rw [← htail]
      simp only [Msg.encode] at hpos hpos' hpos''
      simp only [List.length_append]
      omega
    rw [decodeWire, List.length_cons, Nat.mul_add, readWire, hhead]
    simp only [hfuel]
    have h₀ : readWires (fuel + 1) 0 ([] : Bytes) = some ([], []) := rfl
    have h₆ := readWires_shortBin hsignature h₀
    have h₅ := readWires_shortBin hpubkey h₆
    have h₄ := readWires_shortBin hpayload h₅
    have h₃ := readWires_shortInt (by exact_mod_cast hseq.2) h₄
    have h₂ := readWires_shortInt (by exact_mod_cast htype.2) h₃
    have h₁ := readWires_shortInt (by exact_mod_cast hversion.2) h₂
    rw [← htail, h₁]
    rfl

/-- The envelope that was read is the compact form of its parts exactly when the input is
canonical. -/
theorem encode_eq_iff_canonical (hsound : rmp.Sound) {bytes : Bytes} {x : WireTxEnvelope}
    (h : rmp.fromSlice WireTxEnvelope.schema bytes = .ok x) :
    (WireTxEnvelope.schema.toMsg x).encode = bytes ↔ Canonical bytes := by
  obtain ⟨w, rest, hw, hx⟩ := hsound _ bytes x h
  constructor
  · intro hencode
    have hfits := x.toMsg_fits (WireTxEnvelope.payload_lt (decode_fits (decode_of_decodeWire hw)) hx)
    rw [WireTxEnvelope.toMsg_eq] at hencode hfits
    obtain ⟨hfirst, hdecode⟩ := (decodeWire_envelope_iff hfits).mpr hencode
    exact ⟨hfirst, _, _, _, _, _, _, hdecode⟩
  · intro h
    obtain ⟨hfirst, version, actionType, seq, payload, pubkey, signature, hdecode⟩ := h
    have hfits := decode_fits (decode_of_decodeWire hdecode)
    rw [hdecode] at hw
    obtain ⟨rfl, rfl⟩ := Prod.mk.inj (Option.some.inj hw)
    simp only [Wire.offer, itemOffers, shortInt_offer, shortBin_offer] at hx
    obtain ⟨hversion, htype, hseq, rfl, rfl, rfl⟩ := WireTxEnvelope.ofMsg_eq_some.mp hx
    rw [WireTxEnvelope.toMsg_eq, ← hversion, ← htype, ← hseq]
    exact (decodeWire_envelope_iff hfits).mp ⟨hfirst, hdecode⟩

theorem decodeTxRaw_ok {bytes : Bytes} {raw : DecodedTxRaw} (h : decodeTxRaw rmp bytes = .ok raw) :
    rmp.fromSlice WireTxEnvelope.schema bytes = .ok
      ⟨envelopeVersion, raw.actionType, raw.seq, raw.payload, raw.pubkey, raw.signature⟩ ∧
    raw.version = envelopeVersion := by
  rw [decodeTxRaw] at h
  split_ifs at h
  cases hread : rmp.fromSlice WireTxEnvelope.schema bytes with
  | error e =>
    rw [hread] at h
    cases h
  | ok envelope =>
    rw [hread] at h
    replace h : (if supportedEnvelopeVersions.contains envelope.version then _ else _) = _ := h
    split_ifs at h with hversion
    obtain rfl := Except.ok.inj h
    rw [← version_of_supported hversion]
    exact ⟨rfl, rfl⟩

/-- The full decoder accepts where the raw one does and the payload is one of the action type. -/
theorem decodeTx_eq_ok {bytes : Bytes} {tx : DecodedTx} : decodeTx rmp bytes = .ok tx ↔
    decodeTxRaw rmp bytes = .ok ⟨envelopeVersion, tx.auth.actionType, tx.seq, tx.auth.payload,
      tx.auth.pubkey, tx.auth.signature⟩ ∧
    decodeAction rmp tx.auth.actionType tx.auth.payload = .ok tx.action := by
  obtain ⟨action, seq, pubkey, signature, actionType, payload⟩ := tx
  rw [decodeTx, decodeTxRaw]
  split_ifs
  · simp
  · cases hread : rmp.fromSlice WireTxEnvelope.schema bytes with
    | error e => simp [mapErr, bind, Except.bind]
    | ok envelope =>
      obtain ⟨version, actionType', seq', payload', pubkey', signature'⟩ := envelope
      simp only [mapErr, bind, Except.bind]
      split_ifs with hversion
      · obtain rfl := version_of_supported hversion
        simp only [pure, Except.pure, Except.ok.injEq, DecodedTxRaw.mk.injEq, true_and]
        constructor
        · intro h
          cases haction : decodeAction rmp actionType' payload' with
          | error e =>
            rw [haction] at h
            cases h
          | ok action' =>
            rw [haction] at h
            obtain ⟨rfl, rfl, hauth⟩ := DecodedTx.mk.inj (Except.ok.inj h)
            obtain ⟨rfl, rfl, rfl, rfl⟩ := TxAuth.mk.inj hauth
            exact ⟨⟨rfl, rfl, rfl, rfl, rfl⟩, haction⟩
        · intro h
          obtain ⟨⟨rfl, rfl, rfl, rfl, rfl⟩, haction⟩ := h
          rw [haction]
      · simp

/-- What is accepted is the encoding of the parts that are read out of it exactly when it is
canonical, so that two canonical inputs with the same parts are one. -/
theorem decodeTx_canonical_iff (hsound : rmp.Sound) :
    (∀ bytes raw, decodeTxRaw rmp bytes = .ok raw → raw.version = envelopeVersion ∧
      (encodeSignedTxRaw rmp raw.actionType raw.payload raw.seq raw.pubkey raw.signature =
          .ok bytes ↔ Canonical bytes)) ∧
    (∀ bytes tx, decodeTx rmp bytes = .ok tx →
      (encodeSignedTxRaw rmp tx.auth.actionType tx.auth.payload tx.seq tx.auth.pubkey
          tx.auth.signature = .ok bytes ↔ Canonical bytes)) ∧
    ∀ bytes bytes' raw, decodeTxRaw rmp bytes = .ok raw → decodeTxRaw rmp bytes' = .ok raw →
      Canonical bytes → Canonical bytes' → bytes = bytes' := by
  have hraw : ∀ bytes raw, decodeTxRaw rmp bytes = .ok raw → raw.version = envelopeVersion ∧
      (encodeSignedTxRaw rmp raw.actionType raw.payload raw.seq raw.pubkey raw.signature =
          .ok bytes ↔ Canonical bytes) := by
    intro bytes raw h
    obtain ⟨hread, hversion⟩ := decodeTxRaw_ok h
    refine ⟨hversion, ?_⟩
    rw [encodeSignedTxRaw_eq, Except.ok.injEq]
    exact encode_eq_iff_canonical hsound hread
  refine ⟨hraw, ?_, ?_⟩
  · intro bytes tx h
    exact (hraw bytes _ (decodeTx_eq_ok.mp h).1).2
  · intro bytes bytes' raw h h' hc hc'
    have hencode := (hraw bytes raw h).2.mpr hc
    rw [(hraw bytes' raw h').2.mpr hc'] at hencode
    exact (Except.ok.inj hencode).symm

end Envelope

theorem sampleKey_length : (List.replicate 32 (0 : UInt8)).length = 32 := rfl

def sampleRaw : DecodedTxRaw :=
  ⟨2, 2, 1, [], ⟨List.replicate 32 0, sampleKey_length⟩, ⟨List.replicate 64 0, rfl⟩⟩

def sampleEnvelope : Msg :=
  .arr [.int 2, .int 2, .int 1, .bin [], .bin (List.replicate 32 0), .bin (List.replicate 64 0)]

theorem sampleEnvelope_fits : sampleEnvelope.Fits :=
  WireTxEnvelope.toMsg_fits ⟨2, 2, 1, [], sampleRaw.pubkey, sampleRaw.signature⟩ (by decide)

theorem decodeTxRaw_sample (rest : Bytes) :
    decodeTxRaw .reference (sampleEnvelope.encode ++ rest) = .ok sampleRaw := by
  have hread : RmpSerde.reference.fromSlice WireTxEnvelope.schema (sampleEnvelope.encode ++ rest) =
      .ok ⟨2, 2, 1, [], sampleRaw.pubkey, sampleRaw.signature⟩ :=
    RmpSerde.reference.fromSlice_ok _ _ rest _ sampleEnvelope_fits (by decide)
      (WireTxEnvelope.ofMsg_eq_some.mpr ⟨rfl, rfl, rfl, rfl, rfl, rfl⟩)
  have hne := List.ne_nil_of_length_pos (encode_length_pos sampleEnvelope)
  have hempty : (sampleEnvelope.encode ++ rest).isEmpty = false :=
    List.isEmpty_eq_false_iff.mpr (List.append_ne_nil_of_left_ne_nil hne rest)
  rw [decodeTxRaw, hempty, hread]
  rfl

theorem decodeTx_canonical_iff_sample :
    encodeSignedTxRaw .reference 2 [] 1 sampleRaw.pubkey sampleRaw.signature =
      .ok sampleEnvelope.encode := by
  have hraw := decodeTxRaw_sample []
  rw [List.append_nil] at hraw
  have hcanonical := (decodeWire_envelope_iff sampleEnvelope_fits).mpr rfl
  have hiff := (decodeTx_canonical_iff RmpSerde.reference_sound).1 _ _ hraw
  exact hiff.2.mpr ⟨hcanonical.1, 2, 2, 1, [], _, _, hcanonical.2⟩

/-- A byte behind the envelope changes the bytes, and so their hash, and none of the parts. -/
theorem decodeTxRaw_trailing : ∃ bytes bytes' : Bytes, bytes ≠ bytes' ∧
    decodeTxRaw .reference bytes = .ok sampleRaw ∧
    decodeTxRaw .reference bytes' = .ok sampleRaw ∧
    encodeSignedTxRaw .reference sampleRaw.actionType sampleRaw.payload sampleRaw.seq
      sampleRaw.pubkey sampleRaw.signature ≠ .ok bytes' := by
  have hraw := decodeTxRaw_sample []
  rw [List.append_nil] at hraw
  have hne : sampleEnvelope.encode ≠ sampleEnvelope.encode ++ [0] := by
    intro h
    have hlength := congrArg List.length h
    simp at hlength
  refine ⟨_, _, hne, hraw, decodeTxRaw_sample [0], ?_⟩
  rw [encodeSignedTxRaw_eq]
  intro h
  exact hne (Except.ok.inj h)

end TradingSdk
