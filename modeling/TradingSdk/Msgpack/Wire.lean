import TradingSdk.Msgpack.Decode

namespace TradingSdk.Msgpack

/-- A MessagePack value in the form that it was written in: each leaf keeps its marker. -/
inductive Wire where
  | leaf (marker : UInt8) (m : Msg)
  | arr (items : List Wire)
  | map (entries : List (Wire × Wire))

mutual
/-- The value without its form. -/
def Wire.value : Wire → Msg
  | .leaf _ m => m
  | .arr items => .arr (itemValues items)
  | .map entries => .map (entryValues entries)
def itemValues : List Wire → List Msg
  | [] => []
  | w :: ws => w.value :: itemValues ws
def entryValues : List (Wire × Wire) → List (Msg × Msg)
  | [] => []
  | (k, v) :: rest => (k.value, v.value) :: entryValues rest
end

theorem itemValues_eq_map (ws : List Wire) : itemValues ws = ws.map Wire.value := by
  induction ws with
  | nil => rfl
  | cons w ws ih => rw [itemValues, List.map_cons, ih]

theorem entryValues_eq_map (kvs : List (Wire × Wire)) :
    entryValues kvs = kvs.map fun entry => (entry.1.value, entry.2.value) := by
  induction kvs with
  | nil => rfl
  | cons entry kvs ih => rw [entryValues, List.map_cons, ih]

mutual
/-- `read` with the markers kept. -/
def readWire : Nat → List UInt8 → Option (Wire × List UInt8)
  | 0, _ => none
  | fuel + 1, bs =>
    match readHead bs with
    | none => none
    | some (.leaf m, rest) => some (.leaf (bs.headD 0) m, rest)
    | some (.arr n, rest) => (readWires fuel n rest).map fun (ws, rest) => (.arr ws, rest)
    | some (.map n, rest) => (readWireEntries fuel n rest).map fun (kvs, rest) => (.map kvs, rest)
def readWires : Nat → Nat → List UInt8 → Option (List Wire × List UInt8)
  | _, 0, bs => some ([], bs)
  | 0, _ + 1, _ => none
  | fuel + 1, n + 1, bs => do
    let (w, bs) ← readWire fuel bs
    let (ws, bs) ← readWires fuel n bs
    return (w :: ws, bs)
def readWireEntries : Nat → Nat → List UInt8 → Option (List (Wire × Wire) × List UInt8)
  | _, 0, bs => some ([], bs)
  | 0, _ + 1, _ => none
  | fuel + 1, n + 1, bs => do
    let (k, bs) ← readWire fuel bs
    let (v, bs) ← readWire fuel bs
    let (kvs, bs) ← readWireEntries fuel n bs
    return ((k, v) :: kvs, bs)
end

/-- Read one value in its form off the front and return what follows it. -/
def decodeWire (bs : List UInt8) : Option (Wire × List UInt8) := readWire (2 * bs.length) bs

mutual
theorem read_eq_readWire (fuel : Nat) (bs : List UInt8) :
    read fuel bs = (readWire fuel bs).map fun (w, rest) => (w.value, rest) := by
  cases fuel with
  | zero => rw [read, readWire, Option.map_none]
  | succ fuel =>
    rw [read, readWire]
    cases readHead bs with
    | none => rfl
    | some parts =>
      obtain ⟨head, rest⟩ := parts
      cases head with
      | leaf m => rfl
      | arr n =>
        simp only [readItems_eq_readWires fuel n rest, Option.map_map]
        rfl
      | map n =>
        simp only [readEntries_eq_readWireEntries fuel n rest, Option.map_map]
        rfl
theorem readItems_eq_readWires (fuel n : Nat) (bs : List UInt8) :
    readItems fuel n bs = (readWires fuel n bs).map fun (ws, rest) => (itemValues ws, rest) := by
  cases n with
  | zero => cases fuel <;> rfl
  | succ n =>
    cases fuel with
    | zero => rfl
    | succ fuel =>
      rw [readItems, readWires, read_eq_readWire fuel bs]
      cases readWire fuel bs with
      | none => rfl
      | some parts =>
        obtain ⟨w, rest⟩ := parts
        simp only [Option.map_some, Option.bind_eq_bind, Option.bind_some,
          readItems_eq_readWires fuel n rest]
        cases readWires fuel n rest <;> rfl
theorem readEntries_eq_readWireEntries (fuel n : Nat) (bs : List UInt8) :
    readEntries fuel n bs =
      (readWireEntries fuel n bs).map fun (kvs, rest) => (entryValues kvs, rest) := by
  cases n with
  | zero => cases fuel <;> rfl
  | succ n =>
    cases fuel with
    | zero => rfl
    | succ fuel =>
      rw [readEntries, readWireEntries, read_eq_readWire fuel bs]
      cases readWire fuel bs with
      | none => rfl
      | some parts =>
        obtain ⟨k, rest⟩ := parts
        simp only [Option.map_some, Option.bind_eq_bind, Option.bind_some,
          read_eq_readWire fuel rest]
        cases readWire fuel rest with
        | none => rfl
        | some parts =>
          obtain ⟨v, rest'⟩ := parts
          simp only [Option.map_some, Option.bind_some,
            readEntries_eq_readWireEntries fuel n rest']
          cases readWireEntries fuel n rest' <;> rfl
end

/-- Keeping the form changes neither the value that is read nor where it ends. -/
theorem decode_eq_decodeWire (bs : List UInt8) :
    decode bs = (decodeWire bs).map fun (w, rest) => (w.value, rest) :=
  read_eq_readWire (2 * bs.length) bs

theorem decode_of_decodeWire {bs rest : List UInt8} {w : Wire}
    (h : decodeWire bs = some (w, rest)) : decode bs = some (w.value, rest) := by
  rw [decode_eq_decodeWire, h, Option.map_some]

theorem decodeWire_of_decode {bs rest : List UInt8} {m : Msg} (h : decode bs = some (m, rest)) :
    ∃ w : Wire, decodeWire bs = some (w, rest) ∧ w.value = m := by
  rw [decode_eq_decodeWire] at h
  obtain ⟨⟨w, rest'⟩, hw, hpair⟩ := Option.map_eq_some_iff.mp h
  obtain ⟨rfl, rfl⟩ := Prod.mk.inj hpair
  exact ⟨w, hw, rfl⟩

def leafOffer (marker : UInt8) : Msg → Msg
  | .int n => if 0 ≤ n ∧ 0xd0 ≤ marker ∧ marker ≤ 0xd3 then .signed n.toNat else .int n
  | m => m

mutual
/-- The value with every non-negative integer in a signed form told apart. -/
def Wire.offer : Wire → Msg
  | .leaf marker m => leafOffer marker m
  | .arr items => .arr (itemOffers items)
  | .map entries => .map (entryOffers entries)
def itemOffers : List Wire → List Msg
  | [] => []
  | w :: ws => w.offer :: itemOffers ws
def entryOffers : List (Wire × Wire) → List (Msg × Msg)
  | [] => []
  | (k, v) :: rest => (k.offer, v.offer) :: entryOffers rest
end

theorem itemOffers_eq_map (ws : List Wire) : itemOffers ws = ws.map Wire.offer := by
  induction ws with
  | nil => rfl
  | cons w ws ih => rw [itemOffers, List.map_cons, ih]

theorem entryOffers_eq_map (kvs : List (Wire × Wire)) :
    entryOffers kvs = kvs.map fun entry => (entry.1.offer, entry.2.offer) := by
  induction kvs with
  | nil => rfl
  | cons entry kvs ih => rw [entryOffers, List.map_cons, ih]

/-- The compact form of an integer that is not negative is none of the signed forms. -/
theorem leafOffer_intBytes (n : Int) (rest : List UInt8) :
    leafOffer ((intBytes n ++ rest).headD 0) (.int n) = .int n := by
  rw [leafOffer, if_neg]
  intro h
  obtain ⟨h0, hlo, hup⟩ := h
  unfold intBytes at hlo hup
  split_ifs at hlo hup with h7 h8 h16 h32
  · have hmarker : (UInt8.ofNat n.toNat).toNat = n.toNat := by
      rw [UInt8.toNat_ofNat', Nat.mod_eq_of_lt (by omega)]
    have hlo' : 0xd0 ≤ (UInt8.ofNat n.toNat).toNat := UInt8.le_iff_toNat_le.mp hlo
    omega
  all_goals
    rw [List.cons_append, List.headD_cons] at hlo
    exact absurd hlo (by decide)

theorem readWire_leaf {fuel : Nat} {bs rest rest' : List UInt8} {m : Msg} {w : Wire}
    (hhead : readHead bs = some (.leaf m, rest)) (h : readWire fuel bs = some (w, rest')) :
    w = .leaf (bs.headD 0) m ∧ rest' = rest := by
  cases fuel with
  | zero => cases h
  | succ fuel =>
    rw [readWire, hhead] at h
    obtain ⟨rfl, rfl⟩ := Prod.mk.inj (Option.some.inj h)
    exact ⟨rfl, rfl⟩

mutual
/-- The compact form of a value is offered as that value. -/
theorem offer_encode (m : Msg) (hm : m.Fits) {fuel : Nat} {rest rest' : List UInt8} {w : Wire}
    (h : readWire fuel (m.encode ++ rest) = some (w, rest')) : w.offer = m ∧ rest' = rest := by
  match m, hm with
  | .nil, _ =>
    obtain ⟨rfl, rfl⟩ := readWire_leaf rfl h
    exact ⟨rfl, rfl⟩
  | .bool true, _ =>
    obtain ⟨rfl, rfl⟩ := readWire_leaf rfl h
    exact ⟨rfl, rfl⟩
  | .bool false, _ =>
    obtain ⟨rfl, rfl⟩ := readWire_leaf rfl h
    exact ⟨rfl, rfl⟩
  | .int n, hm =>
    obtain ⟨rfl, rfl⟩ := readWire_leaf (readHead_intBytes n rest hm.1 hm.2) h
    exact ⟨leafOffer_intBytes n _, rfl⟩
  | .float32 bits, hm =>
    obtain ⟨rfl, rfl⟩ := readWire_leaf (readHead_float32 bits rest) h
    exact ⟨rfl, rfl⟩
  | .float64 bits, hm =>
    obtain ⟨rfl, rfl⟩ := readWire_leaf (readHead_float64 bits rest) h
    exact ⟨rfl, rfl⟩
  | .str bytes, hm =>
    rw [Msg.encode, List.append_assoc] at h
    obtain ⟨rfl, rfl⟩ := readWire_leaf (readHead_str bytes rest hm) h
    exact ⟨rfl, rfl⟩
  | .bin bytes, hm =>
    rw [Msg.encode, List.append_assoc] at h
    obtain ⟨rfl, rfl⟩ := readWire_leaf (readHead_bin bytes rest hm) h
    exact ⟨rfl, rfl⟩
  | .ext tag bytes, hm =>
    rw [Msg.encode, List.append_assoc] at h
    obtain ⟨rfl, rfl⟩ := readWire_leaf (readHead_ext tag bytes rest hm) h
    exact ⟨rfl, rfl⟩
  | .arr items, hm =>
    cases fuel with
    | zero => cases h
    | succ fuel =>
      rw [Msg.encode, List.append_assoc, readWire, readHead_arr _ _ hm.1] at h
      obtain ⟨⟨ws, rest''⟩, hws, hpair⟩ := Option.map_eq_some_iff.mp h
      obtain ⟨rfl, rfl⟩ := Prod.mk.inj hpair
      obtain ⟨hitems, hrest⟩ := offerItems_encode items hm.2 hws
      exact ⟨congrArg Msg.arr hitems, hrest⟩
  | .map entries, hm =>
    cases fuel with
    | zero => cases h
    | succ fuel =>
      rw [Msg.encode, List.append_assoc, readWire, readHead_map _ _ hm.1] at h
      obtain ⟨⟨kvs, rest''⟩, hkvs, hpair⟩ := Option.map_eq_some_iff.mp h
      obtain ⟨rfl, rfl⟩ := Prod.mk.inj hpair
      obtain ⟨hentries, hrest⟩ := offerEntries_encode entries hm.2 hkvs
      exact ⟨congrArg Msg.map hentries, hrest⟩
theorem offerItems_encode (items : List Msg) (hm : FitsItems items) {fuel : Nat}
    {rest rest' : List UInt8} {ws : List Wire}
    (h : readWires fuel items.length (encodeItems items ++ rest) = some (ws, rest')) :
    itemOffers ws = items ∧ rest' = rest := by
  match items, hm with
  | [], _ =>
    rw [List.length_nil, readWires] at h
    obtain ⟨rfl, rfl⟩ := Prod.mk.inj (Option.some.inj h)
    exact ⟨rfl, rfl⟩
  | m :: ms, hm =>
    cases fuel with
    | zero => cases h
    | succ fuel =>
      rw [List.length_cons, readWires, encodeItems, List.append_assoc] at h
      obtain ⟨⟨w, bs⟩, hw, h⟩ := Option.bind_eq_some_iff.mp h
      obtain ⟨⟨ws', bs'⟩, hws, h⟩ := Option.bind_eq_some_iff.mp h
      obtain ⟨rfl, rfl⟩ := Prod.mk.inj (Option.some.inj h)
      obtain ⟨hoffer, rfl⟩ := offer_encode m hm.1 hw
      obtain ⟨hoffers, rfl⟩ := offerItems_encode ms hm.2 hws
      exact ⟨by rw [itemOffers, hoffer, hoffers], rfl⟩
theorem offerEntries_encode (entries : List (Msg × Msg)) (hm : FitsEntries entries) {fuel : Nat}
    {rest rest' : List UInt8} {kvs : List (Wire × Wire)}
    (h : readWireEntries fuel entries.length (encodeEntries entries ++ rest) = some (kvs, rest')) :
    entryOffers kvs = entries ∧ rest' = rest := by
  match entries, hm with
  | [], _ =>
    rw [List.length_nil, readWireEntries] at h
    obtain ⟨rfl, rfl⟩ := Prod.mk.inj (Option.some.inj h)
    exact ⟨rfl, rfl⟩
  | (k, v) :: entries, hm =>
    cases fuel with
    | zero => cases h
    | succ fuel =>
      rw [List.length_cons, readWireEntries, encodeEntries, List.append_assoc,
        List.append_assoc] at h
      obtain ⟨⟨wk, bs₁⟩, hk, h⟩ := Option.bind_eq_some_iff.mp h
      obtain ⟨⟨wv, bs₂⟩, hv, h⟩ := Option.bind_eq_some_iff.mp h
      obtain ⟨⟨kvs', bs₃⟩, hkvs, h⟩ := Option.bind_eq_some_iff.mp h
      obtain ⟨rfl, rfl⟩ := Prod.mk.inj (Option.some.inj h)
      obtain ⟨hkey, rfl⟩ := offer_encode k hm.1 hk
      obtain ⟨hvalue, rfl⟩ := offer_encode v hm.2.1 hv
      obtain ⟨hrest, rfl⟩ := offerEntries_encode entries hm.2.2 hkvs
      exact ⟨by rw [entryOffers, hkey, hvalue, hrest], rfl⟩
end

theorem decodeWire_encode (m : Msg) (hm : m.Fits) (rest : List UInt8) :
    ∃ w : Wire, decodeWire (m.encode ++ rest) = some (w, rest) ∧ w.offer = m := by
  obtain ⟨w, hw, -⟩ := decodeWire_of_decode (decode_encode m hm rest)
  exact ⟨w, hw, (offer_encode m hm hw).1⟩

mutual
theorem Wire.offer_depth : (w : Wire) → w.offer.depth = w.value.depth
  | .leaf marker m => by
    cases m with
    | int n =>
      rw [Wire.offer, Wire.value, leafOffer]
      split_ifs <;> rfl
    | _ => rfl
  | .arr items => by rw [Wire.offer, Wire.value, Msg.depth, Msg.depth, itemOffers_depth items]
  | .map entries => by
    rw [Wire.offer, Wire.value, Msg.depth, Msg.depth, entryOffers_depth entries]
theorem itemOffers_depth : (ws : List Wire) → depthItems (itemOffers ws) = depthItems (itemValues ws)
  | [] => rfl
  | w :: ws => by
    rw [itemOffers, itemValues, depthItems, depthItems, w.offer_depth, itemOffers_depth ws]
theorem entryOffers_depth : (kvs : List (Wire × Wire)) →
    depthEntries (entryOffers kvs) = depthEntries (entryValues kvs)
  | [] => rfl
  | (k, v) :: kvs => by
    rw [entryOffers, entryValues, depthEntries, depthEntries, k.offer_depth, v.offer_depth,
      entryOffers_depth kvs]
end

/-- The marker of the shortest form of an integer. -/
def intMarker (n : Nat) : UInt8 :=
  if n < 2^7 then UInt8.ofNat n
  else if n < 2^8 then 0xcc
  else if n < 2^16 then 0xcd
  else if n < 2^32 then 0xce
  else 0xcf

/-- The marker of the shortest form of a `bin`. -/
def binMarker (len : Nat) : UInt8 :=
  if len < 2^8 then 0xc4 else if len < 2^16 then 0xc5 else 0xc6

def shortInt (n : Nat) : Wire := .leaf (intMarker n) (.int n)

def shortBin (bytes : List UInt8) : Wire := .leaf (binMarker bytes.length) (.bin bytes)

/-- The natural number in its branches. -/
theorem intBytes_natCast (n : Nat) : intBytes n =
    if n < 2^7 then [UInt8.ofNat n]
    else if n < 2^8 then 0xcc :: beBytes 1 n
    else if n < 2^16 then 0xcd :: beBytes 2 n
    else if n < 2^32 then 0xce :: beBytes 4 n
    else 0xcf :: beBytes 8 n := by
  have h0 : (0 : Int) ≤ n := Int.natCast_nonneg n
  rw [intBytes, if_pos h0, Int.toNat_natCast]
  norm_cast

theorem headD_intBytes (n : Nat) (rest : List UInt8) :
    (intBytes n ++ rest).headD 0 = intMarker n := by
  rw [intBytes_natCast, intMarker]
  split_ifs <;> rfl

theorem headD_binHeader {len : Nat} (h : len < 2^32) (rest : List UInt8) :
    (binHeader len ++ rest).headD 0 = binMarker len := by
  have hlen : len32 len = len := Nat.mod_eq_of_lt h
  simp only [binHeader, binMarker, hlen]
  split_ifs <;> rfl

@[simp] theorem shortInt_offer (n : Nat) : (shortInt n).offer = .int n := by
  rw [shortInt, Wire.offer, ← headD_intBytes n []]
  exact leafOffer_intBytes n []

@[simp] theorem shortBin_offer (bytes : List UInt8) : (shortBin bytes).offer = .bin bytes := rfl

/-- An integer behind its shortest marker is written in the bytes of its compact form. -/
theorem readHead_shortInt {bs rest : List UInt8} {n : Nat}
    (h : readHead bs = some (.leaf (.int n), rest)) (hmarker : bs.headD 0 = intMarker n) :
    bs = intBytes n ++ rest := by
  have hnat {k : Nat} {bs : List UInt8}
      (h : ((takeNat k bs).map fun p => (Head.leaf (.int p.1), p.2)) =
        some (.leaf (.int n), rest)) : bs = beBytes k n ++ rest := by
    obtain ⟨⟨v, rest'⟩, hv, hpair⟩ := Option.map_eq_some_iff.mp h
    obtain ⟨hleaf, rfl⟩ := Prod.mk.inj hpair
    have hvn : v = n := by simpa using hleaf
    rw [takeNat_eq_some hv, hvn]
  cases bs with
  | nil => cases h
  | cons b bs =>
    rw [List.headD_cons] at hmarker
    rw [intMarker] at hmarker
    rw [intBytes_natCast]
    split_ifs at hmarker ⊢ with h7 h8 h16 h32
    · have hb : b.toNat = n := by
        rw [hmarker, UInt8.toNat_ofNat', Nat.mod_eq_of_lt (by omega)]
      have hfix : n < 0x80 := h7
      rw [readHead] at h
      simp only [hb, if_pos hfix] at h
      have hrest := (Prod.mk.inj (Option.some.inj h)).2
      rw [hmarker, hrest]
      rfl
    · rw [hmarker] at h ⊢
      exact congrArg (List.cons 0xcc) (hnat h)
    · rw [hmarker] at h ⊢
      exact congrArg (List.cons 0xcd) (hnat h)
    · rw [hmarker] at h ⊢
      exact congrArg (List.cons 0xce) (hnat h)
    · rw [hmarker] at h ⊢
      exact congrArg (List.cons 0xcf) (hnat h)

theorem readHead_shortBin {bs rest bytes : List UInt8} (hlen : bytes.length < 2^32)
    (h : readHead bs = some (.leaf (.bin bytes), rest))
    (hmarker : bs.headD 0 = binMarker bytes.length) :
    bs = binHeader bytes.length ++ bytes ++ rest := by
  have hbytes {k : Nat} {bs : List UInt8}
      (h : ((takeNat k bs).bind fun p =>
        (takeBytes p.1 p.2).map fun q => (Head.leaf (.bin q.1), q.2)) =
        some (.leaf (.bin bytes), rest)) : bs = beBytes k bytes.length ++ (bytes ++ rest) := by
    obtain ⟨⟨n, bs'⟩, hn, h⟩ := Option.bind_eq_some_iff.mp h
    obtain ⟨⟨front, rest'⟩, hfront, hpair⟩ := Option.map_eq_some_iff.mp h
    obtain ⟨hleaf, rfl⟩ := Prod.mk.inj hpair
    obtain rfl : front = bytes := by simpa using hleaf
    obtain ⟨rfl, rfl⟩ := takeBytes_eq_some hfront
    exact takeNat_eq_some hn
  have hlen' : len32 bytes.length = bytes.length := Nat.mod_eq_of_lt hlen
  cases bs with
  | nil => cases h
  | cons b bs =>
    rw [List.headD_cons] at hmarker
    rw [binMarker] at hmarker
    rw [List.append_assoc, binHeader]
    simp only [hlen']
    split_ifs at hmarker ⊢ with h8 h16
    · rw [hmarker] at h ⊢
      exact congrArg (List.cons 0xc4) (hbytes h)
    · rw [hmarker] at h ⊢
      exact congrArg (List.cons 0xc5) (hbytes h)
    · rw [hmarker] at h ⊢
      exact congrArg (List.cons 0xc6) (hbytes h)

/-- Leaves one after the other. -/
theorem readWires_leaf {fuel n : Nat} {bs bs' rest : List UInt8} {m : Msg} {ws : List Wire}
    (hhead : readHead bs = some (.leaf m, bs'))
    (h : readWires (fuel + 1) n bs' = some (ws, rest)) :
    readWires (fuel + 2) (n + 1) bs = some (.leaf (bs.headD 0) m :: ws, rest) := by
  rw [readWires, readWire, hhead]
  simp only [Option.bind_eq_bind, Option.bind_some, h]
  rfl

theorem readWires_shortInt {fuel k n : Nat} {bs rest : List UInt8} {ws : List Wire} (hn : n < 2^64)
    (h : readWires (fuel + 1) k bs = some (ws, rest)) :
    readWires (fuel + 2) (k + 1) (intBytes n ++ bs) = some (shortInt n :: ws, rest) := by
  have hhead := readHead_intBytes n bs (by omega) (by exact_mod_cast hn)
  rw [readWires_leaf hhead h, headD_intBytes]
  rfl

theorem readWires_shortBin {fuel k : Nat} {bytes bs rest : List UInt8} {ws : List Wire}
    (hlen : bytes.length < 2^32) (h : readWires (fuel + 1) k bs = some (ws, rest)) :
    readWires (fuel + 2) (k + 1) (binHeader bytes.length ++ bytes ++ bs) =
      some (shortBin bytes :: ws, rest) := by
  have hhead := readHead_bin bytes bs hlen
  rw [List.append_assoc, readWires_leaf hhead h, headD_binHeader hlen]
  rfl

theorem readWires_leaf_inv {fuel n : Nat} {bs rest : List UInt8} {marker : UInt8} {m : Msg}
    {ws : List Wire} (h : readWires fuel (n + 1) bs = some (.leaf marker m :: ws, rest)) :
    ∃ fuel' bs', readHead bs = some (.leaf m, bs') ∧ bs.headD 0 = marker ∧
      readWires fuel' n bs' = some (ws, rest) := by
  cases fuel with
  | zero => cases h
  | succ fuel =>
    rw [readWires] at h
    obtain ⟨⟨w, bs'⟩, hw, h⟩ := Option.bind_eq_some_iff.mp h
    obtain ⟨⟨ws', bs''⟩, hws, h⟩ := Option.bind_eq_some_iff.mp h
    obtain ⟨hcons, rfl⟩ := Prod.mk.inj (Option.some.inj h)
    obtain ⟨rfl, rfl⟩ := List.cons.inj hcons
    cases fuel with
    | zero => cases hw
    | succ fuel =>
      rw [readWire] at hw
      split at hw
      · cases hw
      · next leaf rest' hhead =>
        obtain ⟨hleaf, rfl⟩ := Prod.mk.inj (Option.some.inj hw)
        obtain ⟨rfl, rfl⟩ := Wire.leaf.inj hleaf
        exact ⟨fuel + 1, _, hhead, rfl, hws⟩
      · obtain ⟨_, -, hpair⟩ := Option.map_eq_some_iff.mp hw
        cases (Prod.mk.inj hpair).1
      · obtain ⟨_, -, hpair⟩ := Option.map_eq_some_iff.mp hw
        cases (Prod.mk.inj hpair).1

end TradingSdk.Msgpack
