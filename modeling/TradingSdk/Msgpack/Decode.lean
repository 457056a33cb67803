import TradingSdk.Msgpack.Value

namespace TradingSdk.Msgpack

/-- What a marker announces: a complete leaf, or a container of so many children. -/
inductive Head where
  | leaf (m : Msg)
  | arr (len : Nat)
  | map (len : Nat)

/-- Two's complement reading of a `k`-byte number. -/
def signed (k n : Nat) : Int := if n < 2^(8*k-1) then n else n - 2^(8*k)

private def leafNat (k : Nat) (f : Nat → Msg) (bs : List UInt8) : Option (Head × List UInt8) :=
  (takeNat k bs).map fun (n, rest) => (.leaf (f n), rest)

private def leafBytes (f : List UInt8 → Msg) (len : Option (Nat × List UInt8)) :
    Option (Head × List UInt8) :=
  len.bind fun (n, bs) => (takeBytes n bs).map fun (front, rest) => (.leaf (f front), rest)

private def leafExt (len : Option (Nat × List UInt8)) : Option (Head × List UInt8) :=
  len.bind fun (n, bs) => (takeBytes 1 bs).bind fun (tag, bs) =>
    (takeBytes n bs).map fun (front, rest) => (.leaf (.ext (tag.headD 0) front), rest)

/-- Read one marker with its length and, for a leaf, its content. -/
def readHead : List UInt8 → Option (Head × List UInt8)
  | [] => none
  | b :: bs =>
    let n := b.toNat
    if n < 0x80 then some (.leaf (.int n), bs)
    else if n < 0x90 then some (.map (n - 0x80), bs)
    else if n < 0xa0 then some (.arr (n - 0x90), bs)
    else if n < 0xc0 then leafBytes .str (some (n - 0xa0, bs))
    else if 0xe0 ≤ n then some (.leaf (.int (n - 2^8 : Int)), bs)
    else match n with
      | 0xc0 => some (.leaf .nil, bs)
      | 0xc2 => some (.leaf (.bool false), bs)
      | 0xc3 => some (.leaf (.bool true), bs)
      | 0xc4 => leafBytes .bin (takeNat 1 bs)
      | 0xc5 => leafBytes .bin (takeNat 2 bs)
      | 0xc6 => leafBytes .bin (takeNat 4 bs)
      | 0xc7 => leafExt (takeNat 1 bs)
      | 0xc8 => leafExt (takeNat 2 bs)
      | 0xc9 => leafExt (takeNat 4 bs)
      | 0xca => leafNat 4 (fun v => .float32 (UInt32.ofNat v)) bs
      | 0xcb => leafNat 8 (fun v => .float64 (UInt64.ofNat v)) bs
      | 0xcc => leafNat 1 (fun v => .int v) bs
      | 0xcd => leafNat 2 (fun v => .int v) bs
      | 0xce => leafNat 4 (fun v => .int v) bs
      | 0xcf => leafNat 8 (fun v => .int v) bs
      | 0xd0 => leafNat 1 (fun v => .int (signed 1 v)) bs
      | 0xd1 => leafNat 2 (fun v => .int (signed 2 v)) bs
      | 0xd2 => leafNat 4 (fun v => .int (signed 4 v)) bs
      | 0xd3 => leafNat 8 (fun v => .int (signed 8 v)) bs
      | 0xd4 => leafExt (some (1, bs))
      | 0xd5 => leafExt (some (2, bs))
      | 0xd6 => leafExt (some (4, bs))
      | 0xd7 => leafExt (some (8, bs))
      | 0xd8 => leafExt (some (16, bs))
      | 0xd9 => leafBytes .str (takeNat 1 bs)
      | 0xda => leafBytes .str (takeNat 2 bs)
      | 0xdb => leafBytes .str (takeNat 4 bs)
      | 0xdc => (takeNat 2 bs).map fun (k, rest) => (.arr k, rest)
      | 0xdd => (takeNat 4 bs).map fun (k, rest) => (.arr k, rest)
      | 0xde => (takeNat 2 bs).map fun (k, rest) => (.map k, rest)
      | 0xdf => (takeNat 4 bs).map fun (k, rest) => (.map k, rest)
      | _ => none

mutual
/-- Read one value off the front, within `fuel` nested steps. -/
def read : Nat → List UInt8 → Option (Msg × List UInt8)
  | 0, _ => none
  | fuel + 1, bs =>
    match readHead bs with
    | none => none
    | some (.leaf m, rest) => some (m, rest)
    | some (.arr n, rest) => (readItems fuel n rest).map fun (ms, rest) => (.arr ms, rest)
    | some (.map n, rest) => (readEntries fuel n rest).map fun (kvs, rest) => (.map kvs, rest)
def readItems : Nat → Nat → List UInt8 → Option (List Msg × List UInt8)
  | _, 0, bs => some ([], bs)
  | 0, _ + 1, _ => none
  | fuel + 1, n + 1, bs => do
    let (m, bs) ← read fuel bs
    let (ms, bs) ← readItems fuel n bs
    return (m :: ms, bs)
def readEntries : Nat → Nat → List UInt8 → Option (List (Msg × Msg) × List UInt8)
  | _, 0, bs => some ([], bs)
  | 0, _ + 1, _ => none
  | fuel + 1, n + 1, bs => do
    let (k, bs) ← read fuel bs
    let (v, bs) ← read fuel bs
    let (kvs, bs) ← readEntries fuel n bs
    return ((k, v) :: kvs, bs)
end

/-- Read one value off the front and return what follows it. -/
def decode (bs : List UInt8) : Option (Msg × List UInt8) := read (2 * bs.length) bs

private theorem readHead_u8 (bs) : readHead (0xcc :: bs) = leafNat 1 (fun v => .int v) bs := rfl
private theorem readHead_u16 (bs) : readHead (0xcd :: bs) = leafNat 2 (fun v => .int v) bs := rfl
private theorem readHead_u32 (bs) : readHead (0xce :: bs) = leafNat 4 (fun v => .int v) bs := rfl
private theorem readHead_u64 (bs) : readHead (0xcf :: bs) = leafNat 8 (fun v => .int v) bs := rfl
private theorem readHead_i8 (bs) :
    readHead (0xd0 :: bs) = leafNat 1 (fun v => .int (signed 1 v)) bs := rfl
private theorem readHead_i16 (bs) :
    readHead (0xd1 :: bs) = leafNat 2 (fun v => .int (signed 2 v)) bs := rfl
private theorem readHead_i32 (bs) :
    readHead (0xd2 :: bs) = leafNat 4 (fun v => .int (signed 4 v)) bs := rfl
private theorem readHead_i64 (bs) :
    readHead (0xd3 :: bs) = leafNat 8 (fun v => .int (signed 8 v)) bs := rfl
private theorem readHead_arr16 (bs) :
    readHead (0xdc :: bs) = (takeNat 2 bs).map fun (k, rest) => (.arr k, rest) := rfl
private theorem readHead_arr32 (bs) :
    readHead (0xdd :: bs) = (takeNat 4 bs).map fun (k, rest) => (.arr k, rest) := rfl
private theorem readHead_map16 (bs) :
    readHead (0xde :: bs) = (takeNat 2 bs).map fun (k, rest) => (.map k, rest) := rfl
private theorem readHead_map32 (bs) :
    readHead (0xdf :: bs) = (takeNat 4 bs).map fun (k, rest) => (.map k, rest) := rfl

/-- A negative number written modulo `2^(8k)` reads back as itself. -/
theorem signed_wrap (k : Nat) (n : Int) (hk : 0 < k) (hlo : -2^(8*k-1) ≤ n) (hn : n < 0) :
    signed k (n + 2^(8*k)).toNat = n := by
  have hpow : (2 : Int)^(8*k) = 2 * 2^(8*k-1) := by
    rw [← pow_succ']
    congr 1
    omega
  have hpos : (0 : Int) < 2^(8*k-1) := by positivity
  have hnat : ((n + 2^(8*k)).toNat : Int) = n + 2^(8*k) := by
    rw [Int.toNat_of_nonneg]
    linarith
  have hge : ¬ (n + 2^(8*k)).toNat < 2^(8*k-1) := by
    intro hlt
    have hlt' : ((n + 2^(8*k)).toNat : Int) < 2^(8*k-1) := by exact_mod_cast hlt
    rw [hnat] at hlt'
    linarith
  rw [signed, if_neg hge, hnat]
  ring

private theorem ofNat_toNat_small (n : Nat) (h : n < 256) : (UInt8.ofNat n).toNat = n := by
  rw [UInt8.toNat_ofNat', Nat.mod_eq_of_lt h]

private theorem leafNat_beBytes (k v : Nat) (f : Nat → Msg) (rest : List UInt8) (h : v < 256^k) :
    leafNat k f (beBytes k v ++ rest) = some (.leaf (f v), rest) := by
  simp [leafNat, takeNat_beBytes k v rest h]

private theorem leafBytes_append (f : List UInt8 → Msg) (n : Nat) (bytes rest : List UInt8)
    (h : bytes.length = n) :
    leafBytes f (some (n, bytes ++ rest)) = some (.leaf (f bytes), rest) := by
  simp [leafBytes, takeBytes_append' n bytes rest h]

theorem readHead_intBytes (n : Int) (rest : List UInt8) (hlo : -2^63 ≤ n) (hhi : n < 2^64) :
    readHead (intBytes n ++ rest) = some (.leaf (.int n), rest) := by
  unfold intBytes
  split_ifs with h0 h7 h8 h16 h32 hm5 hm7 hm15 hm31
  · have hb : (UInt8.ofNat n.toNat).toNat = n.toNat := ofNat_toNat_small _ (by omega)
    have hlt : n.toNat < 128 := by omega
    simp only [List.singleton_append, readHead, hb, hlt, if_true, Int.toNat_of_nonneg h0]
  · rw [List.cons_append, readHead_u8, leafNat_beBytes 1 _ _ _ (by omega), Int.toNat_of_nonneg h0]
  · rw [List.cons_append, readHead_u16, leafNat_beBytes 2 _ _ _ (by omega), Int.toNat_of_nonneg h0]
  · rw [List.cons_append, readHead_u32, leafNat_beBytes 4 _ _ _ (by omega), Int.toNat_of_nonneg h0]
  · rw [List.cons_append, readHead_u64, leafNat_beBytes 8 _ _ _ (by omega), Int.toNat_of_nonneg h0]
  · have hb : (UInt8.ofNat (n + 2^8).toNat).toNat = (n + 2^8).toNat :=
      ofNat_toNat_small _ (by omega)
    have hge : 224 ≤ (n + 2^8).toNat := by omega
    have hval : (((n + 2^8).toNat : Nat) : Int) - 2^8 = n := by omega
    simp only [List.singleton_append, readHead, hb, show ¬ (n + 2^8).toNat < 128 by omega,
      show ¬ (n + 2^8).toNat < 144 by omega, show ¬ (n + 2^8).toNat < 160 by omega,
      show ¬ (n + 2^8).toNat < 192 by omega, hge, if_true, if_false, hval]
  · rw [List.cons_append, readHead_i8, leafNat_beBytes 1 _ _ _ (by omega)]
    exact congrArg (fun v => some (Head.leaf (.int v), rest))
      (signed_wrap 1 n (by decide) (by omega) (by omega))
  · rw [List.cons_append, readHead_i16, leafNat_beBytes 2 _ _ _ (by omega)]
    exact congrArg (fun v => some (Head.leaf (.int v), rest))
      (signed_wrap 2 n (by decide) (by omega) (by omega))
  · rw [List.cons_append, readHead_i32, leafNat_beBytes 4 _ _ _ (by omega)]
    exact congrArg (fun v => some (Head.leaf (.int v), rest))
      (signed_wrap 4 n (by decide) (by omega) (by omega))
  · rw [List.cons_append, readHead_i64, leafNat_beBytes 8 _ _ _ (by omega)]
    exact congrArg (fun v => some (Head.leaf (.int v), rest))
      (signed_wrap 8 n (by decide) (by omega) (by omega))

private theorem len32_of_lt {n : Nat} (h : n < 2^32) : len32 n = n := Nat.mod_eq_of_lt h

theorem readHead_str (bytes rest : List UInt8) (h : bytes.length < 2^32) :
    readHead (strHeader bytes.length ++ (bytes ++ rest)) = some (.leaf (.str bytes), rest) := by
  simp only [strHeader, len32_of_lt h]
  split_ifs with h5 h8 h16
  · have hb : (UInt8.ofNat (160 + bytes.length)).toNat = 160 + bytes.length :=
      ofNat_toNat_small _ (by omega)
    simp only [List.singleton_append, readHead, hb, show ¬ 160 + bytes.length < 128 by omega,
      show ¬ 160 + bytes.length < 144 by omega, show ¬ 160 + bytes.length < 160 by omega,
      show 160 + bytes.length < 192 by omega, if_true, if_false]
    exact leafBytes_append _ _ _ _ (by omega)
  · change leafBytes .str (takeNat 1 (beBytes 1 bytes.length ++ (bytes ++ rest))) = _
    rw [takeNat_beBytes 1 _ _ (by omega), leafBytes_append _ _ _ _ rfl]
  · change leafBytes .str (takeNat 2 (beBytes 2 bytes.length ++ (bytes ++ rest))) = _
    rw [takeNat_beBytes 2 _ _ (by omega), leafBytes_append _ _ _ _ rfl]
  · change leafBytes .str (takeNat 4 (beBytes 4 bytes.length ++ (bytes ++ rest))) = _
    rw [takeNat_beBytes 4 _ _ (by omega), leafBytes_append _ _ _ _ rfl]

theorem readHead_bin (bytes rest : List UInt8) (h : bytes.length < 2^32) :
    readHead (binHeader bytes.length ++ (bytes ++ rest)) = some (.leaf (.bin bytes), rest) := by
  simp only [binHeader, len32_of_lt h]
  split_ifs with h8 h16
  · change leafBytes .bin (takeNat 1 (beBytes 1 bytes.length ++ (bytes ++ rest))) = _
    rw [takeNat_beBytes 1 _ _ (by omega), leafBytes_append _ _ _ _ rfl]
  · change leafBytes .bin (takeNat 2 (beBytes 2 bytes.length ++ (bytes ++ rest))) = _
    rw [takeNat_beBytes 2 _ _ (by omega), leafBytes_append _ _ _ _ rfl]
  · change leafBytes .bin (takeNat 4 (beBytes 4 bytes.length ++ (bytes ++ rest))) = _
    rw [takeNat_beBytes 4 _ _ (by omega), leafBytes_append _ _ _ _ rfl]

theorem readHead_arr (n : Nat) (rest : List UInt8) (h : n < 2^32) :
    readHead (arrHeader n ++ rest) = some (.arr n, rest) := by
  simp only [arrHeader, len32_of_lt h]
  split_ifs with h4 h16
  · have hb : (UInt8.ofNat (144 + n)).toNat = 144 + n := ofNat_toNat_small _ (by omega)
    simp only [List.singleton_append, readHead, hb, show ¬ 144 + n < 128 by omega,
      show ¬ 144 + n < 144 by omega, show 144 + n < 160 by omega, if_true, if_false,
      Nat.add_sub_cancel_left]
  · rw [List.cons_append, readHead_arr16, takeNat_beBytes 2 _ _ (by omega), Option.map_some]
  · rw [List.cons_append, readHead_arr32, takeNat_beBytes 4 _ _ (by omega), Option.map_some]

theorem readHead_map (n : Nat) (rest : List UInt8) (h : n < 2^32) :
    readHead (mapHeader n ++ rest) = some (.map n, rest) := by
  simp only [mapHeader, len32_of_lt h]
  split_ifs with h4 h16
  · have hb : (UInt8.ofNat (128 + n)).toNat = 128 + n := ofNat_toNat_small _ (by omega)
    simp only [List.singleton_append, readHead, hb, show ¬ 128 + n < 128 by omega,
      show 128 + n < 144 by omega, if_true, if_false, Nat.add_sub_cancel_left]
  · rw [List.cons_append, readHead_map16, takeNat_beBytes 2 _ _ (by omega), Option.map_some]
  · rw [List.cons_append, readHead_map32, takeNat_beBytes 4 _ _ (by omega), Option.map_some]

private theorem leafExt_append (tag : UInt8) (n : Nat) (bytes rest : List UInt8)
    (h : bytes.length = n) :
    leafExt (some (n, tag :: (bytes ++ rest))) = some (.leaf (.ext tag bytes), rest) := by
  have htag : takeBytes 1 (tag :: (bytes ++ rest)) = some ([tag], bytes ++ rest) := by
    simp [takeBytes]
  simp [leafExt, htag, takeBytes_append' n bytes rest h]

theorem readHead_ext (tag : UInt8) (bytes rest : List UInt8) (h : bytes.length < 2^32) :
    readHead (extHeader tag bytes.length ++ (bytes ++ rest)) =
      some (.leaf (.ext tag bytes), rest) := by
  simp only [extHeader, len32_of_lt h]
  split_ifs with h1 h2 h4 h8 h16 hb hw
  · exact leafExt_append tag 1 bytes rest h1
  · exact leafExt_append tag 2 bytes rest h2
  · exact leafExt_append tag 4 bytes rest h4
  · exact leafExt_append tag 8 bytes rest h8
  · exact leafExt_append tag 16 bytes rest h16
  · change leafExt (takeNat 1 ((beBytes 1 bytes.length ++ [tag]) ++ (bytes ++ rest))) = _
    rw [List.append_assoc, takeNat_beBytes 1 _ _ (by omega)]
    exact leafExt_append tag _ bytes rest rfl
  · change leafExt (takeNat 2 ((beBytes 2 bytes.length ++ [tag]) ++ (bytes ++ rest))) = _
    rw [List.append_assoc, takeNat_beBytes 2 _ _ (by omega)]
    exact leafExt_append tag _ bytes rest rfl
  · change leafExt (takeNat 4 ((beBytes 4 bytes.length ++ [tag]) ++ (bytes ++ rest))) = _
    rw [List.append_assoc, takeNat_beBytes 4 _ _ (by omega)]
    exact leafExt_append tag _ bytes rest rfl

theorem readHead_float32 (bits : UInt32) (rest : List UInt8) :
    readHead ((Msg.float32 bits).encode ++ rest) = some (.leaf (.float32 bits), rest) := by
  change leafNat 4 (fun v => .float32 (UInt32.ofNat v)) (beBytes 4 bits.toNat ++ rest) = _
  rw [leafNat_beBytes 4 _ _ _ bits.toNat_lt, UInt32.ofNat_toNat]

theorem readHead_float64 (bits : UInt64) (rest : List UInt8) :
    readHead ((Msg.float64 bits).encode ++ rest) = some (.leaf (.float64 bits), rest) := by
  change leafNat 8 (fun v => .float64 (UInt64.ofNat v)) (beBytes 8 bits.toNat ++ rest) = _
  rw [leafNat_beBytes 8 _ _ _ bits.toNat_lt, UInt64.ofNat_toNat]

private theorem header_pos (n : Nat) (tag : UInt8) :
    0 < (strHeader n).length ∧ 0 < (binHeader n).length ∧ 0 < (arrHeader n).length ∧
      0 < (mapHeader n).length ∧ 0 < (extHeader tag n).length := by
  refine ⟨?_, ?_, ?_, ?_, ?_⟩
  · simp only [strHeader]; split_ifs <;> simp
  · simp only [binHeader]; split_ifs <;> simp
  · simp only [arrHeader]; split_ifs <;> simp
  · simp only [mapHeader]; split_ifs <;> simp
  · simp only [extHeader]; split_ifs <;> simp

theorem encode_length_pos (m : Msg) : 0 < m.encode.length := by
  cases m with
  | nil => simp [Msg.encode]
  | bool b => simp [Msg.encode]
  | int n => simp only [Msg.encode, intBytes]; split_ifs <;> simp
  | signed n => simp only [Msg.encode, intBytes]; split_ifs <;> simp
  | float32 bits => simp [Msg.encode]
  | float64 bits => simp [Msg.encode]
  | str bytes =>
    have h := (header_pos bytes.length 0).1
    simp only [Msg.encode, List.length_append]; omega
  | bin bytes =>
    have h := (header_pos bytes.length 0).2.1
    simp only [Msg.encode, List.length_append]; omega
  | arr items =>
    have h := (header_pos items.length 0).2.2.1
    simp only [Msg.encode, List.length_append]; omega
  | map entries =>
    have h := (header_pos entries.length 0).2.2.2.1
    simp only [Msg.encode, List.length_append]; omega
  | ext tag bytes =>
    have h := (header_pos bytes.length tag).2.2.2.2
    simp only [Msg.encode, List.length_append]; omega

private theorem read_leaf {m : Msg} {bs rest : List UInt8} {fuel : Nat} (hf : 0 < fuel)
    (h : readHead bs = some (.leaf m, rest)) : read fuel bs = some (m, rest) := by
  cases fuel with
  | zero => omega
  | succ fuel => simp [read, h]

mutual
/-- A value in the format's range is read back from its compact bytes, whatever follows them. -/
theorem read_encode (m : Msg) (hm : m.Fits) (fuel : Nat) (rest : List UInt8)
    (hf : 2 * m.encode.length ≤ fuel + 1) : read fuel (m.encode ++ rest) = some (m, rest) := by
  have hpos := encode_length_pos m
  have hfuel : 0 < fuel := by omega
  match m, hm with
  | .nil, _ => exact read_leaf hfuel rfl
  | .bool true, _ => exact read_leaf hfuel rfl
  | .bool false, _ => exact read_leaf hfuel rfl
  | .int n, hm => exact read_leaf hfuel (readHead_intBytes n rest hm.1 hm.2)
  | .float32 bits, _ => exact read_leaf hfuel (readHead_float32 bits rest)
  | .float64 bits, _ => exact read_leaf hfuel (readHead_float64 bits rest)
  | .str bytes, hm =>
    refine read_leaf hfuel ?_
    rw [Msg.encode, List.append_assoc, readHead_str bytes rest hm]
  | .bin bytes, hm =>
    refine read_leaf hfuel ?_
    rw [Msg.encode, List.append_assoc, readHead_bin bytes rest hm]
  | .ext tag bytes, hm =>
    refine read_leaf hfuel ?_
    rw [Msg.encode, List.append_assoc, readHead_ext tag bytes rest hm]
  | .arr items, hm =>
    obtain ⟨hlen, hitems⟩ := hm
    have hh := (header_pos items.length 0).2.2.1
    obtain ⟨fuel, rfl⟩ : ∃ k, fuel = k + 1 := ⟨fuel - 1, by omega⟩
    simp only [Msg.encode, List.length_append] at hf
    rw [Msg.encode, List.append_assoc, read, readHead_arr _ _ hlen]
    simp only
    rw [readItems_encode items hitems fuel rest (by omega), Option.map_some]
  | .map entries, hm =>
    obtain ⟨hlen, hentries⟩ := hm
    have hh := (header_pos entries.length 0).2.2.2.1
    obtain ⟨fuel, rfl⟩ : ∃ k, fuel = k + 1 := ⟨fuel - 1, by omega⟩
    simp only [Msg.encode, List.length_append] at hf
    rw [Msg.encode, List.append_assoc, read, readHead_map _ _ hlen]
    simp only
    rw [readEntries_encode entries hentries fuel rest (by omega), Option.map_some]
theorem readItems_encode (items : List Msg) (hm : FitsItems items) (fuel : Nat)
    (rest : List UInt8) (hf : 2 * (encodeItems items).length ≤ fuel) :
    readItems fuel items.length (encodeItems items ++ rest) = some (items, rest) := by
  match items, hm with
  | [], _ => cases fuel <;> simp [readItems, encodeItems]
  | m :: ms, hm =>
    have hpos := encode_length_pos m
    simp only [encodeItems, List.length_append] at hf
    obtain ⟨fuel, rfl⟩ : ∃ k, fuel = k + 1 := ⟨fuel - 1, by omega⟩
    have hfront := read_encode m hm.1 fuel (encodeItems ms ++ rest) (by omega)
    have htail := readItems_encode ms hm.2 fuel rest (by omega)
    simp [encodeItems, readItems, hfront, htail]
theorem readEntries_encode (entries : List (Msg × Msg)) (hm : FitsEntries entries) (fuel : Nat)
    (rest : List UInt8) (hf : 2 * (encodeEntries entries).length ≤ fuel) :
    readEntries fuel entries.length (encodeEntries entries ++ rest) = some (entries, rest) := by
  match entries, hm with
  | [], _ => cases fuel <;> simp [readEntries, encodeEntries]
  | (k, v) :: kvs, hm =>
    have hk := encode_length_pos k
    have hv := encode_length_pos v
    simp only [encodeEntries, List.length_append] at hf
    obtain ⟨fuel, rfl⟩ : ∃ n, fuel = n + 1 := ⟨fuel - 1, by omega⟩
    have hkey := read_encode k hm.1 fuel (v.encode ++ (encodeEntries kvs ++ rest)) (by omega)
    have hvalue := read_encode v hm.2.1 fuel (encodeEntries kvs ++ rest) (by omega)
    have htail := readEntries_encode kvs hm.2.2 fuel rest (by omega)
    simp [encodeEntries, readEntries, hkey, hvalue, htail]
end

theorem decode_encode (m : Msg) (hm : m.Fits) (rest : List UInt8) :
    decode (m.encode ++ rest) = some (m, rest) := by
  apply read_encode m hm
  simp only [List.length_append]
  omega

/-- No encoding is a proper prefix of another one: two streams that begin with encoded values and
agree have the same value in front and the same bytes behind it. -/
theorem encode_append_inj {m m' : Msg} {rest rest' : List UInt8} (hm : m.Fits) (hm' : m'.Fits)
    (h : m.encode ++ rest = m'.encode ++ rest') : m = m' ∧ rest = rest' := by
  have hd : some (m, rest) = some (m', rest') := by
    rw [← decode_encode m hm rest, ← decode_encode m' hm' rest', h]
  exact Prod.mk.inj (Option.some.inj hd)

theorem encode_inj {m m' : Msg} (hm : m.Fits) (hm' : m'.Fits) (h : m.encode = m'.encode) :
    m = m' := by
  have h' : m.encode ++ [] = m'.encode ++ [] := by rw [h]
  exact (encode_append_inj hm hm' h').1

mutual
/-- Every integer has at most 64 bits; lengths are left open. -/
def Msg.IntsFit : Msg → Prop
  | .int n => -2^63 ≤ n ∧ n < 2^64
  | .signed _ => False
  | .arr items => IntsFitItems items
  | .map entries => IntsFitEntries entries
  | _ => True
def IntsFitItems : List Msg → Prop
  | [] => True
  | m :: ms => m.IntsFit ∧ IntsFitItems ms
def IntsFitEntries : List (Msg × Msg) → Prop
  | [] => True
  | (k, v) :: rest => k.IntsFit ∧ v.IntsFit ∧ IntsFitEntries rest
end

theorem fitsItems_iff {items : List Msg} : FitsItems items ↔ ∀ m ∈ items, m.Fits := by
  induction items with
  | nil => simp [FitsItems]
  | cons m ms ih => simp [FitsItems, ih]

theorem fitsEntries_snd {entries : List (Msg × Msg)} (h : FitsEntries entries) :
    ∀ entry ∈ entries, entry.2.Fits := by
  induction entries with
  | nil => simp
  | cons entry entries ih =>
    obtain ⟨k, v⟩ := entry
    intro e he
    obtain rfl | he := List.mem_cons.mp he
    · exact h.2.1
    · exact ih h.2.2 e he

theorem length_le_encodeItems (items : List Msg) : items.length ≤ (encodeItems items).length := by
  induction items with
  | nil => simp
  | cons m ms ih =>
    have hm := encode_length_pos m
    simp only [List.length_cons, encodeItems, List.length_append]
    omega

theorem length_le_encodeEntries (entries : List (Msg × Msg)) :
    entries.length ≤ (encodeEntries entries).length := by
  induction entries with
  | nil => simp
  | cons e es ih =>
    have hk := encode_length_pos e.1
    simp only [List.length_cons, encodeEntries, List.length_append]
    omega

mutual
/-- An encoding shorter than 2^32 bytes has no part whose length its header cannot carry. -/
theorem fits_of_encode_lt (m : Msg) (hi : m.IntsFit) (h : m.encode.length < 2^32) : m.Fits := by
  match m, hi with
  | .nil, _ => trivial
  | .bool _, _ => trivial
  | .int _, hi => exact hi
  | .float32 _, _ => trivial
  | .float64 _, _ => trivial
  | .str bytes, _ =>
    simp only [Msg.encode, List.length_append] at h
    simp only [Msg.Fits]
    omega
  | .bin bytes, _ =>
    simp only [Msg.encode, List.length_append] at h
    simp only [Msg.Fits]
    omega
  | .ext tag bytes, _ =>
    simp only [Msg.encode, List.length_append] at h
    simp only [Msg.Fits]
    omega
  | .arr items, hi =>
    have hlen := length_le_encodeItems items
    simp only [Msg.encode, List.length_append] at h
    exact ⟨by omega, fitsItems_of_encode_lt items hi (by omega)⟩
  | .map entries, hi =>
    have hlen := length_le_encodeEntries entries
    simp only [Msg.encode, List.length_append] at h
    exact ⟨by omega, fitsEntries_of_encode_lt entries hi (by omega)⟩
theorem fitsItems_of_encode_lt (items : List Msg) (hi : IntsFitItems items)
    (h : (encodeItems items).length < 2^32) : FitsItems items := by
  match items, hi with
  | [], _ => trivial
  | m :: ms, hi =>
    simp only [encodeItems, List.length_append] at h
    exact ⟨fits_of_encode_lt m hi.1 (by omega), fitsItems_of_encode_lt ms hi.2 (by omega)⟩
theorem fitsEntries_of_encode_lt (entries : List (Msg × Msg)) (hi : IntsFitEntries entries)
    (h : (encodeEntries entries).length < 2^32) : FitsEntries entries := by
  match entries, hi with
  | [], _ => trivial
  | (k, v) :: rest, hi =>
    simp only [encodeEntries, List.length_append] at h
    exact ⟨fits_of_encode_lt k hi.1 (by omega), fits_of_encode_lt v hi.2.1 (by omega),
      fitsEntries_of_encode_lt rest hi.2.2 (by omega)⟩
end

theorem takeNat_lt {k n : Nat} {bs rest : List UInt8} (h : takeNat k bs = some (n, rest)) :
    n < 256^k := by
  obtain ⟨⟨front, rest'⟩, hfront, hpair⟩ := Option.map_eq_some_iff.mp h
  obtain ⟨rfl, rfl⟩ := Prod.mk.inj hpair
  have hlt := beNat_lt front
  rwa [(takeBytes_eq_some hfront).2] at hlt

/-- A leaf in range, or a length that a header can carry. -/
def Head.Fits : Head → Prop
  | .leaf m => m.Fits
  | .arr len => len < 2^32
  | .map len => len < 2^32

private theorem leafNat_fits {k : Nat} {f : Nat → Msg} {bs rest : List UInt8} {head : Head}
    (hf : ∀ n, n < 256^k → (f n).Fits) (h : leafNat k f bs = some (head, rest)) : head.Fits := by
  obtain ⟨⟨n, rest'⟩, hn, hpair⟩ := Option.map_eq_some_iff.mp h
  obtain ⟨rfl, rfl⟩ := Prod.mk.inj hpair
  exact hf n (takeNat_lt hn)

private theorem leafBytes_fits {f : List UInt8 → Msg} {len : Option (Nat × List UInt8)}
    {rest : List UInt8} {head : Head}
    (hf : ∀ front : List UInt8, front.length < 2^32 → (f front).Fits)
    (hlen : ∀ n bs, len = some (n, bs) → n < 2^32) (h : leafBytes f len = some (head, rest)) :
    head.Fits := by
  obtain ⟨⟨n, bs⟩, hn, h⟩ := Option.bind_eq_some_iff.mp h
  obtain ⟨⟨front, rest'⟩, hfront, hpair⟩ := Option.map_eq_some_iff.mp h
  obtain ⟨rfl, rfl⟩ := Prod.mk.inj hpair
  have hlt := hlen n bs hn
  exact hf front (by rw [(takeBytes_eq_some hfront).2]; exact hlt)

private theorem leafExt_fits {len : Option (Nat × List UInt8)} {rest : List UInt8} {head : Head}
    (hlen : ∀ n bs, len = some (n, bs) → n < 2^32) (h : leafExt len = some (head, rest)) :
    head.Fits := by
  obtain ⟨⟨n, bs⟩, hn, h⟩ := Option.bind_eq_some_iff.mp h
  obtain ⟨⟨tag, bs'⟩, -, h⟩ := Option.bind_eq_some_iff.mp h
  obtain ⟨⟨front, rest'⟩, hfront, hpair⟩ := Option.map_eq_some_iff.mp h
  obtain ⟨rfl, rfl⟩ := Prod.mk.inj hpair
  have hlt := hlen n bs hn
  show front.length < 2^32
  rw [(takeBytes_eq_some hfront).2]
  exact hlt

private theorem length_fits {n : Nat} {bs : List UInt8} (hn : n < 2^32) (m : Nat)
    (bs' : List UInt8) (h : some (n, bs) = some (m, bs')) : m < 2^32 := by
  obtain ⟨rfl, rfl⟩ := Prod.mk.inj (Option.some.inj h)
  exact hn

private theorem takeNat_fits {k : Nat} (hk : 256^k ≤ 2^32) (bs : List UInt8) (n : Nat)
    (rest : List UInt8) (h : takeNat k bs = some (n, rest)) : n < 2^32 :=
  lt_of_lt_of_le (takeNat_lt h) hk

private theorem arr_fits {k : Nat} (hk : 256^k ≤ 2^32) {bs rest : List UInt8} {head : Head}
    (h : ((takeNat k bs).map fun (n, rest) => (Head.arr n, rest)) = some (head, rest)) :
    head.Fits := by
  obtain ⟨⟨n, rest'⟩, hn, hpair⟩ := Option.map_eq_some_iff.mp h
  obtain ⟨rfl, rfl⟩ := Prod.mk.inj hpair
  exact takeNat_fits hk bs n rest' hn

private theorem map_fits {k : Nat} (hk : 256^k ≤ 2^32) {bs rest : List UInt8} {head : Head}
    (h : ((takeNat k bs).map fun (n, rest) => (Head.map n, rest)) = some (head, rest)) :
    head.Fits := by
  obtain ⟨⟨n, rest'⟩, hn, hpair⟩ := Option.map_eq_some_iff.mp h
  obtain ⟨rfl, rfl⟩ := Prod.mk.inj hpair
  exact takeNat_fits hk bs n rest' hn

theorem signed_bounds (k n : Nat) (hk : 0 < k) (hn : n < 256^k) :
    -2^(8*k-1) ≤ signed k n ∧ signed k n < 2^(8*k-1) := by
  have hpow : 256^k = 2 * 2^(8*k-1) := by
    rw [← pow_succ', show (256 : Nat) = 2^8 from rfl, ← pow_mul]
    congr 1
    omega
  have hpow' : (2 : Int)^(8*k) = 2 * 2^(8*k-1) := by
    rw [← pow_succ']
    congr 1
    omega
  rw [hpow] at hn
  have hcast : (n : Int) < 2 * 2^(8*k-1) := by exact_mod_cast hn
  rw [signed]
  split_ifs with hlt
  · have hlt' : (n : Int) < 2^(8*k-1) := by exact_mod_cast hlt
    constructor <;> linarith [Int.natCast_nonneg n]
  · have hge : (2 : Int)^(8*k-1) ≤ n := by exact_mod_cast Nat.le_of_not_lt hlt
    rw [hpow']
    constructor <;> linarith

private theorem natLeaf_fits {k : Nat} (hk : 256^k ≤ 2^64) (n : Nat) (hn : n < 256^k) :
    (Msg.int n).Fits := by
  simp only [Msg.Fits]
  omega

private theorem signedLeaf_fits {k : Nat} (hk : 0 < k) (hbound : 8*k-1 ≤ 63) (n : Nat)
    (hn : n < 256^k) : (Msg.int (signed k n)).Fits := by
  obtain ⟨hlo, hhi⟩ := signed_bounds k n hk hn
  have hpow : (2 : Int)^(8*k-1) ≤ 2^63 := pow_le_pow_right₀ (by norm_num) hbound
  simp only [Msg.Fits]
  constructor <;> linarith

theorem readHead_fits {bs rest : List UInt8} {head : Head} (h : readHead bs = some (head, rest)) :
    head.Fits := by
  cases bs with
  | nil => cases h
  | cons b bs =>
    have hb := b.toNat_lt
    simp only [readHead] at h
    split_ifs at h with h7 h8 h9 hc he
    · obtain ⟨rfl, rfl⟩ := Prod.mk.inj (Option.some.inj h)
      simp only [Head.Fits, Msg.Fits]
      omega
    · obtain ⟨rfl, rfl⟩ := Prod.mk.inj (Option.some.inj h)
      simp only [Head.Fits]
      omega
    · obtain ⟨rfl, rfl⟩ := Prod.mk.inj (Option.some.inj h)
      simp only [Head.Fits]
      omega
    · exact leafBytes_fits (fun _ hlen => by exact hlen) (length_fits (by omega)) h
    · obtain ⟨rfl, rfl⟩ := Prod.mk.inj (Option.some.inj h)
      simp only [Head.Fits, Msg.Fits]
      omega
    · split at h
      case h_1 | h_2 | h_3 =>
        obtain ⟨rfl, rfl⟩ := Prod.mk.inj (Option.some.inj h)
        trivial
      case h_4 | h_5 | h_6 =>
        exact leafBytes_fits (fun _ hlen => by exact hlen) (takeNat_fits (by norm_num) bs) h
      case h_7 | h_8 | h_9 => exact leafExt_fits (takeNat_fits (by norm_num) bs) h
      case h_10 | h_11 => exact leafNat_fits (fun _ _ => by trivial) h
      case h_12 | h_13 | h_14 | h_15 => exact leafNat_fits (natLeaf_fits (by norm_num)) h
      case h_16 | h_17 | h_18 | h_19 =>
        exact leafNat_fits (signedLeaf_fits (by norm_num) (by norm_num)) h
      case h_20 | h_21 | h_22 | h_23 | h_24 => exact leafExt_fits (length_fits (by norm_num)) h
      case h_25 | h_26 | h_27 =>
        exact leafBytes_fits (fun _ hlen => by exact hlen) (takeNat_fits (by norm_num) bs) h
      case h_28 | h_29 => exact arr_fits (by norm_num) h
      case h_30 | h_31 => exact map_fits (by norm_num) h
      case h_32 => cases h

theorem length_of_readItems {fuel n : Nat} {bs rest : List UInt8} {items : List Msg}
    (h : readItems fuel n bs = some (items, rest)) : items.length = n := by
  induction n generalizing fuel bs rest items with
  | zero =>
    rw [readItems] at h
    obtain ⟨rfl, rfl⟩ := Prod.mk.inj (Option.some.inj h)
    rfl
  | succ n ih =>
    cases fuel with
    | zero =>
      rw [readItems] at h
      cases h
    | succ fuel =>
      rw [readItems] at h
      obtain ⟨⟨m, bs'⟩, -, h⟩ := Option.bind_eq_some_iff.mp h
      obtain ⟨⟨ms, bs''⟩, hms, h⟩ := Option.bind_eq_some_iff.mp h
      obtain ⟨rfl, rfl⟩ := Prod.mk.inj (Option.some.inj h)
      rw [List.length_cons, ih hms]

theorem length_of_readEntries {fuel n : Nat} {bs rest : List UInt8} {entries : List (Msg × Msg)}
    (h : readEntries fuel n bs = some (entries, rest)) : entries.length = n := by
  induction n generalizing fuel bs rest entries with
  | zero =>
    rw [readEntries] at h
    obtain ⟨rfl, rfl⟩ := Prod.mk.inj (Option.some.inj h)
    rfl
  | succ n ih =>
    cases fuel with
    | zero =>
      rw [readEntries] at h
      cases h
    | succ fuel =>
      rw [readEntries] at h
      obtain ⟨⟨k, bs₁⟩, -, h⟩ := Option.bind_eq_some_iff.mp h
      obtain ⟨⟨v, bs₂⟩, -, h⟩ := Option.bind_eq_some_iff.mp h
      obtain ⟨⟨kvs, bs₃⟩, hkvs, h⟩ := Option.bind_eq_some_iff.mp h
      obtain ⟨rfl, rfl⟩ := Prod.mk.inj (Option.some.inj h)
      rw [List.length_cons, ih hkvs]

mutual
theorem read_fits {fuel : Nat} {bs rest : List UInt8} {m : Msg}
    (h : read fuel bs = some (m, rest)) : m.Fits := by
  cases fuel with
  | zero =>
    rw [read] at h
    cases h
  | succ fuel =>
    rw [read] at h
    split at h
    · cases h
    · next leaf rest' hhead =>
      obtain ⟨rfl, rfl⟩ := Prod.mk.inj (Option.some.inj h)
      exact readHead_fits hhead
    · next n rest' hhead =>
      obtain ⟨⟨items, rest''⟩, hitems, hpair⟩ := Option.map_eq_some_iff.mp h
      obtain ⟨rfl, rfl⟩ := Prod.mk.inj hpair
      refine ⟨?_, readItems_fits hitems⟩
      rw [length_of_readItems hitems]
      exact readHead_fits hhead
    · next n rest' hhead =>
      obtain ⟨⟨entries, rest''⟩, hentries, hpair⟩ := Option.map_eq_some_iff.mp h
      obtain ⟨rfl, rfl⟩ := Prod.mk.inj hpair
      refine ⟨?_, readEntries_fits hentries⟩
      rw [length_of_readEntries hentries]
      exact readHead_fits hhead
theorem readItems_fits {fuel n : Nat} {bs rest : List UInt8} {items : List Msg}
    (h : readItems fuel n bs = some (items, rest)) : FitsItems items := by
  cases fuel with
  | zero =>
    cases n with
    | zero =>
      rw [readItems] at h
      obtain ⟨rfl, rfl⟩ := Prod.mk.inj (Option.some.inj h)
      trivial
    | succ n =>
      rw [readItems] at h
      cases h
  | succ fuel =>
    cases n with
    | zero =>
      rw [readItems] at h
      obtain ⟨rfl, rfl⟩ := Prod.mk.inj (Option.some.inj h)
      trivial
    | succ n =>
      rw [readItems] at h
      obtain ⟨⟨m, bs'⟩, hm, h⟩ := Option.bind_eq_some_iff.mp h
      obtain ⟨⟨ms, bs''⟩, hms, h⟩ := Option.bind_eq_some_iff.mp h
      obtain ⟨rfl, rfl⟩ := Prod.mk.inj (Option.some.inj h)
      exact ⟨read_fits hm, readItems_fits hms⟩
theorem readEntries_fits {fuel n : Nat} {bs rest : List UInt8} {entries : List (Msg × Msg)}
    (h : readEntries fuel n bs = some (entries, rest)) : FitsEntries entries := by
  cases fuel with
  | zero =>
    cases n with
    | zero =>
      rw [readEntries] at h
      obtain ⟨rfl, rfl⟩ := Prod.mk.inj (Option.some.inj h)
      trivial
    | succ n =>
      rw [readEntries] at h
      cases h
  | succ fuel =>
    cases n with
    | zero =>
      rw [readEntries] at h
      obtain ⟨rfl, rfl⟩ := Prod.mk.inj (Option.some.inj h)
      trivial
    | succ n =>
      rw [readEntries] at h
      obtain ⟨⟨k, bs₁⟩, hk, h⟩ := Option.bind_eq_some_iff.mp h
      obtain ⟨⟨v, bs₂⟩, hv, h⟩ := Option.bind_eq_some_iff.mp h
      obtain ⟨⟨kvs, bs₃⟩, hkvs, h⟩ := Option.bind_eq_some_iff.mp h
      obtain ⟨rfl, rfl⟩ := Prod.mk.inj (Option.some.inj h)
      exact ⟨read_fits hk, read_fits hv, readEntries_fits hkvs⟩
end

/-- Whatever is read has a compact form that reads back. -/
theorem decode_fits {bs rest : List UInt8} {m : Msg} (h : decode bs = some (m, rest)) : m.Fits :=
  read_fits h

theorem takeNat_append {k n : Nat} {bs rest : List UInt8} (h : takeNat k bs = some (n, rest))
    (more : List UInt8) : takeNat k (bs ++ more) = some (n, rest ++ more) := by
  obtain ⟨⟨front, rest'⟩, hfront, hpair⟩ := Option.map_eq_some_iff.mp h
  obtain ⟨rfl, rfl⟩ := Prod.mk.inj hpair
  obtain ⟨rfl, hlen⟩ := takeBytes_eq_some hfront
  rw [takeNat, List.append_assoc, takeBytes_append' k front (rest' ++ more) hlen]
  rfl

private theorem leafNat_more {k : Nat} {f : Nat → Msg} {bs rest : List UInt8} {head : Head}
    (h : leafNat k f bs = some (head, rest)) (more : List UInt8) :
    leafNat k f (bs ++ more) = some (head, rest ++ more) := by
  obtain ⟨⟨n, rest'⟩, hn, hpair⟩ := Option.map_eq_some_iff.mp h
  obtain ⟨rfl, rfl⟩ := Prod.mk.inj hpair
  rw [leafNat, takeNat_append hn]
  rfl

/-- The length of a leaf is announced in front of it. -/
private def Announces (len len' : Option (Nat × List UInt8)) (more : List UInt8) : Prop :=
  ∀ n bs, len = some (n, bs) → len' = some (n, bs ++ more)

private theorem announces_takeNat (k : Nat) (bs more : List UInt8) :
    Announces (takeNat k bs) (takeNat k (bs ++ more)) more :=
  fun _ _ h => takeNat_append h more

private theorem announces_fixed (k : Nat) (bs more : List UInt8) :
    Announces (some (k, bs)) (some (k, bs ++ more)) more := by
  intro n bs' h
  obtain ⟨rfl, rfl⟩ := Prod.mk.inj (Option.some.inj h)
  rfl

private theorem leafBytes_more {f : List UInt8 → Msg} {len len' : Option (Nat × List UInt8)}
    {rest more : List UInt8} {head : Head} (hlen : Announces len len' more)
    (h : leafBytes f len = some (head, rest)) : leafBytes f len' = some (head, rest ++ more) := by
  obtain ⟨⟨n, bs⟩, hn, h⟩ := Option.bind_eq_some_iff.mp h
  obtain ⟨⟨front, rest'⟩, hfront, hpair⟩ := Option.map_eq_some_iff.mp h
  obtain ⟨rfl, rfl⟩ := Prod.mk.inj hpair
  obtain ⟨rfl, hfrontlen⟩ := takeBytes_eq_some hfront
  rw [leafBytes, hlen n _ hn, Option.bind_some, List.append_assoc]
  simp only [takeBytes_append' n front (rest' ++ more) hfrontlen]
  rfl

private theorem leafExt_more {len len' : Option (Nat × List UInt8)} {rest more : List UInt8}
    {head : Head} (hlen : Announces len len' more) (h : leafExt len = some (head, rest)) :
    leafExt len' = some (head, rest ++ more) := by
  obtain ⟨⟨n, bs⟩, hn, h⟩ := Option.bind_eq_some_iff.mp h
  obtain ⟨⟨tag, bs'⟩, htag, h⟩ := Option.bind_eq_some_iff.mp h
  obtain ⟨⟨front, rest'⟩, hfront, hpair⟩ := Option.map_eq_some_iff.mp h
  obtain ⟨rfl, rfl⟩ := Prod.mk.inj hpair
  obtain ⟨rfl, htaglen⟩ := takeBytes_eq_some htag
  obtain ⟨rfl, hfrontlen⟩ := takeBytes_eq_some hfront
  rw [leafExt, hlen n _ hn, Option.bind_some, List.append_assoc, List.append_assoc]
  simp only [takeBytes_append' 1 tag (front ++ (rest' ++ more)) htaglen, Option.bind_some,
    takeBytes_append' n front (rest' ++ more) hfrontlen]
  rfl

private theorem length_more {k : Nat} {f : Nat → Head} {bs rest : List UInt8} {head : Head}
    (h : ((takeNat k bs).map fun (n, rest) => (f n, rest)) = some (head, rest))
    (more : List UInt8) :
    ((takeNat k (bs ++ more)).map fun (n, rest) => (f n, rest)) = some (head, rest ++ more) := by
  obtain ⟨⟨n, rest'⟩, hn, hpair⟩ := Option.map_eq_some_iff.mp h
  obtain ⟨rfl, rfl⟩ := Prod.mk.inj hpair
  rw [takeNat_append hn]
  rfl

theorem readHead_append {bs rest : List UInt8} {head : Head} (h : readHead bs = some (head, rest))
    (more : List UInt8) : readHead (bs ++ more) = some (head, rest ++ more) := by
  cases bs with
  | nil => cases h
  | cons b bs =>
    simp only [readHead, List.cons_append] at h ⊢
    split_ifs at h ⊢ with h7 h8 h9 hc he
    · obtain ⟨rfl, rfl⟩ := Prod.mk.inj (Option.some.inj h)
      rfl
    · obtain ⟨rfl, rfl⟩ := Prod.mk.inj (Option.some.inj h)
      rfl
    · obtain ⟨rfl, rfl⟩ := Prod.mk.inj (Option.some.inj h)
      rfl
    · exact leafBytes_more (announces_fixed _ _ _) h
    · obtain ⟨rfl, rfl⟩ := Prod.mk.inj (Option.some.inj h)
      rfl
    · split at h
      case h_1 | h_2 | h_3 =>
        obtain ⟨rfl, rfl⟩ := Prod.mk.inj (Option.some.inj h)
        rfl
      case h_4 | h_5 | h_6 | h_25 | h_26 | h_27 =>
        exact leafBytes_more (announces_takeNat _ _ _) h
      case h_7 | h_8 | h_9 =>
        exact leafExt_more (announces_takeNat _ _ _) h
      case h_10 | h_11 | h_12 | h_13 | h_14 | h_15 | h_16 | h_17 | h_18 | h_19 =>
        exact leafNat_more h more
      case h_20 | h_21 | h_22 | h_23 | h_24 =>
        exact leafExt_more (announces_fixed _ _ _) h
      case h_28 | h_29 | h_30 | h_31 =>
        exact length_more h more
      case h_32 => cases h

mutual
theorem read_append {fuel fuel' : Nat} {bs rest : List UInt8} {m : Msg} (hfuel : fuel ≤ fuel')
    (h : read fuel bs = some (m, rest)) (more : List UInt8) :
    read fuel' (bs ++ more) = some (m, rest ++ more) := by
  cases fuel with
  | zero =>
    rw [read] at h
    cases h
  | succ fuel =>
    obtain ⟨fuel', rfl⟩ := Nat.exists_eq_add_one_of_ne_zero (Nat.ne_zero_of_lt hfuel)
    have hfuel' := Nat.le_of_succ_le_succ hfuel
    rw [read] at h ⊢
    split at h
    · cases h
    · next leaf rest' hhead =>
      obtain ⟨rfl, rfl⟩ := Prod.mk.inj (Option.some.inj h)
      rw [readHead_append hhead]
    · next n rest' hhead =>
      obtain ⟨⟨items, rest''⟩, hitems, hpair⟩ := Option.map_eq_some_iff.mp h
      obtain ⟨rfl, rfl⟩ := Prod.mk.inj hpair
      simp only [readHead_append hhead, readItems_append hfuel' hitems more, Option.map_some]
    · next n rest' hhead =>
      obtain ⟨⟨entries, rest''⟩, hentries, hpair⟩ := Option.map_eq_some_iff.mp h
      obtain ⟨rfl, rfl⟩ := Prod.mk.inj hpair
      simp only [readHead_append hhead, readEntries_append hfuel' hentries more, Option.map_some]
theorem readItems_append {fuel fuel' n : Nat} {bs rest : List UInt8} {items : List Msg}
    (hfuel : fuel ≤ fuel') (h : readItems fuel n bs = some (items, rest)) (more : List UInt8) :
    readItems fuel' n (bs ++ more) = some (items, rest ++ more) := by
  cases n with
  | zero =>
    rw [readItems] at h ⊢
    obtain ⟨rfl, rfl⟩ := Prod.mk.inj (Option.some.inj h)
    rfl
  | succ n =>
    cases fuel with
    | zero =>
      rw [readItems] at h
      cases h
    | succ fuel =>
      obtain ⟨fuel', rfl⟩ := Nat.exists_eq_add_one_of_ne_zero (Nat.ne_zero_of_lt hfuel)
      have hfuel' := Nat.le_of_succ_le_succ hfuel
      rw [readItems] at h ⊢
      obtain ⟨⟨m, bs'⟩, hm, h⟩ := Option.bind_eq_some_iff.mp h
      obtain ⟨⟨ms, bs''⟩, hms, h⟩ := Option.bind_eq_some_iff.mp h
      obtain ⟨rfl, rfl⟩ := Prod.mk.inj (Option.some.inj h)
      rw [read_append hfuel' hm more]
      simp only [Option.bind_eq_bind, Option.bind_some, readItems_append hfuel' hms more]
      rfl
theorem readEntries_append {fuel fuel' n : Nat} {bs rest : List UInt8}
    {entries : List (Msg × Msg)} (hfuel : fuel ≤ fuel')
    (h : readEntries fuel n bs = some (entries, rest)) (more : List UInt8) :
    readEntries fuel' n (bs ++ more) = some (entries, rest ++ more) := by
  cases n with
  | zero =>
    rw [readEntries] at h ⊢
    obtain ⟨rfl, rfl⟩ := Prod.mk.inj (Option.some.inj h)
    rfl
  | succ n =>
    cases fuel with
    | zero =>
      rw [readEntries] at h
      cases h
    | succ fuel =>
      obtain ⟨fuel', rfl⟩ := Nat.exists_eq_add_one_of_ne_zero (Nat.ne_zero_of_lt hfuel)
      have hfuel' := Nat.le_of_succ_le_succ hfuel
      rw [readEntries] at h ⊢
      obtain ⟨⟨k, bs₁⟩, hk, h⟩ := Option.bind_eq_some_iff.mp h
      obtain ⟨⟨v, bs₂⟩, hv, h⟩ := Option.bind_eq_some_iff.mp h
      obtain ⟨⟨kvs, bs₃⟩, hkvs, h⟩ := Option.bind_eq_some_iff.mp h
      obtain ⟨rfl, rfl⟩ := Prod.mk.inj (Option.some.inj h)
      rw [read_append hfuel' hk more]
      simp only [Option.bind_eq_bind, Option.bind_some, read_append hfuel' hv more,
        readEntries_append hfuel' hkvs more]
      rfl
end

theorem decode_append {bs rest : List UInt8} {m : Msg} (h : decode bs = some (m, rest))
    (more : List UInt8) : decode (bs ++ more) = some (m, rest ++ more) := by
  apply read_append _ h more
  rw [List.length_append]
  omega

/-- No value is the beginning of another. -/
theorem decode_prefix_none {m : Msg} (hm : m.Fits) {bs more : List UInt8}
    (h : bs ++ more = m.encode) (hmore : more ≠ []) : decode bs = none := by
  cases hread : decode bs with
  | none => rfl
  | some result =>
    obtain ⟨m', rest⟩ := result
    have hwhole := decode_encode m hm []
    rw [List.append_nil, ← h, decode_append hread more] at hwhole
    have hrest := (Prod.mk.inj (Option.some.inj hwhole)).2
    exact absurd (List.append_eq_nil_iff.mp hrest).2 hmore

end TradingSdk.Msgpack
