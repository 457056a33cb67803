import TradingSdk.Core.Wire

namespace TradingSdk

open Serde Msgpack

/-- What a deserializer offers to a visitor. -/
inductive Offer where
  | seq (hint : Option Nat) (items : List Msg)
  | bytes (bs : Bytes)
  | other

/-- A `str` whose content is no text is offered as bytes. -/
def deserializeAny : Msg → Offer
  | .arr items => .seq (some items.length) items
  | .bin bs => .bytes bs
  | .str bs => if (ofUtf8 bs).isSome then .other else .bytes bs
  | _ => .other

def deserializeSeq (binAsSeq : Bool) : Msg → Offer
  | .bin bs => if binAsSeq then .seq (some bs.length) (byteItems bs) else .bytes bs
  | m => deserializeAny m

/-- `Vec::with_capacity`. -/
def withCapacity {α : Type} (_ : Nat) : List α := []

/-- `while let Some(b) = seq.next_element()? { out.push(b); }`. -/
def pushElements {α : Type} (element : Msg → Option α) : List α → List Msg → Option (List α)
  | out, [] => some out
  | out, m :: ms => do
    let b ← element m
    pushElements element (out ++ [b]) ms

def proofSeqHintCap : Nat := 64

def hintCap (hint : Option Nat) : Nat := min (hint.getD 0) proofSeqHintCap

/-- The visitor of `hint_capped_bytes`. -/
def visitHintCapped : Offer → Option Bytes
  | .bytes bs => some bs
  | .seq hint items => pushElements readByte (withCapacity (hintCap hint)) items
  | .other => none

def readHintCappedBytes (m : Msg) : Option Bytes := visitHintCapped (deserializeAny m)

def readHintCappedByteSeqs (binAsSeq : Bool) (m : Msg) : Option (List Bytes) :=
  match deserializeSeq binAsSeq m with
  | .seq hint items => pushElements readHintCappedBytes (withCapacity (hintCap hint)) items
  | _ => none

/-- `Vec<u8>` and `Vec<Vec<u8>>` without an attribute. -/
def plainBytes : Schema Bytes := .byteVec bareBytes

def plainByteSeqs : Schema (List Bytes) := .vec plainBytes

theorem pushElements_eq {α : Type} (element : Msg → Option α) (out : List α) (items : List Msg) :
    pushElements element out items = (items.mapM element).map (out ++ ·) := by
  induction items generalizing out with
  | nil => simp [pushElements]
  | cons m ms ih =>
    rw [pushElements, List.mapM_cons]
    cases element m with
    | none => rfl
    | some b =>
      simp only [Option.bind_eq_bind, Option.bind_some, ih]
      cases ms.mapM element <;> simp

@[simp] theorem pushElements_withCapacity {α : Type} (element : Msg → Option α) (n : Nat)
    (items : List Msg) : pushElements element (withCapacity n) items = items.mapM element := by
  rw [pushElements_eq, withCapacity]
  simp

/-- The visitor is the reader of the field. -/
theorem hintCappedBytes_ofMsg (c : BinForms) (m : Msg) :
    hintCappedBytes.ofMsg c m = readHintCappedBytes m := by
  rw [hintCappedBytes, Schema.ofMsg, readHintCappedBytes]
  cases m with
  | arr items => exact (pushElements_withCapacity _ _ _).symm
  | str bs =>
    rw [deserializeAny]
    cases h : ofUtf8 bs <;> simp [ByteForm.ofMsg, h, hintBytes, visitHintCapped]
  | _ => rfl

theorem hintCappedByteSeqs_ofMsg (c : BinForms) (m : Msg) :
    hintCappedByteSeqs.ofMsg c m = readHintCappedByteSeqs c.binAsSeq m := by
  have hitem : hintCappedBytes.ofMsg c = readHintCappedBytes :=
    funext (hintCappedBytes_ofMsg c)
  rw [hintCappedByteSeqs, Schema.ofMsg, hitem, readHintCappedByteSeqs]
  cases m with
  | arr items => exact (pushElements_withCapacity _ _ _).symm
  | bin bs =>
    rw [seqItems, deserializeSeq]
    split_ifs
    · exact (pushElements_withCapacity _ _ _).symm
    · rfl
  | str bs =>
    rw [deserializeSeq, deserializeAny]
    · split_ifs <;> rfl
    · simp
  | _ => rfl

/-- Forms of bytes that are no sequence of elements. -/
def ScalarOnly (binAsSeq : Bool) : Msg → Prop
  | .bin _ => binAsSeq = false
  | .str bs => ofUtf8 bs = none
  | _ => False

/-- Byte sequences in all their forms. -/
def ByteLike : Msg → Prop
  | .arr items => ∀ item ∈ items, ∃ b : UInt8, item = .int b.toNat ∨ item = .signed b.toNat
  | .bin _ => True
  | .str bs => ofUtf8 bs = none
  | _ => False

theorem ScalarOnly.byteLike {c : Bool} {m : Msg} (h : ScalarOnly c m) : ByteLike m := by
  cases m with
  | bin bs => trivial
  | str bs => exact h
  | _ => cases h

theorem byteItem_not_scalarOnly {c : Bool} {bs : Bytes} {item : Msg} (h : item ∈ byteItems bs) :
    ¬ ScalarOnly c item := by
  obtain ⟨b, -, rfl⟩ := List.mem_map.mp h
  exact fun h => h

theorem plainBytes_scalarOnly {c : BinForms} {m : Msg} (h : ScalarOnly c.binAsSeq m) :
    plainBytes.ofMsg c m = none ∧ (hintCappedBytes.ofMsg c m).isSome = true := by
  cases m with
  | bin bs =>
    have hc : c.binAsSeq = false := h
    simp [plainBytes, hintCappedBytes, Schema.ofMsg, ByteForm.ofMsg, hc, bareBytes, hintBytes]
  | str bs =>
    have hbs : ofUtf8 bs = none := h
    simp [plainBytes, hintCappedBytes, Schema.ofMsg, ByteForm.ofMsg, hbs, bareBytes, hintBytes]
  | _ => cases h

theorem plainBytes_not_scalarOnly {c : BinForms} {m : Msg} (h : ¬ ScalarOnly c.binAsSeq m) :
    hintCappedBytes.ofMsg c m = plainBytes.ofMsg c m := by
  cases m with
  | bin bs =>
    have hc : c.binAsSeq = true := Bool.eq_true_of_not_eq_false h
    simp [plainBytes, hintCappedBytes, Schema.ofMsg, ByteForm.ofMsg, hc, hintBytes]
  | str bs =>
    have hbs : ofUtf8 bs ≠ none := h
    obtain ⟨s, hs⟩ := Option.ne_none_iff_exists'.mp hbs
    simp [plainBytes, hintCappedBytes, Schema.ofMsg, ByteForm.ofMsg, hs, bareBytes, hintBytes]
  | _ => rfl

theorem readByte_signed {n : Nat} {b : UInt8} : readByte (.signed n) = some b ↔ n = b.toNat := by
  have hb := b.toNat_lt
  rw [readByte, Option.map_eq_some_iff]
  constructor
  · intro h
    obtain ⟨k, hk, rfl⟩ := h
    rw [readUInt] at hk
    split_ifs at hk with hn
    obtain rfl := Option.some.inj hk
    rw [UInt8.toNat_ofNat_of_lt' hn]
  · rintro rfl
    exact ⟨b.toNat, if_pos hb, UInt8.ofNat_toNat⟩

theorem hintCappedBytes_isSome_iff (c : BinForms) (m : Msg) :
    (hintCappedBytes.ofMsg c m).isSome = true ↔ ByteLike m := by
  cases m with
  | arr items =>
    have hbyte (item : Msg) : (readByte item).isSome = true ↔
        ∃ b : UInt8, item = .int b.toNat ∨ item = .signed b.toNat := by
      constructor
      · intro h
        obtain ⟨b, hb⟩ := Option.isSome_iff_exists.mp h
        cases item with
        | int n => exact ⟨b, .inl (congrArg Msg.int (readByte_eq_some.mp hb))⟩
        | signed n => exact ⟨b, .inr (congrArg Msg.signed (readByte_signed.mp hb))⟩
        | _ => cases hb
      · intro h
        obtain ⟨b, rfl | rfl⟩ := h
        · rw [readByte_int]
          rfl
        · rw [readByte_signed.mpr rfl]
          rfl
    show (items.mapM readByte).isSome = true ↔ _
    rw [mapM_isSome_iff]
    exact forall₂_congr fun item _ => hbyte item
  | bin bs => exact ⟨fun _ => trivial, fun _ => rfl⟩
  | str bs =>
    cases h : ofUtf8 bs <;>
      simp [hintCappedBytes, Schema.ofMsg, ByteForm.ofMsg, h, hintBytes, ByteLike]
  | _ => simp [hintCappedBytes, Schema.ofMsg, ByteForm.ofMsg, ByteLike]

theorem hintCappedBytes_eq_iff (c : BinForms) (m : Msg) :
    hintCappedBytes.ofMsg c m = plainBytes.ofMsg c m ↔ ¬ ScalarOnly c.binAsSeq m := by
  constructor
  · intro h hscalar
    obtain ⟨hplain, hcapped⟩ := plainBytes_scalarOnly hscalar
    rw [h, hplain] at hcapped
    cases hcapped
  · exact plainBytes_not_scalarOnly

/-- A list is read differently when it is one of byte sequences and some of them are scalars. -/
def MixedScalars (binAsSeq : Bool) : Msg → Prop
  | .arr items => (∀ item ∈ items, ByteLike item) ∧ ∃ item ∈ items, ScalarOnly binAsSeq item
  | _ => False

theorem hintCappedByteSeqs_eq_iff (c : BinForms) (m : Msg) :
    hintCappedByteSeqs.ofMsg c m = plainByteSeqs.ofMsg c m ↔ ¬ MixedScalars c.binAsSeq m := by
  cases m with
  | arr items =>
    show items.mapM (hintCappedBytes.ofMsg c) = items.mapM (plainBytes.ofMsg c) ↔ _
    constructor
    · rintro h ⟨hlike, item, hitem, hscalar⟩
      have hcapped : (items.mapM (hintCappedBytes.ofMsg c)).isSome = true :=
        mapM_isSome_iff.mpr fun item hitem => (hintCappedBytes_isSome_iff c item).mpr (hlike item hitem)
      rw [h] at hcapped
      have hplain := mapM_isSome_iff.mp hcapped item hitem
      rw [(plainBytes_scalarOnly hscalar).1] at hplain
      cases hplain
    · intro hmixed
      by_cases hscalar : ∃ item ∈ items, ScalarOnly c.binAsSeq item
      · have hlike : ∃ item ∈ items, ¬ ByteLike item := by
          by_contra hall
          push Not at hall
          exact hmixed ⟨hall, hscalar⟩
        obtain ⟨item, hitem, hother⟩ := hlike
        have hcapped : hintCappedBytes.ofMsg c item = none := by
          rw [← Option.not_isSome_iff_eq_none, hintCappedBytes_isSome_iff]
          exact hother
        have hplain : plainBytes.ofMsg c item = none := by
          rw [← plainBytes_not_scalarOnly fun h => hother h.byteLike, hcapped]
        rw [mapM_eq_none hitem hcapped, mapM_eq_none hitem hplain]
      · push Not at hscalar
        exact mapM_congr fun item hitem => plainBytes_not_scalarOnly (hscalar item hitem)
  | bin bs =>
    refine ⟨fun _ h => h, fun _ => ?_⟩
    rw [hintCappedByteSeqs, plainByteSeqs, Schema.ofMsg, Schema.ofMsg, seqItems]
    split_ifs
    · exact mapM_congr fun item hitem => plainBytes_not_scalarOnly (byteItem_not_scalarOnly hitem)
    · rfl
  | _ => exact ⟨fun _ h => h, fun _ => rfl⟩

theorem ByteLike.depth_le {m : Msg} (h : ByteLike m) : m.depth ≤ 1 := by
  cases m with
  | arr items =>
    have hitems : depthItems items ≤ 0 := by
      apply depthItems_le
      intro item hitem
      obtain ⟨b, rfl | rfl⟩ := h item hitem
      · exact Nat.le_refl 0
      · exact Nat.le_refl 0
    exact Nat.succ_le_succ hitems
  | bin bs => exact Nat.zero_le 1
  | str bs => exact Nat.zero_le 1
  | _ => cases h

theorem byteLike_of_plainBytes {c : BinForms} {m : Msg} (h : (plainBytes.ofMsg c m).isSome = true) :
    ByteLike m := by
  rw [← hintCappedBytes_isSome_iff c]
  by_cases hscalar : ScalarOnly c.binAsSeq m
  · rw [(plainBytes_scalarOnly hscalar).1] at h
    cases h
  · rwa [plainBytes_not_scalarOnly hscalar]

/-- Lists of what is at most one level deep. -/
theorem vec_depth_le {α : Type} {s : Schema α} {c : BinForms} {m : Msg} {as : List α}
    (hs : ∀ m, (s.ofMsg c m).isSome = true → m.depth ≤ 1) (h : (Schema.vec s).ofMsg c m = some as) :
    m.depth ≤ 2 := by
  obtain ⟨items, hitems, hread⟩ := Option.bind_eq_some_iff.mp h
  cases m with
  | arr items' =>
    obtain rfl := Option.some.inj hitems
    apply Nat.succ_le_succ
    apply depthItems_le
    intro item hitem
    exact hs item (mapM_isSome_iff.mp (Option.isSome_of_eq_some hread) item hitem)
  | bin bs => exact Nat.zero_le 2
  | _ => cases hitems

/-- The two decoders accept what the plain types accept, with the same values, exactly where the
input begins with no form that only they read. -/
theorem hintCapped_transparent_iff (rmp : RmpSerde) (hsound : rmp.Sound) (hcomplete : rmp.Complete)
    (bytes : Bytes) :
    ((∀ a, rmp.fromSlice hintCappedBytes bytes = .ok a ↔ rmp.fromSlice plainBytes bytes = .ok a) ↔
      ∀ w rest, decodeWire bytes = some (w, rest) → ¬ ScalarOnly rmp.binAsSeq w.offer) ∧
    ((∀ a, rmp.fromSlice hintCappedByteSeqs bytes = .ok a ↔
        rmp.fromSlice plainByteSeqs bytes = .ok a) ↔
      ∀ w rest, decodeWire bytes = some (w, rest) → ¬ MixedScalars rmp.binAsSeq w.offer) := by
  have hcapped (m : Msg) (h : (hintCappedBytes.ofMsg rmp.toBinForms m).isSome = true) :
      m.depth ≤ 1 := ((hintCappedBytes_isSome_iff _ m).mp h).depth_le
  have hplain (m : Msg) (h : (plainBytes.ofMsg rmp.toBinForms m).isSome = true) : m.depth ≤ 1 :=
    (byteLike_of_plainBytes h).depth_le
  constructor
  · rw [RmpSerde.fromSlice_agree_iff hsound hcomplete
      (fun m a h => (hcapped m (Option.isSome_of_eq_some h)).trans_lt (by norm_num))
      (fun m a h => (hplain m (Option.isSome_of_eq_some h)).trans_lt (by norm_num))]
    simp only [hintCappedBytes_eq_iff]
  · rw [RmpSerde.fromSlice_agree_iff hsound hcomplete (s := hintCappedByteSeqs) (t := plainByteSeqs)
      (fun m a h => (vec_depth_le hcapped h).trans_lt (by norm_num))
      (fun m a h => (vec_depth_le hplain h).trans_lt (by norm_num))]
    simp only [hintCappedByteSeqs_eq_iff]

theorem hintCapped_transparent_iff_sample :
    RmpSerde.reference.fromSlice hintCappedBytes [0x92, 1, 2] = .ok [1, 2] ↔
      RmpSerde.reference.fromSlice plainBytes [0x92, 1, 2] = .ok [1, 2] := by
  have hiff := (hintCapped_transparent_iff .reference RmpSerde.reference_sound
    RmpSerde.reference_complete [0x92, 1, 2]).1
  refine hiff.mpr ?_ [1, 2]
  have hencode : (Msg.arr [.int 1, .int 2]).encode = [0x92, 1, 2] := by decide
  have hfits : (Msg.arr [.int 1, .int 2]).Fits := by simp [Msg.Fits, FitsItems]
  obtain ⟨w, hw, hoffer⟩ := decodeWire_encode _ hfits []
  rw [hencode, List.append_nil] at hw
  intro w' rest hw'
  rw [hw] at hw'
  obtain ⟨rfl, -⟩ := Prod.mk.inj (Option.some.inj hw')
  rw [hoffer]
  exact not_false

/-- A string of one byte that is no text: read here, rejected by the plain type. -/
theorem illFormed_str_differs :
    RmpSerde.reference.fromSlice hintCappedBytes [0xa1, 0xff] = .ok [0xff] ∧
      ∀ a, RmpSerde.reference.fromSlice plainBytes [0xa1, 0xff] ≠ .ok a := by
  have hencode : (Msg.str [0xff]).encode = [0xa1, 0xff] := by decide
  have hfits : (Msg.str [0xff]).Fits := by
    show [(0xff : UInt8)].length < 2^32
    decide
  have htext : ofUtf8 [0xff] = none := by decide
  have hcapped : hintCappedBytes.ofMsg .reference (.str [0xff]) = some [0xff] := by
    simp [hintCappedBytes, Schema.ofMsg, ByteForm.ofMsg, htext, hintBytes]
  have hplain : plainBytes.ofMsg .reference (.str [0xff]) = none :=
    (plainBytes_scalarOnly (c := .reference) (m := .str [0xff]) htext).1
  constructor
  · have hread := RmpSerde.reference.fromSlice_ok hintCappedBytes _ [] _ hfits (by decide) hcapped
    rwa [hencode, List.append_nil] at hread
  · obtain ⟨e, he⟩ := RmpSerde.reference.fromSlice_error plainBytes _ [] hfits hplain
    rw [hencode, List.append_nil] at he
    intro a h
    rw [he] at h
    cases h

end TradingSdk
