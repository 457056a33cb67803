import TradingSdk.Serde.Rmp

namespace TradingSdk.Serde

open Msgpack

/-- A field's value with its type. -/
abbrev Slot := Σ α : Type, α

def Fields.slots : {τ : Type} → Fields τ → τ → List Slot
  | _, .nil, _ => []
  | _, .cons (α := α) _ _ _ fs, (a, b) => ⟨α, a⟩ :: fs.slots b

/-- The `#[serde(default)]` value of each field that has one. -/
def Fields.defaults : {τ : Type} → Fields τ → List (Option Slot)
  | _, .nil => []
  | _, .cons (α := α) _ _ dflt fs => dflt.map (Sigma.mk α) :: fs.defaults

section Fields

variable (c : BinForms)

theorem map_sigma_eq_some {α : Type} (dflt : Option α) (a : α) :
    dflt.map (Sigma.mk α) = some (⟨α, a⟩ : Slot) ↔ dflt = some a := by
  constructor
  · intro h
    obtain ⟨a', rfl, ha⟩ := Option.map_eq_some_iff.mp h
    rw [eq_of_heq (Sigma.mk.inj ha).2]
  · rintro rfl
    rfl

/-- The first `k` fields keep their values and the others take their defaults. -/
theorem Fields.ofSeq_take_iff : {τ : Type} → (fs : Fields τ) → fs.lawful = true → (v w : τ) →
    (k : Nat) → (fs.ofSeq c ((fs.toMsgs v).take k) = some w ↔
      (fs.slots w).map some = ((fs.slots v).map some).take k ++ fs.defaults.drop k)
  | _, .nil, _, (), (), k => by
    simp [Fields.toMsgs, Fields.ofSeq, Fields.slots, Fields.defaults]
  | _, .cons _ s dflt fs, h, (a, b), (a', b'), 0 => by
    simp only [Fields.lawful, Bool.and_eq_true] at h
    have htail := fs.ofSeq_take_iff h.2 b b' 0
    simp only [List.take_zero, List.drop_zero, List.nil_append] at htail
    simp only [Fields.ofSeq, List.take_zero, Fields.slots, Fields.defaults, List.drop_zero,
      List.nil_append, List.map_cons, List.cons.injEq, ← htail, eq_comm (a := some _),
      map_sigma_eq_some]
    simp [Option.bind_eq_some_iff]
  | _, .cons _ s dflt fs, h, (a, b), (a', b'), k + 1 => by
    simp only [Fields.lawful, Bool.and_eq_true] at h
    have htail := fs.ofSeq_take_iff h.2 b b' k
    simp only [Fields.toMsgs, List.take_succ_cons, Fields.ofSeq, s.ofMsg_toMsg c a h.1,
      Fields.slots, Fields.defaults, List.map_cons, List.drop_succ_cons, List.cons_append,
      List.cons.injEq, ← htail]
    simp [Option.bind_eq_some_iff, eq_comm (a := a'), and_comm]

/-- An array that ends after `k` elements is read exactly if every field from there on has a
default. -/
theorem Fields.ofSeq_take_isSome_iff : {τ : Type} → (fs : Fields τ) → fs.lawful = true → (v : τ) →
    (k : Nat) → ((∃ w, fs.ofSeq c ((fs.toMsgs v).take k) = some w) ↔
      ∀ dflt ∈ fs.defaults.drop k, dflt.isSome)
  | _, .nil, _, (), k => by simp [Fields.toMsgs, Fields.ofSeq, Fields.defaults]
  | _, .cons _ s dflt fs, h, (a, b), 0 => by
    simp only [Fields.lawful, Bool.and_eq_true] at h
    have htail := fs.ofSeq_take_isSome_iff h.2 b 0
    simp only [List.take_zero, List.drop_zero] at htail
    simp only [Fields.defaults, List.drop_zero, List.forall_mem_cons, ← htail, List.take_zero,
      Fields.ofSeq]
    cases dflt <;> simp [Option.bind_eq_some_iff]
  | _, .cons _ s dflt fs, h, (a, b), k + 1 => by
    simp only [Fields.lawful, Bool.and_eq_true] at h
    have htail := fs.ofSeq_take_isSome_iff h.2 b k
    simp only [Fields.toMsgs, List.take_succ_cons, Fields.ofSeq, s.ofMsg_toMsg c a h.1,
      Fields.defaults, List.drop_succ_cons, ← htail]
    simp [Option.bind_eq_some_iff]

theorem Fields.ofSeq_surplus : {τ : Type} → (fs : Fields τ) → (items : List Msg) →
    fs.defaults.length < items.length → fs.ofSeq c items = none
  | _, .nil, [], h => by cases h
  | _, .nil, _ :: _, _ => rfl
  | _, .cons _ _ _ _, [], h => by cases h
  | _, .cons _ s _ fs, m :: ms, h => by
    have htail := fs.ofSeq_surplus ms (Nat.lt_of_succ_lt_succ h)
    simp [Fields.ofSeq, htail]

end Fields

def Schema.isStruct : {α : Type} → Schema α → Bool
  | _, .struct _ _ => true
  | _, _ => false

/-- The encoded fields of a struct. -/
def Schema.items : {α : Type} → Schema α → α → List Msg
  | _, .struct fs e, a => fs.toMsgs (e.symm a)
  | _, _, _ => []

def Schema.slots : {α : Type} → Schema α → α → List Slot
  | _, .struct fs e, a => fs.slots (e.symm a)
  | _, _, _ => []

def Schema.defaults : {α : Type} → Schema α → List (Option Slot)
  | _, .struct fs _ => fs.defaults
  | _, _ => []

/-- An array of elements as a struct reads it. -/
def Schema.ofItems (c : BinForms) {α : Type} (s : Schema α) (items : List Msg) : Option α :=
  s.ofMsg c (.arr items)

section Schema

variable {α : Type} {s : Schema α} (c : BinForms)

theorem Schema.toMsg_items (hs : s.isStruct = true) (a : α) : s.toMsg a = .arr (s.items a) := by
  cases s with
  | struct fs e => rfl
  | _ => cases hs

theorem Schema.ofItems_take_iff (hs : s.isStruct = true) (h : s.lawful = true) (a b : α) (k : Nat) :
    s.ofItems c ((s.items a).take k) = some b ↔
      (s.slots b).map some = ((s.slots a).map some).take k ++ s.defaults.drop k := by
  cases s with
  | struct fs e =>
    simp only [Schema.lawful, Bool.and_eq_true] at h
    rw [slots, slots, defaults, ← fs.ofSeq_take_iff c h.2 (e.symm a) (e.symm b) k]
    simp only [ofItems, items, ofMsg, structBody, Option.map_eq_some_iff]
    constructor
    · rintro ⟨v, hv, rfl⟩
      rwa [e.symm_apply_apply]
    · intro hv
      exact ⟨e.symm b, hv, e.apply_symm_apply b⟩
  | _ => cases hs

theorem Schema.ofItems_take_isSome_iff (hs : s.isStruct = true) (h : s.lawful = true) (a : α)
    (k : Nat) : (∃ b, s.ofItems c ((s.items a).take k) = some b) ↔
      ∀ dflt ∈ s.defaults.drop k, dflt.isSome := by
  cases s with
  | struct fs e =>
    simp only [Schema.lawful, Bool.and_eq_true] at h
    rw [defaults, ← fs.ofSeq_take_isSome_iff c h.2 (e.symm a) k]
    simp only [ofItems, items, ofMsg, structBody, Option.map_eq_some_iff]
    constructor
    · rintro ⟨_, v, hv, -⟩
      exact ⟨v, hv⟩
    · rintro ⟨v, hv⟩
      exact ⟨e v, v, hv, rfl⟩
  | _ => cases hs

theorem Schema.ofItems_surplus (hs : s.isStruct = true) {items : List Msg}
    (h : s.defaults.length < items.length) : s.ofItems c items = none := by
  cases s with
  | struct fs e => simp [ofItems, ofMsg, structBody, fs.ofSeq_surplus c items h]
  | _ => cases hs

end Schema

theorem fitsItems_take {items : List Msg} (h : FitsItems items) (k : Nat) :
    FitsItems (items.take k) :=
  fitsItems_iff.mpr fun m hm => fitsItems_iff.mp h m (List.mem_of_mem_take hm)

theorem depthItems_take_le (items : List Msg) (k : Nat) :
    depthItems (items.take k) ≤ depthItems items :=
  depthItems_le fun _ hm => depth_le_depthItems (List.mem_of_mem_take hm)

section Bytes

variable (rmp : RmpSerde) {α : Type} {s : Schema α}

/-- On the bytes of the first encoded fields of a value the deserializer is that reader. -/
theorem RmpSerde.fromSlice_take_iff (hs : s.isStruct = true) (hdepth : s.depth < 1024) {v : α}
    (h : (s.toMsg v).Fits) (k : Nat) (a : α) :
    rmp.fromSlice s (Msg.arr ((s.items v).take k)).encode = .ok a ↔
      s.ofItems rmp.toBinForms ((s.items v).take k) = some a := by
  have hv := s.toMsg_depth v
  rw [Schema.toMsg_items hs] at h hv
  have hfits : (Msg.arr ((s.items v).take k)).Fits := by
    refine ⟨?_, fitsItems_take h.2 k⟩
    exact (List.length_take_le' k _).trans_lt h.1
  have hshallow : (Msg.arr ((s.items v).take k)).depth < 1024 :=
    (Nat.succ_le_succ (depthItems_take_le _ k)).trans_lt (hv.trans_lt hdepth)
  cases hread : s.ofItems rmp.toBinForms ((s.items v).take k) with
  | none =>
    obtain ⟨e, he⟩ := rmp.fromSlice_error s _ [] hfits hread
    rw [List.append_nil] at he
    simp [he]
  | some b =>
    have hb := rmp.fromSlice_ok s _ [] b hfits hshallow hread
    rw [List.append_nil] at hb
    simp [hb]

theorem RmpSerde.fromSlice_surplus (hs : s.isStruct = true) {items : List Msg}
    (h : (Msg.arr items).Fits) (hlen : s.defaults.length < items.length) :
    ∃ e, rmp.fromSlice s (Msg.arr items).encode = .error e := by
  obtain ⟨e, he⟩ := rmp.fromSlice_error s _ [] h (Schema.ofItems_surplus rmp.toBinForms hs hlen)
  rw [List.append_nil] at he
  exact ⟨e, he⟩

end Bytes

end TradingSdk.Serde
