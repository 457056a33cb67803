import TradingSdk.TriggerState.Python
import TradingSdk.TriggerState.TypeScript

namespace TradingSdk.TriggerState

open Serde

mutual
/-- No part is a float, a text of digits or a map of more than one entry: the forms that only the
TypeScript decoders take. -/
def Value.Strict : Value → Prop
  | .float _ => False
  | .str s => TypeScript.isDigits s = false
  | .arr items => StrictItems items
  | .map entries => entries.length ≤ 1
  | _ => True
def StrictItems : List Value → Prop
  | [] => True
  | v :: vs => v.Strict ∧ StrictItems vs
end

/-- Neither a boolean nor an integer in a 64-bit form: the forms that only Python takes for a
byte. -/
def IsPlainByte : Value → Prop
  | .bool _ => False
  | .wide _ => False
  | _ => True

/-- The owner of an entry, if it is an array, has plain bytes. -/
def HasPlainOwner (entry : Value) : Prop := ∀ byte ∈ ((entry.slot 0).slot 1).items, IsPlainByte byte

theorem strict_of_mem {items : List Value} {v : Value} (h : StrictItems items) (hv : v ∈ items) :
    v.Strict := by
  induction items with
  | nil => cases hv
  | cons w items ih =>
    obtain ⟨hw, hitems⟩ := h
    obtain rfl | hv := List.mem_cons.mp hv
    · exact hw
    · exact ih hitems hv

theorem uint_of_python {v : Value} {n : Nat} (h : Python.reading.uint v = some n) :
    TypeScript.reading.uint v = some n := by
  show TypeScript.readUint v = some n
  replace h : Python.readUint Python.u64Max v = some n := h
  cases v with
  | short m =>
    obtain ⟨hm, -⟩ := Python.readUint_short.mp h
    rw [TypeScript.readUint, if_pos (by omega), hm, Int.toNat_natCast]
  | wide m =>
    obtain ⟨rfl, hle⟩ := Python.readUint_wide.mp h
    rw [Python.u64Max] at hle
    rw [TypeScript.readUint, TypeScript.u64Max, if_pos (by omega), Int.toNat_natCast]
  | _ => cases h

theorem uint_of_typeScript {v : Value} {n : Nat} (hv : v.Strict)
    (h : TypeScript.reading.uint v = some n) : Python.reading.uint v = some n := by
  show Python.readUint Python.u64Max v = some n
  have hle := TypeScript.isUint_le h
  replace h : TypeScript.readUint v = some n := h
  cases v with
  | short m =>
    rw [TypeScript.readUint] at h
    split_ifs at h with hm
    obtain rfl := Option.some.inj h
    exact Python.readUint_short.mpr ⟨by omega, hle⟩
  | wide m =>
    rw [TypeScript.readUint] at h
    split_ifs at h with hm
    obtain rfl := Option.some.inj h
    exact Python.readUint_wide.mpr ⟨by omega, hle⟩
  | str s =>
    rw [TypeScript.readUint, hv] at h
    cases h
  | float value => exact hv.elim
  | _ => cases h

theorem deferred_of_python {v w : Value} (h : Python.reading.deferred v = some w) :
    TypeScript.reading.deferred v = some w := by
  show TypeScript.readDeferred v = some w
  replace h : Python.readDeferred v = some w := h
  cases v with
  | map entries =>
    rw [Python.readDeferred] at h
    split_ifs at h
    exact h
  | _ => cases h

theorem deferred_of_typeScript {v w : Value} (hv : v.Strict)
    (h : TypeScript.reading.deferred v = some w) : Python.reading.deferred v = some w := by
  show Python.readDeferred v = some w
  replace h : TypeScript.readDeferred v = some w := h
  cases v with
  | map entries =>
    have hlength : entries.length ≤ 1 := hv
    match entries, hlength, h with
    | [], _, h => cases h
    | [(k, x)], _, h =>
      cases k with
      | str key =>
        by_cases hkey : key = "Deferred"
        · subst hkey
          exact h
        · simp [TypeScript.readDeferred, Value.get, hkey] at h
      | _ => cases h
  | _ => cases h

theorem byte_of_python {v : Value} {b : UInt8} (hv : IsPlainByte v) (h : Python.byte v = .ok b) :
    TypeScript.readByte v = some b := by
  cases v with
  | bool _ => exact hv.elim
  | wide _ => exact hv.elim
  | short m =>
    rw [Python.byte] at h
    split_ifs at h with hm
    rw [TypeScript.readByte, if_pos hm, Except.ok.inj h]
  | _ => cases h

theorem byte_of_typeScript {v : Value} {b : UInt8} (hv : v.Strict)
    (h : TypeScript.readByte v = some b) : Python.byte v = .ok b := by
  cases v with
  | short m =>
    rw [TypeScript.readByte] at h
    split_ifs at h with hm
    rw [Python.byte, if_pos hm, Option.some.inj h]
  | float _ => exact hv.elim
  | _ => cases h

theorem bytes_of_python {items : List Value} {bytes : Bytes} (hv : ∀ v ∈ items, IsPlainByte v)
    (h : items.mapM Python.byte = .ok bytes) : items.mapM TypeScript.readByte = some bytes := by
  induction items generalizing bytes with
  | nil =>
    obtain rfl := Except.ok.inj h
    rfl
  | cons v items ih =>
    simp only [List.mapM_cons, bind_ok_iff, pure_ok_iff] at h
    obtain ⟨b, hb, bs, hbs, rfl⟩ := h
    have hhead := byte_of_python (hv v (List.mem_cons_self ..)) hb
    have htail := ih (fun w hw => hv w (List.mem_cons_of_mem _ hw)) hbs
    simp [hhead, htail]

theorem bytes_of_typeScript {items : List Value} {bytes : Bytes} (hv : StrictItems items)
    (h : items.mapM TypeScript.readByte = some bytes) : items.mapM Python.byte = .ok bytes := by
  induction items generalizing bytes with
  | nil =>
    obtain rfl := Option.some.inj h
    rfl
  | cons v items ih =>
    rw [List.mapM_cons] at h
    obtain ⟨b, hb, h⟩ := Option.bind_eq_some_iff.mp h
    obtain ⟨bs, hbs, h⟩ := Option.bind_eq_some_iff.mp h
    obtain rfl := Option.some.inj h
    simp only [List.mapM_cons, bind_ok_iff, pure_ok_iff]
    exact ⟨b, byte_of_typeScript hv.1 hb, bs, ih hv.2 hbs, rfl⟩

theorem owner_of_python {v : Value} {bytes : Bytes} (hv : ∀ byte ∈ v.items, IsPlainByte byte)
    (h : Python.reading.owner v = some bytes) : TypeScript.reading.owner v = some bytes := by
  show TypeScript.readOwner v = some bytes
  obtain ⟨hbytes, hlength⟩ := Python.toBytes_ok_iff.mpr h
  cases v with
  | bin bs =>
    obtain rfl := Except.ok.inj hbytes
    rw [TypeScript.readOwner, if_pos hlength]
  | arr items =>
    have hread : items.mapM TypeScript.readByte = some bytes := bytes_of_python hv hbytes
    rw [TypeScript.readOwner, hread, Option.bind_some, if_pos hlength]
  | _ =>
    obtain rfl := Except.ok.inj hbytes
    cases hlength

theorem owner_of_typeScript {v : Value} {bytes : Bytes} (hv : v.Strict)
    (h : TypeScript.reading.owner v = some bytes) : Python.reading.owner v = some bytes := by
  replace h : TypeScript.readOwner v = some bytes := h
  apply Python.toBytes_ok_iff.mp
  cases v with
  | bin bs =>
    rw [TypeScript.readOwner] at h
    split_ifs at h with hlength
    obtain rfl := Option.some.inj h
    exact ⟨rfl, hlength⟩
  | arr items =>
    obtain ⟨bs, hbs, h⟩ := Option.bind_eq_some_iff.mp h
    split_ifs at h with hlength
    obtain rfl := Option.some.inj h
    exact ⟨bytes_of_typeScript hv hbs, hlength⟩
  | _ => cases h

theorem python_within : Python.reading.Within (fun _ => True) TypeScript.reading where
  nil := trivial
  part _ _ _ _ := trivial
  uint _ _ _ := uint_of_python
  deferred _ _ _ := deferred_of_python

theorem typeScript_within : TypeScript.reading.Within Value.Strict Python.reading where
  nil := trivial
  part _ _ := strict_of_mem
  uint _ _ := uint_of_typeScript
  deferred _ _ := deferred_of_typeScript

theorem rows_mono {α : Type} {P Q : Value → α → Prop} {vs : List Value} {as : List α}
    (hpq : ∀ v ∈ vs, ∀ a, P v a → Q v a) (h : List.Forall₂ P vs as) : List.Forall₂ Q vs as := by
  induction h with
  | nil => exact .nil
  | cons hhead _ ih =>
    have hfirst := hpq _ (List.mem_cons_self ..) _ hhead
    exact .cons hfirst (ih fun w hw => hpq w (List.mem_cons_of_mem _ hw))

theorem strict_items {v : Value} (hv : v.Strict) : ∀ w ∈ v.items, w.Strict := by
  cases v with
  | arr items => exact fun w hw => strict_of_mem hv hw
  | _ => exact fun w hw => by cases hw

/-- TypeScript accepts what Python does, with the same fields, where the bytes of owners are plain.
Python accepts what TypeScript does, with the same fields, where the value is strict. -/
theorem decoders_agree (v : Value) :
    (∀ infos, Python.positionTriggers v = .ok infos → (∀ entry ∈ v.items, HasPlainOwner entry) →
      TypeScript.decodePositionTriggerInfos v = .ok infos) ∧
    (∀ infos, TypeScript.decodePositionTriggerInfos v = .ok infos → v.Strict →
      Python.positionTriggers v = .ok infos) ∧
    (∀ infos, Python.decodeTriggerMarketConfigInfos v = .ok infos →
      TypeScript.decodeTriggerMarketConfigInfos v = .ok infos) ∧
    ∀ infos, TypeScript.decodeTriggerMarketConfigInfos v = .ok infos → v.Strict →
      Python.decodeTriggerMarketConfigInfos v = .ok infos := by
  refine ⟨?_, ?_, ?_, ?_⟩
  · intro infos h howners
    obtain ⟨harray, hrows⟩ := Python.positionTriggers_ok_iff.mp h
    apply TypeScript.decodePositionTriggerInfos_ok_iff.mpr ⟨harray, ?_⟩
    apply rows_mono _ hrows
    intro entry hentry info hinfo
    exact hinfo.mono python_within trivial fun _ => owner_of_python (howners entry hentry)
  · intro infos h hstrict
    obtain ⟨harray, hrows⟩ := TypeScript.decodePositionTriggerInfos_ok_iff.mp h
    apply Python.positionTriggers_ok_iff.mpr ⟨harray, ?_⟩
    apply rows_mono _ hrows
    intro entry hentry info hinfo
    have hentry := strict_items hstrict entry hentry
    have howner := typeScript_within.slot (typeScript_within.slot hentry 0) 1
    exact hinfo.mono typeScript_within hentry fun _ => owner_of_typeScript howner
  · intro infos h
    obtain ⟨harray, hrows⟩ := Python.decodeTriggerMarketConfigInfos_ok_iff.mp h
    apply TypeScript.decodeTriggerMarketConfigInfos_ok_iff.mpr ⟨harray, ?_⟩
    exact hrows.mono python_within fun _ _ => trivial
  · intro infos h hstrict
    obtain ⟨harray, hrows⟩ := TypeScript.decodeTriggerMarketConfigInfos_ok_iff.mp h
    apply Python.decodeTriggerMarketConfigInfos_ok_iff.mpr ⟨harray, ?_⟩
    exact hrows.mono typeScript_within (strict_items hstrict)

def number (n : Int) (h : -2^31 ≤ n ∧ n < 2^32) : Value := .short ⟨n, h⟩

def one : Value := number 1 (by decide)

/-- A response with one armed stop loss, three of its parts left open. -/
def sampleInfos (groupId byte : Value) (availability : Value) : Value :=
  .arr [.arr [.arr [groupId, .arr (List.replicate 20 byte), one, one, .str "Buy", one,
    number 2 (by decide), .nil, .arr [one, .str "StopLoss", one, one, .nil, .str "Armed", .nil],
    .nil], .nil, availability]]

def sampleInfo (availability : TriggerEffectiveAvailability) : PositionTriggerInfo :=
  ⟨⟨1, List.replicate 20 1, 1, 1, .buy, 1, 2, none, some ⟨1, .stopLoss, 1, 1, none, .armed, none⟩,
    none⟩, none, availability⟩

theorem decoders_agree_sampleInfos :
    TypeScript.decodePositionTriggerInfos (sampleInfos one one (.str "Available")) =
      .ok [sampleInfo (.simple .available)] ∧
    Python.positionTriggers (sampleInfos one one (.str "Available")) =
      .ok [sampleInfo (.simple .available)] := by
  have hpython : Python.positionTriggers (sampleInfos one one (.str "Available")) =
      .ok [sampleInfo (.simple .available)] := rfl
  have htypeScript : TypeScript.decodePositionTriggerInfos (sampleInfos one one (.str "Available")) =
      .ok [sampleInfo (.simple .available)] := rfl
  have howners : ∀ entry ∈ (sampleInfos one one (.str "Available")).items, HasPlainOwner entry := by
    intro entry hentry byte hbyte
    obtain rfl := List.mem_singleton.mp hentry
    obtain rfl := List.eq_of_mem_replicate hbyte
    trivial
  have hstrict : (sampleInfos one one (.str "Available")).Strict := by
    simp [sampleInfos, one, number, Value.Strict, StrictItems, List.replicate]
    decide
  obtain ⟨hto, hfrom, -⟩ := decoders_agree (sampleInfos one one (.str "Available"))
  exact ⟨hto _ hpython howners, hfrom _ htypeScript hstrict⟩

/-- TypeScript takes a text of digits and a float for an integer, and an object with other keys for
a deferred reason. Python takes a boolean and an integer in a 64-bit form for a byte. -/
theorem decoders_disagree :
    (∀ v ∈ [sampleInfos (.str "1") one (.str "Available"),
        sampleInfos (.float (some 1)) one (.str "Available"),
        sampleInfos one one (.map [(.str "Deferred", .str "MarkStale"), (.str "since", one)])],
      (∃ infos, TypeScript.decodePositionTriggerInfos v = .ok infos) ∧
        ∃ e, Python.positionTriggers v = .error e) ∧
    ∀ v ∈ [sampleInfos one (.bool true) (.str "Available"),
        sampleInfos one (.wide 1) (.str "Available")],
      (∃ e, TypeScript.decodePositionTriggerInfos v = .error e) ∧
        ∃ infos, Python.positionTriggers v = .ok infos := by
  constructor
  · intro v hv
    simp only [List.mem_cons, List.not_mem_nil, or_false] at hv
    obtain rfl | rfl | rfl := hv
    · exact ⟨⟨[sampleInfo (.simple .available)], rfl⟩, ⟨_, rfl⟩⟩
    · exact ⟨⟨[sampleInfo (.simple .available)], rfl⟩, ⟨_, rfl⟩⟩
    · exact ⟨⟨[sampleInfo (.deferred .markStale)], rfl⟩, ⟨_, rfl⟩⟩
  · intro v hv
    simp only [List.mem_cons, List.not_mem_nil, or_false] at hv
    obtain rfl | rfl := hv
    · exact ⟨⟨_, rfl⟩, ⟨[sampleInfo (.simple .available)], rfl⟩⟩
    · exact ⟨⟨_, rfl⟩, ⟨[sampleInfo (.simple .available)], rfl⟩⟩

end TradingSdk.TriggerState
