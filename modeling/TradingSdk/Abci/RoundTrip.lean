import TradingSdk.Abci.Reader

namespace TradingSdk

open Serde Display

theorem utf8_of_ofUtf8 {bs : Bytes} {s : String} (h : ofUtf8 bs = some s) : utf8 s = bs := by
  rw [ofUtf8, String.fromUTF8?] at h
  split at h
  · obtain rfl := Option.some.inj h
    rfl
  · cases h

theorem readText_prefixed {s : String} (h : (utf8 s).length < 2^16) (rest : Bytes) :
    readText (prefixed (utf8 s) ++ rest) = some (s, rest) := by
  rw [readText, readPrefixed_prefixed h]
  simp only [Option.bind_eq_bind, Option.bind_some, ofUtf8_utf8]
  rfl

theorem readAttribute_attrBytes {key : String} {field : AbciField} (hkey : key.length < 2^14)
    (hfits : field.Fits) (rest : Bytes) :
    readAttribute (attrBytes (key, field) ++ rest) = some ((key, field.text), rest) := by
  rw [attrBytes, List.append_assoc, readAttribute, readText_prefixed (length_utf8_lt hkey)]
  simp only [Option.bind_eq_bind, Option.bind_some, readText_prefixed hfits]
  rfl

theorem readEvent_bytes {e : Event} (h : e.Short) (rest : Bytes) :
    readEvent (e.bytes ++ rest) = some (e.abci, rest) := by
  have hattr : ∀ attr ∈ e.fields, ∀ rest,
      readAttribute (attrBytes attr ++ rest) = some ((attr.1, attr.2.text), rest) := by
    intro attr hmem
    have hkey := e.keys_length attr.1 (List.mem_map_of_mem hmem)
    exact readAttribute_attrBytes hkey (e.short_iff_fits.mp h attr hmem)
  have htype := readText_prefixed (length_utf8_lt e.typeName_length)
  have hcount := e.fields_length
  rw [Event.bytes, e.toSnakeCase_variant, List.append_assoc, List.append_assoc, readEvent, htype]
  simp only [Option.bind_eq_bind, Option.bind_some, readLe16_le16, Nat.mod_eq_of_lt hcount,
    readCount_flatMap hattr]
  rfl

theorem Event.bytes_pos (e : Event) : 0 < e.bytes.length := by
  rw [Event.bytes, prefixed, List.append_assoc]
  exact Nat.succ_pos _

theorem length_encodeEvents (es : List Event) : es.length ≤ (es.flatMap Event.bytes).length := by
  induction es with
  | nil => exact Nat.le_refl 0
  | cons e es ih =>
    have he := e.bytes_pos
    rw [List.length_cons, List.flatMap_cons, List.length_append]
    omega

theorem readText_lt {bs rest : Bytes} {s : String} (h : readText bs = some (s, rest)) :
    (utf8 s).length < 2^16 := by
  obtain ⟨⟨front, rest'⟩, hfront, h⟩ := Option.bind_eq_some_iff.mp h
  obtain ⟨s', hs, h⟩ := Option.bind_eq_some_iff.mp h
  obtain ⟨rfl, -⟩ := Prod.mk.inj (Option.some.inj h)
  rw [utf8_of_ofUtf8 hs]
  exact readPrefixed_lt hfront

theorem readAttribute_lt {bs rest : Bytes} {attr : String × String}
    (h : readAttribute bs = some (attr, rest)) : (utf8 attr.2).length < 2^16 := by
  obtain ⟨⟨key, bs'⟩, -, h⟩ := Option.bind_eq_some_iff.mp h
  obtain ⟨⟨value, bs''⟩, hvalue, h⟩ := Option.bind_eq_some_iff.mp h
  obtain ⟨rfl, -⟩ := Prod.mk.inj (Option.some.inj h)
  exact readText_lt hvalue

theorem readEvent_lt {bs rest : Bytes} {ev : AbciEvent} (h : readEvent bs = some (ev, rest)) :
    ∀ attr ∈ ev.attributes, (utf8 attr.2).length < 2^16 := by
  obtain ⟨⟨type, bs'⟩, -, h⟩ := Option.bind_eq_some_iff.mp h
  obtain ⟨⟨count, bs''⟩, -, h⟩ := Option.bind_eq_some_iff.mp h
  obtain ⟨⟨attributes, bs'''⟩, hattributes, h⟩ := Option.bind_eq_some_iff.mp h
  obtain ⟨rfl, -⟩ := Prod.mk.inj (Option.some.inj h)
  exact forall_of_readCount (fun _ _ _ h => readAttribute_lt h) hattributes

/-- An event that is read back is short, whatever else is in the stream. -/
theorem short_of_readEvents {bs : Bytes} {evs : List AbciEvent} (h : readEvents bs = some evs)
    {e : Event} (he : e.abci ∈ evs) : e.Short := by
  have hlt := forall_of_readAll (fun _ _ _ h => readEvent_lt h) h e.abci he
  rw [e.short_iff_fits]
  intro attr hmem
  exact hlt (attr.1, attr.2.text) (List.mem_map_of_mem hmem)

/-- A stream of events is read back, to its last byte, exactly if every text and every byte
sequence in it leaves its length in 16 bits. -/
theorem readEvents_encodeEvents_iff (es : List Event) :
    readEvents (encodeEvents es) = some (es.map Event.abci) ↔ ∀ e ∈ es, e.Short := by
  constructor
  · intro h e he
    exact short_of_readEvents h (List.mem_map_of_mem he)
  · intro h
    rw [encodeEvents_eq, readEvents]
    refine readAll_flatMap ?_ (fun e he => readEvent_bytes (h e he)) (length_encodeEvents es)
    intro e _ hnil
    have hpos := e.bytes_pos
    rw [hnil] at hpos
    cases hpos

/-- A reason of 65536 letters announces itself as empty. -/
theorem long_reason_desynchronises :
    ¬ ∀ es : List Event, readEvents (encodeEvents es) = some (es.map Event.abci) := by
  intro hall
  let reason := String.ofList (List.replicate (2^16) 'a')
  let e := Event.withdrawalFailed 1 ⟨List.replicate 20 0, List.length_replicate⟩ 1 1 reason
  have hshort : (utf8 reason).length < 2^16 :=
    short_of_readEvents (e := e) (hall [e]) List.mem_cons_self
  have hlen : (utf8 reason).length = 2^16 := by
    rw [utf8_ofList, List.length_flatMap, List.map_replicate, List.sum_replicate_nat]
    rfl
  rw [hlen] at hshort
  exact Nat.lt_irrefl _ hshort

end TradingSdk
