import TradingSdk.Serde.Content

namespace TradingSdk.Serde

mutual
/-- A native value stands for a Rust value: integers, texts and bytes as they are, `None` for an
absent option, a struct under its field names and a variant under its own. -/
def Schema.Native : {α : Type} → Schema α → Content → α → Prop
  | _, .u8, v, n => v = .int n.toNat
  | _, .u32, v, n => v = .int n.toNat
  | _, .u64, v, n => v = .int n.toNat
  | _, .i16, v, n => v = .int n.toInt
  | _, .bool, v, b => v = .bool b
  | _, .string, v, s => v = .str s
  | _, .fixedBytes _ _, v, bs => v = .bytes bs.1
  | _, .byteVec _, v, bs => v = .bytes bs
  | _, .option _, v, none => v = .null
  | _, .option s, v, some a => v.isNull = false ∧ s.Native v a
  | _, .vec s, v, as => ∃ items, v = .seq items ∧ List.Forall₂ (fun w a => s.Native w a) items as
  | _, .struct fs e, v, a => ∃ entries, v = .map entries ∧ fs.Native entries (e.symm a)
  | _, .enum vs e, v, a => vs.Native v (e.symm a)
/-- A field that is missing stands for the value of an absent one. -/
def Fields.Native : {α : Type} → Fields α → List (String × Content) → α → Prop
  | _, .nil, _, _ => True
  | _, .cons name s dflt fs, entries, (a, b) =>
    (match entries.lookup name with
      | none => (dflt <|> s.absent) = some a
      | some v => s.Native v a) ∧ fs.Native entries b
def Variants.Native : {α : Type} → Variants α → Content → α → Prop
  | _, .unit name _, v, .inl _ => v = .str name
  | _, .unit _ vs, v, .inr b => vs.Native v b
  | _, .newtype name s _, v, .inl a => ∃ payload, v = .map [(name, payload)] ∧ s.Native payload a
  | _, .newtype _ _ vs, v, .inr b => vs.Native v b
  | _, .struct name fs _, v, .inl a =>
    ∃ entries, v = .map [(name, .map entries)] ∧ fs.Native entries a
  | _, .struct _ _ vs, v, .inr b => vs.Native v b
end

theorem Variants.untag_of_native : {α : Type} → (vs : Variants α) → {v : Content} → {a : α} →
    vs.Native v a → ∃ payload, v.untag = some (vs.tagOf a, payload)
  | _, .unit _ _, _, .inl _, h => ⟨none, by rw [h]; rfl⟩
  | _, .unit _ vs, _, .inr _, h => vs.untag_of_native h
  | _, .newtype _ _ _, _, .inl _, h => by
    obtain ⟨payload, rfl, -⟩ := h
    exact ⟨some payload, rfl⟩
  | _, .newtype _ _ vs, _, .inr _, h => vs.untag_of_native h
  | _, .struct _ _ _, _, .inl _, h => by
    obtain ⟨entries, rfl, -⟩ := h
    exact ⟨some (.map entries), rfl⟩
  | _, .struct _ _ vs, _, .inr _, h => vs.untag_of_native h

theorem mapM_of_related {α β : Type} {f : β → Option α} {R : β → α → Prop}
    (hread : ∀ b a, R b a → f b = some a) {bs : List β} {as : List α}
    (h : List.Forall₂ R bs as) : bs.mapM f = some as := by
  induction h with
  | nil => rfl
  | cons hhead _ ih =>
    rw [List.mapM_cons, hread _ _ hhead, ih]
    rfl

mutual
/-- Whatever stands for a value is read as that value. -/
theorem Schema.ofContent_of_native : {α : Type} → (s : Schema α) → {v : Content} → {a : α} →
    s.lawful = true → s.Native v a → s.ofContent v = some a
  | _, .u8, _, n, _, h => by
    rw [h]
    exact Content.readByte_int n
  | _, .u32, _, n, _, h => by
    rw [h]
    exact ofContent_u32 n
  | _, .u64, _, n, _, h => by
    rw [h]
    exact ofContent_u64 n
  | _, .i16, _, n, _, h => by
    rw [h]
    exact ofContent_i16 n
  | _, .bool, _, _, _, h => by
    rw [h]
    rfl
  | _, .string, _, _, _, h => by
    rw [h]
    rfl
  | _, .fixedBytes n form, _, bs, _, h => by
    rw [h, Schema.ofContent, ByteForm.ofContent]
    simp [bs.2]
  | _, .byteVec form, _, _, _, h => by
    rw [h]
    rfl
  | _, .option _, _, none, _, h => by
    rw [h]
    rfl
  | _, .option s, _, some a, hl, h => by
    simp only [Schema.lawful, Bool.and_eq_true] at hl
    obtain ⟨hnull, h⟩ := h
    rw [Schema.ofContent, hnull, if_neg Bool.false_ne_true, Schema.ofContent_of_native s hl.2 h,
      Option.map_some]
  | _, .vec s, _, _, hl, h => by
    obtain ⟨items, rfl, hitems⟩ := h
    rw [Schema.ofContent, Content.items, Option.bind_some]
    exact mapM_of_related (fun _ _ h => Schema.ofContent_of_native s hl h) hitems
  | _, .struct fs e, _, a, hl, h => by
    simp only [Schema.lawful, Bool.and_eq_true] at hl
    obtain ⟨entries, rfl, hfields⟩ := h
    rw [Schema.ofContent, Content.entries, Option.bind_some,
      Fields.ofContents_of_native fs hl.2 hfields, Option.map_some, e.apply_symm_apply]
  | _, .enum vs e, _, a, hl, h => by
    simp only [Schema.lawful, Bool.and_eq_true, decide_eq_true_eq] at hl
    obtain ⟨payload, htag⟩ := vs.untag_of_native h
    rw [Schema.ofContent, htag, Option.bind_some,
      Variants.selectContent_of_native vs hl.1 hl.2 h htag, Option.map_some, e.apply_symm_apply]
theorem Fields.ofContents_of_native : {α : Type} → (fs : Fields α) →
    {entries : List (String × Content)} → {a : α} → fs.lawful = true → fs.Native entries a →
    fs.ofContents entries = some a
  | _, .nil, _, _, _, _ => rfl
  | _, .cons name s dflt fs, entries, (a, b), hl, h => by
    simp only [Fields.lawful, Bool.and_eq_true] at hl
    obtain ⟨hhead, htail⟩ := h
    have hfield : readField (dflt <|> s.absent) s.ofContent (entries.lookup name) = some a := by
      cases hv : entries.lookup name with
      | none =>
        rw [hv] at hhead
        exact hhead
      | some v =>
        rw [hv] at hhead
        exact Schema.ofContent_of_native s hl.1 hhead
    rw [Fields.ofContents, hfield, Option.bind_some, Fields.ofContents_of_native fs hl.2 htail,
      Option.map_some]
theorem Variants.selectContent_of_native : {α : Type} → (vs : Variants α) → {v : Content} →
    {a : α} → {payload : Option Content} → vs.names.Nodup → vs.lawful = true → vs.Native v a →
    v.untag = some (vs.tagOf a, payload) → vs.selectContent (vs.tagOf a) payload = some a
  | _, .unit name vs, _, .inl (), _, _, _, h, htag => by
    rw [h] at htag
    obtain rfl := (Prod.mk.inj (Option.some.inj htag)).2
    rw [Variants.selectContent, Variants.tagOf, if_pos rfl]
    rfl
  | _, .unit name vs, _, .inr b, _, hn, hl, h, htag => by
    obtain ⟨-, hrest⟩ := List.nodup_cons.mp hn
    have hne : vs.tagOf b ≠ name := Variants.tagOf_ne hn b
    rw [Variants.selectContent, Variants.tagOf, if_neg hne,
      Variants.selectContent_of_native vs hrest hl h htag, Option.map_some]
  | _, .newtype name s vs, _, .inl a, _, _, hl, h, htag => by
    simp only [Variants.lawful, Bool.and_eq_true] at hl
    obtain ⟨w, rfl, hw⟩ := h
    obtain rfl := (Prod.mk.inj (Option.some.inj htag)).2
    rw [Variants.selectContent, Variants.tagOf, if_pos rfl, Option.bind_some,
      Schema.ofContent_of_native s hl.1 hw, Option.map_some]
  | _, .newtype name s vs, _, .inr b, _, hn, hl, h, htag => by
    obtain ⟨-, hrest⟩ := List.nodup_cons.mp hn
    have hne : vs.tagOf b ≠ name := Variants.tagOf_ne hn b
    simp only [Variants.lawful, Bool.and_eq_true] at hl
    rw [Variants.selectContent, Variants.tagOf, if_neg hne,
      Variants.selectContent_of_native vs hrest hl.2 h htag, Option.map_some]
  | _, .struct name fs vs, _, .inl a, _, _, hl, h, htag => by
    simp only [Variants.lawful, Bool.and_eq_true] at hl
    obtain ⟨entries, rfl, hfields⟩ := h
    obtain rfl := (Prod.mk.inj (Option.some.inj htag)).2
    rw [Variants.selectContent, Variants.tagOf, if_pos rfl, Option.bind_some, Content.entries,
      Option.bind_some, Fields.ofContents_of_native fs hl.1.2 hfields, Option.map_some]
  | _, .struct name fs vs, _, .inr b, _, hn, hl, h, htag => by
    obtain ⟨-, hrest⟩ := List.nodup_cons.mp hn
    have hne : vs.tagOf b ≠ name := Variants.tagOf_ne hn b
    simp only [Variants.lawful, Bool.and_eq_true] at hl
    rw [Variants.selectContent, Variants.tagOf, if_neg hne,
      Variants.selectContent_of_native vs hrest hl.2 h htag, Option.map_some]
end

def Variants.isUnits : {α : Type} → Variants α → Bool
  | _, .nil => true
  | _, .unit _ vs => vs.isUnits
  | _, .newtype _ _ _ => false
  | _, .struct _ _ _ => false

/-- The position of a value's variant in the declaration. -/
def Variants.index : {α : Type} → Variants α → α → Nat
  | _, .unit _ _, .inl _ => 0
  | _, .unit _ vs, .inr b => vs.index b + 1
  | _, .newtype _ _ _, .inl _ => 0
  | _, .newtype _ _ vs, .inr b => vs.index b + 1
  | _, .struct _ _ _, .inl _ => 0
  | _, .struct _ _ vs, .inr b => vs.index b + 1

/-- Whether the value may be written as a number: an enum without payloads, or an option of one. -/
def Schema.takesNumber : {α : Type} → Schema α → Bool
  | _, .option s => s.takesNumber
  | _, .enum vs _ => vs.isUnits
  | _, _ => false

/-- An integer stands for a variant, or for an option of one, by its number. -/
def Schema.Numbered : {α : Type} → Schema α → Content → α → Prop
  | _, .option s, v, some a => s.Numbered v a
  | _, .enum vs e, v, a => vs.isUnits = true ∧ v = .int (vs.index (e.symm a))
  | _, _, _, _ => False

theorem Schema.takesNumber_of_numbered : {α : Type} → (s : Schema α) → {v : Content} → {a : α} →
    s.Numbered v a → s.takesNumber = true ∧ ∃ n, v = .int n
  | _, .option s, _, some _, h => Schema.takesNumber_of_numbered s h
  | _, .enum _ _, _, _, h => ⟨h.1, _, h.2⟩

mutual
/-- Somewhere an integer stands where the name of a variant must. -/
def Schema.misnamed : {α : Type} → Schema α → Content → Bool
  | _, .option s, v => !v.isNull && s.misnamed v
  | _, .enum _ _, .int _ => true
  | _, .struct fs _, .map entries => fs.misnamed entries
  | _, _, _ => false
def Fields.misnamed : {α : Type} → Fields α → List (String × Content) → Bool
  | _, .nil, _ => false
  | _, .cons name s _ fs, entries =>
    (entries.lookup name).any s.misnamed || fs.misnamed entries
end

/-- A deserializer that accepts a variant by name only. -/
def ContentSerde.NamesVariants (dyn : ContentSerde) : Prop :=
  ∀ {α : Type} (s : Schema α) (v : Content), s.misnamed v = true →
    ∃ e, dyn.fromContent s v = .error e

mutual
theorem Schema.ofContent_of_misnamed : {α : Type} → (s : Schema α) → {v : Content} →
    s.misnamed v = true → s.ofContent v = none
  | _, .option s, v, h => by
    rw [Schema.misnamed, Bool.and_eq_true, Bool.not_eq_true'] at h
    rw [Schema.ofContent, h.1, if_neg Bool.false_ne_true, Schema.ofContent_of_misnamed s h.2,
      Option.map_none]
  | _, .enum vs e, .int n, _ => rfl
  | _, .struct fs e, .map entries, h => by
    rw [Schema.ofContent, Content.entries, Option.bind_some, Fields.ofContents_of_misnamed fs h,
      Option.map_none]
theorem Fields.ofContents_of_misnamed : {α : Type} → (fs : Fields α) →
    {entries : List (String × Content)} → fs.misnamed entries = true → fs.ofContents entries = none
  | _, .cons name s dflt fs, entries, h => by
    rw [Fields.misnamed, Bool.or_eq_true] at h
    rw [Fields.ofContents]
    obtain hhead | htail := h
    · cases hv : entries.lookup name with
      | none =>
        rw [hv] at hhead
        cases hhead
      | some v =>
        rw [hv] at hhead
        rw [readField, Schema.ofContent_of_misnamed s hhead, Option.bind_none]
    · rw [Fields.ofContents_of_misnamed fs htail]
      simp
end

theorem ContentSerde.reference_namesVariants : ContentSerde.reference.NamesVariants := by
  intro α s v h
  refine ⟨"invalid type", ?_⟩
  simp only [ContentSerde.reference, Schema.ofContent_of_misnamed s h]

end TradingSdk.Serde
