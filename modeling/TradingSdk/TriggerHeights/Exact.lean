import TradingSdk.TriggerHeights.Height

namespace TradingSdk.TriggerHeights

open Js Json

theorem list_protectEntries (entries : Entries Scalar) : (protectEntries entries).list =
    entries.list.map fun member => (member.1, protectTree (guarded member.1) member.2) := by
  induction entries using Entries.list.induct with
  | case1 key value after => rfl
  | case2 key value after more ih =>
    rw [protectEntries, Entries.list, ih]
    rfl

theorem get_protectEntries (entries : Entries Scalar) (name : String) :
    Members.get (protectEntries entries).values name = (entries.find name).map fun member =>
      (protectTree (guarded member.1) member.2).value := by
  rw [Entries.get_values, Entries.find, Entries.find, list_protectEntries, ← List.map_reverse,
    List.find?_map, Option.map_map]
  rfl

/-- A JSON text of an object that holds the two heights as integer literals. -/
structure StatusText where
  before : Space
  entries : Entries Scalar
  after : Space
  finalized : Height
  admission : Height
  finalized_at : entries.find "finalized_height" =
    some (finalized.name, .leaf (.number finalized.literal))
  admission_at : entries.find "admission_height" =
    some (admission.name, .leaf (.number admission.literal))

namespace StatusText

variable (t : StatusText)

def document : Document Scalar := ⟨t.before, .object t.entries, t.after⟩

def text : List Char := t.document.text

/-- The value under `actions_active`, when it is boolean. -/
def actionsActive : Option Bool := readBoolean (Members.get t.entries.values "actions_active")

/-- A status that ought to be accepted. -/
def Asks (height : Nat) (active : Bool) : Prop :=
  height < 2^64 - 1 ∧ t.finalized.value = height ∧ t.admission.value = height + 1 ∧
    t.actionsActive = some active

/-- Nothing but the exact heights is returned, and every next height is accepted. -/
structure Exact : Prop where
  returned : ∀ status, decodeTriggerStatusJson t.text = .ok status →
    t.finalized.value = status.finalizedHeight ∧ t.admission.value = status.admissionHeight ∧
      status.finalizedHeight ≤ 2^64 - 1 ∧ status.admissionHeight ≤ 2^64 - 1 ∧
      status.admissionHeight = status.finalizedHeight + 1
  accepted : ∀ height active, t.Asks height active →
    decodeTriggerStatusJson t.text = .ok ⟨height, height + 1, active⟩

/-- No number behind a key that the pattern finds is cut in two, and both heights can be read. -/
structure IsSafe : Prop where
  whole : splitsEntries t.entries = false
  finalized : t.finalized.IsReadable finalizedHeight
  admission : t.admission.IsReadable admissionHeight

end StatusText

/-- The member of a name is a number when its value is one. -/
theorem exists_numberToken {entries : Entries Scalar} {name : String} {number : Number}
    (h : Members.get entries.values name = some (.number number)) :
    ∃ (s : StringToken) (n : NumberToken), entries.find name = some (s, .leaf (.number n)) ∧
      n.number = number := by
  rw [Entries.get_values] at h
  obtain ⟨⟨s, tree⟩, hfind, hvalue⟩ := Option.map_eq_some_iff.mp h
  match tree with
  | .leaf (.number n) => exact ⟨s, n, hfind, Value.number.inj hvalue⟩
  | .leaf .null => cases hvalue
  | .leaf (.bool b) => cases hvalue
  | .leaf (.string s) => cases hvalue
  | .emptyArray space => cases hvalue
  | .array items => cases hvalue
  | .emptyObject space => cases hvalue
  | .object entries => cases hvalue

/-- Every text that `JSON.parse` reads as an object with two integers for its heights. -/
theorem exists_statusText {text : List Char} {members : Members} {finalized admission : Number}
    (htext : parse .standard text = .ok (.object members))
    (hfinalized : members.get "finalized_height" = some (.number finalized))
    (hadmission : members.get "admission_height" = some (.number admission))
    (hintegers : finalized.isInteger = true ∧ admission.isInteger = true) :
    ∃ t : StatusText, t.text = text ∧ t.finalized.value = finalized.toInt ∧
      t.admission.value = admission.toInt := by
  obtain ⟨⟨before, tree, after⟩, rfl, hvalue⟩ := parse_ok_iff.mp htext
  match tree with
  | .object entries =>
    obtain rfl := Value.object.inj hvalue
    obtain ⟨s, n, hfind, rfl⟩ := exists_numberToken hfinalized
    obtain ⟨s', n', hfind', rfl⟩ := exists_numberToken hadmission
    rw [NumberToken.isInteger_number, NumberToken.isInteger_number] at hintegers
    exact ⟨⟨before, entries, after, ⟨s, n, hintegers.1⟩, ⟨s', n', hintegers.2⟩, hfind, hfind'⟩,
      rfl, rfl, rfl⟩
  | .emptyObject space =>
    obtain rfl := Value.object.inj hvalue
    cases hfinalized
  | .leaf .null => cases hvalue
  | .leaf (.bool b) => cases hvalue
  | .leaf (.number n) => cases hvalue
  | .leaf (.string s) => cases hvalue
  | .emptyArray space => cases hvalue
  | .array items => cases hvalue

theorem decodeTriggerStatusJson_text (t : StatusText) : decodeTriggerStatusJson t.text =
    if splitsEntries t.entries then reject "malformed JSON"
    else decodeRow (protectEntries t.entries).values := by
  have hsplits : splitsTree false t.document.tree = splitsEntries t.entries := rfl
  rw [decodeTriggerStatusJson, StatusText.text, parse_protect, hsplits]
  cases splitsEntries t.entries with
  | true => rfl
  | false => rfl

/-- A member that is no number behind a key is kept. -/
theorem readBoolean_protect (key : Bool) (t : SyntaxTree Scalar) :
    readBoolean (some (protectTree key t).value) = readBoolean (some t.value) := by
  match t with
  | .leaf (.number n) =>
    cases key with
    | true => rfl
    | false => rfl
  | .leaf .null => rfl
  | .leaf (.bool b) => rfl
  | .leaf (.string s) => rfl
  | .emptyArray space => rfl
  | .array items => rfl
  | .emptyObject space => rfl
  | .object entries => rfl

theorem actionsActive_protect (entries : Entries Scalar) :
    readBoolean (Members.get (protectEntries entries).values "actions_active") =
      readBoolean (Members.get entries.values "actions_active") := by
  rw [get_protectEntries, Entries.get_values]
  cases entries.find "actions_active" with
  | none => rfl
  | some member => exact readBoolean_protect _ member.2

theorem value_of_find {α : Type} {entries : Entries α} {name : String}
    {member : StringToken × SyntaxTree α} (h : entries.find name = some member) :
    member.1.value = text name := by
  have hfound := List.find?_some h
  simpa using hfound

/-- When the object is decoded, and what comes out. -/
theorem decodeRow_text (t : StatusText) {status : TriggerStatus} :
    decodeRow (protectEntries t.entries).values = .ok status ↔
      t.actionsActive = some status.actionsActive ∧
        (t.finalized.value = status.finalizedHeight ∧ status.finalizedHeight ≤ u64Max ∧
          t.finalized.IsReadable finalizedHeight) ∧
        (t.admission.value = status.admissionHeight ∧ status.admissionHeight ≤ u64Max ∧
          t.admission.IsReadable admissionHeight) ∧
        status.admissionHeight = status.finalizedHeight + 1 := by
  have hfinalized := readUint_height t.finalized (value_of_find t.finalized_at) (.inl rfl)
    status.finalizedHeight
  have hadmission := readUint_height t.admission (value_of_find t.admission_at) (.inr rfl)
    status.admissionHeight
  rw [decodeRow_ok_iff, actionsActive_protect, get_protectEntries, get_protectEntries,
    t.finalized_at, t.admission_at]
  exact and_congr_right fun _ => and_congr hfinalized (and_congr_left fun _ => hadmission)

theorem decodeRow_of_ok {t : StatusText} {status : TriggerStatus}
    (h : decodeTriggerStatusJson t.text = .ok status) :
    splitsEntries t.entries = false ∧ decodeRow (protectEntries t.entries).values = .ok status := by
  rw [decodeTriggerStatusJson_text] at h
  cases hsplits : splitsEntries t.entries with
  | true =>
    rw [hsplits] at h
    cases h
  | false =>
    rw [hsplits] at h
    exact ⟨rfl, h⟩

/-- The values of the literals come out exactly or not at all, whatever else stands in the text. -/
theorem returned_exact (t : StatusText) (status : TriggerStatus)
    (h : decodeTriggerStatusJson t.text = .ok status) :
    t.finalized.value = status.finalizedHeight ∧ t.admission.value = status.admissionHeight ∧
      status.finalizedHeight ≤ 2^64 - 1 ∧ status.admissionHeight ≤ 2^64 - 1 ∧
      status.admissionHeight = status.finalizedHeight + 1 := by
  obtain ⟨-, hfinalized, hadmission, hnext⟩ := (decodeRow_text t).mp (decodeRow_of_ok h).2
  exact ⟨hfinalized.1, hadmission.1, hfinalized.2.1, hadmission.2.1, hnext⟩

/-- A text that is safe is accepted with the heights that it asks for. -/
theorem accepted_of_isSafe {t : StatusText} (ht : t.IsSafe) {height : Nat} {active : Bool}
    (hasks : t.Asks height active) :
    decodeTriggerStatusJson t.text = .ok ⟨height, height + 1, active⟩ := by
  obtain ⟨hlt, hfinalized, hadmission, hactive⟩ := hasks
  have hmax : height ≤ u64Max ∧ height + 1 ≤ u64Max := by
    rw [u64Max, TriggerState.TypeScript.u64Max]
    omega
  have hnext : t.admission.value = (height + 1 : Nat) := by
    rw [hadmission]
    rfl
  have hrow : decodeRow (protectEntries t.entries).values = .ok ⟨height, height + 1, active⟩ :=
    (decodeRow_text t).mpr ⟨hactive, ⟨hfinalized, hmax.1, ht.finalized⟩,
      ⟨hnext, hmax.2, ht.admission⟩, rfl⟩
  rw [decodeTriggerStatusJson_text, ht.whole]
  exact hrow

/-- The decoder is exact on a text if and only if, when it ought to accept it, no number behind one
of the keys is cut in two and both heights can be read. -/
theorem decodeTriggerStatusJson_exact_iff (t : StatusText) :
    t.Exact ↔ ((∃ height active, t.Asks height active) → t.IsSafe) := by
  constructor
  · intro hexact hasks
    obtain ⟨height, active, hasks⟩ := hasks
    have hdecode := hexact.accepted height active hasks
    obtain ⟨hwhole, hrow⟩ := decodeRow_of_ok hdecode
    obtain ⟨-, hfinalized, hadmission, -⟩ := (decodeRow_text t).mp hrow
    exact ⟨hwhole, hfinalized.2.2, hadmission.2.2⟩
  · intro hsafe
    refine ⟨returned_exact t, ?_⟩
    intro height active hasks
    exact accepted_of_isSafe (hsafe ⟨height, active, hasks⟩) hasks

def noSpace : Space := ⟨[], by simp⟩

/-- A name without white space and escapes. -/
def plainKey (name : List Char) (h : IsPlain name) : KeyToken :=
  ⟨noSpace, .plain name h, noSpace, noSpace⟩

def digitNumber (d : Digit) : NumberToken := ⟨false, ⟨[d], by simp⟩, none, none, by simp⟩

def halfNumber : NumberToken := ⟨false, ⟨[0], by simp⟩, some ⟨[5], by simp⟩, none, by simp⟩

def previousEntry : Entries Scalar :=
  .last (plainKey finalizedHeight finalizedHeight_plain) (.leaf (.number halfNumber)) noSpace

def nestedEntries : Entries Scalar :=
  .cons (plainKey finalizedHeight finalizedHeight_plain) (.leaf (.number (digitNumber 1))) noSpace <|
  .cons (plainKey admissionHeight admissionHeight_plain) (.leaf (.number (digitNumber 2))) noSpace <|
  .cons (plainKey "actions_active".toList (by decide)) (.leaf (.bool true)) noSpace <|
  .last (plainKey "previous".toList (by decide)) (.object previousEntry) noSpace

def nestedText : StatusText where
  before := noSpace
  entries := nestedEntries
  after := noSpace
  finalized := ⟨.plain finalizedHeight finalizedHeight_plain, digitNumber 1, rfl⟩
  admission := ⟨.plain admissionHeight admissionHeight_plain, digitNumber 2, rfl⟩
  finalized_at := by rfl
  admission_at := by rfl

/-- The fraction is cut off the quoted number, and a well-formed text is called malformed. -/
theorem nestedText_malformed :
    nestedText.text = ("\x7b\"finalized_height\":1,\"admission_height\":2,\"actions_active\":true," ++
      "\"previous\":\x7b\"finalized_height\":0.5\x7d\x7d").toList ∧
    decodeTriggerStatusJson nestedText.text = reject "malformed JSON" ∧ ¬ nestedText.Exact := by
  have hdecode : decodeTriggerStatusJson nestedText.text = reject "malformed JSON" := by
    rw [decodeTriggerStatusJson_text]
    rfl
  refine ⟨by decide, hdecode, ?_⟩
  intro hexact
  have hasks : nestedText.Asks 1 true := ⟨by norm_num, by decide, by decide, by decide⟩
  rw [hexact.accepted 1 true hasks] at hdecode
  cases hdecode

end TradingSdk.TriggerHeights
