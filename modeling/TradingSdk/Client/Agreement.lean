import TradingSdk.Client.SubmitAction

namespace TradingSdk.Client

open Json Serde

/-- The classes of a response. A transaction hash is a text. -/
inductive SubmitClass where
  | accepted
  | engineRejection (code : Double)
  | pending (hash : Text)
  | malformed

def TxResult.submitClass (r : TxResult) : Option SubmitClass :=
  match r.outcome, r.hash with
  | .ok, _ => some .accepted
  | .engine, _ => some (.engineRejection r.code)
  | .timeout, .string hash => some (.pending hash)
  | .timeout, _ => none
  | .transport, _ => some .malformed

/-- The class of a TypeScript submission. A throw has none. -/
def tsClass (x : Except ClientError TxResult) : Option SubmitClass :=
  match x with
  | .ok r => r.submitClass
  | .error _ => none

/-- The class of a Python submission. An exception that is none of the SDK's own has none. -/
def pyClass : SubmitOutcome → Option SubmitClass
  | .accepted _ => some .accepted
  | .engineError code _ => some (.engineRejection (.finite code))
  | .submissionPending (.text hash) _ => some (.pending hash)
  | .submissionPending (.rendering _) _ => none
  | .transportError _ => some .malformed
  | .escaped => none

def Agree (x : Except ClientError TxResult) (y : SubmitOutcome) : Prop :=
  ∃ c, tsClass x = some c ∧ pyClass y = some c

/-- The code that a text announces to the pattern of the TypeScript client. -/
def announcedTs (s : Text) : Double := (parseLeadingErrorCode s).getD (.finite 1)

/-- A text of each client announces one code of 32 bits, and the message that Python keeps is
UTF-8. -/
def SameCode (ts py : Text) : Prop :=
  ∃ code : Nat, announcedTs ts = .finite code ∧ code < 2^32 ∧ leadingCodeOrOne (.text py) = .ok code ∧
    isUtf8 (py.take 200) = true

/-- An object rejects with a code: in an integer member beside a message that is text, or without
one, an acknowledgement and a hash, in its error text. -/
def RejectsWith (data : Members) (code : Nat) : Prop :=
  match integerCode data with
  | some n => n = code ∧ code < 2^32 ∧ code ≠ 0 ∧ ∃ message,
      orElse (data.get "message") (orElse (data.get "log") (orElse (data.get "error")
        (some (.string [])))) = some (.string message) ∧ isUtf8 message = true
  | none =>
    isText (data.get "status") "ok" = false ∧ isTruthyPy (data.get "txHash") = false ∧
      isTruthyPy (data.get "tx_hash") = false ∧
      ((errorMessage data).isEmpty = false ∨ isText (data.get "status") "error" = true) ∧
      leadingCodeOrOne (errorMessage data) = .ok code ∧ code < 2^32 ∧
      (errorMessage data).isUtf8 = true

/-- The objects that both clients read alike. -/
def MembersAlike (raw : Text) (data : Members) : Prop :=
  match data.get "code" with
  | some (.number n) =>
    n.toDouble = .finite 0 ∧ (n.isInteger = true ∨ isText (data.get "status") "ok" = true) ∨
      ∃ code : Nat, n.toDouble = .finite code ∧ RejectsWith data code ∧
        (code = 50 → isOptionalText (coalesce (data.get "log") (data.get "error")) = true)
  | _ =>
    isText (data.get "status") "ok" = true ∨
      (∃ hash, data.get "txHash" = some (.string hash) ∧ hash ≠ []) ∨
      isTruthy (data.get "txHash") = false ∧ ∃ errMsg, ∃ code : Nat,
        coalesce (data.get "error") (some (.string raw)) = some (.string errMsg) ∧
        announcedTs errMsg = .finite code ∧ RejectsWith data code

/-- The bodies that both clients read alike. An object with a constant is only raw text to the
TypeScript client. -/
def ReadAlike (raw : String) : Prop :=
  match jsonLoads raw with
  | .error .tooManyDigits => False
  | .ok (.object data) =>
    if (Value.object data).hasConstant then
      ∃ code : Nat, announcedTs (text raw) = .finite code ∧ RejectsWith data code
    else MembersAlike (text raw) data
  | .ok (.string s) => SameCode (text raw) (strip s)
  | _ => SameCode (text raw) (strip (text raw))

theorem engineError_class (code : Int) (message : PyText) (c : SubmitClass) :
    pyClass (engineError code message) = some c ↔ ∃ n : Nat, code = n ∧ n < 2^32 ∧
      message.isUtf8 = true ∧ c = .engineRejection (.finite n) := by
  rw [engineError]
  split_ifs with h
  · obtain ⟨hlo, hhi, hutf8⟩ := h
    obtain ⟨n, rfl⟩ := Int.eq_ofNat_of_zero_le hlo
    constructor
    · intro hc
      exact ⟨n, rfl, by exact_mod_cast hhi, hutf8, (Option.some.inj hc).symm⟩
    · rintro ⟨m, hm, -, -, rfl⟩
      obtain rfl := Int.ofNat.inj hm
      rfl
  · constructor
    · intro hc
      cases hc
    · rintro ⟨n, rfl, hn, hutf8, -⟩
      exact absurd ⟨Int.natCast_nonneg n, by exact_mod_cast hn, hutf8⟩ h

/-- A pending submission is neither accepted nor rejected. -/
theorem submissionPending_class {txHash message : PyText} {c : SubmitClass}
    (h : pyClass (.submissionPending txHash message) = some c) : ∃ hash, c = .pending hash := by
  cases txHash with
  | text hash => exact ⟨hash, (Option.some.inj h).symm⟩
  | rendering v => cases h

theorem engineErrorFrom_class (source message : PyText) (c : SubmitClass) :
    pyClass (engineErrorFrom source message) = some c ↔ ∃ n : Nat,
      leadingCodeOrOne source = .ok n ∧ n < 2^32 ∧ message.isUtf8 = true ∧
      c = .engineRejection (.finite n) := by
  rw [engineErrorFrom]
  cases leadingCodeOrOne source with
  | error e => simp [pyClass]
  | ok code =>
    simp only [engineError_class, Except.ok.injEq]
    constructor
    · rintro ⟨n, hn, h⟩
      exact ⟨n, Int.ofNat.inj hn, h⟩
    · rintro ⟨n, rfl, h⟩
      exact ⟨code, rfl, h⟩

theorem submitText_class (s : Text) (c : SubmitClass) :
    pyClass (submitText s) = some c ↔ ∃ n : Nat, leadingCodeOrOne (.text s) = .ok n ∧ n < 2^32 ∧
      isUtf8 (s.take 200) = true ∧ c = .engineRejection (.finite n) := by
  have hmessage : (PyText.text (if (s.take 200).isEmpty then text "unknown gateway error"
      else s.take 200)).isUtf8 = isUtf8 (s.take 200) := by
    rw [PyText.isUtf8]
    split_ifs with hempty
    · rw [List.isEmpty_iff.mp hempty]
      decide +kernel
    · rfl
  rw [submitText, engineErrorFrom_class, hmessage]

theorem leadingCodeOrOne_ne_zero {source : PyText} {n : Nat}
    (h : leadingCodeOrOne source = .ok n) : n ≠ 0 := by
  rw [leadingCodeOrOne] at h
  cases hfound : leadingErrorCode source with
  | error e =>
    rw [hfound] at h
    cases h
  | ok found =>
    rw [hfound] at h
    obtain rfl := Except.ok.inj h
    dsimp only
    split_ifs with hzero
    · exact one_ne_zero
    · exact hzero

theorem RejectsWith.ne_zero {data : Members} {code : Nat} (h : RejectsWith data code) :
    code ≠ 0 := by
  rw [RejectsWith] at h
  split at h
  · exact h.2.2.1
  · exact leadingCodeOrOne_ne_zero h.2.2.2.2.1

/-- An acknowledgement without a code is accepted. -/
theorem submitCodeless_of_ok {data : Members} (h : isText (data.get "status") "ok" = true) :
    submitCodeless data = .accepted data := by
  rw [submitCodeless, if_pos h]

theorem submitCodeless_of_hash {data : Members} (hstatus : isText (data.get "status") "ok" = false)
    (hhash : isTruthyPy (orElse (data.get "txHash") (data.get "tx_hash")) = true) :
    ∃ message, submitCodeless data = .submissionPending
      (str ((orElse (data.get "txHash") (data.get "tx_hash")).getD .null)) message := by
  rw [submitCodeless, if_neg (by simp [hstatus])]
  exact ⟨_, if_pos hhash⟩

theorem submitCodeless_of_error {data : Members}
    (hstatus : isText (data.get "status") "ok" = false)
    (hhash : isTruthyPy (orElse (data.get "txHash") (data.get "tx_hash")) = false) :
    submitCodeless data =
      if (errorMessage data).isEmpty = false ∨ isText (data.get "status") "error" then
        engineErrorFrom (errorMessage data)
          (if (errorMessage data).isEmpty then .text (text "engine error") else errorMessage data)
      else .transportError data := by
  rw [submitCodeless, if_neg (by simp [hstatus])]
  exact if_neg (by simp [hhash])

theorem isTruthyPy_orElse (a b : Option Value) :
    isTruthyPy (orElse a b) = (isTruthyPy a || isTruthyPy b) := by
  rw [orElse]
  cases h : isTruthyPy a with
  | true => exact h
  | false => rfl

theorem PyText.isUtf8_of_isEmpty {s : PyText} (h : s.isEmpty = true) : s.isUtf8 = true := by
  match s with
  | .text s =>
    rw [PyText.isUtf8, List.isEmpty_iff.mp h]
    rfl
  | .rendering v => rfl

theorem submitCodeless_rejects (data : Members) (d : Double) :
    pyClass (submitCodeless data) = some (.engineRejection d) ↔ ∃ code : Nat, d = .finite code ∧
      isText (data.get "status") "ok" = false ∧ isTruthyPy (data.get "txHash") = false ∧
      isTruthyPy (data.get "tx_hash") = false ∧
      ((errorMessage data).isEmpty = false ∨ isText (data.get "status") "error" = true) ∧
      leadingCodeOrOne (errorMessage data) = .ok code ∧ code < 2^32 ∧
      (errorMessage data).isUtf8 = true := by
  cases hstatus : isText (data.get "status") "ok" with
  | true =>
    rw [submitCodeless_of_ok hstatus]
    simp [pyClass]
  | false =>
    cases hhash : isTruthyPy (orElse (data.get "txHash") (data.get "tx_hash")) with
    | true =>
      obtain ⟨message, hpending⟩ := submitCodeless_of_hash hstatus hhash
      rw [isTruthyPy_orElse, Bool.or_eq_true] at hhash
      rw [hpending]
      constructor
      · intro h
        obtain ⟨hash, hclass⟩ := submissionPending_class h
        cases hclass
      · rintro ⟨code, -, -, htx, htx', -⟩
        simp [htx, htx'] at hhash
    | false =>
      have hfalsy := hhash
      rw [isTruthyPy_orElse, Bool.or_eq_false_iff] at hfalsy
      have hmessage : (if (errorMessage data).isEmpty then .text (text "engine error")
          else errorMessage data).isUtf8 = (errorMessage data).isUtf8 := by
        split_ifs with hempty
        · rw [PyText.isUtf8_of_isEmpty hempty]
          decide +kernel
        · rfl
      rw [submitCodeless_of_error hstatus hhash]
      by_cases herror : (errorMessage data).isEmpty = false ∨
          isText (data.get "status") "error" = true
      · rw [if_pos herror, engineErrorFrom_class, hmessage]
        constructor
        · rintro ⟨code, hleading, hlt, hutf8, hd⟩
          exact ⟨code, SubmitClass.engineRejection.inj hd, rfl, hfalsy.1, hfalsy.2, herror, hleading,
            hlt, hutf8⟩
        · rintro ⟨code, rfl, -, -, -, -, hleading, hlt, hutf8⟩
          exact ⟨code, hleading, hlt, hutf8, rfl⟩
      · rw [if_neg herror]
        constructor
        · intro h
          cases h
        · rintro ⟨code, -, -, -, -, h, -⟩
          exact absurd h herror

/-- The engine rejections of the Python client. -/
theorem submitData_rejects (data : Members) (d : Double) :
    pyClass (submitData data) = some (.engineRejection d) ↔
      ∃ code : Nat, d = .finite code ∧ RejectsWith data code := by
  rw [submitData]
  simp only [RejectsWith]
  cases hcode : integerCode data with
  | none => exact submitCodeless_rejects data d
  | some n =>
    simp only
    split_ifs with hzero
    · constructor
      · intro h
        cases h
      · rintro ⟨code, -, hn, -, hne, -⟩
        omega
    · split
      · next message heq =>
        rw [engineError_class]
        constructor
        · rintro ⟨code, hn, hlt, hutf8, hd⟩
          refine ⟨code, SubmitClass.engineRejection.inj hd, hn, hlt, ?_, message, heq, hutf8⟩
          rintro rfl
          exact hzero hn
        · rintro ⟨code, rfl, hn, hlt, -, message', heq', hutf8⟩
          rw [heq] at heq'
          obtain rfl := Value.string.inj (Option.some.inj heq')
          exact ⟨code, hn, hlt, hutf8, rfl⟩
      · next hne =>
        constructor
        · intro h
          cases h
        · rintro ⟨code, -, -, -, -, message, heq, -⟩
          exact absurd heq (hne message)

theorem submitCodeless_accepts (data : Members) :
    pyClass (submitCodeless data) = some .accepted ↔ isText (data.get "status") "ok" = true := by
  cases hstatus : isText (data.get "status") "ok" with
  | true =>
    rw [submitCodeless_of_ok hstatus]
    exact ⟨fun _ => rfl, fun _ => rfl⟩
  | false =>
    refine ⟨fun h => ?_, fun h => absurd h Bool.false_ne_true⟩
    cases hhash : isTruthyPy (orElse (data.get "txHash") (data.get "tx_hash")) with
    | true =>
      obtain ⟨message, hpending⟩ := submitCodeless_of_hash hstatus hhash
      rw [hpending] at h
      obtain ⟨hash, hclass⟩ := submissionPending_class h
      cases hclass
    | false =>
      rw [submitCodeless_of_error hstatus hhash] at h
      split_ifs at h
      · obtain ⟨n, -, -, -, hc⟩ := (engineErrorFrom_class _ _ _).mp h
        cases hc
      · obtain ⟨n, -, -, -, hc⟩ := (engineErrorFrom_class _ _ _).mp h
        cases hc
      · cases h

theorem submitData_accepts (data : Members) :
    pyClass (submitData data) = some .accepted ↔
      integerCode data = some 0 ∨
        integerCode data = none ∧ isText (data.get "status") "ok" = true := by
  rw [submitData]
  cases hcode : integerCode data with
  | none => simp [submitCodeless_accepts]
  | some n =>
    simp only
    split_ifs with hzero
    · exact ⟨fun _ => .inl (congrArg some hzero), fun _ => rfl⟩
    · constructor
      · intro h
        split at h
        · obtain ⟨m, -, -, -, hc⟩ := (engineError_class _ _ _).mp h
          cases hc
        · cases h
      · rintro (h | ⟨h, -⟩)
        · exact absurd (Option.some.inj h) hzero
        · cases h

section Gateway

variable (sha256 : Bytes → ContentHash)

theorem txEngineError_class (code : Double) (body : TxResultBody) (c : SubmitClass) :
    tsClass (txEngineError code body) = some c ↔
      (code = .finite 50 → isOptionalText body.log = true) ∧ c = .engineRejection code := by
  rw [← decodeExecError_isOk, txEngineError]
  cases decodeExecError code body.log with
  | error e => simp [tsClass, Except.map]
  | ok info =>
    constructor
    · intro h
      exact ⟨⟨info, rfl⟩, (Option.some.inj h).symm⟩
    · rintro ⟨-, rfl⟩
      rfl

theorem engineText_class (errMsg : Text) :
    tsClass (txEngineError ((parseLeadingErrorCode errMsg).getD (.finite 1))
      { log := some (.string errMsg) }) = some (.engineRejection (announcedTs errMsg)) :=
  (txEngineError_class _ _ _).mpr ⟨fun _ => rfl, rfl⟩

/-- A body without members rejects with the code of its text. -/
theorem gatewayAnswer_text {raw : String} (h : ∀ name, (readGatewayBody raw).member name = none)
    (txBytes : Bytes) : tsClass (gatewayAnswer sha256 (readGatewayBody raw) txBytes) =
      some (.engineRejection (announcedTs (text raw))) := by
  have hunknown : announcedTs (text "unknown gateway error") = announcedTs (text "") := by
    have hparse : parseLeadingErrorCode (text "unknown gateway error") =
        parseLeadingErrorCode (text "") := by decide +kernel
    rw [announcedTs, announcedTs, hparse]
  have hanswer : gatewayAnswer sha256 (readGatewayBody raw) txBytes =
      txEngineError ((parseLeadingErrorCode
        ((readGatewayBody raw).raw.getD (text "unknown gateway error"))).getD (.finite 1))
        { log := some (.string ((readGatewayBody raw).raw.getD (text "unknown gateway error"))) } := by
    simp [gatewayAnswer, h, isText, isTruthy, GatewayBody.errMsg, coalesce, isNullish]
  rw [hanswer, engineText_class]
  by_cases hempty : raw = ""
  · subst hempty
    exact congrArg (fun d => some (SubmitClass.engineRejection d)) hunknown
  · have hraw : (readGatewayBody raw).raw = some (text raw) := by
      rw [readGatewayBody, if_neg hempty]
      split <;> rfl
    rw [hraw]
    rfl

/-- A numeric code. -/
theorem agree_code {data : Members} {n : Number} (hcode : data.get "code" = some (.number n))
    (body : TxResultBody) :
    Agree (txFromEngineCode n.toDouble body) (submitData data) ↔
      n.toDouble = .finite 0 ∧ (n.isInteger = true ∨ isText (data.get "status") "ok" = true) ∨
        ∃ code : Nat, n.toDouble = .finite code ∧ RejectsWith data code ∧
          (code = 50 → isOptionalText body.log = true) := by
  have hinteger : integerCode data = if n.isInteger then some n.toInt else none := by
    rw [integerCode, hcode]
  rw [txFromEngineCode]
  split_ifs with hzero
  · have hagree : Agree (.ok (txOk body)) (submitData data) ↔
        pyClass (submitData data) = some .accepted := by
      constructor
      · rintro ⟨c, hts, hpy⟩
        obtain rfl := Option.some.inj hts
        exact hpy
      · exact fun h => ⟨_, rfl, h⟩
    rw [hagree, submitData_accepts, hinteger]
    constructor
    · intro h
      refine .inl ⟨hzero, ?_⟩
      by_cases hint : n.isInteger = true
      · exact .inl hint
      · rw [if_neg hint] at h
        exact .inr (h.elim (fun h => by cases h) fun h => h.2)
    · rintro (⟨-, hint | hstatus⟩ | ⟨code, hdouble, hrejects, -⟩)
      · left
        by_contra hne
        rw [if_pos hint] at hne
        exact Number.toDouble_ne_zero hint (fun h => hne (congrArg some h)) hzero
      · by_cases hint : n.isInteger = true
        · left
          by_contra hne
          rw [if_pos hint] at hne
          exact Number.toDouble_ne_zero hint (fun h => hne (congrArg some h)) hzero
        · exact .inr ⟨if_neg hint, hstatus⟩
      · rw [hzero, Double.finite.injEq] at hdouble
        exact absurd (by exact_mod_cast hdouble.symm) hrejects.ne_zero
  · constructor
    · rintro ⟨c, hts, hpy⟩
      obtain ⟨hlog, rfl⟩ := (txEngineError_class _ _ _).mp hts
      obtain ⟨code, hdouble, hrejects⟩ := (submitData_rejects _ _).mp hpy
      refine .inr ⟨code, hdouble, hrejects, fun h => hlog ?_⟩
      rw [hdouble, h]
      norm_num
    · rintro (⟨h, -⟩ | ⟨code, hdouble, hrejects, hlog⟩)
      · exact absurd h hzero
      · refine ⟨.engineRejection n.toDouble, (txEngineError_class _ _ _).mpr ⟨fun h => hlog ?_, rfl⟩,
          (submitData_rejects _ _).mpr ⟨code, hdouble, hrejects⟩⟩
        rw [hdouble, Double.finite.injEq] at h
        exact_mod_cast h

theorem isTruthyPy_of_text {v : Option Value} {hash : Text} (h : v = some (.string hash))
    (hne : hash ≠ []) : isTruthyPy v = true := by
  rw [h]
  simpa [isTruthyPy] using hne

/-- What is falsy in JavaScript is falsy in Python. -/
theorem isTruthyPy_of_falsy {v : Option Value} (h : isTruthy v = false) : isTruthyPy v = false := by
  match v with
  | none => rfl
  | some .null => rfl
  | some (.bool b) => exact h
  | some (.number n) =>
    have hzero : n.toDouble = .finite 0 := by simpa [isTruthy] using h
    rw [isTruthyPy]
    split_ifs with hint
    · by_contra hne
      exact Number.toDouble_ne_zero hint (by simpa using hne) hzero
    · simpa using hzero
  | some (.string s) => exact h
  | some (.constant c) => cases h
  | some (.array items) => cases h
  | some (.object members) => cases h

theorem submitData_pending {data : Members} {hash : Text} (hcode : integerCode data = none)
    (hstatus : isText (data.get "status") "ok" = false)
    (hhash : data.get "txHash" = some (.string hash)) (hne : hash ≠ []) :
    pyClass (submitData data) = some (.pending hash) := by
  have htruthy := isTruthyPy_of_text hhash hne
  have hor : orElse (data.get "txHash") (data.get "tx_hash") = some (.string hash) := by
    rw [orElse, if_pos htruthy, hhash]
  obtain ⟨message, hpending⟩ := submitCodeless_of_hash hstatus (hor ▸ isTruthyPy_of_text rfl hne)
  rw [submitData, hcode]
  simp only
  rw [hpending, hor]
  rfl

theorem isTruthy_of_text {hash : Text} (h : isTruthy (some (.string hash)) = true) : hash ≠ [] := by
  rintro rfl
  cases h

/-- An engine rejection of the TypeScript client. -/
theorem agree_engine {x : Except ClientError TxResult} {d : Double} {data : Members}
    (h : tsClass x = some (.engineRejection d)) :
    Agree x (submitData data) ↔ ∃ code : Nat, d = .finite code ∧ RejectsWith data code := by
  rw [← submitData_rejects]
  constructor
  · rintro ⟨c, hts, hpy⟩
    rw [h] at hts
    obtain rfl := Option.some.inj hts
    exact hpy
  · exact fun hpy => ⟨_, h, hpy⟩

/-- Without a numeric code. -/
theorem agree_codeless {data : Members} (hcode : ∀ n, data.get "code" ≠ some (.number n))
    (txHash raw : Text) (log : Option Value) :
    Agree
        (if isText (data.get "status") "ok" then .ok (txOk { hash := some (.string txHash) })
        else if isTruthy (data.get "txHash") then
          .ok (txTimeout ((data.get "txHash").getD .null) log)
        else match coalesce (data.get "error") (some (.string raw)) with
          | some (.string errMsg) =>
            txEngineError ((parseLeadingErrorCode errMsg).getD (.finite 1))
              { log := some (.string errMsg) }
          | _ => .error .typeError) (submitData data) ↔
      isText (data.get "status") "ok" = true ∨
        (∃ hash, data.get "txHash" = some (.string hash) ∧ hash ≠ []) ∨
        isTruthy (data.get "txHash") = false ∧ ∃ errMsg, ∃ code : Nat,
          coalesce (data.get "error") (some (.string raw)) = some (.string errMsg) ∧
          announcedTs errMsg = .finite code ∧ RejectsWith data code := by
  have hinteger : integerCode data = none := by
    rw [integerCode]
    split
    · next n heq => exact absurd heq (hcode n)
    · rfl
  split_ifs with hstatus hhash
  · exact ⟨fun _ => .inl hstatus,
      fun _ => ⟨_, rfl, (submitData_accepts data).mpr (.inr ⟨hinteger, hstatus⟩)⟩⟩
  · rw [Bool.not_eq_true] at hstatus
    constructor
    · rintro ⟨c, hts, -⟩
      right; left
      cases hmember : data.get "txHash" with
      | none =>
        rw [hmember] at hhash
        cases hhash
      | some v =>
        rw [hmember] at hts hhash
        cases v with
        | string hash => exact ⟨hash, rfl, isTruthy_of_text hhash⟩
        | _ => cases hts
    · rintro (hok | ⟨hash, hmember, hne⟩ | ⟨hfalsy, -⟩)
      · exact absurd (hok.symm.trans hstatus) (by decide)
      · rw [hmember]
        exact ⟨.pending hash, rfl, submitData_pending hinteger hstatus hmember hne⟩
      · exact absurd (hhash.symm.trans hfalsy) (by decide)
  · rw [Bool.not_eq_true] at hhash
    have hnohash : ¬ ∃ hash, data.get "txHash" = some (.string hash) ∧ hash ≠ [] := by
      rintro ⟨hash, hmember, hne⟩
      rw [hmember] at hhash
      exact hne (by simpa [isTruthy] using hhash)
    split
    · next errMsg heq =>
      rw [agree_engine (engineText_class errMsg)]
      constructor
      · rintro ⟨code, hannounced, hrejects⟩
        exact .inr (.inr ⟨hhash, errMsg, code, heq, hannounced, hrejects⟩)
      · rintro (hok | htext | ⟨-, errMsg', code, heq', hannounced, hrejects⟩)
        · exact absurd hok hstatus
        · exact absurd htext hnohash
        · obtain rfl := Value.string.inj (Option.some.inj (heq.symm.trans heq'))
          exact ⟨code, hannounced, hrejects⟩
    · next hne =>
      constructor
      · rintro ⟨c, hts, -⟩
        cases hts
      · rintro (hok | htext | ⟨-, errMsg, code, heq, -⟩)
        · exact absurd hok hstatus
        · exact absurd htext hnohash
        · exact absurd heq (hne errMsg)

theorem gatewayAnswer_object {raw : String} {data : Members}
    (h : ∀ name, (readGatewayBody raw).member name = data.get name)
    (hraw : (readGatewayBody raw).raw = some (text raw)) (txBytes : Bytes) :
    Agree (gatewayAnswer sha256 (readGatewayBody raw) txBytes) (submitData data) ↔
      MembersAlike (text raw) data := by
  simp only [gatewayAnswer, MembersAlike, GatewayBody.errMsg, h, hraw, Option.getD_some]
  cases hcode : data.get "code" with
  | none => exact agree_codeless (fun n hn => by simp [hcode] at hn) _ _ _
  | some v =>
    cases v with
    | number n => exact agree_code hcode _
    | _ => exact agree_codeless (fun n hn => by simp [hcode] at hn) _ _ _

end Gateway

theorem member_of_object {raw : String} {data : Members}
    (h : jsonParse raw = some (.object data)) :
    (∀ name, (readGatewayBody raw).member name = data.get name) ∧
      (readGatewayBody raw).raw = some (text raw) := by
  have hne : raw ≠ "" := by
    rintro rfl
    cases h
  rw [readGatewayBody, if_neg hne, h]
  exact ⟨fun _ => rfl, rfl⟩

theorem member_of_other (raw : String) (h : ∀ data, jsonParse raw ≠ some (.object data))
    (name : String) : (readGatewayBody raw).member name = none := by
  rw [readGatewayBody]
  split_ifs
  · rfl
  · cases hjson : jsonParse raw with
    | none => rfl
    | some v =>
      cases v with
      | object data => exact absurd hjson (h data)
      | _ => rfl

theorem jsonParse_of_loads {raw : String} {v : Value} (h : jsonLoads raw = .ok v) :
    jsonParse raw = if v.hasConstant then none else some v := by
  rw [jsonParse, parse_standard h]
  split_ifs <;> rfl

theorem jsonParse_of_malformed {raw : String} (h : jsonLoads raw = .error .malformed) :
    jsonParse raw = none := by
  rw [jsonParse, parse_standard_malformed h]
  rfl

theorem agree_text {x : Except ClientError TxResult} {ts py : Text}
    (h : tsClass x = some (.engineRejection (announcedTs ts))) :
    Agree x (submitText py) ↔ SameCode ts py := by
  constructor
  · rintro ⟨c, hts, hpy⟩
    obtain ⟨n, hleading, hlt, hutf8, rfl⟩ := (submitText_class py c).mp hpy
    rw [h] at hts
    exact ⟨n, SubmitClass.engineRejection.inj (Option.some.inj hts), hlt, hleading, hutf8⟩
  · rintro ⟨n, hannounced, hlt, hleading, hutf8⟩
    exact ⟨_, h, (submitText_class py _).mpr ⟨n, hleading, hlt, hutf8, by rw [hannounced]⟩⟩

theorem toOption_eq_some {α β : Type} {x : Except α β} {b : β} (h : x.toOption = some b) :
    x = .ok b := by
  cases x with
  | error e => cases h
  | ok a => exact congrArg Except.ok (Option.some.inj h)

theorem announcedTs_of_digits {s : Text} {digits : List Nat}
    (h : leadingDigits asciiDigit isJsSpace s = some digits) (hlt : ofDecimal digits < 2^53) :
    announcedTs s = .finite (ofDecimal digits) := by
  rw [announcedTs, parseLeadingErrorCode, h, Option.map_some, Double.ofRat_natCast hlt]
  rfl

theorem announcedTs_of_none {s : Text} (h : leadingDigits asciiDigit isJsSpace s = none) :
    announcedTs s = .finite 1 := by
  rw [announcedTs, parseLeadingErrorCode, h]
  rfl

end TradingSdk.Client
