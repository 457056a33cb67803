import TradingSdk.Client.Agreement
import TradingSdk.Errors.Classify
import TradingSdk.Json.Decimal

namespace TradingSdk.Errors

open Client Json Serde
open Display (display)

/-- A notion of digit that has the ASCII ones and not the colon. -/
structure ReadsAscii (digitValue : Nat → Option Nat) : Prop where
  digit : ∀ d, d < 10 → digitValue (48 + d) = some d
  colon : digitValue 58 = none

theorem asciiDigit_reads : ReadsAscii asciiDigit := by
  constructor
  · decide
  · decide

theorem decimalDigit_reads : ReadsAscii decimalDigit := by
  constructor
  · decide
  · decide

variable {digitValue : Nat → Option Nat} {isSpace : Nat → Bool}

theorem spanDigits_append (h : ReadsAscii digitValue) (digits : List Nat)
    (hdigits : ∀ d ∈ digits, d < 10) (rest : Text) :
    spanDigits digitValue (digits.map (48 + ·) ++ 58 :: rest) = (digits, 58 :: rest) := by
  induction digits with
  | nil => rw [List.map_nil, List.nil_append, spanDigits, h.colon]
  | cons d digits ih =>
    have hd := h.digit d (hdigits d (by simp))
    have htail := ih fun d' hd' => hdigits d' (by simp [hd'])
    simp only [List.map_cons, List.cons_append, spanDigits, hd]
    rw [htail]

/-- The digits in front of a text are found behind neither fewer nor more characters. -/
theorem leadingDigits_display (h : ReadsAscii digitValue) (hspace : isSpace 32 = true) (n : Nat)
    (s : String) :
    leadingDigits digitValue isSpace (text (n.repr ++ ": " ++ s)) = some (decimal n) := by
  have htext : text (n.repr ++ ": " ++ s) =
      (decimal n).map (48 + ·) ++ 58 :: 32 :: text s := by
    rw [text_append, text_append, text_repr]
    simp [text]
  rw [leadingDigits, htext, spanDigits_append h _ (decimal_lt n)]
  cases hdecimal : decimal n with
  | nil => exact absurd hdecimal (decimal_ne_nil n)
  | cons d digits => simp [hspace]

/-- The error text of a gateway without a member for the code. -/
def codedText (e : ExecError) : String := display e.code ++ ": " ++ display e

theorem parseLeadingErrorCode_codedText (e : ExecError) :
    parseLeadingErrorCode (text (codedText e)) = some (.finite e.code.toNat) := by
  have hdigits : leadingDigits asciiDigit isJsSpace (text (codedText e)) =
      some (decimal e.code.toNat) :=
    leadingDigits_display asciiDigit_reads (by decide) e.code.toNat (display e)
  have hsmall : e.code.toNat < 2^53 := e.code.toNat_lt.trans (by norm_num)
  rw [parseLeadingErrorCode, hdigits, Option.map_some, ofDecimal_decimal,
    Double.ofRat_natCast hsmall]

theorem leadingErrorCode_codedText (e : ExecError) :
    leadingErrorCode (.text (text (codedText e))) = .ok (some e.code.toNat) := by
  have hdigits : leadingDigits decimalDigit isPySpace (text (codedText e)) =
      some (decimal e.code.toNat) :=
    leadingDigits_display decimalDigit_reads (by decide) e.code.toNat (display e)
  have hshort : (decimal e.code.toNat).length ≤ 10 :=
    length_decimal_le (by norm_num) (e.code.toNat_lt.trans (by norm_num))
  simp only [leadingErrorCode, hdigits]
  rw [pyInt, if_neg (by omega), ofDecimal_decimal]
  rfl

theorem ExecError.code_toNat_ne_zero (e : ExecError) : e.code.toNat ≠ 0 := by
  rw [← e.code_kind]
  intro h
  exact e.kind.code_ne_zero (UInt32.toNat_inj.mp h)

theorem ExecError.display_ne_empty (e : ExecError) : display e ≠ "" := by
  cases e <;> simp [display]

theorem text_ne_nil {s : String} (h : s ≠ "") : text s ≠ [] := by
  intro hnil
  apply h
  rw [← String.toList_eq_nil_iff]
  exact List.map_eq_nil_iff.mp hnil

theorem isUtf8_text (s : String) : isUtf8 (text s) = true := by
  rw [isUtf8, text, List.all_map, List.all_eq_true]
  intro c _
  have hvalid : c.toNat < 0xd800 ∨ 0xdfff < c.toNat ∧ c.toNat < 0x110000 := c.valid
  simp only [isHighSurrogate, isLowSurrogate, Function.comp_apply, Bool.and_eq_true,
    Bool.not_eq_true', Bool.and_eq_false_iff, decide_eq_false_iff_not]
  omega

/-- The objects with which a gateway reports an error of the engine, and the text that they carry:
the code as a member with the log beside it, or all of it in an error text. -/
inductive Reports (data : Members) (e : ExecError) : String → Prop
  | code (n : Number) (hcode : data.get "code" = some (.number n)) (hinteger : n.isInteger = true)
      (hvalue : n.toInt = e.code.toNat) (hlog : data.get "log" = some (.string (text (display e))))
      (hmessage : isTruthyPy (data.get "message") = false) : Reports data e (display e)
  | text (hcode : ∀ n, data.get "code" ≠ some (.number n))
      (hstatus : isText (data.get "status") "ok" = false)
      (htxHash : isTruthy (data.get "txHash") = false)
      (htxHash' : isTruthyPy (data.get "tx_hash") = false)
      (herror : data.get "error" = some (.string (Json.text (codedText e)))) :
      Reports data e (codedText e)

theorem startsWith_of_head_ne {s : String} (word : String) {c d : Char} {cs ds : List Char}
    (hs : s.toList = c :: cs) (hword : word.toList = d :: ds) (hne : d ≠ c) :
    startsWith s word = false := by
  rw [startsWith, hs, hword, List.isPrefixOf, beq_false_of_ne hne, Bool.false_and]

/-- A text that begins with the code has lost the phrase that tells code 50 apart. -/
theorem classifyErrorName_codedText (aggregateBps maxSlippageBps : UInt32) :
    classifyErrorName 50 (some (codedText (.slippageExceeded aggregateBps maxSlippageBps))) =
      some "AmbiguousCode50" := by
  have hlist : ∃ cs, (codedText (.slippageExceeded aggregateBps maxSlippageBps)).toList =
      '5' :: cs := by
    have hcode : (50 : UInt32).toNat.repr.toList = ['5', '0'] := by
      rw [Nat.toList_repr]
      decide
    refine ⟨'0' :: (": ".toList ++
      (display (ExecError.slippageExceeded aggregateBps maxSlippageBps)).toList), ?_⟩
    change ((50 : UInt32).toNat.repr ++ ": " ++ _).toList = _
    rw [String.toList_append, String.toList_append, hcode]
    rfl
  obtain ⟨cs, hcs⟩ := hlist
  have hopen := startsWith_of_head_ne openInterestLogPrefix hcs rfl (by decide)
  have hslip := startsWith_of_head_ne slippageLogPrefix hcs rfl (by decide)
  have hname := decodeCode50_name (codedText (.slippageExceeded aggregateBps maxSlippageBps))
  rw [hopen, hslip] at hname
  exact congrArg some hname

theorem classifyErrorName_reports {data : Members} {e : ExecError} {log : String}
    (h : Reports data e log) :
    ∃ name, classifyErrorName e.code (some log) = some name ∧
      (name = e.kind.name ∨
        e.kind = .slippageExceeded ∧ log = codedText e ∧ name = "AmbiguousCode50") := by
  cases h with
  | code => exact ⟨_, classifyErrorName_display e, .inl rfl⟩
  | text =>
    by_cases hkind : e.kind = .slippageExceeded
    · cases e with
      | slippageExceeded aggregateBps maxSlippageBps =>
        exact ⟨_, classifyErrorName_codedText aggregateBps maxSlippageBps, .inr ⟨rfl, rfl, rfl⟩⟩
      | _ => cases hkind
    · refine ⟨e.kind.name, ?_, .inl rfl⟩
      rw [classifyErrorName, ← e.code_kind, decodeExecErrorKind_of_kind e.kind hkind]
      rfl

theorem engineError_text (e : ExecError) (s : String) :
    engineError e.code.toNat (.text (text s)) = .engineError e.code.toNat (.text (text s)) := by
  have hlt : (e.code.toNat : Int) < 2^32 := by exact_mod_cast e.code.toNat_lt
  rw [engineError, if_pos ⟨Int.natCast_nonneg _, hlt, isUtf8_text s⟩, Int.toNat_natCast]

theorem submitData_reports {data : Members} {e : ExecError} {log : String}
    (h : Reports data e log) :
    submitData data = .engineError e.code.toNat (.text (text log)) := by
  cases h with
  | code n hcode hinteger hvalue hlog hmessage =>
    have hinteger' : integerCode data = some (e.code.toNat : Int) := by
      rw [integerCode, hcode]
      simp only
      rw [if_pos hinteger, hvalue]
    have hne : (e.code.toNat : Int) ≠ 0 := by exact_mod_cast e.code_toNat_ne_zero
    have htruthy := isTruthyPy_of_text hlog (text_ne_nil e.display_ne_empty)
    have hsource : orElse (data.get "message") (orElse (data.get "log") (orElse (data.get "error")
        (some (.string [])))) = some (.string (text (display e))) := by
      rw [orElse, if_neg (by simp [hmessage]), orElse, if_pos htruthy, hlog]
    rw [submitData, hinteger']
    simp only
    rw [if_neg hne, hsource]
    exact engineError_text e (display e)
  | text hcode hstatus htxHash htxHash' herror =>
    have hinteger : integerCode data = none := by
      rw [integerCode]
      split
      · next n hn => exact absurd hn (hcode n)
      · rfl
    have hhash : isTruthyPy (orElse (data.get "txHash") (data.get "tx_hash")) = false := by
      rw [isTruthyPy_orElse, isTruthyPy_of_falsy htxHash, htxHash']
      rfl
    have hne : codedText e ≠ "" := by simp [codedText]
    have htruthy := isTruthyPy_of_text herror (text_ne_nil hne)
    have hmessage : errorMessage data = .text (text (codedText e)) := by
      rw [errorMessage, orElse, if_pos htruthy, herror]
      rfl
    have hfull : (PyText.text (text (codedText e))).isEmpty = false := by
      rw [PyText.isEmpty, List.isEmpty_eq_false_iff]
      exact text_ne_nil hne
    have hcodeOr : leadingCodeOrOne (.text (text (codedText e))) = .ok e.code.toNat := by
      rw [leadingCodeOrOne, leadingErrorCode_codedText]
      exact congrArg Except.ok (if_neg e.code_toNat_ne_zero)
    rw [submitData, hinteger]
    simp only
    rw [submitCodeless_of_error hstatus hhash, hmessage, if_pos (.inl hfull), hfull,
      if_neg Bool.false_ne_true, engineErrorFrom, hcodeOr]
    exact engineError_text e (codedText e)

theorem gatewayAnswer_reports (sha256 : Bytes → ContentHash) {b : GatewayBody} {data : Members}
    {e : ExecError} {log : String} (h : Reports data e log)
    (hmember : ∀ name, b.member name = data.get name) (txBytes : Bytes) :
    ∃ hash height events, gatewayAnswer sha256 b txBytes =
      txEngineError (.finite e.code.toNat)
        { hash, height, log := some (.string (text log)), events } := by
  simp only [gatewayAnswer, hmember, GatewayBody.errMsg]
  cases h with
  | code n hcode hinteger hvalue hlog hmessage =>
    have hlt : n.toInt < 2^53 := by
      rw [hvalue]
      exact_mod_cast e.code.toNat_lt.trans (by norm_num)
    have hdouble : n.toDouble = .finite e.code.toNat := by
      rw [Number.toDouble_of_isInteger hinteger (by omega) hlt, hvalue]
      rfl
    have hne : Double.finite e.code.toNat ≠ .finite 0 := by
      rw [ne_eq, Double.finite.injEq, Nat.cast_eq_zero]
      exact e.code_toNat_ne_zero
    rw [hcode]
    simp only
    rw [hdouble, txFromEngineCode, if_neg hne, hlog]
    exact ⟨_, _, _, rfl⟩
  | text hcode hstatus htxHash htxHash' herror =>
    split
    · next n hn => exact absurd hn (hcode n)
    · rw [if_neg (by simp [hstatus]), if_neg (by simp [htxHash]), herror]
      simp only [coalesce, isNullish, Bool.false_eq_true, if_false]
      rw [parseLeadingErrorCode_codedText]
      exact ⟨none, none, none, rfl⟩

/-- An error of the engine comes through the gateway as a rejection of its code in both clients,
under one name and with the text that the gateway sent. Only a text with the code in front leaves
code 50 ambiguous; no error is ever named as another one. -/
theorem gateway_reports (sha256 : Bytes → ContentHash) {res : Response} {data : Members}
    {e : ExecError} {log : String} (hok : res.isOk = true)
    (hloads : jsonLoads res.body = .ok (.object data))
    (hconstant : (Value.object data).hasConstant = false) (h : Reports data e log)
    (txBytes : Bytes) :
    ∃ r name, submitViaGateway sha256 res txBytes = .ok r ∧ r.ok = false ∧ r.outcome = .engine ∧
      r.code = .finite e.code.toNat ∧ r.log = some (.string (text log)) ∧
      r.error.map ExecErrorInfo.name = some name ∧
      submitAction res.body = .engineError e.code.toNat (.text (text log)) ∧
      engineErrorName e.code log = name ∧
      (name = e.kind.name ∨
        e.kind = .slippageExceeded ∧ log = codedText e ∧ name = "AmbiguousCode50") := by
  have hparse := jsonParse_of_loads hloads
  rw [hconstant] at hparse
  obtain ⟨hmember, -⟩ := member_of_object hparse
  obtain ⟨hash, height, events, hanswer⟩ := gatewayAnswer_reports sha256 h hmember txBytes
  obtain ⟨name, hname, hkind⟩ := classifyErrorName_reports h
  obtain ⟨info, hinfo, hclass⟩ := decodeExecError_eq e.code (some log)
  rw [jsonLog, Option.map_some] at hinfo
  have hresult := submitViaGateway_of_isOk sha256 hok txBytes
  rw [hanswer, txEngineError, hinfo] at hresult
  refine ⟨_, name, hresult, rfl, rfl, rfl, rfl, hclass.trans hname, ?_, ?_, hkind⟩
  · rw [submitAction, hloads]
    exact submitData_reports h
  · rw [engineErrorName_eq, hname]
    rfl

/-- A slippage rejection whose code stands in front of the text only. -/
theorem gateway_reports_codedText :
    let res : Response := ⟨200, "OK", "\x7b\"status\":\"error\",\"error\":" ++
      "\"50: atomic basket aggregate slippage 51 bps exceeds budget 50 bps\"\x7d"⟩
    ∃ r, submitViaGateway (fun _ => ⟨List.replicate 32 0, rfl⟩) res [] = .ok r ∧
      r.outcome = .engine ∧ r.code = .finite 50 ∧
      r.error.map ExecErrorInfo.name = some "AmbiguousCode50" := by
  intro res
  have hread : ((jsonLoads res.body).toOption.any fun v => v.hasConstant = false &&
      isText (v.get "error") (codedText (.slippageExceeded 51 50)) && (v.get "code").isNone &&
      !isText (v.get "status") "ok" && (v.get "txHash").isNone && (v.get "tx_hash").isNone) =
      true := by
    decide +kernel
  obtain ⟨v, hv, hmembers⟩ := (Option.any_eq_true _ _).mp hread
  simp only [Bool.and_eq_true, decide_eq_true_eq, Option.isNone_iff_eq_none, Bool.not_eq_true',
    isText_iff] at hmembers
  obtain ⟨⟨⟨⟨⟨hconstant, herror⟩, hcode⟩, hstatus⟩, htxHash⟩, htxHash'⟩ := hmembers
  cases v with
  | object data =>
    have hreports : Reports data (.slippageExceeded 51 50) (codedText (.slippageExceeded 51 50)) := by
      refine .text ?_ hstatus ?_ ?_ herror
      · intro n hn
        exact absurd (hn.symm.trans hcode) (by simp)
      · exact congrArg isTruthy htxHash
      · exact congrArg isTruthyPy htxHash'
    obtain ⟨r, name, hresult, -, houtcome, hrcode, -, hname, -, hengine, -⟩ :=
      @gateway_reports (fun _ => ⟨List.replicate 32 0, rfl⟩) res data (.slippageExceeded 51 50) _ rfl
        (toOption_eq_some hv) hconstant hreports []
    refine ⟨r, hresult, houtcome, hrcode, ?_⟩
    rw [hname, ← hengine, engineErrorName_eq]
    exact congrArg (fun n : Option String => some (n.getD "Unknown"))
      (classifyErrorName_codedText 51 50)
  | _ => cases herror

end TradingSdk.Errors
