import TradingSdk.Client.TxResult
import TradingSdk.Errors.Manifest

namespace TradingSdk.Errors

open Json Serde
open Display (display)

/-- `classify_error_name`. -/
def classifyErrorName (code : UInt32) (log : Option String) : Option String :=
  (decodeExecErrorKind code log).map DecodedExecErrorKind.name

/-- The `name` of an `EngineError`: `get_error_name(code, message) or "Unknown"`. -/
def engineErrorName (code : UInt32) (message : String) : String :=
  match classifyErrorName code (some message) with
  | none => "Unknown"
  | some name => if name = "" then "Unknown" else name

/-- `execErrorName`. -/
def execErrorName (code : Double) (log : Option Value) : Except Client.ClientError String :=
  if code = .finite 0 then .ok "Ok"
  else (Client.decodeExecError code log).map fun info =>
    match info with
    | none => "UnknownError"
    | some info => info.name

/-- `error_manifest_name`. -/
def errorManifestName (code : UInt32) : Option String :=
  (errorKinds.find? fun kind => kind.code = code).map ErrorKind.name

/-- `error_reference_name`, which the conformance vectors pin. -/
def errorReferenceName (code : UInt32) : Option String → Option String
  | none => errorManifestName code
  | some log => classifyErrorName code (some log)

/-- A log as the clients read it out of JSON. -/
def jsonLog (log : Option String) : Option Value := log.map fun s => .string (text s)

theorem text_isPrefixOf (word s : String) : (text word).isPrefixOf (text s) = startsWith s word := by
  rw [startsWith, Bool.eq_iff_iff, List.isPrefixOf_iff_prefix, List.isPrefixOf_iff_prefix]
  exact List.prefix_map_iff_of_injective fun a b => Char.toNat_inj.mp

/-- The table of the TypeScript client lists the manifest, code 50 apart. -/
theorem errorTable_eq :
    (Client.errorTable.map fun entry => (entry.1, entry.2.name)) =
      (errorKinds.filter (· ≠ .slippageExceeded)).map fun kind => (kind.code.toNat, kind.name) := by
  decide

/-- What the table says of a code that is not 50 is what the manifest says. -/
theorem errorTable_find (code : UInt32) (hfifty : code ≠ 50) :
    (Client.errorTable.find? fun entry => Double.finite entry.1 = .finite code.toNat).map
        (fun entry => entry.2.name) = errorManifestName code := by
  have hpair : (Client.errorTable.find? fun entry => Double.finite entry.1 = .finite code.toNat).map
      (fun entry => entry.2.name) =
      ((Client.errorTable.map fun entry => (entry.1, entry.2.name)).find?
        fun row => row.1 = code.toNat).map Prod.snd := by
    rw [List.find?_map, Option.map_map]
    have hsame : ∀ entry : Nat × Client.ExecErrorInfo,
        decide (Double.finite entry.1 = .finite code.toNat) = decide (entry.1 = code.toNat) := by
      intro entry
      simp
    simp only [hsame]
    rfl
  rw [hpair, errorTable_eq, List.find?_map, Option.map_map, List.find?_filter, errorManifestName]
  congr 2
  funext kind
  have hcode : kind.code.toNat = code.toNat ↔ kind.code = code := UInt32.toNat_inj
  by_cases hkind : kind.code = code
  · have hne : kind ≠ .slippageExceeded := by
      intro heq
      rw [heq] at hkind
      exact hfifty hkind.symm
    simp [hkind, hne]
  · simp [hcode, hkind]

theorem decodeCode50_name (log : String) :
    (decodeCode50 (some log)).name =
      if startsWith log Client.openInterestLogPrefix then "OpenInterestLimitExceeded"
      else if startsWith log Client.slippageLogPrefix then "SlippageExceeded"
      else "AmbiguousCode50" := by
  rw [decodeCode50, apply_ite DecodedExecErrorKind.name, apply_ite DecodedExecErrorKind.name]
  rfl

/-- TypeScript names an engine code and its log as the core does, and throws on neither. -/
theorem decodeExecError_eq (code : UInt32) (log : Option String) :
    ∃ info, Client.decodeExecError (.finite code.toNat) (jsonLog log) = .ok info ∧
      info.map Client.ExecErrorInfo.name = classifyErrorName code log := by
  have hcast : ∀ other : UInt32, Double.finite code.toNat = .finite other.toNat ↔ code = other := by
    intro other
    rw [Double.finite.injEq, Nat.cast_inj, UInt32.toNat_inj]
  by_cases hzero : code = 0
  · subst hzero
    exact ⟨none, rfl, rfl⟩
  have hne : Double.finite code.toNat ≠ .finite 0 := fun h => hzero ((hcast 0).mp h)
  rw [Client.decodeExecError, if_neg hne, classifyErrorName, decodeExecErrorKind, if_neg hzero]
  by_cases hfifty : code = 50
  · have hfifty' : Double.finite code.toNat = .finite 50 := (hcast 50).mpr hfifty
    rw [if_pos hfifty', if_pos hfifty]
    cases log with
    | none => exact ⟨_, rfl, rfl⟩
    | some log =>
      rw [Option.map_some, decodeCode50_name]
      simp only [jsonLog, Option.map_some, Client.logStartsWith, text_isPrefixOf, Except.bind]
      by_cases hopen : startsWith log Client.openInterestLogPrefix = true
      · rw [if_pos hopen, if_pos hopen]
        exact ⟨_, rfl, rfl⟩
      · rw [if_neg hopen, if_neg hopen]
        by_cases hslip : startsWith log Client.slippageLogPrefix = true
        · rw [if_pos hslip, if_pos hslip]
          exact ⟨_, rfl, rfl⟩
        · rw [if_neg hslip, if_neg hslip]
          exact ⟨_, rfl, rfl⟩
  · have hfifty' : Double.finite code.toNat ≠ .finite 50 := fun h => hfifty ((hcast 50).mp h)
    rw [if_neg hfifty', if_neg hfifty]
    refine ⟨_, rfl, ?_⟩
    rw [Option.map_map, Option.map_map]
    exact errorTable_find code hfifty

theorem errorManifestName_eq {code : UInt32} (hfifty : code ≠ 50) (log : Option String) :
    errorManifestName code = classifyErrorName code log := by
  rw [classifyErrorName, decodeExecErrorKind, if_neg hfifty]
  by_cases hzero : code = 0
  · subst hzero
    rfl
  · rw [if_neg hzero, Option.map_map]
    rfl

theorem ErrorKind.name_ne_empty (kind : ErrorKind) : kind.name ≠ "" := by
  cases kind <;> decide

theorem DecodedExecErrorKind.name_ne_empty (d : DecodedExecErrorKind) : d.name ≠ "" := by
  cases d with
  | known kind => exact kind.name_ne_empty
  | slippageExceeded => decide
  | legacyOpenInterestLimitExceeded => decide
  | ambiguousCode50 => decide

theorem engineErrorName_eq (code : UInt32) (message : String) :
    engineErrorName code message = (classifyErrorName code (some message)).getD "Unknown" := by
  rw [engineErrorName, classifyErrorName]
  cases decodeExecErrorKind code (some message) with
  | none => rfl
  | some d => exact if_neg d.name_ne_empty

theorem execErrorName_eq (code : UInt32) (log : Option String) :
    execErrorName (.finite code.toNat) (jsonLog log) =
      .ok (if code = 0 then "Ok" else (classifyErrorName code log).getD "UnknownError") := by
  by_cases hzero : code = 0
  · subst hzero
    rfl
  · have hne : Double.finite code.toNat ≠ .finite 0 := by
      rw [ne_eq, Double.finite.injEq, Nat.cast_eq_zero]
      exact fun h => hzero (UInt32.toNat_inj.mp h)
    obtain ⟨info, hinfo, hname⟩ := decodeExecError_eq code log
    rw [execErrorName, if_neg hne, if_neg hzero, hinfo, ← hname]
    cases info with
    | none => rfl
    | some info => rfl

/-- The three decoders agree on every code and every log, the reference on all but a bare code 50.
No code is lost, and the unknown codes are those outside of the manifest. -/
theorem classification_agrees (code : UInt32) (log : Option String) :
    (∃ info, Client.decodeExecError (.finite code.toNat) (jsonLog log) = .ok info ∧
      info.map Client.ExecErrorInfo.name = classifyErrorName code log) ∧
    execErrorName (.finite code.toNat) (jsonLog log) =
      .ok (if code = 0 then "Ok" else (classifyErrorName code log).getD "UnknownError") ∧
    (∀ message, log = some message →
      engineErrorName code message = (classifyErrorName code log).getD "Unknown") ∧
    (errorReferenceName code log = classifyErrorName code log ∨ code = 50 ∧ log = none) ∧
    (classifyErrorName code log = none ↔ code = 0 ∨ 53 < code.toNat ∧ code ≠ 255) ∧
    ∀ d, decodeExecErrorKind code log = some d → d.code = code := by
  refine ⟨decodeExecError_eq code log, execErrorName_eq code log, ?_, ?_, ?_, ?_⟩
  · intro message hlog
    rw [hlog]
    exact engineErrorName_eq code message
  · cases log with
    | some log => exact .inl rfl
    | none =>
      by_cases hfifty : code = 50
      · exact .inr ⟨hfifty, rfl⟩
      · exact .inl (errorManifestName_eq hfifty none)
  · rw [classifyErrorName, Option.map_eq_none_iff]
    exact decodeExecErrorKind_eq_none_iff code log
  · intro d h
    exact decodeExecErrorKind_code h

/-- An error that the engine displays begins as it does however its log is cut off. -/
theorem slippage_log {aggregateBps maxSlippageBps : UInt32} {log : String}
    (h : log.toList <+: (display (ExecError.slippageExceeded aggregateBps maxSlippageBps)).toList) :
    startsWith log Client.openInterestLogPrefix = false := by
  cases hopen : startsWith log Client.openInterestLogPrefix with
  | false => rfl
  | true =>
    exfalso
    rw [startsWith, List.isPrefixOf_iff_prefix] at hopen
    obtain ⟨rest, hrest⟩ := hopen.trans h
    have hhead := congrArg List.head? hrest
    simp [display, Client.openInterestLogPrefix] at hhead

/-- The full text begins with the phrase that its classification looks for. -/
theorem slippage_display (aggregateBps maxSlippageBps : UInt32) :
    startsWith (display (ExecError.slippageExceeded aggregateBps maxSlippageBps))
      Client.slippageLogPrefix = true := by
  rw [startsWith, List.isPrefixOf_iff_prefix]
  simp only [display, String.toList_append, List.append_assoc]
  exact List.prefix_append _ _

/-- The name that an error and its log are given. -/
theorem classifyErrorName_execError (e : ExecError) (log : Option String)
    (h : ∀ s, log = some s → s.toList <+: (display e).toList) :
    classifyErrorName e.code log =
      some (if e.kind = .slippageExceeded ∧
          log.any (fun s => startsWith s Client.slippageLogPrefix) = false
        then "AmbiguousCode50" else e.kind.name) := by
  by_cases hkind : e.kind = .slippageExceeded
  · cases e with
    | slippageExceeded aggregateBps maxSlippageBps =>
      cases log with
      | none => rfl
      | some log =>
        have hopen := slippage_log (h log rfl)
        have hname := decodeCode50_name log
        rw [hopen] at hname
        rw [classifyErrorName]
        change some (decodeCode50 (some log)).name = _
        rw [hname]
        cases hslip : startsWith log Client.slippageLogPrefix with
        | false => simp [hslip, hkind]
        | true =>
          simp [hslip]
          rfl
    | _ => cases hkind
  · rw [if_neg fun hand => hkind hand.1, classifyErrorName, ← e.code_kind,
      decodeExecErrorKind_of_kind e.kind hkind]
    rfl

/-- With all of its log an error is named as its own kind. -/
theorem classifyErrorName_display (e : ExecError) :
    classifyErrorName e.code (some (display e)) = some e.kind.name := by
  rw [classifyErrorName_execError e (some (display e)) fun s hs => by
    obtain rfl := Option.some.inj hs
    exact List.prefix_rfl]
  congr 1
  apply if_neg
  intro hcut
  cases e with
  | slippageExceeded aggregateBps maxSlippageBps =>
    have hany := hcut.2
    rw [Option.any_some, slippage_display] at hany
    cases hany
  | _ => cases hcut.1

/-- Every error of the engine is told by its code and its log for what it is, under one name in
all three languages. A log that is missing or cut off never turns it into another error: at worst
the code 50 stays ambiguous. -/
theorem execError_classified (e : ExecError) (log : Option String)
    (h : ∀ s, log = some s → s.toList <+: (display e).toList) :
    ∃ name, classifyErrorName e.code log = some name ∧
      (∃ info, Client.decodeExecError (.finite e.code.toNat) (jsonLog log) = .ok (some info) ∧
        info.name = name) ∧
      (∀ s, log = some s → engineErrorName e.code s = name) ∧
      (name = e.kind.name ∨ e.kind = .slippageExceeded ∧ name = "AmbiguousCode50") ∧
      (log = some (display e) → name = e.kind.name) := by
  have hname := classifyErrorName_execError e log h
  refine ⟨_, hname, ?_, ?_, ?_, ?_⟩
  · obtain ⟨info, hinfo, hclass⟩ := decodeExecError_eq e.code log
    rw [hname] at hclass
    obtain ⟨info', rfl, hinfo'⟩ := Option.map_eq_some_iff.mp hclass
    exact ⟨info', hinfo, hinfo'⟩
  · intro s hlog
    rw [engineErrorName_eq, ← hlog, hname]
    rfl
  · split_ifs with hcut
    · exact .inr ⟨hcut.1, rfl⟩
    · exact .inl rfl
  · intro hlog
    rw [hlog, classifyErrorName_display] at hname
    rw [hlog]
    exact (Option.some.inj hname).symm

theorem execError_classified_cut :
    ∃ name, classifyErrorName 50 (some "atomic basket") = some name ∧ name = "AmbiguousCode50" := by
  obtain ⟨name, hname, -, -, -, -⟩ := execError_classified (.slippageExceeded 51 50)
    (some "atomic basket") (by
      intro s hs
      obtain rfl := Option.some.inj hs
      exact List.isPrefixOf_iff_prefix.mp (by decide +kernel))
  have hcode : classifyErrorName 50 (some "atomic basket") = some "AmbiguousCode50" := by
    decide +kernel
  exact ⟨name, hname, Option.some.inj (hname.symm.trans hcode)⟩

end TradingSdk.Errors
