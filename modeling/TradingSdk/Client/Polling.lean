import TradingSdk.Client.Verifiers
import TradingSdk.Lib.Polling
import TradingSdk.Transition.History

namespace TradingSdk.Client

open Json Transition Polling

/-- `Math.min(pollDelay + 100, 600)`. -/
def nextPollDelay (pollDelay : ℕ) : ℕ := min (pollDelay + 100) 600

def commitBackoff : Backoff := ⟨200, nextPollDelay⟩

def verifyBackoff : Backoff := ⟨250, nextPollDelay⟩

/-- The members that the loops read of a `tx_result`. One that is null counts as absent. -/
structure TxStatus where
  code : Option Double
  height : Option Value
  log : Option Value
  events : Option Value

/-- What a commit makes of one question. A failed fetch and a transaction that is not indexed
bring nothing. -/
def commitPoll : Option TxStatus → Poll
  | none => .nothing
  | some t => .executed (t.code.getD (.finite 0)) t.height t.log t.events

/-- What a verifier makes of it. -/
def verifierPoll : Option TxStatus → Poll
  | none => .nothing
  | some t =>
    .executed (t.code.getD (.finite 0)) t.height (coalesce t.log (some (.string []))) t.events

def commitTimeout (txHash : Value) : TxResult :=
  txTimeout txHash (some (.string (text "submitTxCommit: timed out polling /tx after 9s")))

/-- The loop of `awaitCommit` with the readings of its clock, the first of which sets the
deadline. -/
def commitLoop (txHash : Value) (start : ℤ) (now : ℕ → ℤ) (answer : ℕ → Option TxStatus)
    (fuel : ℕ) : Option TxResult :=
  (poll (fun a => DeliveryState.pollResult txHash (commitPoll a)) (start + 9000) now answer
    fuel 0).map fun
    | .answered _ r => r
    | .expired _ => commitTimeout txHash

/-- The loop of a verifier, which has nothing to deliver when it gives up. -/
def verifyLoop (txHash : Value) (start : ℤ) (now : ℕ → ℤ) (answer : ℕ → Option TxStatus)
    (fuel : ℕ) : Option (Option TxResult) :=
  (poll (fun a => DeliveryState.pollResult txHash (verifierPoll a)) (start + 5000) now answer
    fuel 0).map fun
    | .answered _ r => some r
    | .expired _ => none

/-- `log ?? ""`. -/
def TxResult.logged (r : TxResult) : TxResult :=
  { r with log := coalesce r.log (some (.string [])) }

/-- An absent log classifies like an empty one. -/
theorem logStartsWith_coalesce (log : Option Value) {word : String} (h : text word ≠ []) :
    logStartsWith (coalesce log (some (.string []))) word = logStartsWith log word := by
  have hempty : (text word).isPrefixOf [] = false := by
    cases hword : text word with
    | nil => exact absurd hword h
    | cons c cs => rfl
  match log with
  | none => exact congrArg Except.ok hempty
  | some .null => exact congrArg Except.ok hempty
  | some (.bool b) => rfl
  | some (.number n) => rfl
  | some (.constant c) => rfl
  | some (.string s) => rfl
  | some (.array items) => rfl
  | some (.object members) => rfl

theorem decodeExecError_coalesce (code : Double) (log : Option Value) :
    decodeExecError code (coalesce log (some (.string []))) = decodeExecError code log := by
  rw [decodeExecError, decodeExecError, logStartsWith_coalesce log (by decide),
    logStartsWith_coalesce log (by decide)]

theorem txFromEngineCode_logged (code : Double) (txHash : Value) (height log events : Option Value) :
    txFromEngineCode code
        { hash := some txHash, height, log := coalesce log (some (.string [])), events } =
      (txFromEngineCode code { hash := some txHash, height, log, events }).map TxResult.logged := by
  rw [txFromEngineCode, txFromEngineCode]
  split_ifs with hzero
  · rfl
  · rw [txEngineError, txEngineError, decodeExecError_coalesce]
    cases decodeExecError code log with
    | error e => rfl
    | ok info => rfl

theorem pollResult_verifier (txHash : Value) (a : Option TxStatus) :
    DeliveryState.pollResult txHash (verifierPoll a) =
      (DeliveryState.pollResult txHash (commitPoll a)).map TxResult.logged := by
  cases a with
  | none => rfl
  | some t =>
    rw [verifierPoll, commitPoll, DeliveryState.pollResult, DeliveryState.pollResult,
      txFromEngineCode_logged]
    cases txFromEngineCode (t.code.getD (.finite 0))
      { hash := some txHash, height := t.height, log := t.log, events := t.events } with
    | error e => rfl
    | ok r => rfl

theorem pollCommit_eq (txHash : Value) (polls : List Poll) :
    pollCommit txHash polls =
      (polls.findSome? (DeliveryState.pollResult txHash)).getD (commitTimeout txHash) := by
  induction polls with
  | nil => rfl
  | cons p polls ih =>
    cases p with
    | nothing => exact ih
    | executed code height log events =>
      rw [List.findSome?_cons, DeliveryState.pollResult, pollCommit]
      cases txFromEngineCode code { hash := some txHash, height, log, events } with
      | error e => exact ih
      | ok r => rfl

/-- The first of some answers that a commit would report. -/
def firstVerdict (txHash : Value) (answers : List (Option TxStatus)) : Option TxResult :=
  answers.findSome? fun a => DeliveryState.pollResult txHash (commitPoll a)

theorem pollCommit_answers (txHash : Value) (answers : List (Option TxStatus)) :
    pollCommit txHash (answers.map commitPoll) =
      (firstVerdict txHash answers).getD (commitTimeout txHash) := by
  rw [pollCommit_eq, List.findSome?_map]
  rfl

theorem firstVerdict_logged (txHash : Value) (answers : List (Option TxStatus)) :
    answers.findSome? (fun a => DeliveryState.pollResult txHash (verifierPoll a)) =
      (firstVerdict txHash answers).map TxResult.logged := by
  rw [firstVerdict, List.map_findSome?]
  congr 1
  funext a
  exact pollResult_verifier txHash a

/-- `awaitCommit` with its clock. -/
def awaitCommitTimed (sync : TxResult) (start : ℤ) (now : ℕ → ℤ) (answer : ℕ → Option TxStatus)
    (fuel : ℕ) : Option (Except ClientError TxResult) :=
  if isFinalResult sync then some (.ok sync)
  else if !sync.ok && sync.outcome ≠ .timeout then some (.ok sync)
  else if !isTruthy (some sync.hash) then some (.error (.error "submitTx returned no tx hash"))
  else (commitLoop sync.hash start now answer fuel).map .ok

theorem commitLoop_of_poll {txHash : Value} {start : ℤ} {now : ℕ → ℤ}
    {answer : ℕ → Option TxStatus} {fuel : ℕ} {e : Ending TxResult}
    (h : poll (fun a => DeliveryState.pollResult txHash (commitPoll a)) (start + 9000) now answer
      fuel 0 = some e) :
    commitLoop txHash start now answer fuel =
      some (pollCommit txHash ((e.answers answer).map commitPoll)) := by
  have hfirst : firstVerdict txHash (e.answers answer) = e.result := findSome_of_poll h
  rw [commitLoop, h, Option.map_some, pollCommit_answers, hfirst]
  cases e with
  | answered k r => rfl
  | expired k => rfl

theorem commit_elapsed : commitBackoff.elapsed 17 = 9200 := by decide

theorem verify_elapsed : verifyBackoff.elapsed 10 = 5200 := by decide

/-- On a clock that keeps pace with the sleeps, a commit ends after seventeen requests at most, with
what these requests brought: it goes to sleep for another request only before the deadline, and it
gives up without a result no sooner than nine seconds after its start. -/
theorem awaitCommit_timed (sync : TxResult) {start : ℤ} {now : ℕ → ℤ}
    (answer : ℕ → Option TxStatus) (hstart : start ≤ now 0) (hpaces : commitBackoff.Paces now) :
    ∃ n ≤ 17,
      (∀ fuel, 18 ≤ fuel → awaitCommitTimed sync start now answer fuel =
        some (awaitCommit sync (((List.range n).map answer).map commitPoll))) ∧
      (∀ k < n, now k < start + 9000) ∧
      ((∀ k < n, DeliveryState.pollResult sync.hash (commitPoll (answer k)) = none) →
        start + 9000 ≤ now n) := by
  have hdeadline : start + 9000 ≤ now 0 + commitBackoff.elapsed 17 := by
    rw [commit_elapsed]
    push_cast
    linarith
  obtain ⟨e, he, hquestions⟩ : ∃ e, poll
      (fun a => DeliveryState.pollResult sync.hash (commitPoll a)) (start + 9000) now answer 18 0 =
        some e ∧ e.questions ≤ 17 := poll_ends hpaces hdeadline
  refine ⟨e.questions, hquestions, ?_, inTime_of_poll he, ?_⟩
  · intro fuel hfuel
    have hloop := commitLoop_of_poll (poll_mono hfuel he)
    rw [awaitCommitTimed, awaitCommit, hloop]
    split_ifs <;> rfl
  · intro hnone
    obtain ⟨-, -, hends⟩ := poll_eq_some_iff.mp he
    cases e with
    | answered k r =>
      have hk := hnone k (Nat.lt_succ_self k)
      exact absurd (hk.symm.trans hends.2) (by simp)
    | expired k => exact hends

/-- Seventeen requests in vain, on a clock that stands still but for the sleeps. -/
theorem awaitCommit_timed_elapsed :
    ∃ n ≤ 17, (9000 : ℤ) ≤ commitBackoff.elapsed n ∧ ∀ fuel, 18 ≤ fuel →
      awaitCommitTimed (txOk { hash := some (.string (text "AB")) }) 0
        (fun k => commitBackoff.elapsed k) (fun _ => none) fuel =
      some (awaitCommit (txOk { hash := some (.string (text "AB")) })
        (((List.range n).map fun _ => none).map commitPoll)) := by
  obtain ⟨n, hn, hfuel, -, hlate⟩ := awaitCommit_timed
    (txOk { hash := some (.string (text "AB")) }) (fun _ => none) (le_refl 0)
    (Backoff.paces_elapsed commitBackoff)
  exact ⟨n, hn, hlate fun _ _ => rfl, hfuel⟩

/-- A verifier ends after ten requests at most, and delivers what a commit would have reported of
the same answers. It goes to sleep for another request only before its deadline. -/
theorem verify_timed (txHash : Value) {start : ℤ} {now : ℕ → ℤ} (answer : ℕ → Option TxStatus)
    (hstart : start ≤ now 0) (hpaces : verifyBackoff.Paces now) :
    ∃ n ≤ 10, ∃ verdict : Option TxResult,
      pollCommit txHash (((List.range n).map answer).map commitPoll) =
        verdict.getD (commitTimeout txHash) ∧
      (∀ fuel, 11 ≤ fuel →
        verifyLoop txHash start now answer fuel = some (verdict.map TxResult.logged)) ∧
      (∀ k < n, now k < start + 5000) ∧ (verdict = none → start + 5000 ≤ now n) := by
  have hdeadline : start + 5000 ≤ now 0 + verifyBackoff.elapsed 10 := by
    rw [verify_elapsed]
    push_cast
    linarith
  obtain ⟨e, he, hquestions⟩ : ∃ e, poll
      (fun a => DeliveryState.pollResult txHash (verifierPoll a)) (start + 5000) now answer 11 0 =
        some e ∧ e.questions ≤ 10 := poll_ends hpaces hdeadline
  have hlogged : (firstVerdict txHash (e.answers answer)).map TxResult.logged = e.result := by
    rw [← firstVerdict_logged]
    exact findSome_of_poll he
  refine ⟨e.questions, hquestions, firstVerdict txHash (e.answers answer),
    pollCommit_answers _ _, ?_, inTime_of_poll he, ?_⟩
  · intro fuel hfuel
    rw [hlogged, verifyLoop, poll_mono hfuel he]
    cases e with
    | answered k r => rfl
    | expired k => rfl
  · intro hnone
    obtain ⟨-, -, hends⟩ := poll_eq_some_iff.mp he
    rw [hnone] at hlogged
    cases e with
    | answered k r => cases hlogged
    | expired k => exact hends

theorem verify_timed_elapsed :
    ∃ n ≤ 10, ∃ verdict : Option TxResult,
      (∀ fuel, 11 ≤ fuel → verifyLoop (.string (text "AB")) 0 (fun k => verifyBackoff.elapsed k)
        (fun _ => some ⟨none, none, none, none⟩) fuel = some (verdict.map TxResult.logged)) ∧
      (verdict = none → (5000 : ℤ) ≤ verifyBackoff.elapsed n) := by
  obtain ⟨n, hn, verdict, -, hfuel, -, hlate⟩ := verify_timed (.string (text "AB"))
    (fun _ => some ⟨none, none, none, none⟩) (le_refl 0) (Backoff.paces_elapsed verifyBackoff)
  exact ⟨n, hn, verdict, hfuel, hlate⟩

end TradingSdk.Client
