import TradingSdk.Client.Polling

namespace TradingSdk.Client.DeliveryState

open Json Serde Transition

variable {Drain : Type}

/-- What the polls of a verifier brought in a run. -/
def pollsOf (v : Nat) (es : List (DeliveryEvent Drain)) : List Poll :=
  es.filterMap fun
    | .polled verifier poll _ => if verifier = v then some poll else none
    | _ => none

/-- A submission of the run is open and carries this hash. -/
def Submitted (es : List (DeliveryEvent Drain)) (r : TxResult) : Prop :=
  ∃ now now', .submitted r now now' ∈ es ∧ isTruthy (some r.hash) = true ∧ isFinalResult r = false

theorem pollsOf_append (v : Nat) (es : List (DeliveryEvent Drain)) (e : DeliveryEvent Drain) :
    pollsOf v (es ++ [e]) = pollsOf v es ++ pollsOf v [e] := List.filterMap_append

theorem pollsOf_polled (v u : Nat) (poll : Poll) (now : Int) :
    pollsOf v [(.polled u poll now : DeliveryEvent Drain)] = if u = v then [poll] else [] := by
  rw [pollsOf]
  split_ifs with h <;> simp [h]

theorem Submitted.append {es : List (DeliveryEvent Drain)} {r : TxResult} (h : Submitted es r)
    (e : DeliveryEvent Drain) : Submitted (es ++ [e]) r := by
  obtain ⟨now, now', hmem, hopen⟩ := h
  exact ⟨now, now', List.mem_append_left _ hmem, hopen⟩

/-- What a state owes to the events so far: a running verifier has asked in vain, and a result is
the first one among the polls of its verifier. -/
structure Past (es : List (DeliveryEvent Drain)) (s : DeliveryState Drain) : Prop where
  inv : Inv s
  fresh : ∀ v, s.spawned ≤ v → pollsOf v es = []
  asked : ∀ v verifier, s.running v = some verifier →
    (pollsOf v es).findSome? (pollResult verifier.txHash) = none ∧
      ∃ r, Submitted es r ∧ r.hash = verifier.txHash
  seen : ∀ d ∈ s.observed, ∃ r, Submitted es r ∧
    (pollsOf d.verifier es).findSome? (pollResult r.hash) = some d.result

theorem past_init (autoVerifyDelivery : Bool) :
    Past [] (init autoVerifyDelivery : DeliveryState Drain) := by
  refine ⟨inv_init autoVerifyDelivery, fun _ _ => rfl, ?_, ?_⟩
  · intro v verifier h
    cases h
  · intro d hd
    cases hd

/-- A result stays the first one whatever is polled later. -/
theorem Past.seen_append {es : List (DeliveryEvent Drain)} {s : DeliveryState Drain}
    (h : Past es s) (e : DeliveryEvent Drain) :
    ∀ d ∈ s.observed, ∃ r, Submitted (es ++ [e]) r ∧
      (pollsOf d.verifier (es ++ [e])).findSome? (pollResult r.hash) = some d.result := by
  intro d hd
  obtain ⟨r, hr, hfirst⟩ := h.seen d hd
  refine ⟨r, hr.append e, ?_⟩
  rw [pollsOf_append, List.findSome?_append, hfirst]
  rfl

/-- An event that polls nothing and leaves the verifiers alone. -/
theorem Past.idle {es : List (DeliveryEvent Drain)} {s s' : DeliveryState Drain} (h : Past es s)
    (hinv : Inv s') {e : DeliveryEvent Drain} (hpolls : ∀ v, pollsOf v [e] = [])
    (hrunning : s'.running = s.running) (hspawned : s'.spawned = s.spawned)
    (hobserved : s'.observed = s.observed) : Past (es ++ [e]) s' := by
  have hsame : ∀ v, pollsOf v (es ++ [e]) = pollsOf v es := by
    intro v
    rw [pollsOf_append, hpolls, List.append_nil]
  refine ⟨hinv, ?_, ?_, ?_⟩
  · intro v hv
    rw [hsame]
    exact h.fresh v (hspawned ▸ hv)
  · intro v verifier hv
    rw [hrunning] at hv
    obtain ⟨hnone, r, hr, hhash⟩ := h.asked v verifier hv
    rw [hsame]
    exact ⟨hnone, r, hr.append e, hhash⟩
  · rw [hobserved]
    exact h.seen_append e

theorem drainLoop_frame [DecidableEq Drain] (s : DeliveryState Drain) (drain : Drain) :
    (s.drainLoop drain).running = s.running ∧ (s.drainLoop drain).spawned = s.spawned ∧
      (s.drainLoop drain).observed = s.observed := by
  rw [drainLoop]
  split_ifs <;> exact ⟨rfl, rfl, rfl⟩

/-- A spawned verifier begins without a poll of its own. -/
theorem Past.spawn {es : List (DeliveryEvent Drain)} {s : DeliveryState Drain} (h : Past es s)
    {r : TxResult} {now now' : Int} (hverifies : s.verifies r = true)
    (hinv : Inv (s.spawnDeliveryVerifier r.hash now now')) :
    Past (es ++ [.submitted r now now']) (s.spawnDeliveryVerifier r.hash now now') := by
  have hsame : ∀ v, pollsOf v (es ++ [.submitted r now now']) = pollsOf v es := by
    intro v
    rw [pollsOf_append]
    exact List.append_nil _
  have hopen : isTruthy (some r.hash) = true ∧ isFinalResult r = false := by
    rw [verifies, Bool.and_eq_true, Bool.and_eq_true, Bool.not_eq_true'] at hverifies
    exact ⟨hverifies.1.2, hverifies.2⟩
  have hsubmitted : Submitted (es ++ [.submitted r now now']) r :=
    ⟨now, now', List.mem_append_right _ (List.mem_singleton_self _), hopen⟩
  refine ⟨hinv, ?_, ?_, h.seen_append _⟩
  · intro v hv
    rw [hsame]
    exact h.fresh v (Nat.le_of_succ_le hv)
  · intro v verifier hv
    rw [hsame]
    by_cases hnew : v = s.spawned
    · subst hnew
      rw [h.fresh s.spawned le_rfl]
      refine ⟨rfl, r, hsubmitted, ?_⟩
      simp only [spawnDeliveryVerifier] at hv
      split_ifs at hv with hpunctual
      · rw [Function.update_self] at hv
        rw [← Option.some.inj hv]
      · obtain ⟨-, q, hq, hhash⟩ := h.asked s.spawned verifier hv
        have hpending := h.inv.made _ (h.inv.pending s.spawned (by simp [hv]))
        exact absurd hpending (Nat.lt_irrefl _)
    · rw [running_spawn s r.hash now now' hnew] at hv
      obtain ⟨hnone, q, hq, hhash⟩ := h.asked v verifier hv
      exact ⟨hnone, q, hq.append _, hhash⟩

/-- The polls of the other verifiers, and of those to come, stay what they are. -/
theorem pollsOf_other {es : List (DeliveryEvent Drain)} {u v : Nat} (poll : Poll) (now : Int)
    (hne : u ≠ v) : pollsOf v (es ++ [.polled u poll now]) = pollsOf v es := by
  rw [pollsOf_append, pollsOf_polled, if_neg hne, List.append_nil]

theorem Past.fresh_polled {es : List (DeliveryEvent Drain)} {s : DeliveryState Drain}
    (h : Past es s) {u : Nat} {verifier : Verifier} (hrunning : s.running u = some verifier)
    (poll : Poll) (now : Int) :
    ∀ v, s.spawned ≤ v → pollsOf v (es ++ [.polled u poll now]) = [] := by
  intro v hv
  have hlt : u < s.spawned := h.inv.made _ (h.inv.pending u (by simp [hrunning]))
  rw [pollsOf_other poll now (by omega)]
  exact h.fresh v hv

/-- A poll that brings nothing leaves its verifier asking, or ends it. -/
theorem Past.refused {es : List (DeliveryEvent Drain)} {s s' : DeliveryState Drain}
    (h : Past es s) {u : Nat} {verifier : Verifier} (hrunning : s.running u = some verifier)
    {poll : Poll} (hnone : pollResult verifier.txHash poll = none) (now : Int)
    (hs' : s' = s ∨ s' = s.finish u) (hinv : Inv s') : Past (es ++ [.polled u poll now]) s' := by
  have hspawned : s'.spawned = s.spawned := by
    obtain rfl | rfl := hs' <;> rfl
  have hobserved : s'.observed = s.observed := by
    obtain rfl | rfl := hs' <;> rfl
  have hkeeps : ∀ v w, s'.running v = some w → s.running v = some w := by
    intro v w hv
    obtain rfl | rfl := hs'
    · exact hv
    · rw [running_finish] at hv
      split_ifs at hv
      exact hv
  refine ⟨hinv, ?_, ?_, ?_⟩
  · rw [hspawned]
    exact h.fresh_polled hrunning poll now
  · intro v w hv
    have hbefore := hkeeps v w hv
    obtain ⟨hasked, r, hr, hhash⟩ := h.asked v w hbefore
    refine ⟨?_, r, hr.append _, hhash⟩
    by_cases hsame : u = v
    · subst hsame
      obtain rfl := Option.some.inj (hrunning.symm.trans hbefore)
      rw [pollsOf_append, pollsOf_polled, if_pos rfl, List.findSome?_append, hasked]
      simpa using hnone
    · rw [pollsOf_other poll now hsame]
      exact hasked
  · rw [hobserved]
    exact h.seen_append _

/-- A poll that brings a result is the last one of its verifier. -/
theorem Past.observed {es : List (DeliveryEvent Drain)} {s : DeliveryState Drain}
    (h : Past es s) {u : Nat} {verifier : Verifier} (hrunning : s.running u = some verifier)
    {poll : Poll} {r : TxResult} (hsome : pollResult verifier.txHash poll = some r) (now : Int) :
    Past (es ++ [.polled u poll now]) ((s.observe ⟨u, r⟩).finish u) := by
  refine ⟨h.inv.observe hrunning r, h.fresh_polled hrunning poll now, ?_, ?_⟩
  · intro v w hv
    rw [running_finish] at hv
    split_ifs at hv with hsame
    obtain ⟨hasked, q, hq, hhash⟩ := h.asked v w hv
    rw [pollsOf_other poll now (Ne.symm hsame)]
    exact ⟨hasked, q, hq.append _, hhash⟩
  · intro d hd
    obtain hold | hnew := List.mem_append.mp hd
    · exact h.seen_append _ d hold
    · obtain rfl := List.mem_singleton.mp hnew
      obtain ⟨hasked, q, hq, hhash⟩ := h.asked u verifier hrunning
      refine ⟨q, hq.append _, ?_⟩
      rw [hhash, pollsOf_append, pollsOf_polled, if_pos rfl, List.findSome?_append, hasked]
      simpa using hsome

theorem past_step [DecidableEq Drain] {es : List (DeliveryEvent Drain)}
    {s s' : DeliveryState Drain} {e : DeliveryEvent Drain} (h : Past es s)
    (hstep : s.step e = some s') : Past (es ++ [e]) s' := by
  have hinv : Inv s' := inv_steps h.inv (steps_of_step hstep)
  cases e with
  | setUnsafeFastSubmit unsafeFast =>
    obtain rfl := Option.some.inj hstep
    exact h.idle hinv (fun _ => rfl) rfl rfl rfl
  | submitted r now now' =>
    obtain rfl := Option.some.inj hstep
    split_ifs at hinv ⊢ with hverifies
    · exact h.spawn hverifies hinv
    · exact h.idle hinv (fun _ => rfl) rfl rfl rfl
  | polled u poll now =>
    obtain ⟨verifier, hrunning, heq⟩ := Option.map_eq_some_iff.mp hstep
    cases hresult : pollResult verifier.txHash poll with
    | some r =>
      rw [hresult] at heq
      obtain rfl := heq
      exact h.observed hrunning hresult now
    | none =>
      rw [hresult] at heq
      refine h.refused hrunning hresult now ?_ hinv
      simp only at heq
      split_ifs at heq
      · exact .inl heq.symm
      · exact .inr heq.symm
  | awaitPendingVerifies drain =>
    obtain ⟨hrunning, hspawned, hobserved⟩ := drainLoop_frame s drain
    rw [step] at hstep
    split at hstep
    · obtain rfl := Option.some.inj hstep
      exact h.idle hinv (fun _ => rfl) hrunning hspawned hobserved
    · cases hstep
  | settled drain =>
    obtain ⟨hrunning, hspawned, hobserved⟩ := drainLoop_frame s drain
    rw [step] at hstep
    split at hstep
    · cases hstep
    · split_ifs at hstep
      obtain rfl := Option.some.inj hstep
      exact h.idle hinv (fun _ => rfl) hrunning hspawned hobserved

/-- An open submission is one that `awaitCommit` polls for. -/
theorem awaitCommit_open {r : TxResult} (hok : r.ok = true ↔ r.outcome = .ok)
    (htruthy : isTruthy (some r.hash) = true) (hfinal : isFinalResult r = false)
    (polls : List Poll) : awaitCommit r polls = .ok (pollCommit r.hash polls) := by
  have hwaits : ¬ (!r.ok && decide (r.outcome ≠ .timeout)) = true := by
    cases houtcome : r.outcome with
    | ok => simp [hok.mpr houtcome]
    | timeout => simp
    | engine => simp [isFinalResult, houtcome] at hfinal
    | transport => simp [isFinalResult, houtcome] at hfinal
  rw [awaitCommit, if_neg (by simp [hfinal]), if_neg hwaits, if_neg (by simp [htruthy])]

/-- In every run of submissions that the gateway answered, each result that a background verifier
delivered is the one that waiting for the commit of the same submission would have reported of the
same answers, its log apart where that is absent. -/
theorem delivery_agrees_with_commit [DecidableEq Drain] (autoVerifyDelivery : Bool)
    {s : DeliveryState Drain} {es : List (DeliveryEvent Drain)}
    (hrun : run step (init autoVerifyDelivery) es = some s)
    (hgateway : ∀ r now now', .submitted r now now' ∈ es →
      ∃ sha256 res txBytes, submitViaGateway sha256 res txBytes = .ok r)
    {d : Delivery} (hd : d ∈ s.observed) :
    ∃ r, Submitted es r ∧ ∀ answers : List (Option TxStatus),
      pollsOf d.verifier es = answers.map verifierPoll →
        ∃ result, awaitCommit r (answers.map commitPoll) = .ok result ∧ d.result = result.logged := by
  have hpast : Past es s :=
    run_history Past (past_init autoVerifyDelivery) (fun _ _ _ _ h hstep => past_step h hstep) hrun
  obtain ⟨r, hr, hfirst⟩ := hpast.seen d hd
  refine ⟨r, hr, fun answers hanswers => ?_⟩
  obtain ⟨now, now', hmem, htruthy, hfinal⟩ := hr
  obtain ⟨sha256, res, txBytes, hresponse⟩ := hgateway r now now' hmem
  have hverdict : (firstVerdict r.hash answers).map TxResult.logged = some d.result := by
    rw [← firstVerdict_logged, ← hfirst, hanswers, List.findSome?_map]
    rfl
  obtain ⟨result, hresult, hlogged⟩ := Option.map_eq_some_iff.mp hverdict
  refine ⟨result, ?_, hlogged.symm⟩
  rw [awaitCommit_open (submitViaGateway_ok_iff sha256 hresponse) htruthy hfinal,
    pollCommit_answers, hresult]
  rfl

/-- What the client makes of an answer with a hash alone. -/
def acknowledged : TxResult :=
  txTimeout (.string (text "AB"))
    (some (.string (text "gateway returned no on-chain result; reconcile by hash")))

def acknowledgement : Response := ⟨200, "OK", "\x7b\"txHash\":\"AB\"\x7d"⟩

theorem submitViaGateway_acknowledgement (sha256 : Bytes → ContentHash) (txBytes : Bytes) :
    submitViaGateway sha256 acknowledgement txBytes = .ok acknowledged := by
  have hcode : ((readGatewayBody acknowledgement.body).member "code").isNone = true := by
    decide +kernel
  have hstatus : isText ((readGatewayBody acknowledgement.body).member "status") "ok" = false := by
    decide +kernel
  have hhash : isText ((readGatewayBody acknowledgement.body).member "txHash") "AB" = true := by
    decide +kernel
  have herror : ((readGatewayBody acknowledgement.body).member "error").isNone = true := by
    decide +kernel
  have htruthy : isTruthy (some (.string (text "AB"))) = true := by decide
  rw [Option.isNone_iff_eq_none] at hcode herror
  rw [isText_iff] at hhash
  rw [submitViaGateway_of_isOk sha256 (by decide), gatewayAnswer, hcode, hhash, herror]
  simp only [hstatus, htruthy, Bool.false_eq_true, if_false, if_true]
  rfl

/-- The poll that finds it executed. -/
def executedStatus : TxStatus := ⟨none, none, none, none⟩

def acknowledgedRun : List (DeliveryEvent Nat) :=
  [.submitted acknowledged 0 0, .polled 0 (verifierPoll (some executedStatus)) 250]

theorem delivery_agrees_acknowledgedRun :
    ∃ (s : DeliveryState Nat) (d : Delivery), run step (init true) acknowledgedRun = some s ∧
      d ∈ s.observed ∧ ∃ result,
        awaitCommit acknowledged [commitPoll (some executedStatus)] = .ok result ∧
          d.result = result.logged := by
  obtain ⟨s, result, hrun, hobserved⟩ : ∃ (s : DeliveryState Nat) (result : TxResult),
      run step (init true) acknowledgedRun = some s ∧ s.observed = [⟨0, result⟩] :=
    ⟨_, _, rfl, rfl⟩
  have hd : (⟨0, result⟩ : Delivery) ∈ s.observed := by
    rw [hobserved]
    exact List.mem_singleton_self _
  have honly : ∀ r now now', .submitted r now now' ∈ acknowledgedRun → r = acknowledged := by
    intro r now now' hmem
    simp only [acknowledgedRun, List.mem_cons, DeliveryEvent.submitted.injEq, List.not_mem_nil,
      reduceCtorEq, or_false] at hmem
    exact hmem.1
  have hgateway : ∀ r now now', .submitted r now now' ∈ acknowledgedRun →
      ∃ sha256 res txBytes, submitViaGateway sha256 res txBytes = .ok r := by
    intro r now now' hmem
    obtain rfl := honly r now now' hmem
    exact ⟨fun _ => ⟨List.replicate 32 0, rfl⟩, acknowledgement, [],
      submitViaGateway_acknowledgement _ []⟩
  obtain ⟨r, ⟨now, now', hmem, -⟩, hagree⟩ := delivery_agrees_with_commit true hrun hgateway hd
  obtain rfl := honly r now now' hmem
  exact ⟨s, _, hrun, hd, hagree [some executedStatus] rfl⟩

end TradingSdk.Client.DeliveryState
