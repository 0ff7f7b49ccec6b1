import AlloraSdk.Source.TxManager.Offers

/-!
# What an attempt builds and broadcasts

An attempt that passes the pre-flight checks reads a gas price and a congestion
multiplier, and with them computes its fee. `Priced` lists how its `try` goes on
from there; every transaction in it has that gas limit and that fee.
-/

namespace AlloraSdk.Source.TxManager
open AlloraSdk.Logic

/-- The transaction that a request hands out. -/
def Request.tx? : Request → Option Tx
  | .query (.sign tx) | .query (.broadcastTx tx) => some tx
  | _ => none

def Txless (trace : List Ev) : Prop := ∀ e ∈ trace, e.request.tx? = none

section Txless

variable {α : Type}

/-- `m` hands out no transaction. -/
def Inquires (m : Act α) : Prop := Routine.Asks (fun r : Request => r.tx? = none) m

theorem Txless.append {first rest : List Ev} (h₁ : Txless first) (h₂ : Txless rest) :
    Txless (first ++ rest) := by
  intro e member
  rcases List.mem_append.mp member with h | h
  · exact h₁ e h
  · exact h₂ e h

theorem outcome_inquires {query : Query} (inquiry : (Request.query query).tx? = none) :
    Inquires (outcome query) :=
  .bind (.await inquiry) fun _ => .bind (.update _) fun _ => .pure _

theorem ask_inquires {query : Query} (inquiry : (Request.query query).tx? = none) :
    Inquires (ask query) :=
  .bind (outcome_inquires inquiry) fun _ => .ofExcept _

theorem sleep_inquires (duration : ℕ) : Inquires (sleep duration) :=
  .bind (.await rfl) fun _ => .update _

theorem settle_inquires (result : Except PyException TxResponse) : Inquires (settle result) := by
  refine .bind .state fun s => ?_
  split
  · exact .pure _
  · exact .bind (.await rfl) fun _ => .update _

theorem preFlightChecks_inquires (m : Manager) : Inquires (preFlightChecks m) := by
  refine .tryCatch (.bind (ask_inquires rfl) fun _ => ?_) fun e => ?_
  · split
    · exact .bind (ask_inquires rfl) fun _ => .bind (ask_inquires rfl) fun _ => .pure _
    · refine .bind (ask_inquires rfl) fun balance => ?_
      split
      · exact .pure _
      · split
        · exact .throw _
        · exact .pure _
  · split
    · exact .throw _
    · exact .pure _

theorem getCurrentGasPrice_inquires (m : Manager) : Inquires (getCurrentGasPrice m) := by
  have fetch : Inquires (fetchGasPrice m) := by
    unfold fetchGasPrice
    split
    · refine .tryCatch (.bind (ask_inquires rfl) fun price => ?_) fun _ => .pure _
      split
      · exact .pure _
      · exact .throw _
      · exact .bind (.update _) fun _ => .pure _
    · exact .pure _
  refine .bind .state fun s => ?_
  split
  · split
    · exact .pure _
    · exact fetch
  · exact fetch

theorem checkNetworkCongestion_inquires (m : Manager) : Inquires (checkNetworkCongestion m) := by
  unfold checkNetworkCongestion
  split
  · exact .pure _
  refine .tryCatch (.bind (ask_inquires rfl) fun state => ?_) fun _ => .pure _
  split
  · exact .pure _
  split
  · exact .pure _
  refine .bind (ask_inquires rfl) fun params => ?_
  split
  · exact .pure _
  split
  · exact .pure _
  dsimp only
  split
  · exact .pure _
  · split <;> exact .pure _

theorem waitForTx_txless {hash : String} {timeout pollPeriod : ℕ} {s s' : Submission}
    {trace : List Ev} {out : Except PyException TxResponse}
    (run : (waitForTx hash timeout pollPeriod).Runs s trace out s') : Txless trace := by
  intro e member
  rcases (waitForTx_outcome run).2.1 e member with ⟨duration, same⟩ | ⟨asked, within, -, same⟩
  · rw [same]
    rfl
  · rw [same]
    rfl

theorem bailIfLanded_inquires (m : Manager) : Inquires (bailIfLanded m) := by
  refine .bind (.update _) fun _ => .bind .state fun s => ?_
  split
  · exact .pure _
  · refine .bind (.bind (outcome_inquires rfl) fun _ => .pure _) fun landed => ?_
    split
    · exact .pure _
    · split
      · exact .bind (.update _) fun _ => .pure _
      · exact .bind (settle_inquires _) fun _ => .pure _

theorem confirmLandedWithGrace_inquires (m : Manager) (checks : ℕ) :
    Inquires (confirmLandedWithGrace m checks) := by
  induction checks with
  | zero => exact .pure _
  | succ checks ih =>
    refine .bind (sleep_inquires _) fun _ => .bind (bailIfLanded_inquires m) fun outcome => ?_
    split
    · exact ih
    · exact .pure _

theorem giveUpOr_inquires {start attempt : ℕ} {err : PyException} {next : Act Control}
    (rest : Inquires next) : Inquires (giveUpOr start attempt err next) := by
  refine .bind (.bind .state fun s => ?_) fun spent => ?_
  · split
    · exact .pure _
    · split
      · exact .pure _
      · exact .bind (.ofExcept _) fun _ => .pure _
  · split
    · exact .bind (settle_inquires _) fun _ => .pure _
    · exact rest

theorem retryAfterMismatch_inquires (m : Manager) (start attempt : ℕ) :
    Inquires (retryAfterMismatch m start attempt) := by
  refine giveUpOr_inquires ?_
  unfold awaitSequenceRetryDelay
  split
  · exact .pure _
  · refine .bind .state fun s => .bind (.ofExcept _) fun delayed => .bind (sleep_inquires _) fun _ =>
      .bind .state fun t => .bind (.ofExcept _) fun pastEnd => ?_
    split
    · exact .bind (settle_inquires _) fun _ => .pure _
    · exact .pure _

theorem seedGasLimit_inquires : Inquires seedGasLimit := by
  refine .bind (.bind .state fun _ => .bind (.update _) fun _ => .pure _) fun seeded => ?_
  split
  · exact .update _
  · exact .pure _

/-- No except clause builds or sends a transaction. -/
theorem handle_inquires (m : Manager) (start attempt : ℕ) (e : PyException) :
    Inquires (handle m start attempt e) := by
  cases e
  case outOfGas => exact giveUpOr_inquires (.bind .state fun _ => .bind (.update _) fun _ => .pure _)
  case insufficientFees => exact .bind (.update _) fun _ => giveUpOr_inquires (.pure _)
  case asyncioTimeout => exact giveUpOr_inquires (.pure _)
  case txTimeout =>
    refine .bind (bailIfLanded_inquires m) fun outcome => ?_
    split
    · exact .pure _
    · exact .bind (.update _) fun _ => .bind seedGasLimit_inquires fun _ => giveUpOr_inquires (.pure _)
    · exact .bind (.update _) fun _ => giveUpOr_inquires (.pure _)
  case accountSequenceMismatch =>
    refine .bind (bailIfLanded_inquires m) fun landed => ?_
    split
    · exact .pure _
    refine .bind .state fun s => ?_
    split
    · refine .bind (.update _) fun _ => .bind (confirmLandedWithGrace_inquires m 3) fun outcome => ?_
      split
      · exact .pure _
      · exact .bind (.update _) fun _ => .bind seedGasLimit_inquires fun _ =>
          retryAfterMismatch_inquires m start attempt
      · exact .bind (.update _) fun _ => retryAfterMismatch_inquires m start attempt
    · exact .bind (.update _) fun _ => retryAfterMismatch_inquires m start attempt
  all_goals exact .bind (settle_inquires _) fun _ => .pure _

end Txless

/-! ## The price -/

/-- The first part of the `try`: pre-flight checks that pass, and the two reads
that the fee is computed from. -/
def ReadsPrice (m : Manager) (attempt : ℕ) (s : Submission) (price : ℚ) (congestion : Option ℚ)
    (trace : List Ev) (s' : Submission) : Prop :=
  ∃ checks prices rates s₁ s₂,
    trace = checks ++ ⟨.beginAttempt attempt s.nextAccountSeq, ()⟩ :: (prices ++ rates) ∧
    (preFlightChecks m).Runs s checks (.ok ()) s₁ ∧
    (getCurrentGasPrice m).Runs (setAttempt attempt s₁) prices (.ok price) s₂ ∧
    (checkNetworkCongestion m).Runs s₂ rates (.ok congestion) s'

/-- The attempt computes its fee from this price and congestion multiplier. -/
def Round.Reads (m : Manager) (r : Round) (price : ℚ) (congestion : Option ℚ) : Prop :=
  ∃ first rest t, r.body = first ++ rest ∧ ReadsPrice m r.attempt r.entry price congestion first t

def Round.gasLimit (m : Manager) (r : Round) : ℤ := r.entry.offer.gasLimit m r.attempt

/-- The fee that the attempt computes. -/
def Round.fee (m : Manager) (r : Round) (price : ℚ) (congestion : Option ℚ) : ℤ :=
  r.entry.offer.fee m r.attempt price congestion

/-- The rest of the `try`, from the computed fee on. -/
inductive Priced (m : Manager) (limit fee : ℤ) (o : Offer) :
    List Ev → Except PyException Control → Offer → Prop
  | tooExpensive {cap : ℕ} {message : String} (capped : m.maxFees = some cap) (above : (cap : ℤ) < fee) :
      Priced m limit fee o [] (.error (.maxFeesExceeded message)) o
  | unbuilt {build : List Ev} {e : PyException} (within : ∀ cap, m.maxFees = some cap → fee ≤ cap)
      (txless : Txless build) (cause : RaisedIn build e ∨ ∃ message, e = .other message) :
      Priced m limit fee o build (.error e) o
  | unsent {build : List Ev} {tx : Tx} {took : ℕ} {e : PyException}
      (within : ∀ cap, m.maxFees = some cap → fee ≤ cap) (txless : Txless build)
      (gas : tx.gasLimit = limit) (amount : tx.fee.amount = fee) :
      Priced m limit fee o (build ++ [⟨.query (.sign tx), (took, .error e)⟩]) (.error e) o
  | refused {build : List Ev} {tx : Tx} {took took' : ℕ} {e : PyException}
      {answer : Except PyException (Option TxResponse)}
      (within : ∀ cap, m.maxFees = some cap → fee ≤ cap) (txless : Txless build)
      (gas : tx.gasLimit = limit) (amount : tx.fee.amount = fee)
      (verdict : broadcastVerdict m tx answer = .error e) :
      Priced m limit fee o (build ++ [⟨.query (.sign tx), (took, .ok ())⟩,
        ⟨.query (.broadcastTx tx), (took', answer)⟩]) (.error e) o
  | accepted {build rest : List Ev} {tx : Tx} {took took' : ℕ} {hash : String}
      {answer : Except PyException (Option TxResponse)} {out : Except PyException Control}
      (within : ∀ cap, m.maxFees = some cap → fee ≤ cap) (txless : Txless build)
      (gas : tx.gasLimit = limit) (amount : tx.fee.amount = fee)
      (verdict : broadcastVerdict m tx answer = .ok hash) (txless' : Txless rest) :
      Priced m limit fee o (build ++ ⟨.query (.sign tx), (took, .ok ())⟩ ::
        ⟨.query (.broadcastTx tx), (took', answer)⟩ :: rest) out (o.sent limit)

section Pricing

variable {m : Manager} {attempt : ℕ} {s s' : Submission} {trace : List Ev}

theorem Frame.offer (frame : Frame s s') : s'.offer = s.offer := by
  rw [frame.2]
  rfl

theorem calculateOptimalFee_reads {limit : ℤ} {multiplier : ℚ} {out : Except PyException Coin}
    (run : (calculateOptimalFee m limit multiplier).Runs s trace out s') :
    ∃ price congestion prices rates t, trace = prices ++ rates ∧
      (getCurrentGasPrice m).Runs s prices (.ok price) t ∧
      (checkNetworkCongestion m).Runs t rates (.ok congestion) s' ∧
      ∃ fee, fee = truncate (limit * (price * multiplier * congestionFactor congestion)) ∧
        (out = .ok ⟨fee, m.config.feeDenom⟩ ∧ (∀ cap, m.maxFees = some cap → fee ≤ cap) ∨
          ∃ (cap : ℕ) (message : String), m.maxFees = some cap ∧ (cap : ℤ) < fee ∧
            out = .error (.maxFeesExceeded message)) := by
  obtain ⟨_, h, -⟩ | ⟨price, t, prices, after, priced, run₁, rfl⟩ := Routine.runs_bind.mp run
  · exact (getCurrentGasPrice_neverRaises m h).elim
  obtain ⟨_, h, -⟩ | ⟨congestion, u, rates, last, congested, run₂, rfl⟩ := Routine.runs_bind.mp run₁
  · exact (checkNetworkCongestion_neverRaises m h).elim
  dsimp only at run₂
  split at run₂
  · rename_i uncapped
    obtain ⟨rfl, rfl, rfl⟩ := Routine.runs_pure.mp run₂
    refine ⟨price, congestion, prices, rates, t, by simp, priced, congested, _, rfl, .inl ⟨rfl, ?_⟩⟩
    intro cap capped
    rw [uncapped] at capped
    cases capped
  · rename_i cap capped
    split at run₂
    · rename_i above
      obtain ⟨rfl, rfl, rfl⟩ := Routine.runs_throw.mp run₂
      exact ⟨price, congestion, prices, rates, t, by simp, priced, congested, _, rfl,
        .inr ⟨cap, _, capped, above, rfl⟩⟩
    · rename_i within
      obtain ⟨rfl, rfl, rfl⟩ := Routine.runs_pure.mp run₂
      refine ⟨price, congestion, prices, rates, t, by simp, priced, congested, _, rfl, .inl ⟨rfl, ?_⟩⟩
      intro cap' capped'
      obtain rfl : cap = cap' := Option.some.inj (capped.symm.trans capped')
      exact not_lt.mp within

theorem confirmSent_txless {sent : Sent} {out : Except PyException Control}
    (run : (confirmSent m sent).Runs s trace out s') : Txless trace := by
  have inquires : Inquires (confirmSent m sent) :=
    .bind (.update _) fun _ => .bind (fun _ _ _ _ h => waitForTx_txless h) fun _ => .bind (.update _) fun _ =>
      .bind (.ofExcept _) fun _ => .bind (settle_inquires _) fun _ => .pure _
  exact inquires run

theorem confirmSent_offer {sent : Sent} {out : Except PyException Control}
    (run : (confirmSent m sent).Runs s trace out s') : s'.offer = s.offer.sent sent.gasLimit := by
  have keeps : Routine.Keeps Submission.offer (do
      let resp ← waitForTx sent.txHash 30000000 2000000
      Routine.update (setAccountSeq (some (sent.sequence + 1)))
      Routine.ofExcept (raiseForStatus m resp)
      setResult resp
      pure Control.stop) :=
    .bind (fun _ _ _ _ h => (waitForTx_outcome h).1.offer) fun _ => .bind (.update fun _ => rfl) fun _ =>
      .bind (.ofExcept _) fun _ => .bind (settle_keeps _) fun _ => .pure _
  exact (keeps (Routine.runs_update_bind.mp run)).trans rfl

/-- `_build_and_broadcast` and the confirmation, from the computed fee on. -/
theorem sendAttempt_priced {out : Except PyException Control}
    (run : (sendAttempt m attempt).Runs s trace out s') :
    ∃ price congestion prices rates rest t t',
      trace = ⟨.beginAttempt attempt s.nextAccountSeq, ()⟩ :: (prices ++ rates ++ rest) ∧
      (getCurrentGasPrice m).Runs s prices (.ok price) t ∧
      (checkNetworkCongestion m).Runs t rates (.ok congestion) t' ∧
      Priced m (s.offer.gasLimit m attempt) (s.offer.fee m attempt price congestion) s.offer rest out
        s'.offer := by
  obtain ⟨_, rest, rfl, run₁⟩ := Routine.runs_await_bind.mp (Routine.runs_state_bind.mp run)
  simp only [buildAndBroadcast, buildTx, bind_assoc] at run₁
  obtain ⟨e, h, rfl⟩ | ⟨coin, t₁, first, after, computed, run₂, rfl⟩ := Routine.runs_bind.mp run₁
  · have kept : s'.offer = s.offer := (calculateOptimalFee_quiet m _ _ h).2.offer
    obtain ⟨price, congestion, prices, rates, t, rfl, priced, congested, fee, rfl, ended⟩ :=
      calculateOptimalFee_reads h
    refine ⟨price, congestion, prices, rates, [], t, s', by simp, priced, congested, ?_⟩
    rw [kept]
    obtain ⟨same, -⟩ | ⟨cap, message, capped, above, same⟩ := ended <;> cases same
    exact .tooExpensive capped above
  have kept : t₁.offer = s.offer := (calculateOptimalFee_quiet m _ _ computed).2.offer
  obtain ⟨price, congestion, prices, rates, t, rfl, priced, congested, fee, rfl, ended⟩ :=
    calculateOptimalFee_reads computed
  obtain ⟨same, within⟩ | ⟨cap, message, capped, above, same⟩ := ended <;> cases same
  refine ⟨price, congestion, prices, rates, after, t, t₁, by simp, priced, congested, ?_⟩
  obtain ⟨e, h, rfl⟩ | ⟨info, t₂, account, after₂, read, run₃, rfl⟩ := Routine.runs_bind.mp run₂
  · obtain ⟨took, rfl, rfl⟩ := ask_runs.mp h
    rw [show (t₁.advance took).offer = s.offer from kept]
    exact .unbuilt within (by simp [Txless, Request.tx?]) (.inl ⟨_, took, .head _⟩)
  obtain ⟨took, rfl, rfl⟩ := ask_runs.mp read
  cases info with
  | none =>
    obtain ⟨_, h, rfl⟩ | ⟨tx, _, _, _, h, -⟩ := Routine.runs_bind.mp run₃
    · obtain ⟨rfl, same, rfl⟩ := Routine.runs_throw.mp h
      rw [show (t₁.advance took).offer = s.offer from kept]
      exact .unbuilt within (by simp [Txless, Request.tx?]) (.inr ⟨_, Except.error.inj same⟩)
    · cases (Routine.runs_throw.mp h).2.1
  | some info =>
    simp only [bind_assoc, pure_bind] at run₃
    have txless : Txless [⟨.query (.accountInfo m.walletAddress), (took, .ok (some info))⟩] := by
      simp [Txless, Request.tx?]
    obtain ⟨e, h, rfl⟩ | ⟨_, t₃, signing, after₃, signed, run₄, rfl⟩ := Routine.runs_bind.mp run₃
    · obtain ⟨took', rfl, rfl⟩ := ask_runs.mp h
      rw [show ((t₁.advance took).advance took').offer = s.offer from kept]
      exact .unsent within txless rfl rfl
    obtain ⟨took', rfl, rfl⟩ := ask_runs.mp signed
    obtain ⟨took'', answer, after₄, rfl, run₅⟩ := outcome_bind_runs.mp run₄
    obtain ⟨e, verdict, rfl, rfl, rfl⟩ | ⟨hash, verdict, run₆⟩ := Routine.runs_ofExcept_bind.mp run₅
    · rw [show (((t₁.advance took).advance took').advance took'').offer = s.offer from kept]
      exact .refused within txless rfl rfl verdict
    · rw [confirmSent_offer run₆,
        show (((t₁.advance took).advance took').advance took'').offer = s.offer from kept]
      exact .accepted within txless rfl rfl verdict (confirmSent_txless run₆)

/-- An attempt fails the pre-flight checks, or computes a fee and goes on as
`Priced` says. -/
theorem Round.Valid.priced {start : ℕ} {r : Round} (valid : r.Valid m start) :
    (∃ message, r.result = .error (.insufficientBalance message) ∧ QuietTrace r.body ∧
        Txless r.body ∧ r.raised.offer = r.entry.offer) ∨
      ∃ price congestion first rest t, r.body = first ++ rest ∧ Txless first ∧
        ReadsPrice m r.attempt r.entry price congestion first t ∧
        Priced m (r.gasLimit m) (r.fee m price congestion) r.entry.offer rest r.result r.raised.offer := by
  obtain ⟨e, h, same⟩ | ⟨_, s₁, checks, after, checked, run₁, same⟩ := Routine.runs_bind.mp valid.tried
  · rw [same]
    obtain failed | ⟨message, failed, -⟩ := preFlightChecks_outcome h
    · cases failed
    · cases failed
      obtain ⟨quiet, frame⟩ := preFlightChecks_quiet m h
      exact .inl ⟨message, rfl, quiet, preFlightChecks_inquires m h, frame.offer⟩
  have frame := (preFlightChecks_quiet m checked).2
  have kept : (setAttempt r.attempt s₁).offer = r.entry.offer := frame.offer
  obtain ⟨price, congestion, prices, rates, rest, t, t', rfl, priced, congested, tail⟩ :=
    sendAttempt_priced (Routine.runs_update_bind.mp run₁)
  have sequence : (setAttempt r.attempt s₁).nextAccountSeq = r.entry.nextAccountSeq := frame.nextAccountSeq
  rw [kept] at tail
  rw [sequence] at same
  refine .inr ⟨price, congestion, _, rest, t', ?_, ?_,
    ⟨checks, prices, rates, s₁, t, rfl, checked, priced, congested⟩, tail⟩
  · rw [same]
    simp
  · have begun : Txless [⟨.beginAttempt r.attempt r.entry.nextAccountSeq, ()⟩] := by
      simp [Txless, Request.tx?]
    have reads : Txless (prices ++ rates) :=
      Txless.append (getCurrentGasPrice_inquires m priced) (checkNetworkCongestion_inquires m congested)
    exact Txless.append (preFlightChecks_inquires m checked) (begun.append reads)

/-- The events of an attempt determine the price it reads. -/
theorem ReadsPrice.unique {price price' : ℚ} {congestion congestion' : Option ℚ}
    {first second rest rest' : List Ev} {t t' : Submission}
    (reads : ReadsPrice m attempt s price congestion first t)
    (reads' : ReadsPrice m attempt s price' congestion' second t')
    (agree : first ++ rest = second ++ rest') : price = price' ∧ congestion = congestion' ∧ rest = rest' := by
  obtain ⟨checks, prices, rates, s₁, s₂, rfl, checked, priced, congested⟩ := reads
  obtain ⟨checks', prices', rates', s₁', s₂', rfl, checked', priced', congested'⟩ := reads'
  simp only [List.append_assoc, List.cons_append] at agree
  obtain ⟨rfl, -, rfl⟩ := checked.unique checked' agree
  have agree := (List.cons_eq_cons.mp (List.append_cancel_left agree)).2
  obtain ⟨rfl, same, rfl⟩ := priced.unique priced' agree
  have agree := List.append_cancel_left agree
  obtain ⟨rfl, same', rfl⟩ := congested.unique congested' agree
  exact ⟨Except.ok.inj same, Except.ok.inj same', List.append_cancel_left agree⟩

/-- The rest of an attempt that computes its fee from a given price. -/
theorem Round.Valid.priced_at {start : ℕ} {r : Round} {price : ℚ} {congestion : Option ℚ}
    (valid : r.Valid m start) (reads : r.Reads m price congestion) :
    ∃ first rest, r.body = first ++ rest ∧ Txless first ∧
      Priced m (r.gasLimit m) (r.fee m price congestion) r.entry.offer rest r.result r.raised.offer := by
  obtain ⟨first, rest, t, split, reads⟩ := reads
  obtain ⟨_, -, quiet, -, -⟩ | ⟨price', congestion', first', rest', t', split', txless, reads', tail⟩ :=
    valid.priced
  · obtain ⟨checks, prices, rates, -, -, rfl, -⟩ := reads
    have begun : (⟨.beginAttempt r.attempt r.entry.nextAccountSeq, ()⟩ : Ev) ∈ r.body := by
      rw [split]
      simp
    cases quiet _ begun
  · obtain ⟨rfl, rfl, rfl⟩ := reads.unique reads' (split.symm.trans split')
    exact ⟨first', rest, split', txless, tail⟩

/-- An attempt that raises MaxFeesExceededError without a broadcast computed a fee
above the cap, unless a client raised it. -/
theorem Round.Valid.above_cap {start : ℕ} {r : Round} {message : String} (valid : r.Valid m start)
    (result : r.result = .error (.maxFeesExceeded message))
    (unraised : ¬ RaisedIn r.body (.maxFeesExceeded message))
    (unsent : ∀ e ∈ r.body, ∀ tx, e.request ≠ .query (.broadcastTx tx)) :
    ∃ price congestion cap, r.Reads m price congestion ∧ m.maxFees = some cap ∧
      (cap : ℤ) < r.fee m price congestion := by
  obtain ⟨_, same, -⟩ | ⟨price, congestion, first, rest, t, split, -, reads, priced⟩ := valid.priced
  · rw [result] at same
    cases same
  have absent : ∀ e ∈ rest, ∀ tx, e.request ≠ .query (.broadcastTx tx) := fun e member =>
    unsent e (split ▸ List.mem_append_right _ member)
  have raisedNone : ¬ RaisedIn rest (.maxFeesExceeded message) := fun raised =>
    unraised (raised.mono fun e member => split ▸ List.mem_append_right _ member)
  rw [result] at priced
  generalize r.raised.offer = o at priced
  generalize same : (Except.error (.maxFeesExceeded message) : Except PyException Control) = out at priced
  cases priced with
  | @tooExpensive cap _ capped above => exact ⟨price, congestion, cap, ⟨first, _, t, split, reads⟩, capped, above⟩
  | unbuilt within txless cause =>
    cases same
    obtain raised | ⟨_, same⟩ := cause
    · exact (raisedNone raised).elim
    · cases same
  | @unsent build tx took =>
    cases same
    exact (raisedNone ⟨_, took, List.mem_append_right _ (.head _)⟩).elim
  | @refused build tx => exact (absent _ (List.mem_append_right _ (.tail _ (.head _))) tx rfl).elim
  | @accepted build rest tx => exact (absent _ (List.mem_append_right _ (.tail _ (.head _))) tx rfl).elim

/-- Every transaction carries the computed limit and fee, and no fee above the
cap is carried. -/
theorem Priced.carries {limit fee : ℤ} {o o' : Offer} {out : Except PyException Control} {tx : Tx}
    {e : Ev} (priced : Priced m limit fee o trace out o') (member : e ∈ trace)
    (carried : e.request.tx? = some tx) :
    tx.gasLimit = limit ∧ tx.fee.amount = fee ∧ ∀ cap, m.maxFees = some cap → fee ≤ cap := by
  have absent : ∀ {events : List Ev}, Txless events → e ∉ events := by
    intro events txless present
    rw [txless e present] at carried
    cases carried
  cases priced with
  | tooExpensive => cases member
  | unbuilt within txless => exact (absent txless member).elim
  | unsent within txless gas amount =>
    rcases List.mem_append.mp member with member | member
    · exact (absent txless member).elim
    obtain rfl := List.mem_singleton.mp member
    cases carried
    exact ⟨gas, amount, within⟩
  | refused within txless gas amount =>
    rcases List.mem_append.mp member with member | member
    · exact (absent txless member).elim
    rcases List.mem_pair.mp member with rfl | rfl <;> cases carried <;> exact ⟨gas, amount, within⟩
  | accepted within txless gas amount verdict txless' =>
    rcases List.mem_append.mp member with member | member
    · exact (absent txless member).elim
    rcases List.mem_cons.mp member with rfl | member
    · cases carried
      exact ⟨gas, amount, within⟩
    rcases List.mem_cons.mp member with rfl | member
    · cases carried
      exact ⟨gas, amount, within⟩
    · exact (absent txless' member).elim

theorem Round.Valid.handling_txless {start : ℕ} {r : Round} (valid : r.Valid m start) :
    Txless r.handling := by
  have caught := valid.caught
  cases result : r.result with
  | ok control =>
    rw [result] at caught
    rw [caught.1]
    simp [Txless]
  | error e =>
    rw [result] at caught
    exact handle_inquires m start r.attempt e caught

/-- What an attempt builds or broadcasts. -/
theorem Round.Valid.carries {start : ℕ} {r : Round} {tx : Tx} {e : Ev} (valid : r.Valid m start)
    (member : e ∈ r.trace) (carried : e.request.tx? = some tx) :
    tx.gasLimit = r.gasLimit m ∧ ∀ cap, m.maxFees = some cap → tx.fee.amount ≤ cap := by
  have absent : ∀ {events : List Ev}, Txless events → e ∉ events := by
    intro events txless present
    rw [txless e present] at carried
    cases carried
  have body : e ∈ r.body := by
    rcases List.mem_append.mp member with member | member
    · exact member
    · exact (absent valid.handling_txless member).elim
  obtain ⟨-, -, -, txless, -⟩ | ⟨price, congestion, first, rest, t, split, txless, -, priced⟩ :=
    valid.priced
  · exact (absent txless body).elim
  rw [split] at body
  rcases List.mem_append.mp body with body | body
  · exact (absent txless body).elim
  obtain ⟨gas, amount, within⟩ := priced.carries body carried
  exact ⟨gas, amount ▸ within⟩

/-- A broadcast that was accepted: a hash to confirm came back. -/
def isAccepted (m : Manager) : Ev → Bool
  | ⟨.query (.broadcastTx tx), (_, answer)⟩ => (broadcastVerdict m tx answer).isOk
  | _ => false

/-- The attempt's broadcast was accepted. -/
def Round.accepted (m : Manager) (r : Round) : Bool := r.body.any (isAccepted m)

theorem isAccepted_txless (txless : Txless trace) : trace.any (isAccepted m) = false := by
  rw [List.any_eq_false]
  intro e member
  have none := txless e member
  unfold isAccepted
  split
  · cases none
  · simp

/-- The offer that the except clause starts from. -/
theorem Round.Valid.raised_offer {start : ℕ} {r : Round} (valid : r.Valid m start) :
    r.raised.offer =
      if r.accepted m then r.entry.offer.sent (r.gasLimit m) else r.entry.offer := by
  unfold Round.accepted
  obtain ⟨-, -, -, txless, kept⟩ | ⟨price, congestion, first, rest, t, split, txless, -, priced⟩ :=
    valid.priced
  · rw [isAccepted_txless txless, kept]
    rfl
  rw [split, List.any_append, isAccepted_txless txless, Bool.false_or]
  generalize r.result = result, r.raised.offer = o at priced
  cases priced with
  | tooExpensive => rfl
  | unbuilt within txless' => rw [isAccepted_txless txless']; rfl
  | unsent within txless' => simp [isAccepted_txless txless', isAccepted]
  | refused within txless' gas amount verdict =>
    simp [isAccepted_txless txless', isAccepted, verdict, Except.isOk, Except.toBool]
  | accepted within txless' gas amount verdict =>
    simp [isAccepted, verdict, Except.isOk, Except.toBool]

theorem Tried.flag {v v' : RetryVars} {e : PyException} (tried : Tried m attempt v trace (.error e) v') :
    v'.sameSeqRebroadcast = v.sameSeqRebroadcast := by
  cases tried with
  | preFlight => rfl
  | begun quiet sending =>
    cases sending with
    | unsent => rfl
    | refused => rfl
    | accepted quiet' content sequence verdict confirmed =>
      cases confirmed with
      | missed => rfl
      | found looking unseen sighted status =>
        cases status with
        | failure => rfl

/-- The offer that the next attempt starts from. -/
theorem Round.Valid.exit_offer {start : ℕ} {r : Round} (valid : r.Valid m start)
    (unresolved : r.entry.vars.finalFuture = none) (goesOn : r.control = .ok .continue) :
    ∃ e, r.result = .error e ∧ r.exit.offer =
      Offer.after m r.attempt r.entry.pending.sameSeqRebroadcast r.handling
        (if r.accepted m then r.entry.offer.sent (r.gasLimit m) else r.entry.offer) e := by
  obtain ⟨e, result, pending, handled⟩ := valid.handled unresolved goesOn
  have tried := tryAttempt_outcome unresolved valid.tried
  rw [result] at tried
  have flag : r.raised.pending.sameSeqRebroadcast = r.entry.pending.sameSeqRebroadcast := tried.flag
  refine ⟨e, result, ?_⟩
  rw [handle_offer pending handled, valid.raised_offer, flag]

def signed : Ev → Option Tx
  | ⟨.query (.sign tx), _⟩ => some tx
  | _ => none

/-- The transactions that an attempt seals and signs: at most one. -/
def Round.built (r : Round) : List Tx := r.body.filterMap signed

theorem Round.Valid.built_gasLimit {start : ℕ} {r : Round} {tx : Tx} (valid : r.Valid m start)
    (built : tx ∈ r.built) : tx.gasLimit = r.gasLimit m := by
  obtain ⟨e, member, signs⟩ := List.mem_filterMap.mp built
  have carried : e.request.tx? = some tx := by
    unfold signed at signs
    split at signs
    · exact signs
    · cases signs
  exact (valid.carries (List.mem_append_left _ member) carried).1

theorem preFlightChecks_keepsPrice :
    Routine.Keeps (fun s : Submission => s.cachedGasPrice) (preFlightChecks m) := by
  have read : ∀ query, Routine.Keeps (fun s : Submission => s.cachedGasPrice) (ask query) := fun query =>
    .bind (.bind (.await _) fun _ => .bind (.update fun _ => rfl) fun _ => .pure _) fun _ => .ofExcept _
  refine .tryCatch (.bind (read _) fun _ => ?_) fun e => ?_
  · split
    · exact .bind (read _) fun _ => .bind (read _) fun _ => .pure _
    · refine .bind (read _) fun balance => ?_
      split
      · exact .pure _
      · split
        · exact .throw _
        · exact .pure _
  · split
    · exact .throw _
    · exact .pure _

/-- With the static price and no congestion check, every attempt that gets past
the pre-flight checks reads the same. -/
theorem Round.Valid.reads_static {start : ℕ} {r : Round} (valid : r.Valid m start)
    (static : m.config.useDynamicGasPrice = false) (calm : m.config.congestionAwareFees = false)
    (uncached : r.entry.cachedGasPrice = none)
    (begun : r.body.any (fun e => !e.request.isQuiet) = true) :
    r.Reads m m.config.feeMinimumGasPrice none := by
  obtain ⟨message, -, quiet, -⟩ | ⟨price, congestion, first, rest, t, split, -, reads, -⟩ := valid.priced
  · obtain ⟨e, member, loud⟩ := List.any_eq_true.mp begun
    rw [quiet e member] at loud
    cases loud
  refine ⟨first, rest, t, split, ?_⟩
  obtain ⟨checks, prices, rates, s₁, s₂, same, passed, priced, congested⟩ := reads
  have fetched := Routine.runs_state_bind.mp priced
  rw [show (setAttempt r.attempt s₁).cachedGasPrice = none from
    (preFlightChecks_keepsPrice passed).trans uncached] at fetched
  simp only [fetchGasPrice, static, Bool.false_and, Bool.false_eq_true, if_false] at fetched
  simp only [checkNetworkCongestion, calm, Bool.not_false, Bool.true_or, if_true] at congested
  obtain rfl : price = m.config.feeMinimumGasPrice :=
    Except.ok.inj (Routine.runs_pure.mp fetched).2.1
  obtain rfl : congestion = none := Except.ok.inj (Routine.runs_pure.mp congested).2.1
  refine ⟨checks, prices, rates, s₁, s₂, same, passed, priced, ?_⟩
  simpa only [checkNetworkCongestion, calm, Bool.not_false, Bool.true_or, if_true] using congested

end Pricing

end AlloraSdk.Source.TxManager
