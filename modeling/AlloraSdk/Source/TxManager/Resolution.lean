import AlloraSdk.Source.TxManager.Attempts

/-!
# How a run resolves its future

An attempt that ends the run ends with one effective `_set_result` or
`_set_exception`, its last event; every other attempt has none. A result is a
code-0 response that the GetTx right before found under the remembered hash.
-/

namespace AlloraSdk.Source.TxManager
open AlloraSdk.Logic

/-- No effective `_set_result` or `_set_exception`. -/
def Unresolving (trace : List Ev) : Prop := ∀ e ∈ trace, ∀ outcome, e.request ≠ .resolve outcome

theorem Unresolving.append {first rest : List Ev} (h₁ : Unresolving first) (h₂ : Unresolving rest) :
    Unresolving (first ++ rest) := by
  intro e member
  rcases List.mem_append.mp member with h | h
  · exact h₁ e h
  · exact h₂ e h

theorem Unresolving.nil : Unresolving [] := by simp [Unresolving]

theorem QuietTrace.unresolving {trace : List Ev} (quiet : QuietTrace trace) : Unresolving trace := by
  intro e member outcome same
  have h := quiet e member
  rw [same] at h
  cases h

theorem Looking.unresolving {lastTxHash : Option String} {trace : List Ev}
    (looking : Looking lastTxHash trace) : Unresolving trace := by
  intro e member outcome same
  rcases looking e member with ⟨_, h⟩ | ⟨_, _, -, h⟩ <;> rw [same] at h <;> cases h

/-- A result is what the last lookup found under `lastTxHash`. -/
def Justified (before : List Ev) (lastTxHash : Option String)
    (outcome : Except PyException TxResponse) : Prop :=
  ∀ resp, outcome = .ok resp → resp.code = 0 ∧ ∃ earlier seen hash,
    before = earlier ++ [seen] ∧ sighting seen = some (hash, resp) ∧ lastTxHash = some hash

/-- The two ways to go through the events of (part of) an attempt. -/
inductive Resolution (v : RetryVars) : List Ev → Except PyException Control → RetryVars → Prop
  | stopped {before : List Ev} {outcome : Except PyException TxResponse} {v' : RetryVars}
      (unresolving : Unresolving before) (justified : Justified before v'.lastTxHash outcome)
      (resolved : v'.finalFuture = some outcome) :
      Resolution v (before ++ [⟨.resolve outcome, ()⟩]) (.ok .stop) v'
  | pending {trace : List Ev} {out : Except PyException Control} {v' : RetryVars}
      (goesOn : out ≠ .ok .stop) (unresolving : Unresolving trace)
      (kept : v'.finalFuture = v.finalFuture) : Resolution v trace out v'

section Parts

variable {m : Manager} {start attempt : ℕ} {v u v' : RetryVars} {trace first : List Ev}
  {out : Except PyException Control}

theorem Resolution.prepend (resolution : Resolution u trace out v') (before : Unresolving first)
    (same : u.finalFuture = v.finalFuture) : Resolution v (first ++ trace) out v' := by
  cases resolution with
  | stopped unresolving justified resolved =>
    rw [← List.append_assoc]
    refine .stopped (before.append unresolving) (fun resp result => ?_) resolved
    obtain ⟨passed, earlier, seen, hash, rfl, sight, known⟩ := justified resp result
    exact ⟨passed, first ++ earlier, seen, hash, by rw [List.append_assoc], sight, known⟩
  | pending goesOn unresolving kept => exact .pending goesOn (before.append unresolving) (kept.trans same)

theorem justified_error {before : List Ev} {lastTxHash : Option String} {err : PyException} :
    Justified before lastTxHash (.error err) := by
  intro resp result
  cases result

theorem GiveUp.resolution {err : PyException} (tail : GiveUp start attempt err v trace out v') :
    Resolution v trace out v' := by
  cases tail with
  | spent => exact .stopped .nil justified_error rfl
  | again left => exact .pending (by simp) .nil rfl
  | overflow left bad => exact .pending (by simp) .nil rfl

theorem Mismatch.resolution (tail : Mismatch start attempt v trace out v') :
    Resolution v trace out v' := by
  cases tail with
  | spent => exact .stopped .nil justified_error rfl
  | again left => exact .pending (by simp) .nil rfl
  | delayed left => exact .pending (by simp) (by simp [Unresolving]) rfl
  | @expired delay late message =>
    have asleep : Unresolving [⟨.sleep delay, late⟩] := by simp [Unresolving]
    exact (Resolution.stopped .nil justified_error rfl).prepend asleep rfl
  | overflow left bad quiet =>
    refine .pending (by simp) ?_ rfl
    rcases quiet with rfl | ⟨delay, late, rfl⟩ <;> simp [Unresolving]

theorem landedResult_ok {resp resp' : TxResponse} (landed : landedResult m resp = .ok resp') :
    resp' = resp ∧ resp.code = 0 := by
  unfold landedResult at landed
  split at landed
  · cases landed
  · rename_i passed
    exact ⟨(Except.ok.inj landed).symm, exceptionFromTxResponse_eq_none.mp passed⟩

theorem Bail.resolution (bail : Bail m v trace .finalized v') : Resolution v trace (.ok .stop) v' := by
  cases bail with
  | @finalized hash took resp known =>
    have looked : Unresolving [⟨.query (.getTx hash none), (took, .ok (some resp))⟩] := by
      simp [Unresolving]
    refine .stopped looked (fun resp' result => ?_) rfl
    obtain ⟨rfl, passed⟩ := landedResult_ok result
    exact ⟨passed, [], _, hash, rfl, rfl, known⟩

theorem Bail.unresolving {outcome : LandedOutcome} (bail : Bail m v trace outcome v')
    (unfinished : outcome ≠ .finalized) : Unresolving trace := by
  cases bail with
  | notLanded missed => exact missed.looking.unresolving
  | retry => simp [Unresolving]
  | finalized => exact (unfinished rfl).elim

theorem Grace.resolution {checks : ℕ} (grace : Grace m v checks trace .finalized v') :
    Resolution v trace (.ok .stop) v' := by
  cases grace with
  | landed looking unseen bail found => exact bail.resolution.prepend looking.unresolving rfl

theorem Grace.unresolving {checks : ℕ} {outcome : LandedOutcome}
    (grace : Grace m v checks trace outcome v') (unfinished : outcome ≠ .finalized) :
    Unresolving trace := by
  cases grace with
  | notLanded graced => exact graced.looking.1.unresolving
  | landed looking unseen bail found => exact looking.unresolving.append (bail.unresolving unfinished)

theorem Handled.resolution {e : PyException}
    (handled : Handled m start attempt v e trace out v') : Resolution v trace out v' := by
  cases handled with
  | inPlace kind named tail => exact tail.resolution
  | fatal => exact .stopped .nil justified_error rfl
  | landed kind bail => exact bail.resolution
  | timeoutLanded kind bail tail => exact tail.resolution.prepend (bail.unresolving (by simp)) rfl
  | timeoutUnseen kind bail tail => exact tail.resolution.prepend (bail.unresolving (by simp)) rfl
  | mismatch kind bail unfinished plain tail =>
    exact tail.resolution.prepend (bail.unresolving unfinished) rfl
  | graceLanded kind bail unfinished flagged grace =>
    exact grace.resolution.prepend (bail.unresolving unfinished) rfl
  | grace kind bail unfinished flagged grace unfinished' tail =>
    exact tail.resolution.prepend
      ((bail.unresolving unfinished).append (grace.unresolving unfinished')) rfl

theorem Confirmed.resolution {hash : String} {sequence : ℕ}
    (confirmed : Confirmed m v hash sequence trace out v') : Resolution v trace out v' := by
  cases confirmed with
  | missed looking unseen early cause => exact .pending (by simp) looking.unresolving rfl
  | @found polls last seen resp _ _ looking unseen sighted status =>
    cases status with
    | success passed =>
      rw [List.append_cons]
      refine .stopped looking.unresolving (fun resp' result => ?_) rfl
      obtain rfl := Except.ok.inj result
      exact ⟨passed, polls, seen, hash, rfl, sighted, rfl⟩
    | failure failed => exact .pending (by simp) looking.unresolving rfl

theorem Sending.resolution (sending : Sending m v trace out v') : Resolution v trace out v' := by
  cases sending with
  | unsent quiet interrupted => exact .pending (by simp) quiet.unresolving rfl
  | refused quiet content resolved verdict =>
    exact .pending (by simp) (quiet.unresolving.append (by simp [Unresolving])) rfl
  | accepted quiet content resolved verdict confirmed =>
    rw [List.append_cons]
    exact confirmed.resolution.prepend (quiet.unresolving.append (by simp [Unresolving])) rfl

theorem Tried.resolution (tried : Tried m attempt v trace out v') : Resolution v trace out v' := by
  cases tried with
  | preFlight quiet => exact .pending (by simp) quiet.unresolving rfl
  | begun quiet sending =>
    rw [List.append_cons]
    exact sending.resolution.prepend (quiet.unresolving.append (by simp [Unresolving])) rfl

theorem Tried.unresolving {e : PyException} (tried : Tried m attempt v trace (.error e) v') :
    Unresolving trace := by
  generalize same : Except.error e = out at tried
  cases tried.resolution with
  | stopped => cases same
  | pending goesOn unresolving kept => exact unresolving

theorem Attempt.resolution (run : Attempt m start attempt v trace out v') :
    Resolution v trace out v' := by
  cases run with
  | success tried => exact tried.resolution
  | caught tried handled => exact handled.resolution.prepend tried.unresolving tried.carried.1

end Parts

/-- A run resolves its future once, as its last event, or an exception escapes
and it stays unresolved. -/
theorem Call.resolution {m : Manager} {call : Call} {clock : ℕ} {price : Option ℚ}
    {cachedAt : Option ℕ} {s' : Submission} {trace : List Ev} {out : Except PyException Unit}
    (run : (call.submit m).Runs (call.begin clock price cachedAt) trace out s') :
    (∃ before outcome, trace = before ++ [⟨.resolve outcome, ()⟩] ∧ Unresolving before ∧
        out = .ok () ∧ s'.vars.finalFuture = some outcome ∧
        Justified before s'.vars.lastTxHash outcome) ∨
      ∃ e, out = .error e ∧ Unresolving trace ∧ s'.vars.finalFuture = none := by
  have ended := call.rule (fun _ _ past => Unresolving past)
    (fun out v past =>
      (∃ before outcome, past = before ++ [⟨.resolve outcome, ()⟩] ∧ Unresolving before ∧
        out = .ok () ∧ v.finalFuture = some outcome ∧ Justified before v.lastTxHash outcome) ∨
      ∃ e, out = .error e ∧ Unresolving past ∧ v.finalFuture = none)
    run (path_recording.mpr (List.nil_append trace).symm) Unresolving.nil ?_ ?_ ?_
  · exact ended
  · intro attempt v past trace v' past' before unresolved run path
    obtain rfl := path_recording.mp path
    cases run.resolution with
    | pending goesOn unresolving kept => exact before.append unresolving
  · intro attempt v past trace v' past' before unresolved run path
    obtain rfl := path_recording.mp path
    have resolution := run.resolution.prepend before rfl
    generalize past ++ trace = whole at resolution
    cases resolution with
    | stopped unresolving justified resolved =>
      exact .inl ⟨_, _, rfl, unresolving, rfl, resolved, justified⟩
    | pending goesOn => exact (goesOn rfl).elim
  · intro attempt v past trace e v' past' before unresolved run path
    obtain rfl := path_recording.mp path
    cases run.resolution with
    | pending goesOn unresolving kept =>
      exact .inr ⟨e, rfl, before.append unresolving, kept.trans unresolved⟩

end AlloraSdk.Source.TxManager
