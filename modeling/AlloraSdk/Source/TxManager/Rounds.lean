import AlloraSdk.Source.TxManager.Attempts

/-!
# The attempts of a run, one by one

`Attempt` lists what an attempt can do to the variables that steer the loop. The
gas limit and the fee depend on the whole state, so here a run is cut into its
rounds: the state an attempt starts in, its `try`, its except clause and the
state that the next attempt starts in (`submit_runs_iff`).
-/

namespace AlloraSdk.Source.TxManager
open AlloraSdk.Logic

/-- One attempt of the loop. `body` and `result` are those of its `try`,
`handling` the events of the except clause. -/
structure Round where
  attempt : ℕ
  entry : Submission
  body : List Ev
  result : Except PyException Control
  raised : Submission
  handling : List Ev
  control : Except PyException Control
  exit : Submission

def Round.trace (r : Round) : List Ev := r.body ++ r.handling

/-- The round is a run of `attemptOnce`. -/
structure Round.Valid (m : Manager) (start : ℕ) (r : Round) : Prop where
  tried : (tryAttempt m r.attempt).Runs r.entry r.body r.result r.raised
  caught : match r.result with
    | .ok control => r.handling = [] ∧ r.control = .ok control ∧ r.exit = r.raised
    | .error e => (handle m start r.attempt e).Runs r.raised r.handling r.control r.exit

/-- The rounds of a run of the loop, each from the state the one before left. -/
inductive Rounds (m : Manager) (start : ℕ) : ℕ → Submission → List Round → Prop
  | last {attempt : ℕ} {s : Submission} {r : Round} (number : r.attempt = attempt) (entry : r.entry = s)
      (valid : r.Valid m start) (ends : r.control ≠ .ok .continue) : Rounds m start attempt s [r]
  | next {attempt : ℕ} {s : Submission} {r : Round} {later : List Round} (number : r.attempt = attempt)
      (entry : r.entry = s) (valid : r.Valid m start) (goesOn : r.control = .ok .continue)
      (rest : Rounds m start (attempt + 1) r.exit later) : Rounds m start attempt s (r :: later)

def traceOf (rounds : List Round) : List Ev := rounds.flatMap Round.trace

/-- How the last round ends the run. -/
def EndsIn (rounds : List Round) (out : Except PyException Unit) (s' : Submission) : Prop :=
  ∃ r ∈ rounds.getLast?, out = r.control.map (fun _ => ()) ∧ s' = r.exit

/-- The state in which the loop of a submission begins. -/
def Call.entered (call : Call) (clock : ℕ) (cachedGasPrice : Option ℚ)
    (gasPriceCacheTime : Option ℕ) : Submission :=
  { call.begin clock cachedGasPrice gasPriceCacheTime with
    feeMultiplier := feeMultipliers call.feeTier
    currentGasLimit := call.gasLimit
    nextAccountSeq := call.accountSeq }

/-- The attempts of one submission. -/
def Call.Rounds (m : Manager) (call : Call) (clock : ℕ) (cachedGasPrice : Option ℚ)
    (gasPriceCacheTime : Option ℕ) (rounds : List Round) : Prop :=
  TxManager.Rounds m clock 0 (call.entered clock cachedGasPrice gasPriceCacheTime) rounds

section Decomposition

variable {m : Manager} {start attempt : ℕ} {s s' : Submission} {trace : List Ev}

theorem attemptOnce_runs_iff {control : Except PyException Control} :
    (attemptOnce m start attempt).Runs s trace control s' ↔
      ∃ r : Round, r.Valid m start ∧ r.attempt = attempt ∧ r.entry = s ∧ r.trace = trace ∧
        r.control = control ∧ r.exit = s' := by
  constructor
  · intro run
    obtain ⟨c, h, rfl⟩ | ⟨e, t, body, handling, h, caught, rfl⟩ := Routine.runs_tryCatch.mp run
    · exact ⟨⟨attempt, s, trace, .ok c, s', [], .ok c, s'⟩, ⟨h, rfl, rfl, rfl⟩, rfl, rfl,
        List.append_nil _, rfl, rfl⟩
    · exact ⟨⟨attempt, s, body, .error e, t, handling, control, s'⟩, ⟨h, caught⟩, rfl, rfl, rfl,
        rfl, rfl⟩
  · rintro ⟨r, ⟨tried, caught⟩, rfl, rfl, rfl, rfl, rfl⟩
    refine Routine.runs_tryCatch.mpr ?_
    cases result : r.result with
    | ok c =>
      rw [result] at tried caught
      obtain ⟨silent, control, exit⟩ := caught
      refine .inl ⟨c, ?_, control⟩
      rw [Round.trace, silent, List.append_nil, exit]
      exact tried
    | error e =>
      rw [result] at tried caught
      exact .inr ⟨e, r.raised, r.body, r.handling, tried, caught, rfl⟩

theorem Round.Valid.runs {r : Round} (valid : r.Valid m start) :
    (attemptOnce m start r.attempt).Runs r.entry r.trace r.control r.exit :=
  attemptOnce_runs_iff.mpr ⟨r, valid, rfl, rfl, rfl, rfl, rfl⟩

theorem Rounds.ne_nil {rounds : List Round} (run : Rounds m start attempt s rounds) : rounds ≠ [] := by
  cases run <;> simp

/-- A run of the loop is a run of its rounds. -/
theorem attemptLoop_runs_iff {left : ℕ} {out : Except PyException Unit}
    (unresolved : s.vars.finalFuture = none)
    (rest : attempt + left = s.vars.maxRetries + 1) (remaining : 0 < left) :
    (attemptLoop m start left attempt).Runs s trace out s' ↔
      ∃ rounds, Rounds m start attempt s rounds ∧ trace = traceOf rounds ∧ EndsIn rounds out s' := by
  induction left generalizing attempt s trace with
  | zero => exact (Nat.lt_irrefl 0 remaining).elim
  | succ left ih =>
    refine Routine.runs_bind.trans ⟨?_, ?_⟩
    · rintro (⟨e, h, rfl⟩ | ⟨control, t, first, later, h, run, rfl⟩)
      · obtain ⟨r, valid, rfl, rfl, rfl, control, rfl⟩ := attemptOnce_runs_iff.mp h
        refine ⟨[r], .last rfl rfl valid (by simp [control]), by simp [traceOf], r, rfl, ?_, rfl⟩
        rw [control]
        rfl
      · obtain ⟨r, valid, rfl, rfl, rfl, same, rfl⟩ := attemptOnce_runs_iff.mp h
        cases control with
        | stop =>
          obtain ⟨rfl, rfl, rfl⟩ := Routine.runs_pure.mp run
          refine ⟨[r], .last rfl rfl valid (by simp [same]), by simp [traceOf], r, rfl, ?_, rfl⟩
          rw [same]
          rfl
        | «continue» =>
          obtain ⟨⟨future, retries, -, -⟩, notLast⟩ :=
            (attemptOnce_outcome unresolved h).continues
          obtain ⟨rounds, goesOn, rfl, last, member, ends⟩ :=
            (ih (future.trans unresolved) (by omega) (by omega)).mp run
          refine ⟨r :: rounds, .next rfl rfl valid same goesOn, by simp [traceOf], last, ?_, ends⟩
          rw [List.getLast?_cons_of_ne_nil goesOn.ne_nil]
          exact member
    · rintro ⟨rounds, run, rfl, last, member, rfl, rfl⟩
      cases run with
      | @last _ _ r number entry valid ends =>
        subst number entry
        obtain rfl : r = last := by simpa using member
        have once := valid.runs
        rw [show traceOf [r] = r.trace by simp [traceOf]]
        rcases control : r.control with e | (_ | _)
        · rw [control] at once
          exact .inl ⟨e, once, rfl⟩
        · rw [control] at once
          exact .inr ⟨.stop, r.exit, r.trace, [], once, Routine.runs_pure.mpr ⟨rfl, rfl, rfl⟩,
            (List.append_nil _).symm⟩
        · exact (ends control).elim
      | @next _ _ r later number entry valid goesOn more =>
        subst number entry
        have once := valid.runs
        rw [goesOn] at once
        obtain ⟨⟨future, retries, -, -⟩, notLast⟩ := (attemptOnce_outcome unresolved once).continues
        rw [List.getLast?_cons_of_ne_nil more.ne_nil] at member
        refine .inr ⟨.continue, r.exit, r.trace, traceOf later, once, ?_, by simp [traceOf]⟩
        exact (ih (future.trans unresolved) (by omega) (by omega)).mpr
          ⟨later, more, rfl, last, member, rfl, rfl⟩

end Decomposition

/-! ## Reasoning round by round -/

section Along

variable {m : Manager} {start attempt : ℕ} {s : Submission} {rounds : List Round} {r : Round}

theorem Round.Valid.goesOn_unresolved (valid : r.Valid m start)
    (unresolved : r.entry.vars.finalFuture = none) (goesOn : r.control = .ok .continue) :
    r.exit.vars.finalFuture = none := by
  have once := valid.runs
  rw [goesOn] at once
  exact (attemptOnce_outcome unresolved once).continues.1.1.trans unresolved

/-- An attempt that goes on raised, and its except clause went on. -/
theorem Round.Valid.handled (valid : r.Valid m start)
    (unresolved : r.entry.vars.finalFuture = none) (goesOn : r.control = .ok .continue) :
    ∃ e, r.result = .error e ∧ r.raised.vars.finalFuture = none ∧
      (handle m start r.attempt e).Runs r.raised r.handling (.ok .continue) r.exit := by
  have tried := tryAttempt_outcome unresolved valid.tried
  have caught := valid.caught
  cases result : r.result with
  | ok control =>
    rw [result] at tried caught
    obtain rfl : control = .continue := Except.ok.inj (caught.2.1.symm.trans goesOn)
    exact tried.not_continue.elim
  | error e =>
    rw [result, goesOn] at caught
    rw [result] at tried
    exact ⟨e, rfl, tried.unresolved unresolved, caught⟩

theorem Rounds.cut {before after : List Round} (run : Rounds m start attempt s (before ++ r :: after)) :
    Rounds m start r.attempt r.entry (r :: after) := by
  induction before generalizing attempt s with
  | nil =>
    cases run with
    | last number entry valid ends => exact .last rfl rfl valid ends
    | next number entry valid goesOn rest => exact .next rfl rfl valid goesOn (number ▸ rest)
  | cons first before ih =>
    rw [List.cons_append] at run
    generalize tail : before ++ r :: after = later at run
    cases run with
    | last => simp at tail
    | next number entry valid goesOn rest => exact ih (tail ▸ rest)

theorem Rounds.valid (run : Rounds m start attempt s rounds) (member : r ∈ rounds) :
    r.Valid m start := by
  obtain ⟨before, after, rfl⟩ := List.append_of_mem member
  cases run.cut with
  | last number entry valid ends => exact valid
  | next number entry valid goesOn rest => exact valid

/-- Two attempts in a row. -/
theorem Rounds.successive {q : Round} {before after : List Round}
    (run : Rounds m start attempt s (before ++ r :: q :: after)) :
    r.control = .ok .continue ∧ q.attempt = r.attempt + 1 ∧ q.entry = r.exit := by
  cases run.cut with
  | next number entry valid goesOn rest =>
    cases rest with
    | last number' entry' => exact ⟨goesOn, number', entry'⟩
    | next number' entry' => exact ⟨goesOn, number', entry'⟩

/-- An attempt after the first begins where one that goes on ends. -/
theorem Rounds.predecessor (run : Rounds m start attempt s rounds) (member : r ∈ rounds)
    (later : r.attempt ≠ attempt) : ∃ q ∈ rounds, q.control = .ok .continue ∧ r.entry = q.exit := by
  obtain ⟨before, after, rfl⟩ := List.append_of_mem member
  rcases List.eq_nil_or_concat before with rfl | ⟨earlier, q, rfl⟩
  · cases run with
    | last number => exact (later number).elim
    | next number => exact (later number).elim
  · have regrouped : earlier.concat q ++ r :: after = earlier ++ q :: r :: after := by simp
    rw [regrouped] at run
    obtain ⟨goesOn, -, entry⟩ := Rounds.successive run
    exact ⟨q, by simp, goesOn, entry⟩

/-- An attempt that stops is the last one. -/
theorem Rounds.stopped {out : Except PyException Unit} (run : Rounds m start attempt s rounds)
    (ends : EndsIn rounds out s') (member : r ∈ rounds) (stopped : r.control = .ok .stop) :
    [r] <:+ rounds ∧ out = .ok () ∧ s' = r.exit := by
  obtain ⟨before, after, rfl⟩ := List.append_of_mem member
  cases run.cut with
  | last number entry valid final =>
    obtain ⟨last, same, rfl, rfl⟩ := ends
    obtain rfl : r = last := by simpa using same
    exact ⟨⟨before, rfl⟩, by rw [stopped]; rfl, rfl⟩
  | next number entry valid goesOn rest =>
    rw [stopped] at goesOn
    cases goesOn

/-- What holds at the start and is handed on by every attempt that goes on
holds at the start of every attempt. -/
theorem Rounds.invariant (inv : Submission → Prop) (run : Rounds m start attempt s rounds)
    (unresolved : s.vars.finalFuture = none) (initial : inv s)
    (step : ∀ r ∈ rounds, r.Valid m start → r.entry.vars.finalFuture = none →
      r.control = .ok .continue → inv r.entry → inv r.exit) :
    ∀ r ∈ rounds, r.entry.vars.finalFuture = none ∧ inv r.entry := by
  induction run with
  | last number entry valid ends =>
    intro r member
    obtain rfl := List.mem_singleton.mp member
    rw [entry]
    exact ⟨unresolved, initial⟩
  | @next attempt s first later number entry valid goesOn rest ih =>
    subst entry
    have handed := step first (.head _) valid unresolved goesOn initial
    have later' := ih (valid.goesOn_unresolved unresolved goesOn) handed
      fun r member => step r (.tail _ member)
    intro r member
    rcases List.mem_cons.mp member with rfl | member
    · exact ⟨unresolved, initial⟩
    · exact later' r member

theorem Rounds.unresolved (run : Rounds m start attempt s rounds) (unresolved : s.vars.finalFuture = none)
    (member : r ∈ rounds) : r.entry.vars.finalFuture = none := by
  have everywhere := run.invariant (fun _ => True) unresolved trivial fun _ _ _ _ _ _ => trivial
  exact (everywhere r member).1

end Along

/-- Every run of a submission is the run of its rounds, and every chain of
rounds is one. -/
theorem Call.submit_runs_iff {m : Manager} {call : Call} {clock : ℕ} {price : Option ℚ}
    {cachedAt : Option ℕ} {s' : Submission} {trace : List Ev} {out : Except PyException Unit} :
    (call.submit m).Runs (call.begin clock price cachedAt) trace out s' ↔
      ∃ rounds, call.Rounds m clock price cachedAt rounds ∧ trace = traceOf rounds ∧
        EndsIn rounds out s' := by
  refine (Routine.runs_state_bind.trans Routine.runs_update_bind).trans ?_
  exact attemptLoop_runs_iff rfl (Nat.zero_add _) (Nat.succ_pos _)

/-! ## Playing the rounds -/

/-- One attempt, its requests answered by the events so far; and those after it. -/
def playRound (m : Manager) (start : ℕ) (reply : List Ev → (request : Request) → Reply request)
    (attempt : ℕ) (s : Submission) (past : List Ev) : Round × List Ev :=
  let tried := (tryAttempt m attempt).play (replying reply) s past
  match tried.value with
  | .ok control =>
    (⟨attempt, s, tried.trace, .ok control, tried.state, [], .ok control, tried.state⟩, tried.world)
  | .error e =>
    let caught := (handle m start attempt e).play (replying reply) tried.state tried.world
    (⟨attempt, s, tried.trace, .error e, tried.state, caught.trace, caught.value, caught.state⟩, caught.world)

def playRounds (m : Manager) (start : ℕ) (reply : List Ev → (request : Request) → Reply request) :
    ℕ → ℕ → Submission → List Ev → List Round
  | 0, _, _, _ => []
  | left + 1, attempt, s, past =>
    let played := playRound m start reply attempt s past
    match played.1.control with
    | .ok .continue => played.1 :: playRounds m start reply left (attempt + 1) played.1.exit played.2
    | _ => [played.1]

/-- The rounds of a submission whose requests are answered by `reply`. -/
def Call.played (m : Manager) (call : Call) (reply : List Ev → (request : Request) → Reply request) :
    List Round :=
  playRounds m 0 reply (call.maxRetries + 1) 0 (call.entered 0 none none) []

section Playing

variable {m : Manager} {start : ℕ} {reply : List Ev → (request : Request) → Reply request}

theorem playRound_valid (m : Manager) (start : ℕ) (reply : List Ev → (request : Request) → Reply request)
    (attempt : ℕ) (s : Submission) (past : List Ev) :
    (playRound m start reply attempt s past).1.attempt = attempt ∧
      (playRound m start reply attempt s past).1.entry = s ∧
      (playRound m start reply attempt s past).1.Valid m start := by
  have tried := Routine.play_runs (replying reply) (tryAttempt m attempt) s past
  unfold playRound
  dsimp only
  split
  · rename_i control result
    rw [result] at tried
    exact ⟨rfl, rfl, tried, rfl, rfl, rfl⟩
  · rename_i e result
    rw [result] at tried
    exact ⟨rfl, rfl, tried, Routine.play_runs (replying reply) (handle m start attempt e) _ _⟩

theorem playRounds_rounds {left attempt : ℕ} {s : Submission} {past : List Ev}
    (unresolved : s.vars.finalFuture = none) (rest : attempt + left = s.vars.maxRetries + 1)
    (remaining : 0 < left) : Rounds m start attempt s (playRounds m start reply left attempt s past) := by
  induction left generalizing attempt s past with
  | zero => exact (Nat.lt_irrefl 0 remaining).elim
  | succ left ih =>
    obtain ⟨number, entry, valid⟩ := playRound_valid m start reply attempt s past
    rw [playRounds]
    split
    · rename_i goesOn
      have once := valid.runs
      rw [goesOn, number, entry] at once
      obtain ⟨⟨future, retries, -, -⟩, notLast⟩ := (attemptOnce_outcome unresolved once).continues
      exact .next number entry valid goesOn
        (ih (future.trans unresolved) (by omega) (by omega))
    · rename_i ends
      exact .last number entry valid ends

theorem Call.played_rounds (call : Call) : call.Rounds m 0 none none (call.played m reply) :=
  playRounds_rounds rfl (Nat.zero_add _) (Nat.succ_pos _)

end Playing

end AlloraSdk.Source.TxManager
