import AlloraSdk.Source.Worker.Faucet

/-!
# The faucet is asked a bounded number of times, and for a reason

Every run of `_maybe_faucet_request` stays within a budget of posts, balance
queries and seconds of sleep, and its outcome is decided by its last events: the
first balance that is enough, the first 429, or five attempts without either.
-/

namespace AlloraSdk.Guarantees
open AlloraSdk.Logic AlloraSdk.Source.TxManager AlloraSdk.Source.Utils AlloraSdk.Source.Worker

/-! ## The budget -/

def postCost : FaucetQuery → ℕ
  | .post _ _ _ => 1
  | .ensureInitialized | .balance _ | .sleep _ | .stop => 0

def balanceCost : FaucetQuery → ℕ
  | .balance _ => 1
  | .ensureInitialized | .post _ _ _ | .sleep _ | .stop => 0

def sleepCost : FaucetQuery → ℕ
  | .sleep secs => secs
  | .ensureInitialized | .balance _ | .post _ _ _ | .stop => 0

section Budget

variable {client : FaucetClient} {url : String} {n : ℕ}

-- The bounds hold for whatever a request costs; the three costs above are instances.
variable (cost : FaucetQuery → ℕ)

theorem pollBalance_costs :
    Routine.Costs cost (n * (cost (.sleep 5) + cost (.balance client.address)))
      (pollBalance client n) := by
  induction n with
  | zero => exact .pure false
  | succ n ih =>
    refine Routine.Costs.mono (b := cost (.sleep 5) + (cost (.balance client.address) +
      (0 + (0 + n * (cost (.sleep 5) + cost (.balance client.address)))))) ?_ ?_
    · refine .bind (.await _) fun _ => .bind (.await _) fun _ => .bind (.ofExcept _) fun balance => ?_
      cases balance with
      | none => exact ih.mono (by omega)
      | some amount => exact .bind (.ofExcept _) fun value => .ite (.pure true) ih
    · rw [Nat.succ_mul]
      omega

/-- The cost of the first request, of what the polls and the handler may cost,
and of the pause. -/
def attemptCost (client : FaucetClient) (url : String) : ℕ :=
  cost (.post (url ++ "/api/request") client.address ((client.apiKey.filter (· ≠ "")).getD "None")) +
    maxBalancePolls * (cost (.sleep 5) + cost (.balance client.address)) + cost .stop + cost (.sleep 15)

theorem onFaucetError_costs (error : FaucetError) :
    Routine.Costs cost (cost .stop) (onFaucetError error) := by
  unfold onFaucetError
  split
  · exact .bind (c := 0) (.await _) fun _ => .throw _
  · exact .pure false
  · exact .throw _

theorem faucetAttempts_costs :
    Routine.Costs cost (n * attemptCost cost client url) (faucetAttempts client url n) := by
  induction n with
  | zero => exact .throw _
  | succ n ih =>
    have body : Routine.Costs cost
        (cost (.post (url ++ "/api/request") client.address
          ((client.apiKey.filter (· ≠ "")).getD "None")) +
          (0 + maxBalancePolls * (cost (.sleep 5) + cost (.balance client.address))))
        (requestFunds client url) :=
      .bind (.await _) fun _ => .bind (.ofExcept _) fun _ => pollBalance_costs cost
    apply Routine.Costs.mono
    · exact .bind (body.tryCatch (onFaucetError_costs cost)) fun funded =>
        .ite (.pure ()) (.bind (.await _) fun _ => ih)
    · rw [Nat.succ_mul]
      unfold attemptCost
      omega

theorem requestIfLow_costs :
    Routine.Costs cost (cost (.balance client.address) + maxFaucetRetries * attemptCost cost client url)
      (requestIfLow client url) := by
  refine Routine.Costs.mono (b := cost (.balance client.address) +
    (0 + (0 + maxFaucetRetries * attemptCost cost client url))) ?_ (by omega)
  refine .bind (.await _) fun _ => .bind (.ofExcept _) fun balance => ?_
  cases balance with
  | none => exact .throw _
  | some amount =>
    exact .bind (.ofExcept _) fun value => .ite (.pure ()) (faucetAttempts_costs cost)

theorem maybeFaucetRequest_costs {bound : ℕ} (free : cost .ensureInitialized = 0)
    (enough : ∀ url, cost (.balance client.address) + maxFaucetRetries * attemptCost cost client url ≤ bound) :
    Routine.Costs cost bound (maybeFaucetRequest client) := by
  have known : Routine.Costs cost (cost .ensureInitialized) (knownChainId client) :=
    .ite (.pure _) (.bind (c := 0) (.await _) fun _ => .ofExcept _)
  refine Routine.Costs.mono (known.bind (c := bound) fun chainId => ?_) (by omega)
  cases client.faucet chainId with
  | none => exact .pure ()
  | some url => exact (requestIfLow_costs cost).mono (enough url)

end Budget

/-! ## The outcome -/

/-- The text of an amount that is at least `minAllo`. -/
def isEnough (amount : String) : Bool :=
  match parseAmount amount with
  | .ok value => decide (minAllo ≤ value)
  | .error _ => false

/-- A reading of the balance that is enough. -/
def showsFunds : FaucetEvent → Bool
  | ⟨.balance _, .ok (some amount)⟩ => isEnough amount
  | ⟨.balance _, .ok none⟩ | ⟨.balance _, .error _⟩ => false
  | ⟨.ensureInitialized, _⟩ | ⟨.post _ _ _, _⟩ | ⟨.sleep _, _⟩ | ⟨.stop, _⟩ => false

def failureOf : FaucetEvent → Option RequestFailure
  | ⟨.ensureInitialized, .error failure⟩ | ⟨.balance _, .error failure⟩ | ⟨.post _ _ _, .error failure⟩ =>
    some failure
  | ⟨.ensureInitialized, .ok _⟩ | ⟨.balance _, .ok _⟩ | ⟨.post _ _ _, .ok _⟩ => none
  | ⟨.sleep _, _⟩ | ⟨.stop, _⟩ => none

/-- "Too many requests", from the faucet or from the node. -/
def rateLimit : RequestFailure := .httpError (some 429)

/-- An event that decides nothing. -/
def undecided (event : FaucetEvent) : Bool :=
  !showsFunds event && failureOf event != some rateLimit && event.request != .stop

/-- How one attempt, or what remains of it, ends. -/
inductive AttemptEnd : List FaucetEvent → Except FaucetError Bool → Prop
  | funded {before : List FaucetEvent} {last : FaucetEvent} (quiet : before.all undecided = true)
      (funds : showsFunds last = true) : AttemptEnd (before ++ [last]) (.ok true)
  | unfunded {trace : List FaucetEvent} (quiet : trace.all undecided = true) :
      AttemptEnd trace (.ok false)
  | limited {before : List FaucetEvent} {last : FaucetEvent} (quiet : before.all undecided = true)
      (limit : failureOf last = some rateLimit) :
      AttemptEnd (before ++ [last]) (.error (.failed rateLimit))
  | failed {trace : List FaucetEvent} {failure : RequestFailure}
      (quiet : trace.all undecided = true) (other : failure ≠ rateLimit) :
      AttemptEnd trace (.error (.failed failure))

section Attempt

variable {client : FaucetClient} {url : String} {n : ℕ} {s s' : Unit} {trace : List FaucetEvent}

theorem demandReply_bind_runs {α β : Type} {reply : Except RequestFailure α} {f : α → FaucetAct β}
    {out : Except FaucetError β} (run : (demandReply reply >>= f).Runs s trace out s') :
    (∃ failure, reply = .error failure ∧ trace = [] ∧ out = .error (.failed failure)) ∨
      ∃ a, reply = .ok a ∧ (f a).Runs s trace out s' := by
  cases reply with
  | error failure =>
    obtain ⟨_, same, rfl, rfl, -⟩ | ⟨_, same, -⟩ := Routine.runs_ofExcept_bind.mp run
    · cases same
      exact .inl ⟨failure, rfl, rfl, rfl⟩
    · cases same
  | ok a =>
    obtain ⟨_, same, -⟩ | ⟨_, same, run⟩ := Routine.runs_ofExcept_bind.mp run
    · cases same
    · cases same
      exact .inr ⟨a, rfl, run⟩

theorem AttemptEnd.cons {event : FaucetEvent} {out : Except FaucetError Bool}
    (decides : undecided event = true) (ends : AttemptEnd trace out) :
    AttemptEnd (event :: trace) out := by
  cases ends with
  | @funded before _ quiet funds =>
    exact @AttemptEnd.funded (event :: before) _ (by simp [decides, quiet]) funds
  | unfunded quiet => exact .unfunded (by simp [decides, quiet])
  | @limited before _ quiet limit =>
    exact @AttemptEnd.limited (event :: before) _ (by simp [decides, quiet]) limit
  | failed quiet other => exact .failed (by simp [decides, quiet]) other

/-- A failure ends the attempt at once. -/
theorem AttemptEnd.raise {event : FaucetEvent} {failure : RequestFailure}
    (fails : failureOf event = some failure) (short : showsFunds event = false)
    (goes : event.request ≠ .stop) : AttemptEnd [event] (.error (.failed failure)) := by
  by_cases limit : failure = rateLimit
  · subst limit
    exact @AttemptEnd.limited [] event rfl fails
  · apply AttemptEnd.failed _ limit
    simp [undecided, short, fails, limit, goes]

theorem parseAmount_failure {amount : String} {failure : RequestFailure}
    (bad : parseAmount amount = .error failure) : failure ≠ rateLimit := by
  unfold parseAmount at bad
  split at bad <;> cases bad
  simp [rateLimit]

/-- What a balance query comes to, when it is not enough. -/
theorem short_undecided {address : String} {amount : String} (short : isEnough amount = false) :
    undecided ⟨.balance address, .ok (some amount)⟩ = true := by
  simp [undecided, showsFunds, failureOf, short]

theorem pollBalance_ends {out : Except FaucetError Bool}
    (run : (pollBalance client n).Runs s trace out s') : AttemptEnd trace out := by
  induction n generalizing trace with
  | zero =>
    obtain ⟨rfl, rfl, -⟩ := Routine.runs_pure.mp run
    exact .unfunded rfl
  | succ n ih =>
    obtain ⟨⟨⟩, _, rfl, asked⟩ := Routine.runs_await_bind.mp run
    apply AttemptEnd.cons (by rfl)
    obtain ⟨reply, _, rfl, replied⟩ := Routine.runs_await_bind.mp asked
    obtain ⟨failure, rfl, rfl, rfl⟩ | ⟨balance, rfl, read⟩ := demandReply_bind_runs replied
    · exact .raise rfl rfl (by simp)
    cases balance with
    | none => exact .cons (by rfl) (ih read)
    | some amount =>
      obtain ⟨failure, bad, rfl, rfl⟩ | ⟨value, good, compared⟩ := demandReply_bind_runs read
      · have short : isEnough amount = false := by simp [isEnough, bad]
        exact .cons (short_undecided short) (.failed rfl (parseAmount_failure bad))
      · have known : isEnough amount = decide (minAllo ≤ value) := by simp [isEnough, good]
        obtain ⟨enough, stopped⟩ | ⟨short, later⟩ := Routine.runs_ite.mp compared
        · obtain ⟨rfl, rfl, -⟩ := Routine.runs_pure.mp stopped
          exact @AttemptEnd.funded [] _ rfl (known.trans (decide_eq_true enough))
        · exact .cons (short_undecided (known.trans (decide_eq_false short))) (ih later)

/-- An attempt starts with its post and makes no other. -/
theorem requestFunds_ends {out : Except FaucetError Bool}
    (run : (requestFunds client url).Runs s trace out s') :
    AttemptEnd trace out ∧ ∃ post polls, trace = post :: polls ∧ postCost post.request = 1 ∧
      Routine.totalCost postCost polls = 0 := by
  obtain ⟨reply, _, rfl, replied⟩ := Routine.runs_await_bind.mp run
  obtain ⟨failure, rfl, rfl, rfl⟩ | ⟨⟨⟩, rfl, polled⟩ := demandReply_bind_runs replied
  · exact ⟨.raise rfl rfl (by simp), _, [], rfl, rfl, rfl⟩
  · have none_posted := pollBalance_costs postCost polled
    simp only [postCost, Nat.add_zero, Nat.mul_zero, Nat.le_zero] at none_posted
    exact ⟨.cons (by rfl) (pollBalance_ends polled), _, _, rfl, rfl, none_posted⟩

end Attempt

/-- How the attempts end: with the first balance that is enough, with the first
429 (at a post or after one) and the stop of the worker, or after `posts` attempts
without either. -/
inductive FundingEnd (posts : ℕ) : List FaucetEvent → Except FaucetError Unit → Prop
  | funded {before : List FaucetEvent} {last : FaucetEvent} (quiet : before.all undecided = true)
      (funds : showsFunds last = true) : FundingEnd posts (before ++ [last]) (.ok ())
  | limited {before : List FaucetEvent} {last : FaucetEvent} (quiet : before.all undecided = true)
      (limit : failureOf last = some rateLimit)
      (inside : 0 < Routine.totalCost postCost (before ++ [last])) :
      FundingEnd posts (before ++ [last, ⟨.stop, ()⟩]) (.error .systemExit)
  | exhausted {trace : List FaucetEvent} (quiet : trace.all undecided = true)
      (all : Routine.totalCost postCost trace = posts) :
      FundingEnd posts trace (.error faucetFailure)

section Attempts

variable {client : FaucetClient} {url : String} {n : ℕ} {s s' : Unit}
  {first trace : List FaucetEvent}

theorem FundingEnd.append {out : Except FaucetError Unit} (decides : first.all undecided = true)
    (ends : FundingEnd n trace out) :
    FundingEnd (Routine.totalCost postCost first + n) (first ++ trace) out := by
  cases ends with
  | funded quiet funds =>
    rw [← List.append_assoc]
    exact .funded (by simp [decides, quiet]) funds
  | @limited before last quiet limit inside =>
    rw [← List.append_assoc]
    refine .limited (by simp [decides, quiet]) limit ?_
    rw [List.append_assoc, Routine.totalCost_append]
    omega
  | exhausted quiet all => exact .exhausted (by simp [decides, quiet]) (by simp [all])

/-- Where an attempt and its handler leave the loop. -/
def Tried (trace : List FaucetEvent) (out : Except FaucetError Bool) : Prop :=
  (out = .ok false ∧ trace.all undecided = true) ∨
    (out = .ok true ∧ ∀ n, FundingEnd n trace (.ok ())) ∨
    (out = .error .systemExit ∧ ∀ n, FundingEnd n trace (.error .systemExit))

/-- Only the handler of a 429 stops the worker. -/
theorem handled_ends {error : FaucetError} {handled : List FaucetEvent}
    {out : Except FaucetError Bool} (ends : AttemptEnd trace (.error error))
    (posted : 0 < Routine.totalCost postCost trace)
    (caught : (onFaucetError error).Runs s handled out s') :
    Tried (trace ++ handled) out ∧ Routine.totalCost postCost handled = 0 := by
  cases ends with
  | @limited before last quiet limit =>
    obtain ⟨⟨⟩, _, rfl, exits⟩ := Routine.runs_await_bind.mp caught
    obtain ⟨rfl, rfl, -⟩ := Routine.runs_throw.mp exits
    refine ⟨.inr (.inr ⟨rfl, fun n => ?_⟩), rfl⟩
    rw [List.append_assoc]
    exact .limited quiet limit posted
  | @failed _ failure quiet other =>
    have resumes : onFaucetError (.failed failure) = pure false := by
      unfold onFaucetError
      split
      · cases ‹FaucetError.failed failure = _›
        exact absurd rfl other
      · rfl
      · cases ‹FaucetError.failed failure = _›
    rw [resumes] at caught
    obtain ⟨rfl, rfl, -⟩ := Routine.runs_pure.mp caught
    exact ⟨.inl ⟨rfl, by simpa using quiet⟩, rfl⟩

/-- The attempt and its handler post once, at the start. -/
theorem tried_ends {out : Except FaucetError Bool}
    (run : (tryCatch (requestFunds client url) onFaucetError).Runs s trace out s') :
    Tried trace out ∧ ∃ post after, trace = post :: after ∧ postCost post.request = 1 ∧
      Routine.totalCost postCost after = 0 := by
  obtain ⟨funded, ran, rfl⟩ | ⟨error, _, body, handled, ran, caught, rfl⟩ := Routine.runs_tryCatch.mp run
  · obtain ⟨ends, shape⟩ := requestFunds_ends ran
    refine ⟨?_, shape⟩
    cases ends with
    | funded quiet funds => exact .inr (.inl ⟨rfl, fun n => .funded quiet funds⟩)
    | unfunded quiet => exact .inl ⟨rfl, quiet⟩
  · obtain ⟨ends, post, polls, rfl, posted, none_posted⟩ := requestFunds_ends ran
    have asked : 0 < Routine.totalCost postCost (post :: polls) := by
      rw [Routine.totalCost_cons]
      omega
    obtain ⟨tried, silent⟩ := handled_ends ends asked caught
    exact ⟨tried, post, polls ++ handled, rfl, posted, by simp [none_posted, silent]⟩

/-! ### The pace -/

/-- The seconds slept before each post, from `clock` on. -/
def postTimes : ℕ → List FaucetEvent → List ℕ
  | _, [] => []
  | clock, event :: rest =>
    if postCost event.request = 1 then clock :: postTimes clock rest
    else postTimes (clock + sleepCost event.request) rest

theorem postTimes_quiet {clock : ℕ} {first rest : List FaucetEvent}
    (none_posted : Routine.totalCost postCost first = 0) :
    postTimes clock (first ++ rest) = postTimes (clock + Routine.totalCost sleepCost first) rest := by
  induction first generalizing clock with
  | nil => rfl
  | cons event first ih =>
    rw [Routine.totalCost_cons] at none_posted
    rw [List.cons_append, postTimes, if_neg (by omega), ih (by omega), Routine.totalCost_cons,
      Nat.add_assoc]

theorem le_postTimes {clock time : ℕ} (member : time ∈ postTimes clock trace) : clock ≤ time := by
  induction trace generalizing clock with
  | nil => cases member
  | cons event rest ih =>
    rw [postTimes] at member
    split at member
    · rcases List.mem_cons.mp member with rfl | later
      · exact le_rfl
      · exact ih later
    · have := ih member
      omega

/-- Two posts are at least 15 seconds of sleep apart. -/
def Paced (clock : ℕ) (trace : List FaucetEvent) : Prop :=
  (postTimes clock trace).Pairwise fun earlier later => earlier + 15 ≤ later

section Pace

variable {post : FaucetEvent} {after later : List FaucetEvent} (posted : postCost post.request = 1)
  (none_posted : Routine.totalCost postCost after = 0)

include posted none_posted in
theorem paced_attempt (clock : ℕ) : Paced clock (post :: after) := by
  have alone := @postTimes_quiet clock after [] none_posted
  rw [List.append_nil] at alone
  rw [Paced, postTimes, if_pos posted, alone, postTimes]
  exact List.pairwise_singleton _ _

include posted none_posted in
theorem paced_pause (paced : ∀ clock, Paced clock later) (clock : ℕ) :
    Paced clock (post :: after ++ ⟨.sleep 15, ()⟩ :: later) := by
  rw [Paced, List.cons_append, postTimes, if_pos posted, postTimes_quiet none_posted, postTimes,
    if_neg (by simp [postCost])]
  apply List.Pairwise.cons
  · intro time member
    have paused := le_postTimes member
    simp only [sleepCost] at paused
    omega
  · exact paced _

end Pace

/-- Induction on the attempts that are left: the first post of the later ones
comes after the pause of this one. -/
theorem faucetAttempts_ends {out : Except FaucetError Unit}
    (run : (faucetAttempts client url n).Runs s trace out s') :
    FundingEnd n trace out ∧ ∀ clock, Paced clock trace := by
  induction n generalizing trace with
  | zero =>
    obtain ⟨rfl, rfl, -⟩ := Routine.runs_throw.mp run
    exact ⟨.exhausted rfl rfl, fun clock => .nil⟩
  | succ n ih =>
    obtain ⟨error, tried, rfl⟩ | ⟨funded, _, first, rest, tried, went, rfl⟩ := Routine.runs_bind.mp run
    · obtain ⟨ends, post, after, rfl, posted, none_posted⟩ := tried_ends tried
      obtain ⟨same, -⟩ | ⟨same, -⟩ | ⟨same, ends⟩ := ends <;> cases same
      exact ⟨ends _, paced_attempt posted none_posted⟩
    · obtain ⟨ends, post, after, rfl, posted, none_posted⟩ := tried_ends tried
      obtain ⟨same, quiet⟩ | ⟨same, ends⟩ | ⟨same, -⟩ := ends <;> cases same
      · obtain ⟨⟨⟩, later, rfl, ran⟩ := Routine.runs_await_bind.mp went
        obtain ⟨rest_ends, paced⟩ := ih ran
        refine ⟨?_, paced_pause posted none_posted paced⟩
        have pause : List.all [⟨.sleep 15, ()⟩] undecided = true := rfl
        have whole := (rest_ends.append pause).append quiet
        have total : Routine.totalCost postCost (post :: after) +
            (Routine.totalCost postCost [(⟨.sleep 15, ()⟩ : FaucetEvent)] + n) = n + 1 := by
          rw [Routine.totalCost_cons, posted, none_posted]
          simp [postCost, Nat.add_comm]
        rw [total] at whole
        exact whole
      · obtain ⟨rfl, rfl, -⟩ := Routine.runs_pure.mp went
        rw [List.append_nil]
        exact ⟨ends _, paced_attempt posted none_posted⟩

end Attempts

/-- The chain id that the worker holds, and how it came to know it. -/
def Known (client : FaucetClient) (chainId : Option String) (trace : List FaucetEvent) : Prop :=
  if client.initialized = true then trace = [] ∧ chainId = client.chainId
  else trace = [⟨.ensureInitialized, .ok chainId⟩]

/-- Posts go to `url` for the client's own address, as balance queries do. -/
def OwnRequest (client : FaucetClient) (url : String) : FaucetQuery → Prop
  | .post target address _ => target = url ++ "/api/request" ∧ address = client.address
  | .balance address => address = client.address
  | .ensureInitialized => False
  | .sleep _ | .stop => True

/-- A first reading of the balance that gives no amount, and what it raises: its own
failure, the complaint about a missing balance, or that of `int`. -/
inductive Unread (client : FaucetClient) : FaucetReply (.balance client.address) → FaucetError → Prop
  | raised (failure : RequestFailure) : Unread client (.error failure) (.failed failure)
  | missing : Unread client (.ok none)
      (.failed (.raised (.runtimeError ("could not check balance for " ++ client.address))))
  | unreadable {amount : String} (bad : pyInt amount.toList = none) : Unread client (.ok (some amount))
      (.failed (.raised (.other ("invalid literal for int() with base 10: '" ++ amount ++ "'"))))

/-- How a run ends. -/
inductive FaucetEnd (client : FaucetClient) : List FaucetEvent → Except FaucetError Unit → Prop
  | unknown (failure : RequestFailure) (due : client.initialized = false) :
      FaucetEnd client [⟨.ensureInitialized, .error failure⟩] (.error (.failed failure))
  | exempt {chainId : Option String} {first : List FaucetEvent} (known : Known client chainId first)
      (exempt : client.faucet chainId = none) : FaucetEnd client first (.ok ())
  | unread {chainId : Option String} {first : List FaucetEvent} (known : Known client chainId first)
      {url : String} (asks : client.faucet chainId = some url) {reply : FaucetReply (.balance client.address)}
      {error : FaucetError} (unread : Unread client reply error) :
      FaucetEnd client (first ++ [⟨.balance client.address, reply⟩]) (.error error)
  | settled {chainId : Option String} {first rest : List FaucetEvent}
      (known : Known client chainId first) {url : String} (asks : client.faucet chainId = some url)
      (own : ∀ event ∈ rest, OwnRequest client url event.request)
      {out : Except FaucetError Unit}
      (ends : FundingEnd maxFaucetRetries rest out) : FaucetEnd client (first ++ rest) out

section Call

variable {client : FaucetClient} {url : String} {n : ℕ} {s s' : Unit} {trace : List FaucetEvent}

theorem knownChainId_ends {out : Except FaucetError (Option String)}
    (run : (knownChainId client).Runs s trace out s') :
    (∃ failure, client.initialized = false ∧ trace = [⟨.ensureInitialized, .error failure⟩] ∧
      out = .error (.failed failure)) ∨
      ∃ chainId, Known client chainId trace ∧ out = .ok chainId := by
  obtain ⟨ready, known⟩ | ⟨due, asked⟩ := Routine.runs_ite.mp run
  · obtain ⟨rfl, rfl, -⟩ := Routine.runs_pure.mp known
    exact .inr ⟨_, by simp [Known, ready], rfl⟩
  · obtain ⟨reply, _, rfl, replied⟩ := Routine.runs_await_bind.mp asked
    obtain ⟨rfl, rfl, -⟩ := Routine.runs_ofExcept.mp replied
    cases reply with
    | error failure => exact .inl ⟨failure, by simpa using due, rfl, rfl⟩
    | ok chainId => exact .inr ⟨chainId, by simp [Known, due], rfl⟩

theorem Known.no_posts {chainId : Option String} (known : Known client chainId trace) :
    Routine.totalCost postCost trace = 0 := by
  unfold Known at known
  split at known
  · simp [known.1]
  · simp [known, postCost]

theorem pollBalance_asks : Routine.Asks (OwnRequest client url) (pollBalance client n) := by
  induction n with
  | zero => exact .pure false
  | succ n ih =>
    have slept : OwnRequest client url (.sleep 5) := trivial
    have queried : OwnRequest client url (.balance client.address) := rfl
    refine .bind (.await slept) fun _ => .bind (.await queried) fun _ => .bind (.ofExcept _) fun balance => ?_
    cases balance with
    | none => exact ih
    | some amount =>
      refine .bind (.ofExcept _) fun value => ?_
      split
      · exact .pure true
      · exact ih

theorem faucetAttempts_asks : Routine.Asks (OwnRequest client url) (faucetAttempts client url n) := by
  induction n with
  | zero => exact .throw _
  | succ n ih =>
    have body : Routine.Asks (OwnRequest client url) (requestFunds client url) :=
      .bind (.await ⟨rfl, rfl⟩) fun _ => .bind (.ofExcept _) fun _ => pollBalance_asks
    have handler (error : FaucetError) : Routine.Asks (OwnRequest client url) (onFaucetError error) := by
      unfold onFaucetError
      split
      · exact .bind (.await trivial) fun _ => .throw _
      · exact .pure false
      · exact .throw _
    apply Routine.Asks.bind (body.tryCatch handler)
    intro funded
    split
    · exact .pure ()
    · exact .bind (.await trivial) fun _ => ih

theorem unread_of_parseAmount {amount : String} {failure : RequestFailure}
    (bad : parseAmount amount = .error failure) : Unread client (.ok (some amount)) (.failed failure) := by
  unfold parseAmount at bad
  split at bad
  · cases bad
  · cases bad
    exact .unreadable ‹_›

theorem requestIfLow_ends {out : Except FaucetError Unit}
    (run : (requestIfLow client url).Runs s trace out s') :
    (∃ reply error, trace = [⟨.balance client.address, reply⟩] ∧ Unread client reply error ∧ out = .error error) ∨
      FundingEnd maxFaucetRetries trace out ∧ (∀ clock, Paced clock trace) ∧
        ∀ event ∈ trace, OwnRequest client url event.request := by
  obtain ⟨reply, _, rfl, replied⟩ := Routine.runs_await_bind.mp run
  obtain ⟨failure, rfl, rfl, rfl⟩ | ⟨balance, rfl, read⟩ := demandReply_bind_runs replied
  · exact .inl ⟨_, _, rfl, .raised failure, rfl⟩
  cases balance with
  | none =>
    obtain ⟨rfl, rfl, -⟩ := Routine.runs_throw.mp read
    exact .inl ⟨_, _, rfl, .missing, rfl⟩
  | some amount =>
    obtain ⟨failure, bad, rfl, rfl⟩ | ⟨value, good, compared⟩ := demandReply_bind_runs read
    · exact .inl ⟨_, _, rfl, unread_of_parseAmount bad, rfl⟩
    have known : isEnough amount = decide (minAllo ≤ value) := by simp [isEnough, good]
    right
    obtain ⟨enough, stopped⟩ | ⟨short, later⟩ := Routine.runs_ite.mp compared
    · obtain ⟨rfl, rfl, -⟩ := Routine.runs_pure.mp stopped
      refine ⟨@FundingEnd.funded _ [] _ rfl (known.trans (decide_eq_true enough)), fun _ => .nil, ?_⟩
      intro event member
      rw [List.mem_singleton.mp member]
      rfl
    · obtain ⟨ends, paced⟩ := faucetAttempts_ends later
      have quiet : List.all [(⟨.balance client.address, .ok (some amount)⟩ : FaucetEvent)] undecided = true := by
        simp [short_undecided (known.trans (decide_eq_false short))]
      refine ⟨by simpa [postCost] using ends.append quiet, paced, ?_⟩
      intro event member
      rcases List.mem_cons.mp member with rfl | member
      · rfl
      · exact faucetAttempts_asks later event member

/-- Every run of `_maybe_faucet_request`, whatever the faucet and the node reply:
at most five posts, at least 15 seconds apart, 61 balance queries and 375 seconds
of sleep, and one of the ends of `FaucetEnd`. -/
theorem faucet_asks_within_budget {out : Except FaucetError Unit}
    (run : (maybeFaucetRequest client).Runs s trace out s') :
    Routine.totalCost postCost trace ≤ 5 ∧ Routine.totalCost balanceCost trace ≤ 61 ∧
      Routine.totalCost sleepCost trace ≤ 375 ∧ Paced 0 trace ∧ FaucetEnd client trace out := by
  refine ⟨?_, ?_, ?_, ?_⟩
  · apply maybeFaucetRequest_costs postCost rfl _ run
    simp [attemptCost, postCost, maxFaucetRetries, maxBalancePolls]
  · apply maybeFaucetRequest_costs balanceCost rfl _ run
    simp [attemptCost, balanceCost, maxFaucetRetries, maxBalancePolls]
  · apply maybeFaucetRequest_costs sleepCost rfl _ run
    simp [attemptCost, sleepCost, maxFaucetRetries, maxBalancePolls]
  obtain ⟨error, unknown, rfl⟩ | ⟨chainId, _, first, rest, ran, asked, rfl⟩ := Routine.runs_bind.mp run
  · obtain ⟨failure, due, rfl, same⟩ | ⟨_, -, same⟩ := knownChainId_ends unknown <;> cases same
    exact ⟨.nil, .unknown failure due⟩
  obtain ⟨_, -, -, same⟩ | ⟨_, known, same⟩ := knownChainId_ends ran <;> cases same
  have pace (later : ∀ clock, Paced clock rest) : Paced 0 (first ++ rest) := by
    rw [Paced, postTimes_quiet known.no_posts]
    exact later _
  cases asks : client.faucet chainId with
  | none =>
    rw [asks] at asked
    obtain ⟨rfl, rfl, -⟩ := Routine.runs_pure.mp asked
    refine ⟨pace fun _ => .nil, ?_⟩
    rw [List.append_nil]
    exact .exempt known asks
  | some url =>
    rw [asks] at asked
    obtain ⟨reply, error, rfl, unread, rfl⟩ | ⟨ends, paced, own⟩ := requestIfLow_ends asked
    · exact ⟨pace fun _ => .nil, .unread known asks unread⟩
    · exact ⟨pace paced, .settled known asks own ends⟩

end Call

/-- A worker on the testnet that has not asked for its chain id yet. -/
def unfundedWorker : FaucetClient :=
  { initialized := false, chainId := none, faucetUrl := some "https://faucet", address := "allo1worker",
    apiKey := none }

/-- A faucet that fails once and pays at the second post. -/
def slowFaucet (posts : ℕ) (query : FaucetQuery) : FaucetReply query × ℕ :=
  match query with
  | .ensureInitialized => (.ok (some "allora-testnet-1"), posts)
  | .balance _ => (.ok (some (if posts < 2 then "12" else "100000000")), posts)
  | .post _ _ _ => (if posts = 0 then .error (.httpError (some 500)) else .ok (), posts + 1)
  | .sleep _ => ((), posts)
  | .stop => ((), posts)

def fundedRun : Coroutine.Played Unit FaucetQuery FaucetReply ℕ (Except FaucetError Unit) :=
  (maybeFaucetRequest unfundedWorker).play slowFaucet () 0

theorem fundedRun_within_budget : postTimes 0 fundedRun.trace = [0, 15] ∧
    Routine.totalCost sleepCost fundedRun.trace = 20 ∧ Paced 0 fundedRun.trace ∧
    FaucetEnd unfundedWorker fundedRun.trace (.ok ()) := by
  have funded : fundedRun.value = .ok () := by decide +kernel
  obtain ⟨-, -, -, paced, ends⟩ := faucet_asks_within_budget
    (Routine.play_runs slowFaucet (maybeFaucetRequest unfundedWorker) () 0)
  refine ⟨by decide +kernel, by decide +kernel, paced, ?_⟩
  rw [← funded]
  exact ends

end AlloraSdk.Guarantees
