import AlloraSdk.Chain.Simulation
import AlloraSdk.Logic.TimedCache

/-!
# The gas price cache

Any number of calls of `_get_current_gas_price`, one after the other: the
feemarket's answers are at least the TTL apart, and a price is the static one or
an answer that was not older than the TTL.
-/

namespace AlloraSdk.Guarantees
open AlloraSdk.Logic AlloraSdk.Source.TxManager AlloraSdk.Chain

/-- The cached price, when both of its fields are set. -/
def priceEntry (s : Submission) : Option (Stored ℚ) :=
  match s.cachedGasPrice, s.gasPriceCacheTime with
  | some price, some cachedAt => some ⟨price, cachedAt⟩
  | _, _ => none

def priceState (s : Submission) : CacheState ℚ := ⟨priceEntry s, s.clock⟩

/-- The price that an event brings, with the multiplier. -/
def quotedPrice (m : Manager) : Ev → Option ℚ
  | ⟨.query (.gasPrice _), (_, .ok (some (some amount)))⟩ =>
    some (amount / 10 ^ 18 * m.config.dynamicGasPriceDefaultMultiplier)
  | _ => none

abbrev PriceCall := RoutineCall Unit PyException Submission Request Reply ℚ

/-- What a call returns, by what it came to; the cache takes no query, and an answer is
stored when it arrives. -/
def returnsPrice (m : Manager) (call : PriceCall) : Lookup ℚ → Prop
  | .hit e => call.trace = [] ∧ call.out = .ok e.value
  | .refreshed e => call.out = .ok e.value ∧ e.since = call.finish.clock
  | .missed => call.out = .ok m.config.feeMinimumGasPrice

/-- `_get_current_gas_price` takes no argument. -/
abbrev priceRoutine (m : Manager) (_ : Unit) : Act ℚ := getCurrentGasPrice m

section Call

variable {m : Manager} {s s' : Submission} {trace : List Ev} {out : Except PyException ℚ}

/-- A call without a price leaves the cache alone and falls back to the static price. -/
structure Unpriced (m : Manager) (s : Submission) (trace : List Ev) (s' : Submission) : Prop where
  unquoted : trace.filterMap (quotedPrice m) = []
  later : s.clock ≤ s'.clock
  kept : priceEntry s' = priceEntry s

/-- The fetch stores what it returns. -/
structure Fetched (m : Manager) (s : Submission) (trace : List Ev) (price : ℚ) (s' : Submission) : Prop where
  quoted : trace.filterMap (quotedPrice m) = [price]
  later : s.clock ≤ s'.clock
  stored : priceEntry s' = some ⟨price, s'.clock⟩

theorem unpriced_advance {took : ℕ} {event : Ev} (silent : quotedPrice m event = none) :
    Unpriced m s [event] (s.advance took) where
  unquoted := by simp [silent]
  later := Nat.le_add_right _ _
  kept := rfl

theorem fetchGasPrice_ends (run : (fetchGasPrice m).Runs s trace out s') :
    (∃ price, out = .ok price ∧ Fetched m s trace price s') ∨
      out = .ok m.config.feeMinimumGasPrice ∧ Unpriced m s trace s' := by
  unfold fetchGasPrice at run
  obtain ⟨-, tried⟩ | ⟨-, static⟩ := Routine.runs_ite.mp run
  · obtain ⟨price, body, rfl⟩ | ⟨e, t, first, rest, body, caught, rfl⟩ := Routine.runs_tryCatch.mp tried
    · obtain ⟨_, -, same⟩ | ⟨reply, t, first, rest, asked, replied, rfl⟩ := Routine.runs_bind.mp body
      · cases same
      obtain ⟨took, rfl, rfl⟩ := ask_runs.mp asked
      match reply, replied with
      | none, replied =>
        obtain ⟨rfl, same, rfl⟩ := Routine.runs_pure.mp replied
        exact .inr ⟨same, unpriced_advance rfl⟩
      | some none, replied => cases (Routine.runs_throw.mp replied).2.1
      | some (some amount), replied =>
        rw [Routine.runs_update_bind] at replied
        obtain ⟨rfl, same, rfl⟩ := Routine.runs_pure.mp replied
        exact .inl ⟨_, same, rfl, Nat.le_add_right _ _, rfl⟩
    · obtain ⟨rfl, same, rfl⟩ := Routine.runs_pure.mp caught
      rw [List.append_nil]
      refine .inr ⟨same, ?_⟩
      obtain ⟨_, asked, -⟩ | ⟨reply, t, first, rest, asked, replied, rfl⟩ := Routine.runs_bind.mp body
      · obtain ⟨took, rfl, rfl⟩ := ask_runs.mp asked
        exact unpriced_advance rfl
      obtain ⟨took, rfl, rfl⟩ := ask_runs.mp asked
      match reply, replied with
      | none, replied => cases (Routine.runs_pure.mp replied).2.1
      | some none, replied =>
        obtain ⟨rfl, -, rfl⟩ := Routine.runs_throw.mp replied
        exact unpriced_advance rfl
      | some (some amount), replied =>
        rw [Routine.runs_update_bind] at replied
        cases (Routine.runs_pure.mp replied).2.1
  · obtain ⟨rfl, same, rfl⟩ := Routine.runs_pure.mp static
    exact .inr ⟨same, rfl, le_rfl, rfl⟩

theorem getCurrentGasPrice_serves (m : Manager) :
    Serves m.config.gasPriceCacheTtl (quotedPrice m) priceState (returnsPrice m) (priceRoutine m) := by
  rintro ⟨_, s, trace, out, s'⟩ past run
  dsimp only at past run ⊢
  rw [priceRoutine, getCurrentGasPrice, Routine.runs_state_bind] at run
  have fetched (expired : Expired m.config.gasPriceCacheTtl (priceEntry s) s.clock)
      (run : (fetchGasPrice m).Runs s trace out s') : ∃ lookup, returnsPrice m ⟨(), s, trace, out, s'⟩ lookup ∧
        trace.filterMap (quotedPrice m) = lookup.refresh.toList.map Stored.value ∧
        LooksUp m.config.gasPriceCacheTtl (priceState s) ⟨s.clock, s'.clock, lookup⟩ (priceState s') := by
    obtain ⟨price, same, fetch⟩ | ⟨same, fetch⟩ := fetchGasPrice_ends run
    · refine ⟨.refreshed ⟨price, s'.clock⟩, ⟨same, rfl⟩, fetch.quoted, ?_⟩
      rw [priceState, priceState, fetch.stored]
      exact .refreshed le_rfl expired fetch.later le_rfl
    · refine ⟨.missed, same, fetch.unquoted, ?_⟩
      rw [priceState, priceState, fetch.kept]
      exact .missed le_rfl fetch.later expired
  split at run
  · rename_i price cachedAt held stamped
    have entry : priceEntry s = some ⟨price, cachedAt⟩ := by simp [priceEntry, held, stamped]
    obtain ⟨young, cached⟩ | ⟨old, run⟩ := Routine.runs_ite.mp run
    · obtain ⟨rfl, same, rfl⟩ := Routine.runs_pure.mp cached
      refine ⟨.hit ⟨price, cachedAt⟩, ⟨rfl, same⟩, rfl, ?_⟩
      rw [priceState, entry]
      exact .hit le_rfl le_rfl (by dsimp only; omega)
    · refine fetched (fun e same => ?_) run
      have before : cachedAt ≤ s.clock := past _ entry
      cases entry.symm.trans same
      dsimp only
      omega
  · rename_i unset
    refine fetched (fun e same => ?_) run
    unfold priceEntry at same
    split at same
    · exact (unset _ _ ‹_› ‹_›).elim
    · cases same

end Call

/-- The feemarket's answers to any calls, one after the other, are stored at least the
TTL apart, so there are few of them in any time; a call returns its own answer, which
it stores as it returns, without a query one that was stored less than the TTL before
it, or the static price when it got no answer. -/
theorem prices_within_ttl {m : Manager} {clock : ℕ} {c' : CacheState ℚ} {calls : List PriceCall}
    (history : Path (Calls (priceRoutine m) priceState) ⟨none, clock⟩ calls c') :
    ∃ lookups, CacheHistory m.config.gasPriceCacheTtl (quotedPrice m) priceState (returnsPrice m)
      (c'.clock - clock) calls lookups :=
  (getCurrentGasPrice_serves m).history history

/-! ## A sample -/

/-- `testnet` with prices from the feemarket. -/
def dynamicTestnet : Manager :=
  { testnet with
    hasFeemarket := true
    config := { testnet.config with useDynamicGasPrice := true, dynamicGasPriceDefaultMultiplier := 3 } }

/-- A feemarket that asks for 10 and answers after 3 microseconds. -/
def feemarket (world : Unit) (request : Request) : Reply request × Unit :=
  match request with
  | .query (.gasPrice _) => ((3, .ok (some (some (10 ^ 19)))), world)
  | .query _ => ((0, .error .asyncioTimeout), world)
  | .sleep _ => (0, world)
  | .beginAttempt _ _ => ((), world)
  | .resolve _ => ((), world)

def priceCall (s : Submission) : PriceCall :=
  let played := (getCurrentGasPrice dynamicTestnet).play feemarket s ()
  ⟨(), s, played.trace, played.value, played.state⟩

theorem priceCall_calls (s : Submission) {clock : ℕ} (le : clock ≤ s.clock) :
    Calls (priceRoutine dynamicTestnet) priceState ⟨priceEntry s, clock⟩ (priceCall s)
      (priceState (priceCall s).finish) :=
  ⟨rfl, le, Routine.play_runs feemarket (getCurrentGasPrice dynamicTestnet) s (), rfl⟩

/-- A manager that has not asked for a price yet. -/
def unasked : Submission where
  clock := 100
  cachedGasPrice := none
  gasPriceCacheTime := none
  pending := .new "" [] .standard 1 none
  currentGasLimit := none
  nextAccountSeq := none
  feeMultiplier := 1

/-- A call that asks, and one that finds the price a second later. -/
theorem prices_within_ttl_sample : ∃ calls c' lookups,
    Path (Calls (priceRoutine dynamicTestnet) priceState) ⟨none, 0⟩ calls c' ∧
    calls.map (fun call => (call.out.toOption, call.trace.length)) = [(some 30, 1), (some 30, 0)] ∧
    CacheHistory 5000000 (quotedPrice dynamicTestnet) priceState (returnsPrice dynamicTestnet)
      (c'.clock - 0) calls lookups := by
  have history : Path (Calls (priceRoutine dynamicTestnet) priceState) ⟨none, 0⟩
      [priceCall unasked, priceCall ((priceCall unasked).finish.advance 1000000)] _ :=
    .cons (priceCall_calls unasked (Nat.zero_le _)) (.cons (priceCall_calls _ (Nat.le_add_right _ _)) (.nil _))
  obtain ⟨lookups, told⟩ := prices_within_ttl history
  exact ⟨_, _, lookups, history, by decide +kernel, told⟩

end AlloraSdk.Guarantees
