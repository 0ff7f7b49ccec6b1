import AlloraSdk.Logic.TimedCache
import AlloraSdk.Source.Utils.PyNumbers
import AlloraSdk.Source.Worker.SanityCheck

/-!
# The sanity check is throttled and never blocks a submission

Any number of checks, one after the other: none raises, the queries that
succeed are at least the throttle interval apart, and a prediction is compared
only with values that this check fetched or that are younger than the interval.
-/

namespace AlloraSdk.Guarantees
open AlloraSdk.Logic AlloraSdk.Source.Utils AlloraSdk.Source.TxManager AlloraSdk.Source.Worker

section Check

variable {φ : Type} {checker : SanityChecker φ} {s s' : SanityState φ} {trace : List (SanityEvent φ)}

def sanityView (s : SanityState φ) : CacheState (List φ) :=
  ⟨s.sanityCache.map fun entry => ⟨entry.2, entry.1⟩, s.clock⟩

/-- The values that a reply brings. -/
def repliedValues (checker : SanityChecker φ) : SanityEvent φ → Option (List φ)
  | ⟨.latestNetworkInferences _, (_, .ok response)⟩ => some (checker.responseValues response)
  | _ => none

/-- What `inferersForCheck` returns or raises, by what it came to. -/
def givesValues (checker : SanityChecker φ) (start : ℕ) (trace : List (SanityEvent φ))
    (out : Except PyException (List φ)) : Lookup (List φ) → Prop
  | .hit e => trace = [] ∧ out = .ok e.value
  | .refreshed e => out = .ok e.value ∧ e.since = start ∧ ∃ took response, e.value = checker.responseValues response ∧
      trace = [⟨.latestNetworkInferences checker.topicId, (took, .ok response)⟩]
  | .missed => ∃ took raised, out = .error raised ∧
      trace = [⟨.latestNetworkInferences checker.topicId, (took, .error raised)⟩]

/-- Values are compared once, and only when there are three. -/
def Compared (prediction : φ) (values : List φ) (trace : List (SanityEvent φ)) : Prop :=
  (values.length < 3 ∧ trace = []) ∨
    3 ≤ values.length ∧ ∃ raised, trace = [⟨.checkWithValues prediction values, raised⟩]

abbrev SanityCall (φ : Type) := RoutineCall φ PyException (SanityState φ) (SanityRequest φ) SanityReply Unit

/-- What a check of a prediction does, by what the lookup came to. The query starts when
the check does, and its values count from then on. -/
def checksPrediction (checker : SanityChecker φ) (call : SanityCall φ) (lookup : Lookup (List φ)) : Prop :=
  call.out = .ok () ∧
    match lookup with
    | .hit e => Compared call.arg e.value call.trace
    | .refreshed e => e.since = call.start.clock ∧ ∃ took response rest, e.value = checker.responseValues response ∧
        call.trace = ⟨.latestNetworkInferences checker.topicId, (took, .ok response)⟩ :: rest ∧
        Compared call.arg e.value rest
    | .missed => ∃ took raised,
        call.trace = [⟨.latestNetworkInferences checker.topicId, (took, .error raised)⟩]

/-- A query that fails leaves the cache as it was. -/
theorem fetchValues_lookUp {out : Except PyException (List φ)}
    (expired : Expired checker.throttleInterval (sanityView s).entry s.clock)
    (run : (checker.fetchValues s.clock).Runs s trace out s') : ∃ lookup, givesValues checker s.clock trace out lookup ∧
      LooksUp checker.throttleInterval (sanityView s) ⟨s.clock, s'.clock, lookup⟩ (sanityView s') := by
  obtain ⟨⟨took, outcome⟩, rest, rfl, replied⟩ := Routine.runs_await_bind.mp run
  rw [Routine.runs_update_bind] at replied
  obtain ⟨e, rfl, rfl, rfl, rfl⟩ | ⟨response, rfl, stored⟩ := Routine.runs_ofExcept_bind.mp replied
  · exact ⟨.missed, ⟨took, e, rfl, rfl⟩, .missed le_rfl (Nat.le_add_right _ _) expired⟩
  · rw [Routine.runs_update_bind] at stored
    obtain ⟨rfl, rfl, rfl⟩ := Routine.runs_pure.mp stored
    exact ⟨.refreshed ⟨checker.responseValues response, s.clock⟩, ⟨rfl, rfl, took, response, rfl, rfl⟩,
      .refreshed le_rfl expired le_rfl (Nat.le_add_right _ _)⟩

theorem inferersForCheck_lookUp {out : Except PyException (List φ)} (past : (sanityView s).Past)
    (run : checker.inferersForCheck.Runs s trace out s') : ∃ lookup, givesValues checker s.clock trace out lookup ∧
      LooksUp checker.throttleInterval (sanityView s) ⟨s.clock, s'.clock, lookup⟩ (sanityView s') := by
  rw [SanityChecker.inferersForCheck, Routine.runs_state_bind] at run
  cases held : s.sanityCache with
  | none =>
    rw [held] at run
    exact fetchValues_lookUp (by simp [Expired, sanityView, held]) run
  | some entry =>
    obtain ⟨fetched, values⟩ := entry
    have cached : (sanityView s).entry = some ⟨values, fetched⟩ := by simp [sanityView, held]
    simp only [held] at run
    obtain ⟨young, hit⟩ | ⟨old, query⟩ := Routine.runs_ite.mp run
    · have same : sanityView s = ⟨some ⟨values, fetched⟩, s.clock⟩ := by simp [sanityView, held]
      obtain ⟨rfl, returned, rfl⟩ := Routine.runs_pure.mp hit
      refine ⟨.hit ⟨values, fetched⟩, ⟨rfl, returned⟩, ?_⟩
      rw [same]
      exact .hit le_rfl le_rfl (by dsimp only; omega)
    · apply fetchValues_lookUp _ query
      intro e same
      have before : fetched ≤ s.clock := past _ cached
      cases cached.symm.trans same
      dsimp only
      omega

/-- The lookup, then the comparison if it gave values. -/
theorem compareSubmission_ends {prediction : φ} {out : Except PyException Unit}
    (run : (checker.compareSubmission prediction).Runs s trace out s') :
    ∃ first rest values, trace = first ++ rest ∧ checker.inferersForCheck.Runs s first values s' ∧
      ((∃ raised, values = .error raised ∧ rest = []) ∨ ∃ given, values = .ok given ∧ Compared prediction given rest) := by
  obtain ⟨e, raised, -⟩ | ⟨given, t, first, rest, ran, compared, rfl⟩ := Routine.runs_bind.mp run
  · exact ⟨trace, [], .error e, by simp, raised, .inl ⟨e, rfl, rfl⟩⟩
  · obtain ⟨enough, compared⟩ | ⟨few, skipped⟩ := Routine.runs_ite.mp compared
    · obtain ⟨raised, rest, rfl, ended⟩ := Routine.runs_await_bind.mp compared
      obtain ⟨rfl, -, rfl⟩ := Routine.runs_ofExcept.mp ended
      exact ⟨first, _, .ok given, rfl, ran, .inr ⟨given, rfl, .inr ⟨enough, raised, rfl⟩⟩⟩
    · obtain ⟨rfl, -, rfl⟩ := Routine.runs_pure.mp skipped
      exact ⟨first, [], .ok given, rfl, ran, .inr ⟨given, rfl, .inl ⟨by omega, rfl⟩⟩⟩

/-- Whatever the body raises is caught. -/
theorem sanityCheckSubmission_ends {prediction : φ} {out : Except PyException Unit}
    (run : (checker.sanityCheckSubmission prediction).Runs s trace out s') :
    out = .ok () ∧ ∃ ended, (checker.compareSubmission prediction).Runs s trace ended s' := by
  obtain ⟨_, ran, same⟩ | ⟨e, t, first, rest, ran, caught, rfl⟩ := Routine.runs_tryCatch.mp run
  · exact ⟨same, _, ran⟩
  · obtain ⟨rfl, same, rfl⟩ := Routine.runs_pure.mp caught
    rw [List.append_nil]
    exact ⟨same, _, ran⟩

/-- A comparison brings no values. -/
theorem repliedValues_compared {prediction : φ} {values : List φ} (compared : Compared prediction values trace) :
    trace.filterMap (repliedValues checker) = [] := by
  obtain ⟨-, rfl⟩ | ⟨-, raised, rfl⟩ := compared
  · rfl
  · rfl

theorem sanityCheckSubmission_serves (checker : SanityChecker φ) :
    Serves checker.throttleInterval (repliedValues checker) sanityView (checksPrediction checker)
      checker.sanityCheckSubmission := by
  rintro ⟨prediction, s, trace, out, s'⟩ past run
  dsimp only at past run ⊢
  obtain ⟨same, _, body⟩ := sanityCheckSubmission_ends run
  obtain ⟨first, rest, values, rfl, ran, ended⟩ := compareSubmission_ends body
  obtain ⟨lookup, given, step⟩ := inferersForCheck_lookUp past ran
  refine ⟨lookup, ⟨same, ?_⟩, ?_, step⟩
  · cases lookup with
    | hit e =>
      obtain ⟨rfl, rfl⟩ := given
      obtain ⟨_, raised, -⟩ | ⟨_, returned, compared⟩ := ended
      · cases raised
      · cases returned
        exact compared
    | refreshed e =>
      obtain ⟨rfl, asked, took, response, stored, rfl⟩ := given
      obtain ⟨_, raised, -⟩ | ⟨_, returned, compared⟩ := ended
      · cases raised
      · cases returned
        exact ⟨asked, took, response, rest, stored, rfl, compared⟩
    | missed =>
      obtain ⟨took, raised, rfl, rfl⟩ := given
      obtain ⟨_, -, rfl⟩ | ⟨_, returned, -⟩ := ended
      · exact ⟨took, raised, rfl⟩
      · cases returned
  · have silent : rest.filterMap (repliedValues checker) = [] := by
      obtain ⟨_, -, rfl⟩ | ⟨_, -, compared⟩ := ended
      · rfl
      · exact repliedValues_compared compared
    rw [List.filterMap_append, silent, List.append_nil]
    cases lookup with
    | hit e =>
      obtain ⟨rfl, -⟩ := given
      rfl
    | refreshed e =>
      obtain ⟨-, -, took, response, stored, rfl⟩ := given
      simp [repliedValues, Lookup.refresh, stored]
    | missed =>
      obtain ⟨took, raised, -, rfl⟩ := given
      rfl

/-- Any checks of any predictions, one after the other: each returns, whatever the
node replies and whatever the comparison raises; the queries that succeed start at
least the throttle interval apart, so there are few of them in any time; and a
prediction is compared once at most, with three values or more that the check
fetched itself or without a query with ones asked for less than the interval ago. -/
theorem checks_throttled {clock : ℕ} {c' : CacheState (List φ)} {calls : List (SanityCall φ)}
    (history : Path (Calls checker.sanityCheckSubmission sanityView) ⟨none, clock⟩ calls c') :
    ∃ lookups, CacheHistory checker.throttleInterval (repliedValues checker) sanityView
      (checksPrediction checker) (c'.clock - clock) calls lookups :=
  (sanityCheckSubmission_serves checker).history history

end Check

/-! ## A sample -/

/-- Numbers by their digits. -/
def minuteChecker : SanityChecker ℤ where
  topicId := 3
  throttleInterval := 60000000
  float := fun text => pyInt text.toList

/-- Three inferers, after two seconds, and a comparison that raises. -/
def threeInferers (world : Unit) (request : SanityRequest ℤ) : SanityReply request × Unit :=
  match request with
  | .latestNetworkInferences _ => ((2000000, .ok (some
      ⟨40, [], [], [⟨"a", [⟨"y", "1"⟩]⟩, ⟨"b", [⟨"y", "2"⟩]⟩, ⟨"c", [⟨"y", "4"⟩]⟩], [], [], [], [], []⟩)), world)
  | .checkWithValues _ _ => (.error (.other "math domain error"), world)

def sanityCall (s : SanityState ℤ) : SanityCall ℤ :=
  let played := (minuteChecker.sanityCheckSubmission 7).play threeInferers s ()
  ⟨7, s, played.trace, played.value, played.state⟩

theorem sanityCall_calls (s : SanityState ℤ) {clock : ℕ} (le : clock ≤ s.clock) :
    Calls minuteChecker.sanityCheckSubmission sanityView ⟨(sanityView s).entry, clock⟩ (sanityCall s)
      (sanityView (sanityCall s).finish) :=
  ⟨rfl, le, Routine.play_runs threeInferers (minuteChecker.sanityCheckSubmission 7) s (), rfl⟩

/-- Two checks within a minute: the second one asks nothing, and neither raises. -/
theorem checks_throttled_sample : ∃ calls c' lookups,
    Path (Calls minuteChecker.sanityCheckSubmission sanityView) ⟨none, 0⟩ calls c' ∧
    calls.map (·.trace.length) = [2, 1] ∧
    CacheHistory 60000000 (repliedValues minuteChecker) sanityView (checksPrediction minuteChecker)
      (c'.clock - 0) calls lookups := by
  have history : Path (Calls minuteChecker.sanityCheckSubmission sanityView) ⟨none, 0⟩
      [sanityCall ⟨100, none⟩, sanityCall (sanityCall ⟨100, none⟩).finish] _ :=
    .cons (sanityCall_calls ⟨100, none⟩ (Nat.zero_le _)) (.cons (sanityCall_calls _ le_rfl) (.nil _))
  obtain ⟨lookups, told⟩ := checks_throttled history
  exact ⟨_, _, lookups, history, by decide +kernel, told⟩

end AlloraSdk.Guarantees
