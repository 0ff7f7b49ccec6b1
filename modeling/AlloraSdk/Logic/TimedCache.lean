import AlloraSdk.Logic.Coroutine
import Mathlib.Data.List.Chain
import Mathlib.Data.List.Forall2
import Mathlib.Data.Nat.Basic

/-!
# A cached value with a time to live

Calls that come one after the other and share one cached value. A call returns
the value while it is younger than `ttl`; else it tries to refresh it, and keeps
the old one when that fails. Refreshes are then at least `ttl` apart, so there are
few of them, and no call returns a value that is older than `ttl`.
-/

namespace AlloraSdk.Logic

structure Stored (β : Type) where
  value : β
  since : ℕ

/-- What a call came to. -/
inductive Lookup (β : Type) where
  | hit (entry : Stored β)
  | refreshed (entry : Stored β)
  | missed

structure CacheCall (β : Type) where
  start : ℕ
  finish : ℕ
  lookup : Lookup β

structure CacheState (β : Type) where
  entry : Option (Stored β)
  clock : ℕ

variable {β : Type} {ttl : ℕ}

/-- Nothing is cached, or what is cached is too old. -/
def Expired (ttl : ℕ) (entry : Option (Stored β)) (start : ℕ) : Prop :=
  ∀ e, entry = some e → e.since + ttl ≤ start

inductive LooksUp (ttl : ℕ) : CacheState β → CacheCall β → CacheState β → Prop
  | hit {e : Stored β} {clock start finish : ℕ} (later : clock ≤ start) (ends : start ≤ finish)
      (fresh : start < e.since + ttl) :
      LooksUp ttl ⟨some e, clock⟩ ⟨start, finish, .hit e⟩ ⟨some e, finish⟩
  | refreshed {entry : Option (Stored β)} {e : Stored β} {clock start finish : ℕ} (later : clock ≤ start)
      (expired : Expired ttl entry start) (begun : start ≤ e.since) (ended : e.since ≤ finish) :
      LooksUp ttl ⟨entry, clock⟩ ⟨start, finish, .refreshed e⟩ ⟨some e, finish⟩
  | missed {entry : Option (Stored β)} {clock start finish : ℕ} (later : clock ≤ start)
      (ends : start ≤ finish) (expired : Expired ttl entry start) :
      LooksUp ttl ⟨entry, clock⟩ ⟨start, finish, .missed⟩ ⟨entry, finish⟩

def Lookup.refresh : Lookup β → Option (Stored β)
  | .refreshed e => some e
  | .hit _ | .missed => none

/-- The refreshes of some calls, in order. -/
def refreshes (calls : List (CacheCall β)) : List (Stored β) := calls.filterMap (·.lookup.refresh)

/-- What is cached is not from the future. -/
def CacheState.Past (c : CacheState β) : Prop := ∀ e, c.entry = some e → e.since ≤ c.clock

theorem LooksUp.past {c c' : CacheState β} {call : CacheCall β} (step : LooksUp ttl c call c')
    (past : c.Past) : c'.Past := by
  cases step with
  | @hit e clock start finish later ends fresh =>
    intro e' same
    have := past e' same
    dsimp only at this ⊢
    omega
  | refreshed later expired begun ended =>
    rintro e' ⟨⟩
    exact ended
  | missed later ends expired =>
    intro e' same
    have := past e' same
    dsimp only at this ⊢
    omega

section History

variable {c c' : CacheState β} {calls : List (CacheCall β)}

/-- A refresh waits for the value before it to expire. -/
theorem refreshes_spaced (history : Path (LooksUp ttl) c calls c') :
    (c.entry.toList ++ refreshes calls).IsChain fun earlier later => earlier.since + ttl ≤ later.since := by
  induction history with
  | nil c =>
    cases c.entry with
    | none => exact .nil
    | some e => exact .singleton e
  | cons head tail ih =>
    cases head with
    | hit later ends fresh => exact ih
    | missed later ends expired => exact ih
    | @refreshed entry e clock start finish later expired begun ended =>
      cases entry with
      | none => exact ih
      | some old => exact .cons_cons ((expired old rfl).trans begun) ih

theorem refreshes_within (history : Path (LooksUp ttl) c calls c') :
    c.clock ≤ c'.clock ∧ ∀ e ∈ refreshes calls, c.clock ≤ e.since ∧ e.since ≤ c'.clock := by
  induction history with
  | nil c => exact ⟨le_rfl, by simp [refreshes]⟩
  | cons head tail ih =>
    obtain ⟨grows, within⟩ := ih
    cases head with
    | hit later ends fresh =>
      dsimp only at grows within ⊢
      refine ⟨by omega, fun e member => ?_⟩
      have := within e member
      omega
    | missed later ends expired =>
      dsimp only at grows within ⊢
      refine ⟨by omega, fun e member => ?_⟩
      have := within e member
      omega
    | refreshed later expired begun ended =>
      dsimp only at grows within ⊢
      refine ⟨by omega, fun e member => ?_⟩
      rcases List.mem_cons.mp member with rfl | member
      · omega
      · have := within e member
        omega

theorem chain_span {e : Stored β} {rest : List (Stored β)} {limit : ℕ}
    (chain : (e :: rest).IsChain fun earlier later => earlier.since + ttl ≤ later.since)
    (within : ∀ x ∈ e :: rest, x.since ≤ limit) : e.since + rest.length * ttl ≤ limit := by
  induction rest generalizing e with
  | nil => simpa using within e (.head _)
  | cons x rest ih =>
    obtain ⟨gap, chain⟩ := List.isChain_cons_cons.mp chain
    have span := ih chain fun y member => within y (.tail _ member)
    rw [List.length_cons, Nat.succ_mul]
    omega

/-- In any time there are not many more refreshes than it has lives. -/
theorem refreshes_rare (history : Path (LooksUp ttl) c calls c') :
    ((refreshes calls).length - 1) * ttl ≤ c'.clock - c.clock := by
  have spaced := List.IsChain.right_of_append (refreshes_spaced history)
  obtain ⟨-, within⟩ := refreshes_within history
  cases found : refreshes calls with
  | nil => simp
  | cons e rest =>
    rw [found] at spaced within
    have span := chain_span spaced fun x member => (within x member).2
    have first := (within e (.head _)).1
    rw [List.length_cons, Nat.add_sub_cancel]
    omega

/-- What a call returns from the cache was stored by a refresh before it, less than
`ttl` ago. -/
theorem hit_fresh (history : Path (LooksUp ttl) c calls c') (past : c.Past) {call : CacheCall β}
    {e : Stored β} (member : call ∈ calls) (hit : call.lookup = .hit e) :
    e ∈ c.entry.toList ++ refreshes calls ∧ e.since ≤ call.start ∧ call.start < e.since + ttl := by
  induction history with
  | nil c => cases member
  | cons head tail ih =>
    rcases List.mem_cons.mp member with rfl | member
    · cases head with
      | hit later ends fresh =>
        cases hit
        exact ⟨by simp, (past _ rfl).trans later, fresh⟩
      | refreshed later expired begun ended => cases hit
      | missed later ends expired => cases hit
    · obtain ⟨stored, fresh⟩ := ih (head.past past) member
      refine ⟨?_, fresh⟩
      cases head with
      | hit later ends young => exact stored
      | missed later ends expired => exact stored
      | refreshed later expired begun ended => exact List.mem_append_right _ stored

end History

/-- The time before a call counts for nothing. -/
theorem LooksUp.earlier {entry : Option (Stored β)} {clock clock' : ℕ} {call : CacheCall β} {c' : CacheState β}
    (step : LooksUp ttl ⟨entry, clock⟩ call c') (le : clock' ≤ clock) : LooksUp ttl ⟨entry, clock'⟩ call c' := by
  cases step with
  | hit later ends fresh => exact .hit (le.trans later) ends fresh
  | refreshed later expired begun ended => exact .refreshed (le.trans later) expired begun ended
  | missed later ends expired => exact .missed (le.trans later) ends expired

/-- Every step, from a state that meets the invariant, is one of another relation
with a label that `R` relates to its own. -/
theorem Path.refine {ι κ χ : Type} {step : χ → ι → χ → Prop} {step' : χ → κ → χ → Prop} {R : ι → κ → Prop}
    {inv : χ → Prop} (kept : ∀ w label w', step' w label w' → inv w → inv w')
    (refines : ∀ w e w', step w e w' → inv w → ∃ label, step' w label w' ∧ R e label) {w w' : χ}
    {events : List ι} (path : Path step w events w') (initial : inv w) :
    ∃ labels, Path step' w labels w' ∧ List.Forall₂ R events labels := by
  induction path with
  | nil w => exact ⟨[], .nil w, .nil⟩
  | cons head _ ih =>
    obtain ⟨label, step, related⟩ := refines _ _ _ head initial
    obtain ⟨labels, path, all⟩ := ih (kept _ _ _ step initial)
    exact ⟨label :: labels, .cons step path, .cons related all⟩

theorem forall₂_map_right {ι κ μ : Type} {R : ι → κ → Prop} {S : ι → μ → Prop} {f : κ → μ} {xs : List ι}
    {ys : List κ} (related : ∀ x y, y ∈ ys → R x y → S x (f y)) (all : List.Forall₂ R xs ys) :
    List.Forall₂ S xs (ys.map f) := by
  induction all with
  | nil => exact .nil
  | cons head _ ih =>
    exact .cons (related _ _ (.head _) head) (ih fun x y member => related x y (.tail _ member))

/-! ## Routines with a cache -/

section Routines

variable {ι ε σ Req α : Type} {Rsp : Req → Type}

/-- A call of a routine, from the state that it found. -/
structure RoutineCall (ι ε σ Req : Type) (Rsp : Req → Type) (α : Type) where
  arg : ι
  start : σ
  trace : List (Event Req Rsp)
  out : Except ε α
  finish : σ

/-- Calls one after the other. Between them only the clock goes on, as far as the
cache is concerned. -/
def Calls (m : ι → Routine ε σ Req Rsp α) (view : σ → CacheState β) (c : CacheState β)
    (call : RoutineCall ι ε σ Req Rsp α) (c' : CacheState β) : Prop :=
  (view call.start).entry = c.entry ∧ c.clock ≤ (view call.start).clock ∧
    (m call.arg).Runs call.start call.trace call.out call.finish ∧ c' = view call.finish

/-- Every run is one lookup: what its replies bring (`quote`) is what it stores, and
`meets` says what the call was then. -/
def Serves (ttl : ℕ) (quote : Event Req Rsp → Option β) (view : σ → CacheState β)
    (meets : RoutineCall ι ε σ Req Rsp α → Lookup β → Prop) (m : ι → Routine ε σ Req Rsp α) : Prop :=
  ∀ ⦃call : RoutineCall ι ε σ Req Rsp α⦄, (view call.start).Past →
    (m call.arg).Runs call.start call.trace call.out call.finish → ∃ lookup, meets call lookup ∧
      call.trace.filterMap quote = lookup.refresh.toList.map Stored.value ∧
      LooksUp ttl (view call.start) ⟨(view call.start).clock, (view call.finish).clock, lookup⟩ (view call.finish)

/-- What a call between `start` and `finish` quoted and came to, given what was stored
in the whole history: its own quote, stored while it ran, or without one a value
stored before it, less than `ttl` ago. -/
inductive Provenance (ttl : ℕ) (stored : List (Stored β)) (quoted : List β) (start finish : ℕ) : Lookup β → Prop
  | missed (unquoted : quoted = []) : Provenance ttl stored quoted start finish .missed
  | refreshed {e : Stored β} (own : quoted = [e.value]) (begun : start ≤ e.since) (ended : e.since ≤ finish) :
      Provenance ttl stored quoted start finish (.refreshed e)
  | hit {e : Stored β} (member : e ∈ stored) (unquoted : quoted = []) (past : e.since ≤ start)
      (fresh : start < e.since + ttl) : Provenance ttl stored quoted start finish (.hit e)

/-- What the calls of a history came to, one by one, and what of it was stored: at
least `ttl` apart, and little in any time. -/
structure CacheHistory (ttl : ℕ) (quote : Event Req Rsp → Option β) (view : σ → CacheState β)
    (meets : RoutineCall ι ε σ Req Rsp α → Lookup β → Prop) (time : ℕ)
    (calls : List (RoutineCall ι ε σ Req Rsp α)) (lookups : List (Lookup β)) : Prop where
  served : List.Forall₂ (fun call lookup => meets call lookup ∧
    Provenance ttl (lookups.filterMap Lookup.refresh) (call.trace.filterMap quote)
      (view call.start).clock (view call.finish).clock lookup) calls lookups
  spaced : (lookups.filterMap Lookup.refresh).IsChain fun earlier later => earlier.since + ttl ≤ later.since
  rare : ((lookups.filterMap Lookup.refresh).length - 1) * ttl ≤ time

variable {quote : Event Req Rsp → Option β} {view : σ → CacheState β}
  {meets : RoutineCall ι ε σ Req Rsp α → Lookup β → Prop} {m : ι → Routine ε σ Req Rsp α}

/-- A call and its lookup. -/
structure LooksLike (quote : Event Req Rsp → Option β) (view : σ → CacheState β)
    (meets : RoutineCall ι ε σ Req Rsp α → Lookup β → Prop) (call : RoutineCall ι ε σ Req Rsp α)
    (looked : CacheCall β) : Prop where
  start : looked.start = (view call.start).clock
  finish : looked.finish = (view call.finish).clock
  met : meets call looked.lookup
  quoted : call.trace.filterMap quote = looked.lookup.refresh.toList.map Stored.value

theorem Serves.lookUp (serves : Serves ttl quote view meets m) {c c' : CacheState β}
    {calls : List (RoutineCall ι ε σ Req Rsp α)} (history : Path (Calls m view) c calls c') (past : c.Past) :
    ∃ looked, Path (LooksUp ttl) c looked c' ∧ List.Forall₂ (LooksLike quote view meets) calls looked := by
  refine Path.refine (fun _ _ _ step past => step.past past) ?_ history past
  rintro ⟨entry, clock⟩ call c' ⟨rfl, le, run, rfl⟩ past
  have past' : (view call.start).Past := fun e same => Nat.le_trans (past e same) le
  obtain ⟨lookup, met, quoted, step⟩ := serves past' run
  exact ⟨_, step.earlier le, rfl, rfl, met, quoted⟩

/-- A refresh is stored while its call runs. -/
theorem refreshed_within {c c' : CacheState β} {calls : List (CacheCall β)}
    (history : Path (LooksUp ttl) c calls c') {call : CacheCall β} {e : Stored β} (member : call ∈ calls)
    (refreshed : call.lookup = .refreshed e) : call.start ≤ e.since ∧ e.since ≤ call.finish := by
  induction history with
  | nil c => cases member
  | cons head tail ih =>
    rcases List.mem_cons.mp member with rfl | member
    · cases head with
      | refreshed later expired begun ended =>
        cases refreshed
        exact ⟨begun, ended⟩
      | hit later ends fresh => cases refreshed
      | missed later ends expired => cases refreshed
    · exact ih member

/-- Every call of a history has a value that it got itself, or an earlier one that is
younger than `ttl`, or none. -/
theorem Serves.history (serves : Serves ttl quote view meets m) {clock : ℕ} {c' : CacheState β}
    {calls : List (RoutineCall ι ε σ Req Rsp α)} (history : Path (Calls m view) ⟨none, clock⟩ calls c') :
    ∃ lookups, CacheHistory ttl quote view meets (c'.clock - clock) calls lookups := by
  have past : CacheState.Past (⟨none, clock⟩ : CacheState β) := by rintro e ⟨⟩
  obtain ⟨looked, path, all⟩ := serves.lookUp history past
  have stored : (looked.map CacheCall.lookup).filterMap Lookup.refresh = refreshes looked := List.filterMap_map
  refine ⟨looked.map CacheCall.lookup, ?_, ?_, ?_⟩
  · rw [stored]
    have placed : ∀ x ∈ looked, ∀ call, LooksLike quote view meets call x →
        Provenance ttl (refreshes looked) (call.trace.filterMap quote) (view call.start).clock
          (view call.finish).clock x.lookup := by
      rintro ⟨start, finish, lookup⟩ member call ⟨rfl, rfl, -, quoted⟩
      cases lookup with
      | missed => exact .missed quoted
      | refreshed e =>
        obtain ⟨begun, ended⟩ := refreshed_within path member rfl
        exact .refreshed quoted begun ended
      | hit e =>
        obtain ⟨found, before, fresh⟩ := hit_fresh path past member rfl
        exact .hit (by simpa using found) quoted before fresh
    exact forall₂_map_right (fun call x member looks => ⟨looks.met, placed x member call looks⟩) all
  · rw [stored]
    exact refreshes_spaced path
  · rw [stored]
    exact refreshes_rare path

end Routines

end AlloraSdk.Logic
