import Mathlib.Logic.Basic

/-!
# Coroutines over a shared state

A coroutine runs atomically on a state `σ` until it awaits a request; the reply
is chosen by its environment. Nothing here names a program: requests, replies
and states are parameters.

* `Coroutine.Runs` is the run relation: the events a coroutine may produce from
  a state, for **every** choice of replies.
* `Coroutine.play` answers the requests from a given environment. It is total,
  so a coroutine returns under every environment (`play_runs`).
* `Path` replays a list of events against the transitions of an environment,
  and `guarded` keeps only the steps that meet a condition on the state before
  them.

The `runs_*` lemmas invert one construct each; a program is analysed by
rewriting with them from the outside in.
-/

namespace AlloraSdk.Logic

/-- A request together with the reply that answered it. -/
structure Event (Req : Type) (Rsp : Req → Type) where
  request : Req
  reply : Rsp request

/-- Everything between two `await`s is one atomic segment. -/
inductive Coroutine (σ Req : Type) (Rsp : Req → Type) (α : Type) : Type where
  | ret (value : α)
  | read (next : σ → Coroutine σ Req Rsp α)
  | write (state : σ) (next : Coroutine σ Req Rsp α)
  | await (request : Req) (next : Rsp request → Coroutine σ Req Rsp α)

namespace Coroutine

variable {σ Req : Type} {Rsp : Req → Type} {α β : Type}

def bind : Coroutine σ Req Rsp α → (α → Coroutine σ Req Rsp β) → Coroutine σ Req Rsp β
  | .ret value, f => f value
  | .read next, f => .read fun s => (next s).bind f
  | .write state next, f => .write state (next.bind f)
  | .await request next, f => .await request fun reply => (next reply).bind f

instance : Monad (Coroutine σ Req Rsp) where
  pure := .ret
  bind := bind

theorem bind_ret (m : Coroutine σ Req Rsp α) : m.bind .ret = m := by
  induction m with
  | ret value => rfl
  | read next ih => exact congrArg _ (funext ih)
  | write state next ih => exact congrArg _ ih
  | await request next ih => exact congrArg _ (funext ih)

theorem bind_bind {γ : Type} (m : Coroutine σ Req Rsp α) (f : α → Coroutine σ Req Rsp β)
    (g : β → Coroutine σ Req Rsp γ) : (m.bind f).bind g = m.bind fun a => (f a).bind g := by
  induction m with
  | ret value => rfl
  | read next ih => exact congrArg _ (funext ih)
  | write state next ih => exact congrArg _ ih
  | await request next ih => exact congrArg _ (funext ih)

instance : LawfulMonad (Coroutine σ Req Rsp) :=
  LawfulMonad.mk' _ bind_ret (fun _ _ => rfl) bind_bind

theorem bind_eq (m : Coroutine σ Req Rsp α) (f : α → Coroutine σ Req Rsp β) : (m >>= f) = m.bind f := rfl

theorem pure_eq (value : α) : (pure value : Coroutine σ Req Rsp α) = .ret value := rfl

/-- The complete runs from a state: the events in order, the value and the
state at the end. -/
inductive Runs : Coroutine σ Req Rsp α → σ → List (Event Req Rsp) → α → σ → Prop
  | ret (value : α) (s : σ) : Runs (.ret value) s [] value s
  | read {next : σ → Coroutine σ Req Rsp α} {s s' : σ} {trace : List (Event Req Rsp)} {value : α}
      (rest : Runs (next s) s trace value s') : Runs (.read next) s trace value s'
  | write {next : Coroutine σ Req Rsp α} {s t s' : σ} {trace : List (Event Req Rsp)} {value : α}
      (rest : Runs next t trace value s') : Runs (.write t next) s trace value s'
  | await {request : Req} {next : Rsp request → Coroutine σ Req Rsp α} {s s' : σ}
      {trace : List (Event Req Rsp)} {value : α} (reply : Rsp request)
      (rest : Runs (next reply) s trace value s') :
      Runs (.await request next) s (⟨request, reply⟩ :: trace) value s'

@[simp] theorem runs_ret {value : α} {s s' : σ} {trace : List (Event Req Rsp)} {out : α} :
    Runs (.ret value) s trace out s' ↔ trace = [] ∧ out = value ∧ s' = s := by
  constructor
  · rintro ⟨⟩
    exact ⟨rfl, rfl, rfl⟩
  · rintro ⟨rfl, rfl, rfl⟩
    exact .ret _ _

@[simp] theorem runs_read {next : σ → Coroutine σ Req Rsp α} {s s' : σ}
    {trace : List (Event Req Rsp)} {out : α} :
    Runs (.read next) s trace out s' ↔ Runs (next s) s trace out s' := by
  constructor
  · rintro ⟨⟩
    assumption
  · exact .read

@[simp] theorem runs_write {next : Coroutine σ Req Rsp α} {t s s' : σ}
    {trace : List (Event Req Rsp)} {out : α} :
    Runs (.write t next) s trace out s' ↔ Runs next t trace out s' := by
  constructor
  · rintro ⟨⟩
    assumption
  · exact .write

theorem runs_await {request : Req} {next : Rsp request → Coroutine σ Req Rsp α} {s s' : σ}
    {trace : List (Event Req Rsp)} {out : α} :
    Runs (.await request next) s trace out s' ↔
      ∃ reply rest, trace = ⟨request, reply⟩ :: rest ∧ Runs (next reply) s rest out s' := by
  constructor
  · rintro (_ | _ | _ | ⟨reply, rest⟩)
    exact ⟨reply, _, rfl, rest⟩
  · rintro ⟨reply, rest, rfl, h⟩
    exact .await reply h

/-- A run of a sequence is a run of its first part followed by one of the rest. -/
theorem runs_bind {m : Coroutine σ Req Rsp α} {f : α → Coroutine σ Req Rsp β} {s s' : σ}
    {trace : List (Event Req Rsp)} {out : β} :
    Runs (m >>= f) s trace out s' ↔
      ∃ a t first rest, Runs m s first a t ∧ Runs (f a) t rest out s' ∧ trace = first ++ rest := by
  change Runs (m.bind f) s trace out s' ↔ _
  induction m generalizing s trace with
  | ret value =>
    constructor
    · intro h
      exact ⟨value, s, [], trace, .ret value s, h, rfl⟩
    · rintro ⟨a, t, first, rest, h₁, h₂, rfl⟩
      obtain ⟨rfl, rfl, rfl⟩ := runs_ret.mp h₁
      exact h₂
  | read next ih => simp [bind, ih]
  | write t next ih => simp [bind, ih]
  | await request next ih =>
    simp only [bind, runs_await, ih]
    constructor
    · rintro ⟨reply, _, rfl, a, t, first, rest, h₁, h₂, rfl⟩
      exact ⟨a, t, _, rest, ⟨reply, first, rfl, h₁⟩, h₂, rfl⟩
    · rintro ⟨a, t, _, rest, ⟨reply, first, rfl, h₁⟩, h₂, rfl⟩
      exact ⟨reply, _, rfl, a, t, first, rest, h₁, h₂, rfl⟩

/-- The replies determine a run: two runs whose events agree as far as both go
are one run. -/
theorem Runs.unique {m : Coroutine σ Req Rsp α} {s s₁ s₂ : σ} {first second : List (Event Req Rsp)}
    {a b : α} (run₁ : Runs m s first a s₁) (run₂ : Runs m s second b s₂)
    {rest₁ rest₂ : List (Event Req Rsp)} (agree : first ++ rest₁ = second ++ rest₂) :
    first = second ∧ a = b ∧ s₁ = s₂ := by
  induction run₁ generalizing second with
  | ret value s =>
    obtain ⟨rfl, rfl, rfl⟩ := runs_ret.mp run₂
    exact ⟨rfl, rfl, rfl⟩
  | read rest ih => exact ih (runs_read.mp run₂) agree
  | write rest ih => exact ih (runs_write.mp run₂) agree
  | await reply rest ih =>
    obtain ⟨reply', later, rfl, tail⟩ := runs_await.mp run₂
    obtain ⟨same, agree'⟩ := List.cons_eq_cons.mp agree
    cases same
    obtain ⟨rfl, rfl, rfl⟩ := ih tail agree'
    exact ⟨rfl, rfl, rfl⟩

/-- What playing a coroutine against an environment leaves behind. -/
structure Played (σ Req : Type) (Rsp : Req → Type) (χ α : Type) where
  value : α
  state : σ
  world : χ
  trace : List (Event Req Rsp)

/-- Answer every request from an environment with state `χ`. -/
def play {χ : Type} (answer : χ → (request : Req) → Rsp request × χ) :
    Coroutine σ Req Rsp α → σ → χ → Played σ Req Rsp χ α
  | .ret value, s, w => ⟨value, s, w, []⟩
  | .read next, s, w => play answer (next s) s w
  | .write t next, _, w => play answer next t w
  | .await request next, s, w =>
    let reply := answer w request
    let rest := play answer (next reply.1) s reply.2
    { rest with trace := ⟨request, reply.1⟩ :: rest.trace }

theorem play_runs {χ : Type} (answer : χ → (request : Req) → Rsp request × χ)
    (m : Coroutine σ Req Rsp α) (s : σ) (w : χ) :
    Runs m s (m.play answer s w).trace (m.play answer s w).value (m.play answer s w).state := by
  induction m generalizing s w with
  | ret value => exact .ret value s
  | read next ih => exact .read (ih s s w)
  | write t next ih => exact .write (ih t w)
  | await request next ih => exact .await _ (ih _ s _)

end Coroutine

/-! ## Exceptions -/

/-- A coroutine that may raise. -/
abbrev Routine (ε σ Req : Type) (Rsp : Req → Type) := ExceptT ε (Coroutine σ Req Rsp)

namespace Routine

variable {ε σ Req : Type} {Rsp : Req → Type} {α β : Type}

def await (request : Req) : Routine ε σ Req Rsp (Rsp request) :=
  ExceptT.mk (.await request fun reply => .ret (.ok reply))

def state : Routine ε σ Req Rsp σ := ExceptT.mk (.read fun s => .ret (.ok s))

def update (f : σ → σ) : Routine ε σ Req Rsp Unit :=
  ExceptT.mk (.read fun s => .write (f s) (.ret (.ok ())))

/-- Return or raise what was computed. -/
def ofExcept (result : Except ε α) : Routine ε σ Req Rsp α := ExceptT.mk (.ret result)

/-- Catch what `m` raises, and go on with its outcome. -/
def attempt (m : Routine ε σ Req Rsp α) : Routine ε σ Req Rsp (Except ε α) :=
  ExceptT.mk (m.run >>= fun outcome => .ret (.ok outcome))

/-- `m` runs from `s` through the events `trace` to the outcome `out` in `s'`. -/
def Runs (m : Routine ε σ Req Rsp α) (s : σ) (trace : List (Event Req Rsp))
    (out : Except ε α) (s' : σ) : Prop :=
  Coroutine.Runs m.run s trace out s'

variable {s s' : σ} {trace : List (Event Req Rsp)}

@[simp] theorem runs_pure {value : α} {out : Except ε α} :
    Runs (pure value : Routine ε σ Req Rsp α) s trace out s' ↔
      trace = [] ∧ out = .ok value ∧ s' = s :=
  Coroutine.runs_ret

@[simp] theorem runs_throw {e : ε} {out : Except ε α} :
    Runs (throw e : Routine ε σ Req Rsp α) s trace out s' ↔
      trace = [] ∧ out = .error e ∧ s' = s :=
  Coroutine.runs_ret

@[simp] theorem runs_ofExcept {result out : Except ε α} :
    Runs (ofExcept result : Routine ε σ Req Rsp α) s trace out s' ↔
      trace = [] ∧ out = result ∧ s' = s :=
  Coroutine.runs_ret

@[simp] theorem runs_state {out : Except ε σ} :
    Runs (state : Routine ε σ Req Rsp σ) s trace out s' ↔ trace = [] ∧ out = .ok s ∧ s' = s := by
  simp [Runs, state, ExceptT.mk, ExceptT.run]

@[simp] theorem runs_update {f : σ → σ} {out : Except ε Unit} :
    Runs (update f : Routine ε σ Req Rsp Unit) s trace out s' ↔
      trace = [] ∧ out = .ok () ∧ s' = f s := by
  simp [Runs, update, ExceptT.mk, ExceptT.run]

@[simp] theorem runs_await {request : Req} {out : Except ε (Rsp request)} :
    Runs (await request : Routine ε σ Req Rsp (Rsp request)) s trace out s' ↔
      ∃ reply, trace = [⟨request, reply⟩] ∧ out = .ok reply ∧ s' = s := by
  simp only [Runs, await, ExceptT.mk, ExceptT.run, Coroutine.runs_await, Coroutine.runs_ret]
  constructor
  · rintro ⟨reply, _, rfl, rfl, rfl, rfl⟩
    exact ⟨reply, rfl, rfl, rfl⟩
  · rintro ⟨reply, rfl, rfl, rfl⟩
    exact ⟨reply, [], rfl, rfl, rfl, rfl⟩

/-- Either the first part raises and the rest never starts, or both run. -/
theorem runs_bind {m : Routine ε σ Req Rsp α} {f : α → Routine ε σ Req Rsp β}
    {out : Except ε β} :
    Runs (m >>= f) s trace out s' ↔
      (∃ e, Runs m s trace (.error e) s' ∧ out = .error e) ∨
      ∃ a t first rest, Runs m s first (.ok a) t ∧ Runs (f a) t rest out s' ∧
        trace = first ++ rest := by
  change Coroutine.Runs (m.run >>= ExceptT.bindCont f) s trace out s' ↔ _
  rw [Coroutine.runs_bind]
  constructor
  · rintro ⟨a | a, t, first, rest, h₁, h₂, rfl⟩
    · obtain ⟨rfl, rfl, rfl⟩ := Coroutine.runs_ret.mp h₂
      exact .inl ⟨a, by simpa [Runs] using h₁, rfl⟩
    · exact .inr ⟨a, t, first, rest, h₁, h₂, rfl⟩
  · rintro (⟨e, h, rfl⟩ | ⟨a, t, first, rest, h₁, h₂, rfl⟩)
    · exact ⟨.error e, s', trace, [], h, .ret _ _, by simp⟩
    · exact ⟨.ok a, t, first, rest, h₁, h₂, rfl⟩

theorem runs_pure_bind {value : α} {f : α → Routine ε σ Req Rsp β} {out : Except ε β} :
    Runs (pure value >>= f) s trace out s' ↔ Runs (f value) s trace out s' :=
  Iff.rfl

theorem runs_ofExcept_bind {result : Except ε α} {f : α → Routine ε σ Req Rsp β}
    {out : Except ε β} :
    Runs (ofExcept result >>= f) s trace out s' ↔
      (∃ e, result = .error e ∧ trace = [] ∧ out = .error e ∧ s' = s) ∨
        ∃ a, result = .ok a ∧ Runs (f a) s trace out s' := by
  cases result with
  | error e =>
    refine Coroutine.runs_ret.trans ⟨fun h => .inl ⟨e, rfl, h⟩, ?_⟩
    rintro (⟨_, same, h⟩ | ⟨_, same, -⟩) <;> cases same
    exact h
  | ok a =>
    refine Iff.trans Iff.rfl ⟨fun h => .inr ⟨a, rfl, h⟩, ?_⟩
    rintro (⟨_, same, -⟩ | ⟨_, same, h⟩) <;> cases same
    exact h

theorem runs_state_bind {f : σ → Routine ε σ Req Rsp β} {out : Except ε β} :
    Runs (state >>= f) s trace out s' ↔ Runs (f s) s trace out s' :=
  Coroutine.runs_read

theorem runs_update_bind {f : σ → σ} {next : Unit → Routine ε σ Req Rsp β} {out : Except ε β} :
    Runs (update f >>= next) s trace out s' ↔ Runs (next ()) (f s) trace out s' :=
  Coroutine.runs_read.trans Coroutine.runs_write

theorem runs_await_bind {request : Req} {f : Rsp request → Routine ε σ Req Rsp β}
    {out : Except ε β} :
    Runs (await request >>= f) s trace out s' ↔
      ∃ reply rest, trace = ⟨request, reply⟩ :: rest ∧ Runs (f reply) s rest out s' :=
  Coroutine.runs_await

/-- `try … except`: the handler runs from the state in which the body raised. -/
theorem runs_tryCatch {m : Routine ε σ Req Rsp α} {handler : ε → Routine ε σ Req Rsp α}
    {out : Except ε α} :
    Runs (tryCatch m handler) s trace out s' ↔
      (∃ a, Runs m s trace (.ok a) s' ∧ out = .ok a) ∨
      ∃ e t first rest, Runs m s first (.error e) t ∧ Runs (handler e) t rest out s' ∧
        trace = first ++ rest := by
  change Coroutine.Runs (m.run >>= fun r => match r with
    | .ok a => pure (.ok a)
    | .error e => (handler e).run) s trace out s' ↔ _
  rw [Coroutine.runs_bind]
  constructor
  · rintro ⟨a | a, t, first, rest, h₁, h₂, rfl⟩
    · exact .inr ⟨a, t, first, rest, h₁, h₂, rfl⟩
    · obtain ⟨rfl, rfl, rfl⟩ := Coroutine.runs_ret.mp h₂
      exact .inl ⟨a, by simpa [Runs] using h₁, rfl⟩
  · rintro (⟨a, h, rfl⟩ | ⟨e, t, first, rest, h₁, h₂, rfl⟩)
    · exact ⟨.ok a, s', trace, [], h, .ret _ _, by simp⟩
    · exact ⟨.error e, t, first, rest, h₁, h₂, rfl⟩

theorem runs_attempt {m : Routine ε σ Req Rsp α} {out : Except ε (Except ε α)} :
    Runs (attempt m) s trace out s' ↔ ∃ outcome, out = .ok outcome ∧ Runs m s trace outcome s' := by
  change Coroutine.Runs (m.run >>= fun outcome => .ret (.ok outcome)) s trace out s' ↔ _
  rw [Coroutine.runs_bind]
  constructor
  · rintro ⟨outcome, t, first, rest, h₁, h₂, rfl⟩
    obtain ⟨rfl, rfl, rfl⟩ := Coroutine.runs_ret.mp h₂
    exact ⟨outcome, rfl, by simpa [Runs] using h₁⟩
  · rintro ⟨outcome, rfl, h⟩
    exact ⟨outcome, s', trace, [], h, .ret _ _, by simp⟩

theorem runs_attempt_bind {m : Routine ε σ Req Rsp α} {f : Except ε α → Routine ε σ Req Rsp β}
    {out : Except ε β} :
    Runs (attempt m >>= f) s trace out s' ↔
      ∃ outcome t first rest, Runs m s first outcome t ∧ Runs (f outcome) t rest out s' ∧
        trace = first ++ rest := by
  rw [runs_bind]
  simp only [runs_attempt]
  constructor
  · rintro (⟨_, ⟨_, ⟨⟩, -⟩, -⟩ | ⟨outcome, t, first, rest, ⟨_, ⟨⟩, ran⟩, later, rfl⟩)
    exact ⟨outcome, t, first, rest, ran, later, rfl⟩
  · rintro ⟨outcome, t, first, rest, ran, later, rfl⟩
    exact .inr ⟨outcome, t, first, rest, ⟨outcome, rfl, ran⟩, later, rfl⟩

theorem Runs.unique {m : Routine ε σ Req Rsp α} {s₁ s₂ : σ} {first second : List (Event Req Rsp)}
    {a b : Except ε α} (run₁ : Runs m s first a s₁) (run₂ : Runs m s second b s₂)
    {rest₁ rest₂ : List (Event Req Rsp)} (agree : first ++ rest₁ = second ++ rest₂) :
    first = second ∧ a = b ∧ s₁ = s₂ :=
  Coroutine.Runs.unique run₁ run₂ agree

theorem runs_ite {p : Prop} [Decidable p] {yes no : Routine ε σ Req Rsp α} {out : Except ε α} :
    Runs (if p then yes else no) s trace out s' ↔
      (p ∧ Runs yes s trace out s') ∨ (¬ p ∧ Runs no s trace out s') := by
  by_cases h : p <;> simp [h]

/-- A run that returns has run both parts to their ends. -/
theorem runs_bind_ok {m : Routine ε σ Req Rsp α} {f : α → Routine ε σ Req Rsp β} {b : β}
    (run : Runs (m >>= f) s trace (.ok b) s') :
    ∃ a t first rest, Runs m s first (.ok a) t ∧ Runs (f a) t rest (.ok b) s' ∧ trace = first ++ rest := by
  obtain ⟨_, -, same⟩ | ran := runs_bind.mp run
  · cases same
  · exact ran

/-- Play a routine against an environment; see `Coroutine.play`. -/
def play {χ : Type} (answer : χ → (request : Req) → Rsp request × χ)
    (m : Routine ε σ Req Rsp α) (s : σ) (w : χ) : Coroutine.Played σ Req Rsp χ (Except ε α) :=
  Coroutine.play answer m.run s w

theorem play_runs {χ : Type} (answer : χ → (request : Req) → Rsp request × χ)
    (m : Routine ε σ Req Rsp α) (s : σ) (w : χ) :
    Runs m s (m.play answer s w).trace (m.play answer s w).value (m.play answer s w).state :=
  Coroutine.play_runs answer m.run s w

/-! ### What a routine asks for, and that it returns -/

/-- `m` makes only requests that satisfy `p`. -/
def Asks (p : Req → Prop) (m : Routine ε σ Req Rsp α) : Prop :=
  ∀ ⦃s : σ⦄ ⦃trace : List (Event Req Rsp)⦄ ⦃out : Except ε α⦄ ⦃s' : σ⦄,
    Runs m s trace out s' → ∀ e ∈ trace, p e.request

section Asks

variable {p : Req → Prop}

theorem Asks.pure (value : α) : Asks p (pure value : Routine ε σ Req Rsp α) := by
  intro s trace out s' run e member
  obtain ⟨rfl, -, -⟩ := runs_pure.mp run
  cases member

theorem Asks.ofExcept (result : Except ε α) : Asks p (ofExcept result : Routine ε σ Req Rsp α) := by
  intro s trace out s' run e member
  obtain ⟨rfl, -, -⟩ := runs_ofExcept.mp run
  cases member

theorem Asks.throw (e : ε) : Asks p (throw e : Routine ε σ Req Rsp α) := by
  intro s trace out s' run e member
  obtain ⟨rfl, -, -⟩ := runs_throw.mp run
  cases member

theorem Asks.state : Asks p (state : Routine ε σ Req Rsp σ) := by
  intro s trace out s' run e member
  obtain ⟨rfl, -, -⟩ := runs_state.mp run
  cases member

theorem Asks.update (f : σ → σ) : Asks p (update f : Routine ε σ Req Rsp Unit) := by
  intro s trace out s' run e member
  obtain ⟨rfl, -, -⟩ := runs_update.mp run
  cases member

theorem Asks.await {request : Req} (allowed : p request) :
    Asks p (await request : Routine ε σ Req Rsp (Rsp request)) := by
  intro s trace out s' run e member
  obtain ⟨reply, rfl, -, -⟩ := runs_await.mp run
  obtain rfl := List.mem_singleton.mp member
  exact allowed

theorem Asks.bind {m : Routine ε σ Req Rsp α} {f : α → Routine ε σ Req Rsp β} (first : Asks p m)
    (rest : ∀ a, Asks p (f a)) : Asks p (m >>= f) := by
  intro s trace out s' run e member
  obtain ⟨_, h, -⟩ | ⟨a, t, before, after, h₁, h₂, rfl⟩ := runs_bind.mp run
  · exact first h e member
  · rcases List.mem_append.mp member with member | member
    · exact first h₁ e member
    · exact rest a h₂ e member

theorem Asks.tryCatch {m : Routine ε σ Req Rsp α} {handler : ε → Routine ε σ Req Rsp α}
    (body : Asks p m) (caught : ∀ e, Asks p (handler e)) : Asks p (tryCatch m handler) := by
  intro s trace out s' run e member
  obtain ⟨_, h, -⟩ | ⟨err, t, before, after, h₁, h₂, rfl⟩ := runs_tryCatch.mp run
  · exact body h e member
  · rcases List.mem_append.mp member with member | member
    · exact body h₁ e member
    · exact caught err h₂ e member

theorem Asks.attempt {m : Routine ε σ Req Rsp α} (body : Asks p m) :
    Asks p (Routine.attempt m : Routine ε σ Req Rsp (Except ε α)) := by
  intro s trace out s' run
  obtain ⟨outcome, -, ran⟩ := runs_attempt.mp run
  exact body ran

end Asks

/-- What the requests of some events cost together. -/
def totalCost (cost : Req → Nat) : List (Event Req Rsp) → Nat
  | [] => 0
  | e :: rest => cost e.request + totalCost cost rest

@[simp] theorem totalCost_nil (cost : Req → Nat) : totalCost cost ([] : List (Event Req Rsp)) = 0 := rfl

@[simp] theorem totalCost_cons (cost : Req → Nat) (e : Event Req Rsp) (rest : List (Event Req Rsp)) :
    totalCost cost (e :: rest) = cost e.request + totalCost cost rest :=
  rfl

@[simp] theorem totalCost_append (cost : Req → Nat) (first rest : List (Event Req Rsp)) :
    totalCost cost (first ++ rest) = totalCost cost first + totalCost cost rest := by
  induction first with
  | nil => simp
  | cons e first ih => rw [List.cons_append, totalCost_cons, totalCost_cons, ih, Nat.add_assoc]

/-- No run of `m` costs more than `bound`. -/
def Costs (cost : Req → Nat) (bound : Nat) (m : Routine ε σ Req Rsp α) : Prop :=
  ∀ ⦃s : σ⦄ ⦃trace : List (Event Req Rsp)⦄ ⦃out : Except ε α⦄ ⦃s' : σ⦄,
    Runs m s trace out s' → totalCost cost trace ≤ bound

section Costs

variable {cost : Req → Nat} {b c : Nat}

theorem Costs.pure (value : α) : Costs cost b (pure value : Routine ε σ Req Rsp α) := by
  intro s trace out s' run
  obtain ⟨rfl, -, -⟩ := runs_pure.mp run
  simp

theorem Costs.throw (e : ε) : Costs cost b (throw e : Routine ε σ Req Rsp α) := by
  intro s trace out s' run
  obtain ⟨rfl, -, -⟩ := runs_throw.mp run
  simp

theorem Costs.ofExcept (result : Except ε α) :
    Costs cost b (ofExcept result : Routine ε σ Req Rsp α) := by
  intro s trace out s' run
  obtain ⟨rfl, -, -⟩ := runs_ofExcept.mp run
  simp

theorem Costs.await (request : Req) :
    Costs cost (cost request) (await request : Routine ε σ Req Rsp (Rsp request)) := by
  intro s trace out s' run
  obtain ⟨reply, rfl, -, -⟩ := runs_await.mp run
  simp

theorem Costs.mono {m : Routine ε σ Req Rsp α} (costs : Costs cost b m) (le : b ≤ c) :
    Costs cost c m :=
  fun _ _ _ _ run => Nat.le_trans (costs run) le

theorem Costs.bind {m : Routine ε σ Req Rsp α} {f : α → Routine ε σ Req Rsp β} (first : Costs cost b m)
    (rest : ∀ a, Costs cost c (f a)) : Costs cost (b + c) (m >>= f) := by
  intro s trace out s' run
  obtain ⟨_, h, -⟩ | ⟨a, t, before, after, h₁, h₂, rfl⟩ := runs_bind.mp run
  · exact Nat.le_trans (first h) (Nat.le_add_right b c)
  · rw [totalCost_append]
    exact Nat.add_le_add (first h₁) (rest a h₂)

theorem Costs.tryCatch {m : Routine ε σ Req Rsp α} {handler : ε → Routine ε σ Req Rsp α}
    (body : Costs cost b m) (caught : ∀ e, Costs cost c (handler e)) :
    Costs cost (b + c) (tryCatch m handler) := by
  intro s trace out s' run
  obtain ⟨_, h, -⟩ | ⟨e, t, before, after, h₁, h₂, rfl⟩ := runs_tryCatch.mp run
  · exact Nat.le_trans (body h) (Nat.le_add_right b c)
  · rw [totalCost_append]
    exact Nat.add_le_add (body h₁) (caught e h₂)

theorem Costs.ite {p : Prop} [Decidable p] {yes no : Routine ε σ Req Rsp α} (left : Costs cost b yes)
    (right : Costs cost b no) : Costs cost b (if p then yes else no) := by
  intro s trace out s' run
  obtain ⟨-, ran⟩ | ⟨-, ran⟩ := runs_ite.mp run
  · exact left ran
  · exact right ran

end Costs

/-- `m` leaves the part `view` of the state alone, whether it returns or raises. -/
def Keeps {β : Type} (view : σ → β) (m : Routine ε σ Req Rsp α) : Prop :=
  ∀ ⦃s : σ⦄ ⦃trace : List (Event Req Rsp)⦄ ⦃out : Except ε α⦄ ⦃s' : σ⦄,
    Runs m s trace out s' → view s' = view s

section Keeps

variable {γ : Type} {view : σ → γ}

theorem Keeps.pure (value : α) : Keeps view (pure value : Routine ε σ Req Rsp α) := by
  intro s trace out s' run
  obtain ⟨-, -, rfl⟩ := runs_pure.mp run
  rfl

theorem Keeps.throw (e : ε) : Keeps view (throw e : Routine ε σ Req Rsp α) := by
  intro s trace out s' run
  obtain ⟨-, -, rfl⟩ := runs_throw.mp run
  rfl

theorem Keeps.ofExcept (result : Except ε α) :
    Keeps view (ofExcept result : Routine ε σ Req Rsp α) := by
  intro s trace out s' run
  obtain ⟨-, -, rfl⟩ := runs_ofExcept.mp run
  rfl

theorem Keeps.state : Keeps view (state : Routine ε σ Req Rsp σ) := by
  intro s trace out s' run
  obtain ⟨-, -, rfl⟩ := runs_state.mp run
  rfl

theorem Keeps.update {f : σ → σ} (same : ∀ s, view (f s) = view s) :
    Keeps view (update f : Routine ε σ Req Rsp Unit) := by
  intro s trace out s' run
  obtain ⟨-, -, rfl⟩ := runs_update.mp run
  exact same s

theorem Keeps.await (request : Req) :
    Keeps view (await request : Routine ε σ Req Rsp (Rsp request)) := by
  intro s trace out s' run
  obtain ⟨_, -, -, rfl⟩ := runs_await.mp run
  rfl

theorem Keeps.bind {m : Routine ε σ Req Rsp α} {f : α → Routine ε σ Req Rsp β}
    (first : Keeps view m) (rest : ∀ a, Keeps view (f a)) : Keeps view (m >>= f) := by
  intro s trace out s' run
  obtain ⟨_, h, -⟩ | ⟨a, t, before, after, h₁, h₂, -⟩ := runs_bind.mp run
  · exact first h
  · exact (rest a h₂).trans (first h₁)

theorem Keeps.tryCatch {m : Routine ε σ Req Rsp α} {handler : ε → Routine ε σ Req Rsp α}
    (body : Keeps view m) (caught : ∀ e, Keeps view (handler e)) :
    Keeps view (tryCatch m handler) := by
  intro s trace out s' run
  obtain ⟨_, h, -⟩ | ⟨e, t, before, after, h₁, h₂, -⟩ := runs_tryCatch.mp run
  · exact body h
  · exact (caught e h₂).trans (body h₁)

end Keeps

/-- Where `raised` tells which replies raise: `m` raises what a reply raises, at
once, and else only what is its own. -/
def Propagates (raised : Event Req Rsp → Option ε) (own : ε → Prop) (m : Routine ε σ Req Rsp α) : Prop :=
  ∀ ⦃s : σ⦄ ⦃trace : List (Event Req Rsp)⦄ ⦃out : Except ε α⦄ ⦃s' : σ⦄, Runs m s trace out s' →
    (∀ a, out = .ok a → trace.filterMap raised = []) ∧
      ∀ e, out = .error e → trace.filterMap raised = [e] ∨ trace.filterMap raised = [] ∧ own e

section Propagates

variable {raised : Event Req Rsp → Option ε} {own : ε → Prop}

theorem Propagates.pure (value : α) : Propagates raised own (pure value : Routine ε σ Req Rsp α) := by
  intro s trace out s' run
  obtain ⟨rfl, rfl, -⟩ := runs_pure.mp run
  exact ⟨fun _ _ => rfl, fun e same => by cases same⟩

theorem Propagates.ofExcept {result : Except ε α} (known : ∀ e, result = .error e → own e) :
    Propagates raised own (ofExcept result : Routine ε σ Req Rsp α) := by
  intro s trace out s' run
  obtain ⟨rfl, rfl, -⟩ := runs_ofExcept.mp run
  exact ⟨fun _ _ => rfl, fun e same => .inr ⟨rfl, known e same⟩⟩

theorem Propagates.throw {e : ε} (known : own e) :
    Propagates raised own (throw e : Routine ε σ Req Rsp α) := by
  intro s trace out s' run
  obtain ⟨rfl, rfl, -⟩ := runs_throw.mp run
  refine ⟨fun _ _ => rfl, fun e' same => .inr ⟨rfl, ?_⟩⟩
  cases same
  exact known

theorem Propagates.await {request : Req} (silent : ∀ reply, raised ⟨request, reply⟩ = none) :
    Propagates raised own (Routine.await request : Routine ε σ Req Rsp (Rsp request)) := by
  intro s trace out s' run
  obtain ⟨reply, rfl, rfl, -⟩ := runs_await.mp run
  exact ⟨fun _ _ => by simp [silent reply], fun e same => by cases same⟩

/-- Await a reply, and raise what it raises. -/
theorem Propagates.demand {request : Req} {answer : Rsp request → Except ε α}
    (raises : ∀ reply e, answer reply = .error e → raised ⟨request, reply⟩ = some e)
    (silent : ∀ reply a, answer reply = .ok a → raised ⟨request, reply⟩ = none) :
    Propagates raised own (Routine.await request >>= fun reply => Routine.ofExcept (answer reply) :
      Routine ε σ Req Rsp α) := by
  intro s trace out s' run
  obtain ⟨reply, rest, rfl, run₁⟩ := runs_await_bind.mp run
  obtain ⟨rfl, same, -⟩ := runs_ofExcept.mp run₁
  constructor
  · intro a returned
    simp [silent reply a (same.symm.trans returned)]
  · intro e failed
    simp [raises reply e (same.symm.trans failed)]

theorem Propagates.bind {m : Routine ε σ Req Rsp α} {f : α → Routine ε σ Req Rsp β}
    (first : Propagates raised own m) (rest : ∀ a, Propagates raised own (f a)) :
    Propagates raised own (m >>= f) := by
  intro s trace out s' run
  obtain ⟨e, h, rfl⟩ | ⟨a, t, before, after, h₁, h₂, rfl⟩ := runs_bind.mp run
  · refine ⟨fun a same => (by cases same), fun e' same => ?_⟩
    cases same
    exact (first h).2 e rfl
  · rw [List.filterMap_append, (first h₁).1 a rfl]
    exact rest a h₂

end Propagates

/-- Every event of `m` is `fine`, but for the reply that makes it raise: that one
may be `last`, and nothing follows it. -/
def Upto (fine last : Event Req Rsp → Prop) (m : Routine ε σ Req Rsp α) : Prop :=
  ∀ ⦃s : σ⦄ ⦃trace : List (Event Req Rsp)⦄ ⦃out : Except ε α⦄ ⦃s' : σ⦄, Runs m s trace out s' →
    (∀ e ∈ trace, fine e) ∨ (∃ err, out = .error err) ∧
      ∃ before final, trace = before ++ [final] ∧ (∀ e ∈ before, fine e) ∧ last final

section Upto

variable {fine last : Event Req Rsp → Prop}

theorem Upto.pure (value : α) : Upto fine last (pure value : Routine ε σ Req Rsp α) := by
  intro s trace out s' run
  obtain ⟨rfl, -, -⟩ := runs_pure.mp run
  exact .inl (by simp)

theorem Upto.ofExcept (result : Except ε α) :
    Upto fine last (ofExcept result : Routine ε σ Req Rsp α) := by
  intro s trace out s' run
  obtain ⟨rfl, -, -⟩ := runs_ofExcept.mp run
  exact .inl (by simp)

theorem Upto.throw (e : ε) : Upto fine last (throw e : Routine ε σ Req Rsp α) := by
  intro s trace out s' run
  obtain ⟨rfl, -, -⟩ := runs_throw.mp run
  exact .inl (by simp)

/-- Await a reply, and raise what it raises. -/
theorem Upto.demand {request : Req} {answer : Rsp request → Except ε α}
    (returns : ∀ reply a, answer reply = .ok a → fine ⟨request, reply⟩)
    (raises : ∀ reply e, answer reply = .error e → last ⟨request, reply⟩) :
    Upto fine last (Routine.await request >>= fun reply => Routine.ofExcept (answer reply) :
      Routine ε σ Req Rsp α) := by
  intro s trace out s' run
  obtain ⟨reply, rest, rfl, run₁⟩ := runs_await_bind.mp run
  obtain ⟨rfl, same, -⟩ := runs_ofExcept.mp run₁
  cases out with
  | ok a => exact .inl (by simp [returns reply a same.symm])
  | error e => exact .inr ⟨⟨e, rfl⟩, [], _, rfl, by simp, raises reply e same.symm⟩

theorem Upto.bind {m : Routine ε σ Req Rsp α} {f : α → Routine ε σ Req Rsp β}
    (first : Upto fine last m) (rest : ∀ a, Upto fine last (f a)) : Upto fine last (m >>= f) := by
  intro s trace out s' run
  obtain ⟨e, h, rfl⟩ | ⟨a, t, before, after, h₁, h₂, rfl⟩ := runs_bind.mp run
  · rcases first h with fine | ⟨-, stopped⟩
    · exact .inl fine
    · exact .inr ⟨⟨e, rfl⟩, stopped⟩
  · rcases first h₁ with fine₁ | ⟨⟨_, same⟩, -⟩
    · rcases rest a h₂ with fine₂ | ⟨raised, between, final, rfl, fine₂, stopped⟩
      · exact .inl fun e member => (List.mem_append.mp member).elim (fine₁ e) (fine₂ e)
      · refine .inr ⟨raised, before ++ between, final, (List.append_assoc ..).symm, ?_, stopped⟩
        exact fun e member => (List.mem_append.mp member).elim (fine₁ e) (fine₂ e)
    · cases same

end Upto

/-- `m` returns, whatever it is answered. -/
def NeverRaises (m : Routine ε σ Req Rsp α) : Prop :=
  ∀ ⦃s : σ⦄ ⦃trace : List (Event Req Rsp)⦄ ⦃e : ε⦄ ⦃s' : σ⦄, ¬ Runs m s trace (.error e) s'

theorem NeverRaises.tryCatch {m : Routine ε σ Req Rsp α} {handler : ε → Routine ε σ Req Rsp α}
    (caught : ∀ e, NeverRaises (handler e)) : NeverRaises (tryCatch m handler) := by
  intro s trace e s' run
  obtain ⟨a, -, h⟩ | ⟨e', t, left, right, -, h₂, -⟩ := runs_tryCatch.mp run
  · cases h
  · exact caught e' h₂

theorem NeverRaises.pure (value : α) : NeverRaises (pure value : Routine ε σ Req Rsp α) := by
  intro s trace e s' run
  cases (runs_pure.mp run).2.1

theorem NeverRaises.state : NeverRaises (state : Routine ε σ Req Rsp σ) := by
  intro s trace e s' run
  cases (runs_state.mp run).2.1

theorem NeverRaises.update (f : σ → σ) : NeverRaises (update f : Routine ε σ Req Rsp Unit) := by
  intro s trace e s' run
  cases (runs_update.mp run).2.1

theorem NeverRaises.await (request : Req) :
    NeverRaises (await request : Routine ε σ Req Rsp (Rsp request)) := by
  intro s trace e s' run
  obtain ⟨reply, -, same, -⟩ := runs_await.mp run
  cases same

theorem NeverRaises.bind {m : Routine ε σ Req Rsp α} {f : α → Routine ε σ Req Rsp β}
    (first : NeverRaises m) (rest : ∀ a, NeverRaises (f a)) : NeverRaises (m >>= f) := by
  intro s trace e s' run
  obtain ⟨e', h, -⟩ | ⟨a, t, left, right, -, h₂, -⟩ := runs_bind.mp run
  · exact first h
  · exact rest a h₂

theorem NeverRaises.returns {m : Routine ε σ Req Rsp α} (total : NeverRaises m) {out : Except ε α}
    (run : Runs m s trace out s') : ∃ a, out = .ok a := by
  cases out with
  | ok a => exact ⟨a, rfl⟩
  | error e => exact (total run).elim

end Routine

/-! ## Environments as transition relations -/

section Path

variable {ι χ : Type}

/-- `Path step w events w'`: the environment may move from `w` to `w'` while it
answers `events`. -/
inductive Path (step : χ → ι → χ → Prop) : χ → List ι → χ → Prop
  | nil (w : χ) : Path step w [] w
  | cons {w w₁ w₂ : χ} {e : ι} {events : List ι} (head : step w e w₁)
      (tail : Path step w₁ events w₂) : Path step w (e :: events) w₂

@[simp] theorem path_nil {step : χ → ι → χ → Prop} {w w' : χ} : Path step w [] w' ↔ w' = w := by
  constructor
  · rintro ⟨⟩
    rfl
  · rintro rfl
    exact .nil _

theorem path_cons {step : χ → ι → χ → Prop} {w w' : χ} {e : ι} {events : List ι} :
    Path step w (e :: events) w' ↔ ∃ w₁, step w e w₁ ∧ Path step w₁ events w' := by
  constructor
  · rintro (_ | ⟨head, tail⟩)
    exact ⟨_, head, tail⟩
  · rintro ⟨w₁, head, tail⟩
    exact .cons head tail

theorem path_append {step : χ → ι → χ → Prop} {w w' : χ} {first rest : List ι} :
    Path step w (first ++ rest) w' ↔ ∃ w₁, Path step w first w₁ ∧ Path step w₁ rest w' := by
  induction first generalizing w with
  | nil => simp
  | cons e first ih =>
    simp only [List.cons_append, path_cons, ih]
    constructor
    · rintro ⟨w₁, h, w₂, h₁, h₂⟩
      exact ⟨w₂, ⟨w₁, h, h₁⟩, h₂⟩
    · rintro ⟨w₂, ⟨w₁, h, h₁⟩, h₂⟩
      exact ⟨w₁, h, w₂, h₁, h₂⟩

/-- Only the steps taken from a state that meets `guard`. -/
def guarded (guard : χ → ι → Prop) (step : χ → ι → χ → Prop) (w : χ) (e : ι) (w' : χ) : Prop :=
  guard w e ∧ step w e w'

theorem Path.mono {step step' : χ → ι → χ → Prop} (weaker : ∀ {w e w'}, step w e w' → step' w e w')
    {w w' : χ} {events : List ι} (path : Path step w events w') : Path step' w events w' := by
  induction path with
  | nil w => exact .nil w
  | cons head _ ih => exact .cons (weaker head) ih

theorem Path.unguarded {guard : χ → ι → Prop} {step : χ → ι → χ → Prop} {w w' : χ}
    {events : List ι} (path : Path (guarded guard step) w events w') : Path step w events w' :=
  path.mono fun h => h.2

theorem Path.guard {guard : χ → ι → Prop} {step : χ → ι → χ → Prop} {w w' : χ} {events : List ι}
    (path : Path step w events w') (met : ∀ e ∈ events, ∀ w, guard w e) :
    Path (guarded guard step) w events w' := by
  induction path with
  | nil w => exact .nil w
  | cons head _ ih =>
    exact .cons ⟨met _ (.head _) _, head⟩ (ih fun e member => met e (.tail _ member))

/-- An environment that always moves as `step` says plays along a path. -/
theorem Coroutine.play_path {σ Req α : Type} {Rsp : Req → Type}
    {step : χ → Event Req Rsp → χ → Prop} {answer : χ → (request : Req) → Rsp request × χ}
    (lawful : ∀ w request, step w ⟨request, (answer w request).1⟩ (answer w request).2)
    (m : Coroutine σ Req Rsp α) (s : σ) (w : χ) :
    Path step w (m.play answer s w).trace (m.play answer s w).world := by
  induction m generalizing s w with
  | ret value => exact .nil w
  | read next ih => exact ih s s w
  | write t next ih => exact ih t w
  | await request next ih => exact .cons (lawful w request) (ih _ s _)

/-- The environment that only keeps the events. -/
def recording (past : List ι) (e : ι) (past' : List ι) : Prop := past' = past ++ [e]

theorem path_recording {past past' events : List ι} :
    Path recording past events past' ↔ past' = past ++ events := by
  induction events generalizing past with
  | nil => simp
  | cons e events ih => simp [path_cons, recording, ih]

/-- A check of every event against the events before it. -/
def alongPast (check : List ι → ι → Bool) : List ι → List ι → Bool
  | _, [] => true
  | past, e :: rest => check past e && alongPast check (past ++ [e]) rest

theorem alongPast_iff {check : List ι → ι → Bool} {past events : List ι} :
    alongPast check past events = true ↔
      ∀ before e after, events = before ++ e :: after → check (past ++ before) e = true := by
  induction events generalizing past with
  | nil => simp [alongPast]
  | cons head rest ih =>
    rw [alongPast, Bool.and_eq_true, ih]
    constructor
    · rintro ⟨here, later⟩ before e after split
      cases before with
      | nil =>
        obtain ⟨rfl, -⟩ := List.cons_eq_cons.mp split
        simpa using here
      | cons first before =>
        obtain ⟨rfl, rfl⟩ := List.cons_eq_cons.mp split
        simpa using later before e after rfl
    · intro all
      refine ⟨by simpa using all [] head rest rfl, fun before e after split => ?_⟩
      simpa using all (head :: before) e after (by rw [split]; rfl)

/-- The environment that replies by the events so far. -/
def replying {Req : Type} {Rsp : Req → Type}
    (reply : List (Event Req Rsp) → (request : Req) → Rsp request)
    (past : List (Event Req Rsp)) (request : Req) : Rsp request × List (Event Req Rsp) :=
  (reply past request, past ++ [⟨request, reply past request⟩])

/-- An invariant of every step is an invariant of every path. -/
theorem Path.invariant {step : χ → ι → χ → Prop} {inv : χ → Prop}
    (preserved : ∀ w e w', step w e w' → inv w → inv w') {w w' : χ} {events : List ι}
    (path : Path step w events w') (initial : inv w) : inv w' := by
  induction path with
  | nil => exact initial
  | cons head _ ih => exact ih (preserved _ _ _ head initial)

end Path

end AlloraSdk.Logic
