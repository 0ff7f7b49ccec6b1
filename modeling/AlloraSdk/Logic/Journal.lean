import AlloraSdk.Logic.Coroutine

/-!
# Journals of coroutines, and rules of pre- and postconditions for them

A journal keeps with every request the state in which it was made, and its reply
unless the coroutine was cut off while it waited for it.

`Ensures safe post` is the weakest precondition of a coroutine over its journal:
`safe` holds whenever it waits, `post` holds if it returns (`Ensures.journal`).
`Upholds` is its form for an invariant.
-/

namespace AlloraSdk.Logic

/-- A request, the state in which it was made, and the reply. -/
structure Entry (σ Req : Type) (Rsp : Req → Type) where
  state : σ
  request : Req
  reply : Option (Rsp request)

namespace Coroutine

variable {σ Req : Type} {Rsp : Req → Type} {α β : Type}

/-- The runs from a state, complete or cut off at a request. -/
inductive Journal : Coroutine σ Req Rsp α → σ → List (Entry σ Req Rsp) → Option α → σ → Prop
  | ret (value : α) (s : σ) : Journal (.ret value) s [] (some value) s
  | read {next : σ → Coroutine σ Req Rsp α} {s s' : σ} {log : List (Entry σ Req Rsp)} {out : Option α}
      (rest : Journal (next s) s log out s') : Journal (.read next) s log out s'
  | write {next : Coroutine σ Req Rsp α} {s t s' : σ} {log : List (Entry σ Req Rsp)} {out : Option α}
      (rest : Journal next t log out s') : Journal (.write t next) s log out s'
  | await {request : Req} {next : Rsp request → Coroutine σ Req Rsp α} {s s' : σ}
      {log : List (Entry σ Req Rsp)} {out : Option α} (reply : Rsp request)
      (rest : Journal (next reply) s log out s') :
      Journal (.await request next) s (⟨s, request, some reply⟩ :: log) out s'
  | cut (request : Req) (next : Rsp request → Coroutine σ Req Rsp α) (s : σ) :
      Journal (.await request next) s [⟨s, request, none⟩] none s

/-- The journal that `play` keeps. -/
def keep {χ : Type} (answer : χ → (request : Req) → Rsp request × χ) :
    Coroutine σ Req Rsp α → σ → χ → List (Entry σ Req Rsp)
  | .ret _, _, _ => []
  | .read next, s, w => keep answer (next s) s w
  | .write t next, _, w => keep answer next t w
  | .await request next, s, w =>
    let reply := answer w request
    ⟨s, request, some reply.1⟩ :: keep answer (next reply.1) s reply.2

theorem keep_journal {χ : Type} (answer : χ → (request : Req) → Rsp request × χ)
    (m : Coroutine σ Req Rsp α) (s : σ) (w : χ) :
    Journal m s (keep answer m s w) (some (m.play answer s w).value) (m.play answer s w).state := by
  induction m generalizing s w with
  | ret value => exact .ret value s
  | read next ih => exact .read (ih s s w)
  | write t next ih => exact .write (ih t w)
  | await request next ih => exact .await _ (ih _ s _)

/-- From the entries `past` and the state `s`: `safe` whenever the coroutine
waits, `post` when it returns. -/
def Ensures (safe : List (Entry σ Req Rsp) → σ → Req → Prop)
    (post : α → List (Entry σ Req Rsp) → σ → Prop) :
    Coroutine σ Req Rsp α → List (Entry σ Req Rsp) → σ → Prop
  | .ret value, past, s => post value past s
  | .read next, past, s => Ensures safe post (next s) past s
  | .write t next, past, _ => Ensures safe post next past t
  | .await request next, past, s =>
    safe past s request ∧ ∀ reply, Ensures safe post (next reply) (past ++ [⟨s, request, some reply⟩]) s

variable {safe : List (Entry σ Req Rsp) → σ → Req → Prop} {past log : List (Entry σ Req Rsp)} {s s' : σ}

theorem Ensures.mono {post post' : α → List (Entry σ Req Rsp) → σ → Prop} {m : Coroutine σ Req Rsp α}
    (h : Ensures safe post m past s) (weaker : ∀ a past s, post a past s → post' a past s) :
    Ensures safe post' m past s := by
  induction m generalizing past s with
  | ret value => exact weaker _ _ _ h
  | read next ih => exact ih s h
  | write t next ih => exact ih h
  | await request next ih => exact ⟨h.1, fun reply => ih reply (h.2 reply)⟩

theorem Ensures.bind {mid : α → List (Entry σ Req Rsp) → σ → Prop}
    {post : β → List (Entry σ Req Rsp) → σ → Prop} {m : Coroutine σ Req Rsp α}
    {f : α → Coroutine σ Req Rsp β} (first : Ensures safe mid m past s)
    (rest : ∀ a past s, mid a past s → Ensures safe post (f a) past s) :
    Ensures safe post (m >>= f) past s := by
  change Ensures safe post (m.bind f) past s
  induction m generalizing past s with
  | ret value => exact rest _ _ _ first
  | read next ih => exact ih s first
  | write t next ih => exact ih first
  | await request next ih => exact ⟨first.1, fun reply => ih reply (first.2 reply)⟩

/-- What holds after any entries whatsoever needs no look at the coroutine. -/
theorem Ensures.of_forall (m : Coroutine σ Req Rsp α)
    (always : ∀ more s request, safe (past ++ more) s request) :
    Ensures safe (fun _ _ _ => True) m past s := by
  induction m generalizing past s with
  | ret value => trivial
  | read next ih => exact ih s always
  | write t next ih => exact ih always
  | await request next ih =>
    constructor
    · simpa using always [] s request
    · intro reply
      apply ih
      intro more s' request'
      rw [List.append_assoc]
      exact always _ s' request'

/-- Every journal meets the conditions. -/
theorem Ensures.journal {post : α → List (Entry σ Req Rsp) → σ → Prop} {m : Coroutine σ Req Rsp α}
    {out : Option α} (h : Ensures safe post m past s) (run : Journal m s log out s') :
    (∀ before e after, log = before ++ e :: after → safe (past ++ before) e.state e.request) ∧
      ∀ a, out = some a → post a (past ++ log) s' := by
  induction run generalizing past with
  | ret value s =>
    constructor
    · intro before e after split
      exact (List.append_ne_nil_of_right_ne_nil before (List.cons_ne_nil e after) split.symm).elim
    · intro a same
      cases same
      rw [List.append_nil]
      exact h
  | read rest ih => exact ih h
  | write rest ih => exact ih h
  | @await request next s s' log out reply rest ih =>
    obtain ⟨later, returned⟩ := ih (h.2 reply)
    constructor
    · intro before e after split
      cases before with
      | nil =>
        obtain ⟨rfl, -⟩ := List.cons_eq_cons.mp split
        rw [List.append_nil]
        exact h.1
      | cons first before =>
        obtain ⟨rfl, rfl⟩ := List.cons_eq_cons.mp split
        have there := later before e after rfl
        rwa [List.append_assoc] at there
    · intro a same
      have there := returned a same
      rwa [List.append_assoc] at there
  | cut request next s =>
    constructor
    · intro before e after split
      cases before with
      | nil =>
        obtain ⟨rfl, -⟩ := List.cons_eq_cons.mp split
        rw [List.append_nil]
        exact h.1
      | cons first before =>
        have nothing := (List.cons_eq_cons.mp split).2
        exact (List.append_ne_nil_of_right_ne_nil before (List.cons_ne_nil e after) nothing.symm).elim
    · intro a same
      cases same

theorem exists_run (inhabited : ∀ request, Nonempty (Rsp request)) (m : Coroutine σ Req Rsp α) (s : σ) :
    ∃ trace a t, Runs m s trace a t := by
  induction m generalizing s with
  | ret value => exact ⟨[], value, s, .ret value s⟩
  | read next ih =>
    obtain ⟨trace, a, t, run⟩ := ih s s
    exact ⟨trace, a, t, .read run⟩
  | write state next ih =>
    obtain ⟨trace, a, t, run⟩ := ih state
    exact ⟨trace, a, t, .write run⟩
  | await request next ih =>
    obtain ⟨reply⟩ := inhabited request
    obtain ⟨trace, a, t, run⟩ := ih reply s
    exact ⟨_, a, t, .await reply run⟩

/-- What was cut off could have gone on: the requests of a journal begin those of
a complete run. -/
theorem Journal.completes (inhabited : ∀ request, Nonempty (Rsp request)) {m : Coroutine σ Req Rsp α}
    {out : Option α} (run : Journal m s log out s') :
    ∃ trace a t, Runs m s trace a t ∧ log.map Entry.request <+: trace.map Event.request := by
  induction run with
  | ret value s => exact ⟨[], value, s, .ret value s, List.nil_prefix⟩
  | read rest ih =>
    obtain ⟨trace, a, t, run, begins⟩ := ih
    exact ⟨trace, a, t, .read run, begins⟩
  | write rest ih =>
    obtain ⟨trace, a, t, run, begins⟩ := ih
    exact ⟨trace, a, t, .write run, begins⟩
  | await reply rest ih =>
    obtain ⟨trace, a, t, run, begins⟩ := ih
    exact ⟨_, a, t, .await reply run, (List.prefix_cons_inj _).mpr begins⟩
  | cut request next s =>
    obtain ⟨reply⟩ := inhabited request
    obtain ⟨trace, a, t, run⟩ := exists_run inhabited (next reply) s
    exact ⟨_, a, t, .await reply run, (List.prefix_cons_inj _).mpr List.nil_prefix⟩

end Coroutine

namespace Routine

variable {ε σ Req : Type} {Rsp : Req → Type} {α β : Type}

/-- The journals of a routine: returned, raised, or cut off. -/
def Journal (m : Routine ε σ Req Rsp α) (s : σ) (log : List (Entry σ Req Rsp))
    (out : Option (Except ε α)) (s' : σ) : Prop :=
  Coroutine.Journal m.run s log out s'

def Ensures (safe : List (Entry σ Req Rsp) → σ → Req → Prop)
    (post : Except ε α → List (Entry σ Req Rsp) → σ → Prop) (m : Routine ε σ Req Rsp α)
    (past : List (Entry σ Req Rsp)) (s : σ) : Prop :=
  Coroutine.Ensures safe post m.run past s

variable {safe : List (Entry σ Req Rsp) → σ → Req → Prop} {past : List (Entry σ Req Rsp)} {s : σ}
  {inv : List (Entry σ Req Rsp) → σ → Prop}

theorem Ensures.await {request : Req} {post : Except ε (Rsp request) → List (Entry σ Req Rsp) → σ → Prop}
    (here : safe past s request)
    (answered : ∀ reply, post (.ok reply) (past ++ [⟨s, request, some reply⟩]) s) :
    Ensures safe post (await request : Routine ε σ Req Rsp (Rsp request)) past s :=
  ⟨here, answered⟩

theorem Ensures.update {f : σ → σ} {post : Except ε Unit → List (Entry σ Req Rsp) → σ → Prop}
    (after : post (.ok ()) past (f s)) :
    Ensures safe post (update f : Routine ε σ Req Rsp Unit) past s :=
  after

theorem Ensures.bind {mid : Except ε α → List (Entry σ Req Rsp) → σ → Prop}
    {post : Except ε β → List (Entry σ Req Rsp) → σ → Prop} {m : Routine ε σ Req Rsp α}
    {f : α → Routine ε σ Req Rsp β} (first : Ensures safe mid m past s)
    (raised : ∀ e past s, mid (.error e) past s → post (.error e) past s)
    (rest : ∀ a past s, mid (.ok a) past s → Ensures safe post (f a) past s) :
    Ensures safe post (m >>= f) past s := by
  refine Coroutine.Ensures.bind first fun a past s h => ?_
  cases a with
  | error e => exact raised e past s h
  | ok a => exact rest a past s h

theorem Ensures.tryCatch {mid post : Except ε α → List (Entry σ Req Rsp) → σ → Prop}
    {m : Routine ε σ Req Rsp α} {handler : ε → Routine ε σ Req Rsp α} (body : Ensures safe mid m past s)
    (returned : ∀ a past s, mid (.ok a) past s → post (.ok a) past s)
    (caught : ∀ e past s, mid (.error e) past s → Ensures safe post (handler e) past s) :
    Ensures safe post (tryCatch m handler) past s := by
  refine Coroutine.Ensures.bind body fun a past s h => ?_
  cases a with
  | error e => exact caught e past s h
  | ok a => exact returned a past s h

theorem Ensures.stateBind {f : σ → Routine ε σ Req Rsp β} {post : Except ε β → List (Entry σ Req Rsp) → σ → Prop}
    (rest : Ensures safe post (f s) past s) : Ensures safe post (state >>= f) past s :=
  rest

theorem Ensures.updateBind {g : σ → σ} {next : Unit → Routine ε σ Req Rsp β}
    {post : Except ε β → List (Entry σ Req Rsp) → σ → Prop} (rest : Ensures safe post (next ()) past (g s)) :
    Ensures safe post (Routine.update g >>= next) past s :=
  rest

/-- `inv` holds again when `m` is through, and every request of `m` is safe. -/
def Upholds (safe : List (Entry σ Req Rsp) → σ → Req → Prop) (inv : List (Entry σ Req Rsp) → σ → Prop)
    (m : Routine ε σ Req Rsp α) : Prop :=
  ∀ past s, inv past s → Ensures safe (fun _ => inv) m past s

theorem Upholds.pure (value : α) : Upholds safe inv (pure value : Routine ε σ Req Rsp α) :=
  fun _ _ h => h

theorem Upholds.ofExcept (result : Except ε α) :
    Upholds safe inv (ofExcept result : Routine ε σ Req Rsp α) :=
  fun _ _ h => h

theorem Upholds.update {f : σ → σ} (kept : ∀ past s, inv past s → inv past (f s)) :
    Upholds safe inv (update f : Routine ε σ Req Rsp Unit) :=
  kept

theorem Upholds.await {request : Req} (here : ∀ past s, inv past s → safe past s request)
    (kept : ∀ past s reply, inv past s → inv (past ++ [⟨s, request, some reply⟩]) s) :
    Upholds safe inv (await request : Routine ε σ Req Rsp (Rsp request)) :=
  fun past s h => ⟨here past s h, fun reply => kept past s reply h⟩

theorem Upholds.bind {m : Routine ε σ Req Rsp α} {f : α → Routine ε σ Req Rsp β}
    (first : Upholds safe inv m) (rest : ∀ a, Upholds safe inv (f a)) : Upholds safe inv (m >>= f) :=
  fun past s h => Ensures.bind (first past s h) (fun _ _ _ h => h) fun a past s h => rest a past s h

theorem Upholds.tryCatch {m : Routine ε σ Req Rsp α} {handler : ε → Routine ε σ Req Rsp α}
    (body : Upholds safe inv m) (caught : ∀ e, Upholds safe inv (handler e)) :
    Upholds safe inv (tryCatch m handler) :=
  fun past s h => Ensures.tryCatch (body past s h) (fun _ _ _ h => h) fun e past s h => caught e past s h

end Routine

end AlloraSdk.Logic
