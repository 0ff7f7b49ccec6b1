import AlloraSdk.Logic.Tasks

/-!
# Proof outlines without interference

What each task relies on while it waits is an assertion about the shared state,
by the task's number and its request, that is stable under what the other tasks
may do. A task proves its own assertions, and that each write of its own is one
the others rely on; then all assertions hold at once in every state reached.
-/

namespace AlloraSdk.Logic

variable {κ σ Req : Type} {Rsp : Req → Type}

/-- `holds n (some request)` is true as long as task `n` awaits the request,
`holds n none` before it starts and after it ended; `rely n` is what the other
tasks may do as far as `n` is concerned. -/
structure Outline (σ Req : Type) where
  inv : σ → Prop
  holds : ℕ → Option Req → σ → Prop
  rely : ℕ → σ → σ → Prop
  refl : ∀ n s, rely n s s
  trans : ∀ n s t u, rely n s t → rely n t u → rely n s u
  stable : ∀ n request s t, holds n request s → rely n s t → holds n request t

/-- All other tasks rely on this change by task `me`. -/
structure Outline.Harmless (O : Outline σ Req) (me : ℕ) (s t : σ) : Prop where
  inv : O.inv t
  others : ∀ n, n ≠ me → O.rely n s t

theorem Outline.Harmless.refl {O : Outline σ Req} {me : ℕ} {s : σ} (kept : O.inv s) : O.Harmless me s s where
  inv := kept
  others := fun n _ => O.refl n s

theorem Outline.Harmless.trans {O : Outline σ Req} {me : ℕ} {s t u : σ} (first : O.Harmless me s t)
    (second : O.Harmless me t u) : O.Harmless me s u where
  inv := second.inv
  others := fun n other => O.trans n s t u (first.others n other) (second.others n other)

namespace Coroutine

variable {α β : Type} {O : Outline σ Req} {enabled : σ → Event Req Rsp → Bool} {me : ℕ} {s : σ}

/-- The coroutine, as task `me` from `s`, keeps to the outline; `post` holds when
it returns. -/
def Proved (O : Outline σ Req) (enabled : σ → Event Req Rsp → Bool) (me : ℕ) (post : α → σ → Prop) :
    Coroutine σ Req Rsp α → σ → Prop
  | .ret value, s => post value s
  | .read next, s => Proved O enabled me post (next s) s
  | .write t next, s => O.Harmless me s t ∧ Proved O enabled me post next t
  | .await request next, s => O.holds me (some request) s ∧ ∀ reply s₁, O.inv s₁ → O.rely me s s₁ →
      enabled s₁ ⟨request, reply⟩ = true → Proved O enabled me post (next reply) s₁

theorem Proved.mono {post post' : α → σ → Prop} {m : Coroutine σ Req Rsp α} (h : Proved O enabled me post m s)
    (weaker : ∀ a t, post a t → post' a t) : Proved O enabled me post' m s := by
  induction m generalizing s with
  | ret value => exact weaker _ _ h
  | read next ih => exact ih s h
  | write t next ih => exact ⟨h.1, ih h.2⟩
  | await request next ih =>
    exact ⟨h.1, fun reply s₁ kept relied allowed => ih reply (h.2 reply s₁ kept relied allowed)⟩

theorem Proved.bind {mid : α → σ → Prop} {post : β → σ → Prop} {m : Coroutine σ Req Rsp α}
    {f : α → Coroutine σ Req Rsp β} (first : Proved O enabled me mid m s)
    (rest : ∀ a t, mid a t → Proved O enabled me post (f a) t) : Proved O enabled me post (m >>= f) s := by
  change Proved O enabled me post (m.bind f) s
  induction m generalizing s with
  | ret value => exact rest _ _ first
  | read next ih => exact ih s first
  | write t next ih => exact ⟨first.1, ih first.2⟩
  | await request next ih =>
    exact ⟨first.1, fun reply s₁ kept relied allowed => ih reply (first.2 reply s₁ kept relied allowed)⟩

/-- One segment: the invariant holds again, and everybody's assertions do. -/
theorem Proved.settle {m : Coroutine σ Req Rsp Unit} (h : Proved O enabled me (fun _ => O.holds me none) m s)
    (kept : O.inv s) :
    O.Harmless me s (m.settle s).2 ∧ O.holds me (m.settle s).1.request (m.settle s).2 := by
  induction m generalizing s with
  | ret value => exact ⟨.refl kept, h⟩
  | read next ih => exact ih s h kept
  | write t next ih =>
    obtain ⟨harmless, later⟩ := h
    obtain ⟨rest, own⟩ := ih later harmless.inv
    exact ⟨harmless.trans rest, own⟩
  | await request next ih => exact ⟨.refl kept, h.1⟩

/-- The first request of a coroutine, and the state in which it waits. -/
def firstAwait {α : Type} : Coroutine σ Req Rsp α → σ → Option (Req × σ)
  | .ret _, _ => none
  | .read next, s => (next s).firstAwait s
  | .write t next, _ => next.firstAwait t
  | .await request _, s => some (request, s)

theorem firstAwait_bind {α β : Type} {m : Coroutine σ Req Rsp α} {f : α → Coroutine σ Req Rsp β} {s : σ}
    {first : Req × σ} (awaits : m.firstAwait s = some first) : (m >>= f).firstAwait s = some first := by
  change (m.bind f).firstAwait s = some first
  induction m generalizing s with
  | ret value => cases awaits
  | read next ih => exact ih s awaits
  | write t next ih => exact ih awaits
  | await request next ih => exact awaits

/-- The coroutine comes to wait for the request in `t`, and goes on as `next`. -/
inductive Waits {α : Type} : Coroutine σ Req Rsp α → σ → (request : Req) →
    (Rsp request → Coroutine σ Req Rsp α) → σ → Prop
  | read {m : σ → Coroutine σ Req Rsp α} {s t : σ} {request : Req} {next : Rsp request → Coroutine σ Req Rsp α}
      (rest : Waits (m s) s request next t) : Waits (.read m) s request next t
  | write {m : Coroutine σ Req Rsp α} {s u t : σ} {request : Req} {next : Rsp request → Coroutine σ Req Rsp α}
      (rest : Waits m u request next t) : Waits (.write u m) s request next t
  | await (request : Req) (next : Rsp request → Coroutine σ Req Rsp α) (s : σ) :
      Waits (.await request next) s request next s

theorem Waits.bind {α β : Type} {m : Coroutine σ Req Rsp α} {s t : σ} {request : Req}
    {next : Rsp request → Coroutine σ Req Rsp α} (waits : Waits m s request next t)
    (f : α → Coroutine σ Req Rsp β) : Waits (m >>= f) s request (fun reply => next reply >>= f) t := by
  induction waits with
  | read rest ih => exact .read ih
  | write rest ih => exact .write ih
  | await request next s => exact .await request _ s

theorem Waits.settle {m : Coroutine σ Req Rsp Unit} {s t : σ} {request : Req}
    {next : Rsp request → Coroutine σ Req Rsp Unit} (waits : Waits m s request next t) :
    m.settle s = (.waiting request next, t) := by
  induction waits with
  | read rest ih => exact ih
  | write rest ih => exact ih
  | await request next s => rfl

/-- A coroutine that returns without an await. -/
theorem settle_of_runs {m : Coroutine σ Req Rsp Unit} {s t : σ} {a : Unit} (run : Runs m s [] a t) :
    m.settle s = (.done, t) := by
  induction m generalizing s with
  | ret value =>
    obtain ⟨-, -, rfl⟩ := runs_ret.mp run
    rfl
  | read next ih => exact ih s (runs_read.mp run)
  | write t' next ih => exact ih (runs_write.mp run)
  | await request next ih =>
    obtain ⟨reply, rest, split, -⟩ := runs_await.mp run
    cases split

theorem settle_firstAwait {m : Coroutine σ Req Rsp Unit} {s t : σ} {request : Req}
    (awaits : m.firstAwait s = some (request, t)) :
    (m.settle s).1.request = some request ∧ (m.settle s).2 = t := by
  induction m generalizing s with
  | ret value => cases awaits
  | read next ih => exact ih s awaits
  | write t' next ih => exact ih awaits
  | await request next ih =>
    obtain ⟨rfl, rfl⟩ := Prod.mk.injEq .. ▸ Option.some.inj awaits
    exact ⟨rfl, rfl⟩

end Coroutine

namespace Routine

variable {ε α β : Type} {O : Outline σ Req} {enabled : σ → Event Req Rsp → Bool} {me : ℕ} {s : σ}

def Proved (O : Outline σ Req) (enabled : σ → Event Req Rsp → Bool) (me : ℕ) (post : Except ε α → σ → Prop)
    (m : Routine ε σ Req Rsp α) (s : σ) : Prop :=
  Coroutine.Proved O enabled me post m.run s

/-- `try … finally`: the last block runs whatever the body did. -/
def tryFinally (m : Routine ε σ Req Rsp α) (last : Routine ε σ Req Rsp Unit) : Routine ε σ Req Rsp α :=
  attempt m >>= fun outcome => last >>= fun _ => ofExcept outcome

theorem firstAwait_state {f : σ → Routine ε σ Req Rsp β} :
    ((Routine.state : Routine ε σ Req Rsp σ) >>= f).run.firstAwait s = (f s).run.firstAwait s := rfl

theorem firstAwait_update {f : σ → σ} {next : Unit → Routine ε σ Req Rsp β} :
    ((Routine.update f : Routine ε σ Req Rsp Unit) >>= next).run.firstAwait s =
      (next ()).run.firstAwait (f s) := rfl

theorem firstAwait_pure {value : α} {f : α → Routine ε σ Req Rsp β} :
    ((pure value : Routine ε σ Req Rsp α) >>= f).run.firstAwait s = (f value).run.firstAwait s := rfl

theorem firstAwait_bind {m : Routine ε σ Req Rsp α} {f : α → Routine ε σ Req Rsp β} {first : Req × σ}
    (awaits : m.run.firstAwait s = some first) : (m >>= f).run.firstAwait s = some first :=
  Coroutine.firstAwait_bind awaits

theorem firstAwait_tryCatch {m : Routine ε σ Req Rsp α} {handler : ε → Routine ε σ Req Rsp α}
    {first : Req × σ} (awaits : m.run.firstAwait s = some first) :
    (tryCatch m handler).run.firstAwait s = some first :=
  Coroutine.firstAwait_bind awaits

theorem firstAwait_tryFinally {m : Routine ε σ Req Rsp α} {last : Routine ε σ Req Rsp Unit}
    {first : Req × σ} (awaits : m.run.firstAwait s = some first) :
    (m.tryFinally last).run.firstAwait s = some first :=
  Coroutine.firstAwait_bind (Coroutine.firstAwait_bind awaits)

theorem runs_tryFinally {m : Routine ε σ Req Rsp α} {last : Routine ε σ Req Rsp Unit} {s t u : σ}
    {first rest : List (Event Req Rsp)} {out : Except ε α} (body : Runs m s first out t)
    (after : Runs last t rest (.ok ()) u) : Runs (m.tryFinally last) s (first ++ rest) out u := by
  refine runs_attempt_bind.mpr ⟨out, t, first, rest, body, ?_, rfl⟩
  exact runs_bind.mpr (.inr ⟨(), u, rest, [], after, runs_ofExcept.mpr ⟨rfl, rfl, rfl⟩, (List.append_nil _).symm⟩)

theorem Proved.pure {post : Except ε α → σ → Prop} {value : α} (h : post (.ok value) s) :
    Proved O enabled me post (pure value : Routine ε σ Req Rsp α) s := h

theorem Proved.throw {post : Except ε α → σ → Prop} {e : ε} (h : post (.error e) s) :
    Proved O enabled me post (throw e : Routine ε σ Req Rsp α) s := h

theorem Proved.ofExcept {post : Except ε α → σ → Prop} {result : Except ε α} (h : post result s) :
    Proved O enabled me post (ofExcept result : Routine ε σ Req Rsp α) s := h

theorem Proved.state {post : Except ε σ → σ → Prop} (h : post (.ok s) s) :
    Proved O enabled me post (state : Routine ε σ Req Rsp σ) s := h

theorem Proved.update {post : Except ε Unit → σ → Prop} {f : σ → σ} (harmless : O.Harmless me s (f s))
    (h : post (.ok ()) (f s)) : Proved O enabled me post (update f : Routine ε σ Req Rsp Unit) s :=
  ⟨harmless, h⟩

theorem Proved.await {request : Req} {post : Except ε (Rsp request) → σ → Prop}
    (here : O.holds me (some request) s)
    (answered : ∀ reply s₁, O.inv s₁ → O.rely me s s₁ → enabled s₁ ⟨request, reply⟩ = true →
      post (.ok reply) s₁) :
    Proved O enabled me post (await request : Routine ε σ Req Rsp (Rsp request)) s :=
  ⟨here, answered⟩

theorem Proved.stateBind {f : σ → Routine ε σ Req Rsp β} {post : Except ε β → σ → Prop}
    (rest : Proved O enabled me post (f s) s) :
    Proved O enabled me post ((Routine.state : Routine ε σ Req Rsp σ) >>= f) s := rest

theorem Proved.updateBind {f : σ → σ} {next : Unit → Routine ε σ Req Rsp β} {post : Except ε β → σ → Prop}
    (harmless : O.Harmless me s (f s)) (rest : Proved O enabled me post (next ()) (f s)) :
    Proved O enabled me post ((Routine.update f : Routine ε σ Req Rsp Unit) >>= next) s :=
  ⟨harmless, rest⟩

/-- A request whose reply is the outcome. -/
theorem Proved.demand {request : Req} {f : Rsp request → Except ε β} {post : Except ε β → σ → Prop}
    (here : O.holds me (some request) s)
    (answered : ∀ reply s₁, O.inv s₁ → O.rely me s s₁ → enabled s₁ ⟨request, reply⟩ = true →
      post (f reply) s₁) :
    Proved O enabled me post (Routine.await request >>= fun reply => Routine.ofExcept (f reply)) s :=
  ⟨here, answered⟩

theorem Proved.bind {mid : Except ε α → σ → Prop} {post : Except ε β → σ → Prop} {m : Routine ε σ Req Rsp α}
    {f : α → Routine ε σ Req Rsp β} (first : Proved O enabled me mid m s)
    (raised : ∀ e t, mid (.error e) t → post (.error e) t)
    (rest : ∀ a t, mid (.ok a) t → Proved O enabled me post (f a) t) : Proved O enabled me post (m >>= f) s := by
  refine Coroutine.Proved.bind first fun a t h => ?_
  cases a with
  | error e => exact raised e t h
  | ok a => exact rest a t h

theorem Proved.tryCatch {mid post : Except ε α → σ → Prop} {m : Routine ε σ Req Rsp α}
    {handler : ε → Routine ε σ Req Rsp α} (body : Proved O enabled me mid m s)
    (returned : ∀ a t, mid (.ok a) t → post (.ok a) t)
    (caught : ∀ e t, mid (.error e) t → Proved O enabled me post (handler e) t) :
    Proved O enabled me post (tryCatch m handler) s := by
  refine Coroutine.Proved.bind body fun a t h => ?_
  cases a with
  | error e => exact caught e t h
  | ok a => exact returned a t h

theorem Proved.tryFinally {mid post : Except ε α → σ → Prop} {m : Routine ε σ Req Rsp α}
    {last : Routine ε σ Req Rsp Unit} (body : Proved O enabled me mid m s)
    (ended : ∀ outcome t, mid outcome t → Proved O enabled me (fun result t' => result = .ok () ∧ post outcome t')
      last t) :
    Proved O enabled me post (tryFinally m last) s := by
  have attempted : Proved O enabled me (fun result t => ∃ outcome, result = .ok outcome ∧ mid outcome t)
      (attempt m) s := Coroutine.Proved.bind body fun outcome t h => ⟨outcome, rfl, h⟩
  refine Proved.bind attempted ?_ ?_
  · rintro e t ⟨outcome, same, -⟩
    cases same
  · rintro outcome t ⟨_, ⟨⟩, h⟩
    refine Proved.bind (ended outcome t h) ?_ ?_
    · rintro e t' ⟨same, -⟩
      cases same
    · rintro _ t' ⟨-, after⟩
      exact Proved.ofExcept after

end Routine

/-! ## All tasks together -/

/-- The same tasks, with fewer replies allowed. -/
def System.restrict (S : System κ σ Req Rsp) (admits : σ → Event Req Rsp → Bool) : System κ σ Req Rsp where
  program := S.program
  enabled s event := S.enabled s event && admits s event

theorem System.restrict_enabled {S : System κ σ Req Rsp} {admits : σ → Event Req Rsp → Bool} {s : σ}
    {event : Event Req Rsp} :
    (S.restrict admits).enabled s event = true ↔ S.enabled s event = true ∧ admits s event = true :=
  Bool.and_eq_true_iff

theorem System.Step.restrict {S : System κ σ Req Rsp} {admits : σ → Event Req Rsp → Bool} {p p' : Pool σ Req Rsp}
    {move : Move κ Req Rsp} (step : S.Step p move p')
    (admitted : ∀ index event, move = .resume index event → admits p.state event = true) :
    (S.restrict admits).Step p move p' := by
  cases step with
  | spawn task => exact .spawn task
  | resume reply found allowed =>
    exact .resume reply found (System.restrict_enabled.mpr ⟨allowed, admitted _ _ rfl⟩)

namespace Outline

variable (O : Outline σ Req) (S : System κ σ Req Rsp) (number : κ → ℕ)

/-- Every program proves the assertions of the task it is started as. -/
def Proves : Prop :=
  ∀ task s, O.inv s → O.holds (number task) none s →
    (S.program task).Proved O S.enabled (number task) (fun _ => O.holds (number task) none) s

/-- The programs that are started where `starts` says do so. -/
def ProvesFrom (starts : κ → σ → Prop) : Prop :=
  ∀ task s, starts task s → O.inv s → O.holds (number task) none s →
    (S.program task).Proved O S.enabled (number task) (fun _ => O.holds (number task) none) s

/-- Tasks are numbered as they are started. -/
def Numbered (p : Pool σ Req Rsp) : Move κ Req Rsp → Prop
  | .spawn task => number task = p.tasks.length
  | .resume _ _ => True

/-- A task that is started gets the next number, and meets its condition. -/
def Begins (starts : κ → σ → Prop) (p : Pool σ Req Rsp) : Move κ Req Rsp → Prop
  | .spawn task => number task = p.tasks.length ∧ starts task p.state
  | .resume _ _ => True

/-- The rest of a task that waits since `s` keeps to the outline. -/
def Kept (enabled : σ → Event Req Rsp → Bool) (me : ℕ) (s : σ) : Paused σ Req Rsp → Prop
  | .done => True
  | .waiting request next => ∀ reply s₁, O.inv s₁ → O.rely me s s₁ → enabled s₁ ⟨request, reply⟩ = true →
      (next reply).Proved O enabled me (fun _ => O.holds me none) s₁

structure Valid (p : Pool σ Req Rsp) : Prop where
  inv : O.inv p.state
  holds : ∀ n, O.holds n (p.tasks[n]?.bind Paused.request) p.state
  kept : ∀ (n : ℕ) (task : Paused σ Req Rsp), p.tasks[n]? = some task →
    ∃ s, O.rely n s p.state ∧ O.Kept S.enabled n s task

variable {O S number}

theorem settle_kept {enabled : σ → Event Req Rsp → Bool} {me : ℕ} {m : Coroutine σ Req Rsp Unit} {s : σ}
    (h : m.Proved O enabled me (fun _ => O.holds me none) s) :
    O.Kept enabled me (m.settle s).2 (m.settle s).1 := by
  induction m generalizing s with
  | ret value => trivial
  | read next ih => exact ih s h
  | write t next ih => exact ih h.2
  | await request next ih => exact h.2

/-- Only one task moves, and it harms nobody. -/
theorem Valid.moved {p p' : Pool σ Req Rsp} (valid : O.Valid S p) {me : ℕ} {m : Coroutine σ Req Rsp Unit}
    (proved : m.Proved O S.enabled me (fun _ => O.holds me none) p.state)
    (state : p'.state = (m.settle p.state).2) (own : p'.tasks[me]? = some (m.settle p.state).1)
    (others : ∀ n, n ≠ me → p'.tasks[n]? = p.tasks[n]?) : O.Valid S p' where
  inv := by
    rw [state]
    exact (proved.settle valid.inv).1.inv
  holds := by
    intro n
    obtain ⟨harmless, mine⟩ := proved.settle valid.inv
    rw [state]
    by_cases same : n = me
    · subst same
      rw [own]
      exact mine
    · rw [others n same]
      exact O.stable n _ _ _ (valid.holds n) (harmless.others n same)
  kept := by
    intro n task found
    by_cases same : n = me
    · subst same
      rw [own] at found
      obtain rfl := Option.some.inj found
      exact ⟨p'.state, O.refl n _, state ▸ settle_kept proved⟩
    · rw [others n same] at found
      obtain ⟨s, since, kept⟩ := valid.kept n task found
      have changed := (proved.settle valid.inv).1.others n same
      exact ⟨s, O.trans n _ _ _ since (state ▸ changed), kept⟩

theorem Valid.stepFrom {starts : κ → σ → Prop} {p p' : Pool σ Req Rsp} {move : Move κ Req Rsp}
    (proves : O.ProvesFrom S number starts) (valid : O.Valid S p) (begins : Begins number starts p move)
    (step : S.Step p move p') : O.Valid S p' := by
  cases step with
  | spawn task =>
    obtain ⟨numbered, begins⟩ := begins
    have before := valid.holds (number task)
    rw [show p.tasks[number task]? = none by rw [numbered]; simp] at before
    refine valid.moved (proves task p.state begins valid.inv before) rfl ?_ ?_
    · simp [System.spawn, numbered]
    · intro n other
      rw [numbered] at other
      rcases Nat.lt_or_gt_of_ne other with before | beyond
      · exact List.getElem?_append_left before
      · have short : (S.spawn p task).tasks.length = p.tasks.length + 1 := by simp [System.spawn]
        rw [List.getElem?_eq_none (by omega), List.getElem?_eq_none (by omega)]
  | @resume index request next reply found allowed =>
    obtain ⟨s, since, kept⟩ := valid.kept index _ found
    refine valid.moved (kept reply p.state valid.inv since allowed) rfl ?_ ?_
    · have inside := (List.getElem?_eq_some_iff.mp found).1
      simp [Pool.resume, inside]
    · intro n other
      exact List.getElem?_set_ne (Ne.symm other)

theorem Valid.step {p p' : Pool σ Req Rsp} {move : Move κ Req Rsp} (proves : O.Proves S number)
    (valid : O.Valid S p) (numbered : Numbered number p move) (step : S.Step p move p') : O.Valid S p' := by
  refine Valid.stepFrom (fun task s (_ : True) => proves task s) valid ?_ step
  cases move with
  | spawn task => exact ⟨numbered, trivial⟩
  | resume index event => trivial

theorem Valid.start {s : σ} (inv : O.inv s) (holds : ∀ n, O.holds n none s) : O.Valid S (.start s) where
  inv := inv
  holds := holds
  kept := by simp [Pool.start]

/-- All assertions hold in every state that the tasks reach. -/
theorem Valid.reachable (proves : O.Proves S number) {s : σ} {p : Pool σ Req Rsp} {moves : List (Move κ Req Rsp)}
    (inv : O.inv s) (holds : ∀ n, O.holds n none s)
    (path : Path (guarded (Numbered number) S.Step) (.start s) moves p) : O.Valid S p :=
  path.invariant (fun _ _ _ step valid => valid.step proves step.1 step.2) (.start inv holds)

/-- Likewise in every run whose steps meet conditions on what is started and on
the replies. -/
theorem Valid.reachable_when {starts : κ → σ → Prop} {admits : σ → Event Req Rsp → Bool}
    {guard : Pool σ Req Rsp → Move κ Req Rsp → Prop} (proves : O.ProvesFrom (S.restrict admits) number starts)
    (begins : ∀ p move, guard p move → Begins number starts p move)
    (admitted : ∀ p index event, guard p (.resume index event) → admits p.state event = true)
    {s : σ} {p : Pool σ Req Rsp} {moves : List (Move κ Req Rsp)} (inv : O.inv s) (holds : ∀ n, O.holds n none s)
    (path : Path (guarded guard S.Step) (.start s) moves p) : O.Valid (S.restrict admits) p := by
  refine path.invariant (fun q move q' step valid => ?_) (.start inv holds)
  obtain ⟨met, step⟩ := step
  exact valid.stepFrom proves (begins q move met) (step.restrict fun index event same => by
    subst same
    exact admitted q index event met)

end Outline

end AlloraSdk.Logic
