import Mathlib.Data.List.Forall2
import AlloraSdk.Logic.Coroutine

/-!
# Concurrent tasks

Tasks share a state and are interleaved at their awaits: a step starts a task or
resumes one with a reply, and runs it to its next await. Nothing here names a
program.

A `Protocol` says what one segment of a task may do, by a phase for each await.
A system whose programs follow a protocol is simulated by it
(`Protocol.simulates`), so that an invariant of all interleavings is proved once
per kind of segment, from the phases and the shared state alone.
-/

namespace AlloraSdk.Logic

variable {κ σ Req Ph : Type} {Rsp : Req → Type}

/-- A task between two steps. -/
inductive Paused (σ Req : Type) (Rsp : Req → Type) where
  | done
  | waiting (request : Req) (next : Rsp request → Coroutine σ Req Rsp Unit)

def Paused.request : Paused σ Req Rsp → Option Req
  | .done => none
  | .waiting request _ => some request

/-- Run to the next await. -/
def Coroutine.settle : Coroutine σ Req Rsp Unit → σ → Paused σ Req Rsp × σ
  | .ret _, s => (.done, s)
  | .read next, s => (next s).settle s
  | .write t next, _ => next.settle t
  | .await request next, s => (.waiting request next, s)

/-- The programs that may be started, and the replies that the shared state
allows. -/
structure System (κ σ Req : Type) (Rsp : Req → Type) where
  program : κ → Coroutine σ Req Rsp Unit
  enabled : σ → Event Req Rsp → Bool

/-- `asked` lists every request that was awaited, in order. -/
structure Pool (σ Req : Type) (Rsp : Req → Type) where
  state : σ
  tasks : List (Paused σ Req Rsp)
  asked : List Req

inductive Move (κ Req : Type) (Rsp : Req → Type) where
  | spawn (task : κ)
  | resume (index : ℕ) (event : Event Req Rsp)

/-- What can be seen of a system: the state, what each task awaits, and what was
asked. -/
structure Snapshot (σ Req : Type) where
  state : σ
  waits : List (Option Req)
  asked : List Req

def Pool.snapshot (p : Pool σ Req Rsp) : Snapshot σ Req where
  state := p.state
  waits := p.tasks.map Paused.request
  asked := p.asked

def Pool.start (s : σ) : Pool σ Req Rsp := ⟨s, [], []⟩

/-- Continue the task at `index`. -/
def Pool.resume (p : Pool σ Req Rsp) (index : ℕ) (next : Coroutine σ Req Rsp Unit) : Pool σ Req Rsp :=
  let segment := next.settle p.state
  ⟨segment.2, p.tasks.set index segment.1, p.asked ++ segment.1.request.toList⟩

namespace System

variable (S : System κ σ Req Rsp)

def spawn (p : Pool σ Req Rsp) (task : κ) : Pool σ Req Rsp :=
  let segment := (S.program task).settle p.state
  ⟨segment.2, p.tasks ++ [segment.1], p.asked ++ segment.1.request.toList⟩

def step [DecidableEq Req] (p : Pool σ Req Rsp) : Move κ Req Rsp → Option (Pool σ Req Rsp)
  | .spawn task => some (S.spawn p task)
  | .resume index ⟨asked, reply⟩ =>
    match p.tasks[index]? with
    | some (.waiting request next) =>
      if same : asked = request then
        if S.enabled p.state ⟨asked, reply⟩ then some (p.resume index (next (same ▸ reply))) else none
      else none
    | _ => none

/-- One step of some task. -/
inductive Step (p : Pool σ Req Rsp) : Move κ Req Rsp → Pool σ Req Rsp → Prop
  | spawn (task : κ) : Step p (.spawn task) (S.spawn p task)
  | resume {index : ℕ} {request : Req} {next : Rsp request → Coroutine σ Req Rsp Unit}
      (reply : Rsp request) (found : p.tasks[index]? = some (.waiting request next))
      (allowed : S.enabled p.state ⟨request, reply⟩ = true) :
      Step p (.resume index ⟨request, reply⟩) (p.resume index (next reply))

theorem step_sound [DecidableEq Req] {p p' : Pool σ Req Rsp} {move : Move κ Req Rsp}
    (taken : S.step p move = some p') : S.Step p move p' := by
  cases move with
  | spawn task =>
    obtain rfl := Option.some.inj taken
    exact .spawn task
  | resume index event =>
    obtain ⟨asked, reply⟩ := event
    simp only [step] at taken
    split at taken
    · rename_i request next found
      split at taken
      · rename_i same
        split at taken
        · rename_i allowed
          subst same
          obtain rfl := Option.some.inj taken
          exact .resume reply found allowed
        · cases taken
      · cases taken
    · cases taken

/-- Take the moves one after the other, as long as each passes the check. -/
def run [DecidableEq Req] (check : Snapshot σ Req → Move κ Req Rsp → Bool) :
    Pool σ Req Rsp → List (Move κ Req Rsp) → Option (Pool σ Req Rsp)
  | p, [] => some p
  | p, move :: rest =>
    if check p.snapshot move then (S.step p move).bind fun p₁ => run check p₁ rest else none

theorem run_path [DecidableEq Req] {check : Snapshot σ Req → Move κ Req Rsp → Bool}
    {p p' : Pool σ Req Rsp} {moves : List (Move κ Req Rsp)} (ran : S.run check p moves = some p') :
    Path (guarded (fun p move => check p.snapshot move = true) S.Step) p moves p' := by
  induction moves generalizing p with
  | nil =>
    obtain rfl := Option.some.inj ran
    exact .nil p
  | cons move rest ih =>
    unfold run at ran
    split at ran
    · rename_i passed
      obtain ⟨p₁, taken, ran'⟩ := Option.bind_eq_some_iff.mp ran
      exact .cons ⟨passed, S.step_sound taken⟩ (ih ran')
    · cases ran

/-- A run that ends in a state that passes a test. -/
theorem reaches_of_run [DecidableEq Req] (check : Snapshot σ Req → Move κ Req Rsp → Bool)
    (p : Pool σ Req Rsp) (moves : List (Move κ Req Rsp)) (test : Snapshot σ Req → Bool)
    (ran : (S.run check p moves).any (fun p' => test p'.snapshot) = true) :
    ∃ p', Path (guarded (fun p move => check p.snapshot move = true) S.Step) p moves p' ∧
      test p'.snapshot = true := by
  obtain ⟨p', reached, passed⟩ := (Option.any_eq_true _ _).mp ran
  exact ⟨p', S.run_path reached, passed⟩

end System

/-! ## Protocols -/

/-- How a segment began. -/
inductive Origin (κ Ph σ Req : Type) (Rsp : Req → Type) where
  | spawned (task : κ) (s : σ)
  | resumed (phase : Ph) (event : Event Req Rsp) (s : σ)

/-- What a phase awaits (nothing at the end), and what a segment may do. -/
structure Protocol (κ Ph σ Req : Type) (Rsp : Req → Type) where
  request : Ph → Option Req
  moves : Origin κ Ph σ Req Rsp → σ → Ph → Prop

/-- Every segment of a coroutine that began as `origin` and is now in `s` is a
move; at its end `post` holds. -/
def Coroutine.Follows {α : Type} (P : Protocol κ Ph σ Req Rsp) (enabled : σ → Event Req Rsp → Bool)
    (post : α → Origin κ Ph σ Req Rsp → σ → Prop) :
    Coroutine σ Req Rsp α → Origin κ Ph σ Req Rsp → σ → Prop
  | .ret value, origin, s => post value origin s
  | .read next, origin, s => (next s).Follows P enabled post origin s
  | .write t next, origin, _ => next.Follows P enabled post origin t
  | .await request next, origin, s => ∃ ph, P.moves origin s ph ∧ P.request ph = some request ∧
      ∀ reply s₁, enabled s₁ ⟨request, reply⟩ = true →
        (next reply).Follows P enabled post (.resumed ph ⟨request, reply⟩ s₁) s₁

theorem Coroutine.Follows.mono {α : Type} {P : Protocol κ Ph σ Req Rsp} {enabled : σ → Event Req Rsp → Bool}
    {post post' : α → Origin κ Ph σ Req Rsp → σ → Prop} {m : Coroutine σ Req Rsp α}
    {origin : Origin κ Ph σ Req Rsp} {s : σ} (follows : m.Follows P enabled post origin s)
    (weaker : ∀ a o t, post a o t → post' a o t) : m.Follows P enabled post' origin s := by
  induction m generalizing origin s with
  | ret value => exact weaker _ _ _ follows
  | read next ih => exact ih s follows
  | write t next ih => exact ih follows
  | await request next ih =>
    obtain ⟨ph, moved, awaits, rest⟩ := follows
    exact ⟨ph, moved, awaits, fun reply s₁ allowed => ih reply (rest reply s₁ allowed)⟩

theorem Coroutine.Follows.bind {α β : Type} {P : Protocol κ Ph σ Req Rsp} {enabled : σ → Event Req Rsp → Bool}
    {post : β → Origin κ Ph σ Req Rsp → σ → Prop} {m : Coroutine σ Req Rsp α}
    {f : α → Coroutine σ Req Rsp β} {origin : Origin κ Ph σ Req Rsp} {s : σ}
    (follows : m.Follows P enabled (fun a o t => (f a).Follows P enabled post o t) origin s) :
    (m >>= f).Follows P enabled post origin s := by
  change (m.bind f).Follows P enabled post origin s
  induction m generalizing origin s with
  | ret value => exact follows
  | read next ih => exact ih s follows
  | write t next ih => exact ih follows
  | await request next ih =>
    obtain ⟨ph, moved, awaits, rest⟩ := follows
    exact ⟨ph, moved, awaits, fun reply s₁ allowed => ih reply (rest reply s₁ allowed)⟩

/-! ## Programs inside programs -/

/-- Run a coroutine on a part of a larger state, with its requests handled by
other coroutines. A handler that returns nothing cuts it off at that request;
`onCut` is what its `finally` blocks then do. -/
def Coroutine.interpret {α τ Req' : Type} {Rsp' : Req' → Type} (get : τ → σ) (put : σ → τ → τ)
    (handle : (request : Req) → Coroutine τ Req' Rsp' (Option (Rsp request))) (onCut : Req → σ → σ) :
    Coroutine σ Req Rsp α → Coroutine τ Req' Rsp' (Option α)
  | .ret value => .ret (some value)
  | .read next => .read fun t => (next (get t)).interpret get put handle onCut
  | .write s next => .read fun t => .write (put s t) (next.interpret get put handle onCut)
  | .await request next => (handle request).bind fun
    | some reply => (next reply).interpret get put handle onCut
    | none => .read fun t => .write (put (onCut request (get t)) t) (.ret none)

/-- What holds between the segments of the handlers, whatever is written to the
part, holds between those of the whole. -/
theorem Coroutine.Follows.interpret {α τ Req' : Type} {Rsp' : Req' → Type} {P : Protocol κ Ph τ Req' Rsp'}
    {enabled : τ → Event Req' Rsp' → Bool} {get : τ → σ} {put : σ → τ → τ}
    {handle : (request : Req) → Coroutine τ Req' Rsp' (Option (Rsp request))} {onCut : Req → σ → σ}
    {good : Origin κ Ph τ Req' Rsp' → τ → Prop}
    (handled : ∀ request origin t, good origin t →
      (handle request).Follows P enabled (fun _ => good) origin t)
    (written : ∀ origin t s, good origin t → good origin (put s t)) (m : Coroutine σ Req Rsp α)
    {origin : Origin κ Ph τ Req' Rsp'} {t : τ} (start : good origin t) :
    (m.interpret get put handle onCut).Follows P enabled (fun _ => good) origin t := by
  induction m generalizing origin t with
  | ret value => exact start
  | read next ih => exact ih (get t) start
  | write s next ih => exact ih (written _ _ _ start)
  | await request next ih =>
    rw [Coroutine.interpret]
    refine Coroutine.Follows.bind (f := _) ((handled request origin t start).mono ?_)
    intro reply o t' kept
    cases reply with
    | some reply => exact ih reply kept
    | none => exact written _ _ _ kept

namespace Protocol

variable (P : Protocol κ Ph σ Req Rsp) (S : System κ σ Req Rsp)

/-- The last segment of a task. -/
def Ends (_ : Unit) (origin : Origin κ Ph σ Req Rsp) (s : σ) : Prop :=
  ∃ ph, P.moves origin s ph ∧ P.request ph = none

/-- A paused task in a phase: whatever it is answered, it goes on as the protocol
says. -/
def Conforms (ph : Ph) : Paused σ Req Rsp → Prop
  | .done => P.request ph = none
  | .waiting request next => P.request ph = some request ∧ ∀ reply s, S.enabled s ⟨request, reply⟩ = true →
      (next reply).Follows P S.enabled P.Ends (.resumed ph ⟨request, reply⟩ s) s

/-- Every program follows the protocol. -/
def Governs : Prop :=
  ∀ task s, (S.program task).Follows P S.enabled P.Ends (.spawned task s) s

/-- A system by its phases. -/
structure View (Ph σ Req : Type) where
  state : σ
  phases : List Ph
  asked : List Req

def snapshot (v : View Ph σ Req) : Snapshot σ Req where
  state := v.state
  waits := v.phases.map P.request
  asked := v.asked

/-- One step of some task, as the protocol sees it. -/
inductive Step (v : View Ph σ Req) : Move κ Req Rsp → View Ph σ Req → Prop
  | spawn {task : κ} {s' : σ} {ph : Ph} (moved : P.moves (.spawned task v.state) s' ph) :
      Step v (.spawn task) ⟨s', v.phases ++ [ph], v.asked ++ (P.request ph).toList⟩
  | resume {index : ℕ} {event : Event Req Rsp} {s' : σ} {ph ph' : Ph}
      (found : v.phases[index]? = some ph) (awaits : P.request ph = some event.request)
      (allowed : S.enabled v.state event = true) (moved : P.moves (.resumed ph event v.state) s' ph') :
      Step v (.resume index event) ⟨s', v.phases.set index ph', v.asked ++ (P.request ph').toList⟩

structure Abstracts (p : Pool σ Req Rsp) (v : View Ph σ Req) : Prop where
  state : v.state = p.state
  asked : v.asked = p.asked
  conform : List.Forall₂ (P.Conforms S) v.phases p.tasks

variable {P S}

theorem Conforms.awaits {ph : Ph} {task : Paused σ Req Rsp} (conforms : P.Conforms S ph task) :
    P.request ph = task.request := by
  cases task with
  | done => exact conforms
  | waiting request next => exact conforms.1

theorem Abstracts.snapshot {p : Pool σ Req Rsp} {v : View Ph σ Req} (abstracts : P.Abstracts S p v) :
    P.snapshot v = p.snapshot := by
  have waits : v.phases.map P.request = p.tasks.map Paused.request := by
    refine List.forall₂_eq_eq_eq ▸ List.forall₂_map_left_iff.mpr (List.forall₂_map_right_iff.mpr ?_)
    exact abstracts.conform.imp fun _ _ conforms => conforms.awaits
  simp only [Protocol.snapshot, Pool.snapshot, abstracts.state, abstracts.asked, waits]

/-- A segment that follows the protocol is a move to a phase its pause conforms to. -/
theorem settle_moves {m : Coroutine σ Req Rsp Unit} {origin : Origin κ Ph σ Req Rsp} {s : σ}
    (follows : m.Follows P S.enabled P.Ends origin s) :
    ∃ ph, P.moves origin (m.settle s).2 ph ∧ P.Conforms S ph (m.settle s).1 := by
  induction m generalizing s with
  | ret value => exact follows
  | read next ih => exact ih s follows
  | write t next ih => exact ih follows
  | await request next ih =>
    obtain ⟨ph, moved, awaits, rest⟩ := follows
    exact ⟨ph, moved, awaits, rest⟩

theorem forall₂_set {α β : Type} {R : α → β → Prop} {xs : List α} {ys : List β} {x : α} {y : β}
    (related : List.Forall₂ R xs ys) (index : ℕ) (new : R x y) :
    List.Forall₂ R (xs.set index x) (ys.set index y) := by
  induction related generalizing index with
  | nil => exact .nil
  | cons head tail ih =>
    cases index with
    | zero => exact .cons new tail
    | succ index => exact .cons head (ih index)

theorem forall₂_getElem? {α β : Type} {R : α → β → Prop} {xs : List α} {ys : List β} {index : ℕ} {y : β}
    (related : List.Forall₂ R xs ys) (found : ys[index]? = some y) : ∃ x, xs[index]? = some x ∧ R x y := by
  induction related generalizing index with
  | nil => cases found
  | @cons a b xs ys head tail ih =>
    cases index with
    | zero =>
      obtain rfl : b = y := by simpa using found
      exact ⟨a, rfl, head⟩
    | succ index => exact ih found

/-- A step of the pool is a step of the protocol. -/
theorem step_simulated (governs : P.Governs S) {p p' : Pool σ Req Rsp} {v : View Ph σ Req}
    {move : Move κ Req Rsp} (step : S.Step p move p') (abstracts : P.Abstracts S p v) :
    ∃ v', P.Step S v move v' ∧ P.Abstracts S p' v' := by
  obtain ⟨state, phases, asked⟩ := v
  obtain ⟨rfl, rfl, conform⟩ : state = p.state ∧ asked = p.asked ∧ List.Forall₂ (P.Conforms S) phases p.tasks :=
    ⟨abstracts.state, abstracts.asked, abstracts.conform⟩
  cases step with
  | spawn task =>
    obtain ⟨ph, moved, conforms⟩ := settle_moves (governs task p.state)
    refine ⟨_, .spawn moved, rfl, ?_, ?_⟩
    · simp only [System.spawn, conforms.awaits]
    · exact List.rel_append conform (.cons conforms .nil)
  | @resume index request next reply found allowed =>
    obtain ⟨ph, at_index, awaits, rest⟩ := forall₂_getElem? conform found
    obtain ⟨ph', moved, conforms⟩ := settle_moves (rest reply p.state allowed)
    refine ⟨_, .resume at_index awaits allowed moved, rfl, ?_, ?_⟩
    · simp only [Pool.resume, conforms.awaits]
    · exact forall₂_set conform index conforms

theorem start_abstracts (s : σ) : P.Abstracts S (.start s) ⟨s, [], []⟩ := ⟨rfl, rfl, .nil⟩

/-- The protocol simulates every system that it governs, step for step and under
the same guard. -/
theorem simulates (governs : P.Governs S) {guard : Snapshot σ Req → Move κ Req Rsp → Prop}
    {p p' : Pool σ Req Rsp} {v : View Ph σ Req} {moves : List (Move κ Req Rsp)}
    (path : Path (guarded (fun p move => guard p.snapshot move) S.Step) p moves p')
    (abstracts : P.Abstracts S p v) :
    ∃ v', Path (guarded (fun v move => guard (P.snapshot v) move) (P.Step S)) v moves v' ∧
      P.Abstracts S p' v' := by
  induction path generalizing v with
  | nil p => exact ⟨v, .nil v, abstracts⟩
  | cons head tail ih =>
    obtain ⟨met, step⟩ := head
    obtain ⟨v₁, step₁, abstracts₁⟩ := step_simulated governs step abstracts
    obtain ⟨v', path', abstracts'⟩ := ih abstracts₁
    have met' : guard (P.snapshot v) _ := abstracts.snapshot.symm ▸ met
    exact ⟨v', .cons ⟨met', step₁⟩ path', abstracts'⟩

/-- An invariant of the guarded steps of the protocol holds in every state that
the system reaches. -/
theorem reachable_invariant (governs : P.Governs S) (guard : Snapshot σ Req → Move κ Req Rsp → Prop)
    (inv : View Ph σ Req → Prop) {s : σ} {p : Pool σ Req Rsp} {moves : List (Move κ Req Rsp)}
    (initial : inv ⟨s, [], []⟩)
    (preserved : ∀ v move v', guard (P.snapshot v) move → P.Step S v move v' → inv v → inv v')
    (path : Path (guarded (fun p move => guard p.snapshot move) S.Step) (.start s) moves p) :
    ∃ v, inv v ∧ P.snapshot v = p.snapshot := by
  obtain ⟨v, path', abstracts⟩ := simulates governs path (start_abstracts s)
  exact ⟨v, path'.invariant (fun w e w' step => preserved w e w' step.1 step.2) initial, abstracts.snapshot⟩

end Protocol

/-! ## Counting phases -/

section Count

variable {ι : Type} {p : ι → Bool} {xs : List ι} {x y : ι} {index : ℕ}

theorem countP_snoc : (xs ++ [x]).countP p = xs.countP p + (p x).toNat := by
  rw [List.countP_append, List.countP_singleton]
  cases p x <;> rfl

/-- Replacing one element changes a count by what the two count for. -/
theorem countP_replace (found : xs[index]? = some x) :
    (xs.set index y).countP p + (p x).toNat = xs.countP p + (p y).toNat := by
  induction xs generalizing index with
  | nil => cases found
  | cons head tail ih =>
    cases index with
    | zero =>
      obtain rfl : head = x := by simpa using found
      rw [List.set_cons_zero, List.countP_cons, List.countP_cons]
      cases p head <;> cases p y <;> simp
    | succ index =>
      have rest := ih found
      rw [List.set_cons_succ, List.countP_cons, List.countP_cons]
      omega

end Count

end AlloraSdk.Logic
