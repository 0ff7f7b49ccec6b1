import Mathlib.Algebra.BigOperators.Group.List.Basic
import Mathlib.Algebra.Order.Ring.Int
import AlloraSdk.Logic.Coroutine

/-!
# Topping a level up to a target

A client reads a level now and then, and sends what is missing to its target. A
transfer of which it heard nothing may still land, at any time or never, and the
level also gains from elsewhere. The level then passes the target by no more than
such transfers and gains, and after a transfer that was confirmed no other is
sent.
-/

namespace AlloraSdk.Logic

/-- `floating` are the transfers that may still land. -/
structure Level where
  level : ℤ
  floating : List ℤ
  gained : ℤ

/-- What happens without the client: transfers land, and the level gains. -/
inductive Shifts : Level → Level → Prop
  | refl (w : Level) : Shifts w w
  | land {level amount gained : ℤ} {before after : List ℤ} {w' : Level}
      (rest : Shifts ⟨level + amount, before ++ after, gained⟩ w') :
      Shifts ⟨level, before ++ amount :: after, gained⟩ w'
  | gain {level amount gained : ℤ} {floating : List ℤ} {w' : Level} (positive : 0 ≤ amount)
      (rest : Shifts ⟨level + amount, floating, gained + amount⟩ w') : Shifts ⟨level, floating, gained⟩ w'

/-- What the client reads, and the transfers it sends. -/
inductive Transfer where
  | read (level : ℤ)
  | done (amount : ℤ)
  | refused (amount : ℤ)
  | unknown (amount : ℤ)
  deriving DecidableEq, Repr

def Transfer.isSent : Transfer → Bool
  | .read _ => false
  | .done _ | .refused _ | .unknown _ => true

def Transfer.isDone : Transfer → Bool
  | .done _ => true
  | .read _ | .refused _ | .unknown _ => false

inductive Answers : Level → Transfer → Level → Prop
  | read (w : Level) : Answers w (.read w.level) w
  | done (level amount gained : ℤ) (floating : List ℤ) :
      Answers ⟨level, floating, gained⟩ (.done amount) ⟨level + amount, floating, gained⟩
  | refused (w : Level) (amount : ℤ) : Answers w (.refused amount) w
  | unknown (level amount gained : ℤ) (floating : List ℤ) :
      Answers ⟨level, floating, gained⟩ (.unknown amount) ⟨level, amount :: floating, gained⟩

def LevelStep (w : Level) (t : Transfer) (w' : Level) : Prop :=
  ∃ mid, Shifts w mid ∧ Answers mid t w'

/-- One call: it reads at most once, and sends what is then missing. -/
inductive ToppingUp (target : ℤ) : List Transfer → Prop
  | idle : ToppingUp target []
  | enough {level : ℤ} (reached : target ≤ level) : ToppingUp target [.read level]
  | topped {level : ℤ} {t : Transfer} (missing : level < target)
      (sent : t = .done (target - level) ∨ t = .refused (target - level) ∨ t = .unknown (target - level)) :
      ToppingUp target [.read level, t]

/-- The amounts of which the client heard nothing. -/
def uncertain : List Transfer → ℤ
  | [] => 0
  | .unknown amount :: rest => amount + uncertain rest
  | .read _ :: rest | .done _ :: rest | .refused _ :: rest => uncertain rest

theorem uncertain_append (first rest : List Transfer) :
    uncertain (first ++ rest) = uncertain first + uncertain rest := by
  induction first with
  | nil => simp [uncertain]
  | cons t first ih =>
    cases t with
    | read level => exact ih
    | done amount => exact ih
    | refused amount => exact ih
    | unknown amount =>
      rw [List.cons_append, uncertain, uncertain, ih]
      omega

section Shifts

variable {w w' : Level}

/-- What shifts do to the account. -/
structure Shifted (w w' : Level) : Prop where
  conserved : w'.level + w'.floating.sum + w.gained = w.level + w.floating.sum + w'.gained
  grows : w.level ≤ w'.level
  sinks : w'.floating.sum ≤ w.floating.sum
  gains : w.gained ≤ w'.gained
  positive : ∀ a ∈ w'.floating, 0 ≤ a

theorem Shifts.shifted (shifts : Shifts w w') (positive : ∀ a ∈ w.floating, 0 ≤ a) : Shifted w w' := by
  induction shifts with
  | refl w => exact ⟨by omega, Int.le_refl _, Int.le_refl _, Int.le_refl _, positive⟩
  | @land level amount gained before after w' rest ih =>
    have landed : 0 ≤ amount := positive amount (by simp)
    obtain ⟨conserved, grows, sinks, gains, kept⟩ := ih fun a member => positive a (by
      rcases List.mem_append.mp member with first | later
      · exact List.mem_append_left _ first
      · exact List.mem_append_right _ (.tail _ later))
    dsimp only at conserved grows sinks
    simp only [List.sum_append] at conserved sinks
    constructor
    · simp only [List.sum_append, List.sum_cons]
      omega
    · dsimp only
      omega
    · simp only [List.sum_append, List.sum_cons]
      omega
    · exact gains
    · exact kept
  | gain gained rest ih =>
    obtain ⟨conserved, grows, sinks, gains, kept⟩ := ih positive
    dsimp only at conserved grows sinks gains
    exact ⟨by dsimp only; omega, by dsimp only; omega, sinks, by dsimp only; omega, kept⟩

end Shifts

section Calls

variable {target start past : ℤ} {w w' : Level} {transfers : List Transfer}

/-- `past` is what was uncertain so far. -/
structure ToppedUp (target start past : ℤ) (w : Level) : Prop where
  positive : ∀ a ∈ w.floating, 0 ≤ a
  covered : w.floating.sum ≤ past
  bounded : w.level + w.floating.sum ≤ max start target + past + w.gained
  grown : start ≤ w.level
  gainful : 0 ≤ w.gained

theorem toppedUp_start (target start : ℤ) : ToppedUp target start 0 ⟨start, [], 0⟩ where
  positive := by simp
  covered := Int.le_refl 0
  bounded := by
    rw [List.sum_nil]
    dsimp only
    omega
  grown := Int.le_refl start
  gainful := Int.le_refl 0

theorem Shifted.toppedUp (shifted : Shifted w w') (account : ToppedUp target start past w) :
    ToppedUp target start past w' := by
  obtain ⟨-, covered, bounded, grown, gainful⟩ := account
  obtain ⟨conserved, grows, sinks, gains, positive⟩ := shifted
  exact ⟨positive, by omega, by omega, by omega, by omega⟩

/-- A call sends what it read to be missing, so a transfer that lands between the
two is the only excess. -/
theorem ToppingUp.toppedUp (call : ToppingUp target transfers) (path : Path LevelStep w transfers w')
    (account : ToppedUp target start past w) : ToppedUp target start (past + uncertain transfers) w' := by
  cases call with
  | idle =>
    cases path
    simpa [uncertain] using account
  | enough reached =>
    obtain ⟨_, ⟨mid, shifts, answer⟩, ends⟩ := path_cons.mp path
    cases ends
    cases answer
    simpa [uncertain] using (shifts.shifted account.positive).toppedUp account
  | @topped level t missing sent =>
    obtain ⟨_, ⟨mid, shifts, answer⟩, rest⟩ := path_cons.mp path
    have before := (shifts.shifted account.positive).toppedUp account
    cases answer
    obtain ⟨_, ⟨mid', shifts', answer⟩, ends⟩ := path_cons.mp rest
    cases ends
    have landed := shifts'.shifted before.positive
    have after := landed.toppedUp before
    obtain ⟨conserved, grows, sinks, gains, -⟩ := landed
    obtain ⟨positive, covered, bounded, grown, gainful⟩ := after
    have known := before.covered
    have earned := before.gainful
    rcases sent with rfl | rfl | rfl
    · cases answer
      dsimp only at conserved grows gains positive covered bounded grown gainful
      refine ⟨positive, ?_, ?_, ?_, gainful⟩
      · simpa [uncertain] using covered
      · simp only [uncertain]
        omega
      · dsimp only
        omega
    · cases answer
      simpa [uncertain] using ToppedUp.mk positive covered bounded grown gainful
    · cases answer
      dsimp only at conserved grows gains positive covered bounded grown gainful
      refine ⟨fun a member => ?_, ?_, ?_, grown, gainful⟩
      · rcases List.mem_cons.mp member with rfl | member
        · omega
        · exact positive a member
      · simp only [uncertain, List.sum_cons]
        omega
      · simp only [uncertain, List.sum_cons]
        omega

/-- A confirmed call reaches the target. -/
theorem ToppingUp.reaches (call : ToppingUp target transfers) (path : Path LevelStep w transfers w')
    (positive : ∀ a ∈ w.floating, 0 ≤ a) (done : ∃ t ∈ transfers, t.isDone) : target ≤ w'.level := by
  obtain ⟨found, member, confirmed⟩ := done
  cases call with
  | idle => cases member
  | enough reached =>
    rw [List.mem_singleton] at member
    subst member
    cases confirmed
  | @topped level t missing sent =>
    obtain ⟨_, ⟨mid, shifts, answer⟩, rest⟩ := path_cons.mp path
    have kept := (shifts.shifted positive).positive
    cases answer
    obtain ⟨_, ⟨mid', shifts', answer⟩, ends⟩ := path_cons.mp rest
    cases ends
    have grows := (shifts'.shifted kept).grows
    rcases sent with rfl | rfl | rfl
    · cases answer
      dsimp only at grows ⊢
      omega
    · simp only [List.mem_cons, List.not_mem_nil, or_false] at member
      rcases member with rfl | rfl
      · cases confirmed
      · cases confirmed
    · simp only [List.mem_cons, List.not_mem_nil, or_false] at member
      rcases member with rfl | rfl
      · cases confirmed
      · cases confirmed

/-- At the target or above, a call sends nothing. -/
theorem ToppingUp.settled (call : ToppingUp target transfers) (path : Path LevelStep w transfers w')
    (positive : ∀ a ∈ w.floating, 0 ≤ a) (reached : target ≤ w.level) :
    (∀ t ∈ transfers, t.isSent = false) ∧ target ≤ w'.level := by
  cases call with
  | idle =>
    cases path
    exact ⟨by simp, reached⟩
  | enough _ =>
    obtain ⟨_, ⟨mid, shifts, answer⟩, ends⟩ := path_cons.mp path
    cases ends
    have grows := (shifts.shifted positive).grows
    cases answer
    exact ⟨by simp [Transfer.isSent], by omega⟩
  | topped missing sent =>
    obtain ⟨_, ⟨mid, shifts, answer⟩, rest⟩ := path_cons.mp path
    have grows := (shifts.shifted positive).grows
    cases answer
    omega

variable {calls : List (List Transfer)}

theorem calls_toppedUp (all : ∀ call ∈ calls, ToppingUp target call) (path : Path LevelStep w calls.flatten w')
    (account : ToppedUp target start past w) : ToppedUp target start (past + uncertain calls.flatten) w' := by
  induction calls generalizing w past with
  | nil =>
    cases path
    simpa [uncertain] using account
  | cons call calls ih =>
    rw [List.flatten_cons] at path ⊢
    obtain ⟨mid, first, rest⟩ := path_append.mp path
    have next := (all call (.head _)).toppedUp first account
    have last := ih (fun call member => all call (.tail _ member)) rest next
    rwa [uncertain_append, ← Int.add_assoc]

theorem calls_settled (all : ∀ call ∈ calls, ToppingUp target call) (path : Path LevelStep w calls.flatten w')
    (account : ToppedUp target start past w) (reached : target ≤ w.level) :
    (∀ t ∈ calls.flatten, t.isSent = false) ∧ target ≤ w'.level := by
  induction calls generalizing w past with
  | nil =>
    cases path
    exact ⟨by simp, reached⟩
  | cons call calls ih =>
    rw [List.flatten_cons] at path ⊢
    obtain ⟨mid, first, rest⟩ := path_append.mp path
    have now := all call (.head _)
    obtain ⟨silent, held⟩ := now.settled first account.positive reached
    obtain ⟨quiet, ends⟩ := ih (fun call member => all call (.tail _ member)) rest (now.toppedUp first account) held
    refine ⟨fun t member => ?_, ends⟩
    rcases List.mem_append.mp member with first | later
    · exact silent t first
    · exact quiet t later

/-- After a transfer that was confirmed the target is reached. -/
theorem calls_reach (all : ∀ call ∈ calls, ToppingUp target call) (path : Path LevelStep w calls.flatten w')
    (account : ToppedUp target start past w) (done : ∃ t ∈ calls.flatten, t.isDone) : target ≤ w'.level := by
  induction calls generalizing w past with
  | nil =>
    obtain ⟨t, member, -⟩ := done
    cases member
  | cons call calls ih =>
    rw [List.flatten_cons] at path done
    obtain ⟨mid, first, rest⟩ := path_append.mp path
    have now := all call (.head _)
    have next := now.toppedUp first account
    have later : ∀ call ∈ calls, ToppingUp target call := fun call member => all call (.tail _ member)
    obtain ⟨t, member, confirmed⟩ := done
    rcases List.mem_append.mp member with here | after
    · exact (calls_settled later rest next (now.reaches first account.positive ⟨t, here, confirmed⟩)).2
    · exact ih later rest next ⟨t, after, confirmed⟩

end Calls

end AlloraSdk.Logic
