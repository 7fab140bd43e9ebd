import LoopScript.Grammar.Cursor
import LoopScript.Proofs.Grammar.Answer

/-! What a run of the goal stack does, kind by kind. A run takes some kinds, and then one lookahead
ends it. So a run is known once the kinds up to and including that lookahead are. -/
namespace LoopScript

namespace Goal

/-- Taking `kinds` one after another leaves these goals at this depth. -/
inductive Takes (limit : Option Nat) : List Kind → List Goal → Nat → List Goal → Nat → Prop
  | nil {goals depth} : Takes limit [] goals depth goals depth
  | cons {kind kinds goals depth goals₁ depth₁ goals₂ depth₂} :
      settle limit (some kind) goals depth = .took goals₁ depth₁ →
      Takes limit kinds goals₁ depth₁ goals₂ depth₂ →
      Takes limit (kind :: kinds) goals depth goals₂ depth₂

theorem Takes.preserves {limit : Option Nat} {P : List Goal → Nat → Prop}
    (hstep : ∀ {kind goals depth goals' depth'}, P goals depth →
      settle limit (some kind) goals depth = .took goals' depth' → P goals' depth')
    {kinds : List Kind} {goals goals' : List Goal} {depth depth' : Nat}
    (ht : Takes limit kinds goals depth goals' depth') (hp : P goals depth) : P goals' depth' := by
  induction ht with
  | nil => exact hp
  | cons hs _ ih => exact ih (hstep hp hs)

end Goal

namespace Cursor

open Goal

theorem follow_append {limit : Option Nat} {taken : List Kind} {goals goals' : List Goal}
    {depth depth' : Nat} (ht : Takes limit taken goals depth goals' depth') (rest : List Kind)
    (position : Nat) :
    follow limit (taken ++ rest) goals position depth =
      follow limit rest goals' (position + taken.length) depth' := by
  induction ht generalizing position with
  | nil => rfl
  | cons hs _ ih =>
    simp only [List.cons_append, follow, hs, ih, List.length_cons]
    congr 1
    omega

theorem follow_of_done {limit : Option Nat} (rest : List Kind) {goals : List Goal}
    {depth depth' : Nat} (hs : settle limit rest.head? goals depth = .done depth')
    (position : Nat) :
    follow limit rest goals position depth = (.ok (), ⟨rest, position, depth'⟩) := by
  cases rest with
  | nil => simp only [follow, show settle limit none goals depth = .done depth' from hs]
  | cons kind rest =>
    simp only [follow, show settle limit (some kind) goals depth = .done depth' from hs]

/-- A refusal that comes after the kind was taken leaves the cursor behind that kind. -/
theorem follow_of_refused {limit : Option Nat} {rest : List Kind} {goals : List Goal}
    {depth depth' : Nat} {error : GrammarError} {taken : Bool}
    (hs : settle limit rest.head? goals depth = .refused error taken depth')
    (hrest : taken = true → rest ≠ []) (position : Nat) :
    follow limit rest goals position depth =
      (.error error, ⟨rest.drop taken.toNat, position + taken.toNat, depth'⟩) := by
  cases rest with
  | nil =>
    have hnot : taken = false := by simpa using hrest
    subst hnot
    simp only [follow, show settle limit none goals depth = .refused error false depth' from hs]
    rfl
  | cons kind rest =>
    cases taken <;>
      simp only [follow, show settle limit (some kind) goals depth = .refused error _ depth' from hs]
        <;> rfl

end Cursor

namespace Goal

theorem describes_of_settle {limit : Option Nat} {next : Option Kind} {goals : List Goal}
    {depth depth' : Nat} {error : GrammarError} {taken : Bool}
    (hs : settle limit next goals depth = .refused error taken depth') :
    error.Describes next taken ∨ taken = false := by
  induction goals generalizing depth with
  | nil => cases hs
  | cons goal goals ih =>
    unfold settle at hs
    split at hs
    · cases hs
    · exact ih hs
    · next error' taken' depth₁ hr =>
      cases hs
      by_cases hgoal : ∃ rule, goal = enter rule
      · obtain ⟨rule, rfl⟩ := hgoal
        simp only [respond] at hr
        split at hr
        · cases hr
        · cases hr
          exact .inr rfl
      · have hd := describes_respond limit next depth (not_exists.mp hgoal)
        rw [hr] at hd
        exact .inl hd

theorem ne_nil_of_settle {limit : Option Nat} {rest : List Kind} {goals : List Goal}
    {depth depth' : Nat} {error : GrammarError} {taken : Bool}
    (hs : settle limit rest.head? goals depth = .refused error taken depth')
    (ht : taken = true) : rest ≠ [] := by
  intro hrest
  subst hrest ht
  rcases describes_of_settle hs with hd | hd
  · cases error with
    | unexpected found rule => cases hd
    | unfinished rule => cases hd.2
    | tooDeep rule => exact hd
  · cases hd

end Goal

namespace Cursor

open Goal

/-- Where a run stops: some kinds were taken, and the goals left after them are settled by the
lookahead without taking it, except by a refusal. -/
theorem exists_takes (limit : Option Nat) (kinds : List Kind) (goals : List Goal) (depth : Nat) :
    ∃ taken rest goals' depth', kinds = taken ++ rest ∧ Takes limit taken goals depth goals' depth' ∧
      ∀ goals'' depth'', settle limit rest.head? goals' depth' ≠ .took goals'' depth'' := by
  induction kinds generalizing goals depth with
  | nil => exact ⟨[], [], goals, depth, rfl, .nil, settle_none_ne_took limit goals depth⟩
  | cons kind kinds ih =>
    cases hs : settle limit (some kind) goals depth with
    | took goals₁ depth₁ =>
      obtain ⟨taken, rest, goals', depth', rfl, ht, hstop⟩ := ih goals₁ depth₁
      exact ⟨kind :: taken, rest, goals', depth', rfl, .cons hs ht, hstop⟩
    | done depth₁ => exact ⟨[], kind :: kinds, goals, depth, rfl, .nil, by simp [hs]⟩
    | refused error taken depth₁ =>
      exact ⟨[], kind :: kinds, goals, depth, rfl, .nil, by simp [hs]⟩

theorem exists_of_follow_ok {limit : Option Nat} {kinds : List Kind} {goals : List Goal}
    {position depth : Nat} {c : Cursor}
    (h : follow limit kinds goals position depth = (.ok (), c)) :
    ∃ taken goals' depth', kinds = taken ++ c.rest ∧ c.position = position + taken.length ∧
      Takes limit taken goals depth goals' depth' ∧
      settle limit c.rest.head? goals' depth' = .done c.depth := by
  obtain ⟨taken, rest, goals', depth', rfl, ht, hstop⟩ := exists_takes limit kinds goals depth
  rw [follow_append ht] at h
  cases hs : settle limit rest.head? goals' depth' with
  | took goals'' depth'' => exact absurd hs (hstop _ _)
  | refused error taken' depth'' =>
    rw [follow_of_refused hs (ne_nil_of_settle hs)] at h
    cases h
  | done depth'' =>
    rw [follow_of_done rest hs] at h
    cases h
    exact ⟨taken, goals', depth', rfl, rfl, ht, hs⟩

theorem exists_of_follow_error {limit : Option Nat} {kinds : List Kind} {goals : List Goal}
    {position depth : Nat} {error : GrammarError} {c : Cursor}
    (h : follow limit kinds goals position depth = (.error error, c)) :
    ∃ taken rest goals' depth' refused, kinds = taken ++ rest ∧
      c.position = position + taken.length + refused.toNat ∧
      Takes limit taken goals depth goals' depth' ∧
      settle limit rest.head? goals' depth' = .refused error refused c.depth := by
  obtain ⟨taken, rest, goals', depth', rfl, ht, hstop⟩ := exists_takes limit kinds goals depth
  rw [follow_append ht] at h
  cases hs : settle limit rest.head? goals' depth' with
  | took goals'' depth'' => exact absurd hs (hstop _ _)
  | done depth'' =>
    rw [follow_of_done rest hs] at h
    cases h
  | refused error' refused depth'' =>
    rw [follow_of_refused hs (ne_nil_of_settle hs)] at h
    cases h
    exact ⟨taken, rest, goals', depth', refused, rfl, rfl, ht, hs⟩

end Cursor

end LoopScript
