import Mathlib.Data.List.TakeWhile
import LoopScript.Proofs.Grammar.Lookahead
import LoopScript.Proofs.Grammar.Order

/-! The checker accepts the grammar. A run that ends well has met what its goals demand, and goals
that are in order are met by a run whenever some way of reading the kinds meets them. -/
namespace LoopScript

namespace Goal

variable {limit : Nat}

/-! ### From runs to the grammar -/

theorem accepts_of_settle_took {kind : Kind} {behind : List Kind} {goals goals' : List Goal}
    {depth depth' : Nat} (hs : settle (some limit) (some kind) goals depth = .took goals' depth')
    (ha : Accepts limit goals' depth' behind) : Accepts limit goals depth (kind :: behind) := by
  induction goals generalizing depth with
  | nil => cases hs
  | cons goal goals ih =>
    unfold settle at hs
    split at hs
    · next more depth₁ hr =>
      cases hs
      rw [accepts_append] at ha
      exact then_of_take hr ha
    · next depth₁ hr =>
      have hgoals : Accepts limit goals depth₁ (kind :: behind) := ih hs
      exact then_of_pass (kind :: behind) hr hgoals
    · cases hs

theorem accepts_of_settle_done {goals : List Goal} {depth depth' : Nat}
    (hs : settle (some limit) none goals depth = .done depth') : Accepts limit goals depth [] := by
  induction goals generalizing depth with
  | nil => rfl
  | cons goal goals ih =>
    unfold settle at hs
    split at hs
    · cases hs
    · next depth₁ hr =>
      have hgoals : Accepts limit goals depth₁ [] := ih hs
      exact then_of_pass [] hr hgoals
    · cases hs

theorem accepts_of_takes {taken behind : List Kind} {goals goals' : List Goal}
    {depth depth' : Nat} (ht : Takes (some limit) taken goals depth goals' depth')
    (ha : Accepts limit goals' depth' behind) : Accepts limit goals depth (taken ++ behind) := by
  induction ht with
  | nil => exact ha
  | cons hs _ ih => exact accepts_of_settle_took hs (ih ha)

/-! ### From the grammar to runs -/

/-- An answer, and the depth after it, with which the goals are still accepted: by `behind` where
the kind was taken, and by `kinds` where it was not. -/
def Continues (limit : Nat) (goals : List Goal) (kinds behind : List Kind) :
    Answer × Nat → Prop
  | (.take more, depth) => Accepts limit (more ++ goals) depth behind
  | (.pass, depth) => Accepts limit goals depth kinds
  | (.refuse _ _, _) => False

variable {goal : Goal} {goals : List Goal} {depth : Nat}

private theorem continues_of_decides {kind : Kind} {word : List Kind} {answer : Answer}
    {first : Demand → Demand} (hd : answer.Decides limit first (kind :: word))
    (h : first (Accepts limit goals) depth (kind :: word)) :
    Continues limit goals (kind :: word) word (answer, depth) := by
  cases answer with
  | take more =>
    change Accepts limit (more ++ goals) depth word
    rw [accepts_append]
    exact (hd.take_iff rfl _ _).mpr h
  | pass => exact (hd.pass_iff rfl _ _).mp h
  | refuse error taken => exact hd.not_refuse rfl _ _ h

theorem continues_of_accepts_cons {kind : Kind} {word : List Kind}
    (horder : goal.Precedes (Accepts limit goals))
    (h : Accepts limit (goal :: goals) depth (kind :: word)) :
    Continues limit goals (kind :: word) word (goal.respond (some limit) (some kind) depth) := by
  cases goal with
  | oneOf options rule => exact continues_of_decides (decides_onOneOf options rule _) h
  | production rule => exact continues_of_decides (decides_onRule rule _) h
  | optional kind' =>
    obtain ⟨rest, hkinds, ha⟩ := h
    simp only [respond, onOptional]
    split
    · next hk =>
      obtain rfl : kind = kind' := Option.some.inj hk
      rcases hkinds with rfl | hkinds
      · exact horder depth word ha
      · cases hkinds
        exact ha
    · next hk =>
      rcases hkinds with rfl | hkinds
      · exact ha
      · cases hkinds
        exact absurd rfl hk
  | comparisons =>
    simp only [respond, onComparisons]
    rcases Part.then_comparisons.mp h with ha | ⟨behind, hk, ha⟩
    · have hk : some kind ≠ some .relOp := by
        intro h
        cases h
        exact horder depth .relOp (List.mem_cons_self ..) word ha
      rw [if_neg hk]
      exact ha
    · cases hk
      exact ha
  | operations =>
    simp only [respond, onOperations_some]
    rcases Part.then_operations.mp h with ha | ⟨sign, hsign, behind, hk, ha⟩
    · have hk : kind ∉ arithmeticKinds := fun hk => horder depth kind hk word ha
      rw [if_neg hk]
      exact ha
    · cases hk
      rw [if_pos hsign]
      exact ha
  | statements =>
    simp only [respond, onStatements_some]
    rcases Part.then_statements.mp h with ha | ha
    · have hk : kind = .rightBrace := Option.some.inj (horder depth (kind :: word) ha)
      rw [if_pos hk]
      exact ha
    · have hk : kind ≠ .rightBrace := by
        intro heq
        subst heq
        exact excludes_statement (by simp) depth .rightBrace (List.mem_singleton_self _) word ha
      rw [if_neg hk]
      exact continues_of_decides (decides_andThen (decides_onStatement _)
        (onRule_ne_pass .statement (by decide) _) [statements]) ha
  | enter rule =>
    obtain ⟨hlimit, ha⟩ := h
    simp only [respond, Option.all_some, hlimit, decide_true, if_true]
    exact ha
  | leave => exact h

theorem continues_of_accepts_nil {n : Nat} (horder : goal.Precedes (Accepts limit goals))
    (h : Accepts limit (goal :: goals) depth []) :
    Continues limit goals [] []
      (goal.respond (some limit) (List.replicate n Kind.newline).head? depth) := by
  have hnext : (List.replicate n Kind.newline).head? = none ∨
      (List.replicate n Kind.newline).head? = some .newline := by
    cases n <;> simp [List.replicate_succ]
  cases goal with
  | oneOf options rule =>
    obtain ⟨_, _, _, hk, -⟩ := h
    cases hk
  | production rule =>
    by_cases hrule : rule = .endOfStatement
    · subst hrule
      have ha : Accepts limit goals depth [] := by
        simpa [Part.then_endOfStatement, Accepts, demand, Then] using h
      rcases hnext with hnext | hnext <;> rw [hnext] <;> exact ha
    · exact absurd h (Part.not_then_nil hrule)
  | optional kind =>
    have ha : Accepts limit goals depth [] := by
      simpa [Optionally, Accepts, demand, Then] using h
    simp only [respond, onOptional]
    split <;> exact ha
  | comparisons =>
    have ha : Accepts limit goals depth [] := by
      simpa [Part.then_comparisons, Accepts, demand, Then] using h
    rcases hnext with hnext | hnext <;> rw [hnext] <;> exact ha
  | operations =>
    have ha : Accepts limit goals depth [] := by
      simpa [Part.then_operations, Accepts, demand, Then] using h
    rcases hnext with hnext | hnext <;> rw [hnext] <;> exact ha
  | statements =>
    rcases Part.then_statements.mp h with ha | ha
    · have hbrace : [].head? = some Kind.rightBrace := horder depth [] ha
      cases hbrace
    · exact absurd ha (Part.not_then_nil (by decide))
  | enter rule =>
    obtain ⟨hlimit, ha⟩ := h
    simp only [respond, Option.all_some, hlimit, decide_true, if_true]
    exact ha
  | leave => exact h

/-- A word that is accepted, with line breaks behind it. -/
def AcceptsPadded (limit : Nat) (goals : List Goal) : Demand := fun depth kinds =>
  ∃ word n, kinds = word ++ List.replicate n .newline ∧ Accepts limit goals depth word

theorem Accepts.padded {goals : List Goal} {depth : Nat} {word : List Kind}
    (h : Accepts limit goals depth word) : AcceptsPadded limit goals depth word :=
  ⟨word, 0, (List.append_nil word).symm, h⟩

/-- What an accepted word with line breaks behind it comes to at its first kind. -/
def EndsPadded (limit : Nat) (kinds : List Kind) : Settled → Prop
  | .done _ => ∃ n, kinds = List.replicate n .newline
  | .took goals depth => AcceptsPadded limit goals depth kinds.tail
  | .refused _ _ _ => False

theorem endsPadded_settle {kinds : List Kind} (horder : Orderly limit goals)
    (h : AcceptsPadded limit goals depth kinds) :
    EndsPadded limit kinds (settle (some limit) kinds.head? goals depth) := by
  induction goals generalizing depth with
  | nil =>
    obtain ⟨word, n, rfl, ha⟩ := h
    obtain rfl : word = [] := ha
    exact ⟨n, rfl⟩
  | cons goal goals ih =>
    obtain ⟨word, n, rfl, ha⟩ := h
    unfold settle
    cases word with
    | nil =>
      have hc := continues_of_accepts_nil (n := n) horder.1 ha
      rw [List.nil_append]
      split
      · next more depth' hr =>
        rw [hr] at hc
        exact ⟨[], n - 1, by simp, hc⟩
      · next depth' hr =>
        rw [hr] at hc
        exact ih horder.2 ⟨[], n, rfl, hc⟩
      · next hr =>
        rw [hr] at hc
        exact hc
    | cons kind word =>
      have hc := continues_of_accepts_cons horder.1 ha
      rw [List.cons_append, List.head?_cons]
      split
      · next more depth' hr =>
        rw [hr] at hc
        exact ⟨word, n, rfl, hc⟩
      · next depth' hr =>
        rw [hr] at hc
        exact ih horder.2 ⟨kind :: word, n, rfl, hc⟩
      · next hr =>
        rw [hr] at hc
        exact hc

/-- A run accepts whatever its goals do, and leaves nothing but line breaks. -/
theorem exists_follow_of_accepts {kinds : List Kind} (horder : Orderly limit goals)
    (h : AcceptsPadded limit goals depth kinds) (position : Nat) :
    ∃ c n, Cursor.follow (some limit) kinds goals position depth = (.ok (), c) ∧
      c.rest = List.replicate n .newline := by
  induction kinds generalizing goals depth position with
  | nil =>
    have hend := endsPadded_settle horder h
    cases hs : settle (some limit) none goals depth with
    | took goals' depth' => exact absurd hs (settle_none_ne_took _ _ _ _ _)
    | done depth' => exact ⟨_, 0, Cursor.follow_of_done [] hs position, rfl⟩
    | refused error taken depth' =>
      rw [List.head?_nil, hs] at hend
      exact hend.elim
  | cons kind kinds ih =>
    have hend := endsPadded_settle horder h
    rw [List.head?_cons] at hend
    cases hs : settle (some limit) (some kind) goals depth with
    | took goals' depth' =>
      rw [hs] at hend
      simp only [Cursor.follow, hs]
      exact ih (orderly_of_settle horder hs) hend (position + 1)
    | done depth' =>
      rw [hs] at hend
      obtain ⟨n, hn⟩ := hend
      exact ⟨_, n, Cursor.follow_of_done (kind :: kinds) hs position, hn⟩
    | refused error taken depth' =>
      rw [hs] at hend
      exact hend.elim

end Goal

namespace Rule

open Cursor Goal

/-- A match of the whole sequence leaves nothing but line breaks. -/
theorem checkWhole_eq_ok_iff_follow (rule : Rule) (kinds : List Kind) :
    rule.checkWhole kinds = .ok () ↔
      ∃ c n, follow (some maxNesting) kinds [.production rule] 0 0 = (.ok (), c) ∧
        c.rest = List.replicate n .newline := by
  simp only [checkWhole, matchWhole, matchRule, matchWithin, ofKinds]
  cases hf : follow (some maxNesting) kinds [.production rule] 0 0 with
  | mk result c =>
    cases result with
    | error error => simp
    | ok =>
      have hrest : c.rest.dropWhile (· = .newline) = [] ↔
          ∃ n, c.rest = List.replicate n .newline := by
        rw [List.dropWhile_eq_nil_iff]
        constructor
        · intro h
          exact ⟨c.rest.length, List.eq_replicate_of_mem fun kind hk => by simpa using h kind hk⟩
        · intro h kind hk
          obtain ⟨n, hn⟩ := h
          rw [hn] at hk
          simpa using List.eq_of_mem_replicate hk
      have hend : (∃ c' n, ((.ok (), c) : Except GrammarError Unit × Cursor) = (.ok (), c') ∧
          c'.rest = List.replicate n .newline) ↔ ∃ n, c.rest = List.replicate n .newline := by
        simp
      rw [hend, ← hrest]
      simp only [takeAll, next?]
      cases c.rest.dropWhile (· = .newline) <;> simp

/-- What is accepted is a word of the production, nested no deeper than it may be, with any number of
line breaks behind it. -/
theorem checkWhole_iff_derives (rule : Rule) (kinds : List Kind) :
    rule.checkWhole kinds = .ok () ↔
      ∃ word n, kinds = word ++ List.replicate n .newline ∧
        ∃ nesting ≤ maxNesting, rule.Derives nesting word := by
  rw [checkWhole_eq_ok_iff_follow]
  constructor
  · intro h
    obtain ⟨c, n, hf, hrest⟩ := h
    obtain ⟨taken, goals, depth, hkinds, -, ht, hs⟩ := exists_of_follow_ok hf
    have hend : Accepts maxNesting goals depth [] :=
      accepts_of_settle_done (settle_none_of_done hs)
    have hword : Accepts maxNesting [.production rule] 0 (taken ++ []) :=
      accepts_of_takes ht hend
    rw [List.append_nil] at hword
    obtain ⟨rest, ⟨nesting, hnesting, hd⟩, rfl⟩ := hword
    exact ⟨taken, n, hrest ▸ hkinds, nesting, by omega, hd⟩
  · intro h
    obtain ⟨word, n, rfl, nesting, hnesting, hd⟩ := h
    have hword : Accepts maxNesting [.production rule] 0 word :=
      ⟨[], ⟨nesting, by omega, hd⟩, rfl⟩
    exact exists_follow_of_accepts (orderly_production maxNesting rule) ⟨word, n, rfl, hword⟩ 0

end Rule

end LoopScript
