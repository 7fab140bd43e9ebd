import Mathlib.Data.List.Basic
import LoopScript.Proofs.Grammar.Run

/-! One kind of lookahead is all that a run looks at, and the end of the sequence stops a match
wherever another kind would. So a match is the longest one, and does not hang on what follows. -/
namespace LoopScript

namespace Goal

theorem settle_none_of_done {limit : Option Nat} {next : Option Kind} {goals : List Goal}
    {depth depth' : Nat} (hs : settle limit next goals depth = .done depth') :
    settle limit none goals depth = .done depth' := by
  induction goals generalizing depth with
  | nil => exact hs
  | cons goal goals ih =>
    unfold settle at hs
    split at hs
    · cases hs
    · next depth₁ h =>
      unfold settle
      rw [respond_none_of_pass h]
      exact ih hs
    · cases hs

end Goal

namespace Rule

open Cursor Goal

/-- What a run from the first kind comes to, and how many kinds it takes. -/
def run (rule : Rule) (kinds : List Kind) : Except GrammarError Unit × Nat :=
  let (result, c) := (Cursor.ofKinds kinds).matchRule rule
  (result, c.position)

theorem run_eq {rule : Rule} {kinds : List Kind} {result : Except GrammarError Unit} {c : Cursor}
    (h : follow (some maxNesting) kinds [.production rule] 0 0 = (result, c)) :
    rule.run kinds = (result, c.position) := by
  simp only [run, matchRule, matchWithin, ofKinds, h]

theorem exists_follow_of_run {rule : Rule} {kinds : List Kind}
    {result : Except GrammarError Unit} {position : Nat} (h : rule.run kinds = (result, position)) :
    ∃ c : Cursor, c.position = position ∧
      follow (some maxNesting) kinds [.production rule] 0 0 = (result, c) := by
  cases hf : follow (some maxNesting) kinds [.production rule] 0 0 with
  | mk result' c =>
    rw [run_eq hf] at h
    cases h
    exact ⟨c, rfl, rfl⟩

private theorem exists_of_agree {taken rest others : List Kind}
    (h : ∀ i ≤ taken.length, others[i]? = (taken ++ rest)[i]?) :
    ∃ rest', others = taken ++ rest' ∧ rest'.head? = rest.head? := by
  have htake : others.take taken.length = taken := by
    apply List.ext_getElem?
    intro i
    rcases Nat.lt_or_ge i taken.length with hi | hi
    · rw [List.getElem?_take_of_lt hi, h i (by omega), List.getElem?_append_left hi]
    · rw [List.getElem?_eq_none hi, List.getElem?_eq_none (by simp; omega)]
  refine ⟨others.drop taken.length, ?_, ?_⟩
  · conv_lhs => rw [← List.take_append_drop taken.length others, htake]
  · rw [List.head?_drop, h _ (Nat.le_refl _), List.getElem?_append_right (Nat.le_refl _), Nat.sub_self,
      List.head?_eq_getElem?]

/-- A run looks at the kind behind the last one it takes, and at nothing further on. -/
theorem run_of_agree {rule : Rule} {kinds others : List Kind}
    {result : Except GrammarError Unit} {position : Nat} (h : rule.run kinds = (result, position))
    (hagree : ∀ i ≤ position, others[i]? = kinds[i]?) : rule.run others = (result, position) := by
  obtain ⟨c, rfl, hf⟩ := exists_follow_of_run h
  cases result with
  | ok =>
    obtain ⟨taken, goals, depth, hkinds, hp, ht, hs⟩ := exists_of_follow_ok hf
    rw [hp, Nat.zero_add, hkinds] at hagree
    obtain ⟨rest, rfl, hhead⟩ := exists_of_agree hagree
    rw [← hhead] at hs
    rw [hp]
    exact run_eq ((follow_append ht rest 0).trans (follow_of_done rest hs _))
  | error error =>
    obtain ⟨taken, rest, goals, depth, refused, hkinds, hp, ht, hs⟩ := exists_of_follow_error hf
    rw [hp, Nat.zero_add, hkinds] at hagree
    obtain ⟨rest', rfl, hhead⟩ := exists_of_agree fun i hi => hagree i (by omega)
    rw [← hhead] at hs
    rw [hp]
    exact run_eq ((follow_append ht rest' 0).trans (follow_of_refused hs (ne_nil_of_settle hs) _))

theorem run_take_of_ok {rule : Rule} {kinds : List Kind} {position : Nat}
    (h : rule.run kinds = (.ok (), position)) :
    rule.run (kinds.take position) = (.ok (), position) := by
  obtain ⟨c, rfl, hf⟩ := exists_follow_of_run h
  obtain ⟨taken, goals, depth, hkinds, hp, ht, hs⟩ := exists_of_follow_ok hf
  have htake : kinds.take c.position = taken ++ [] := by
    rw [hkinds, hp, Nat.zero_add, List.take_left, List.append_nil]
  rw [htake, hp]
  exact run_eq ((follow_append ht [] 0).trans (follow_of_done [] (settle_none_of_done hs) _))

/-- No longer prefix of the same kinds is matched as a whole. -/
theorem run_take_ne_of_lt {rule : Rule} {kinds : List Kind}
    {result : Except GrammarError Unit} {position : Nat} (h : rule.run kinds = (result, position))
    {q : Nat} (hq : position < q) : rule.run (kinds.take q) ≠ (.ok (), q) := by
  intro hlong
  have hsame : rule.run (kinds.take q) = (result, position) :=
    run_of_agree h fun i hi => List.getElem?_take_of_lt (by omega)
  rw [hlong] at hsame
  exact absurd (congrArg Prod.snd hsame) (by simp; omega)

/-- The outcome of a run and where it ends hang on the kinds up to one lookahead. A match ends at
the longest prefix that the production matches as a whole. -/
theorem run_lookahead {rule : Rule} {kinds : List Kind}
    {result : Except GrammarError Unit} {position : Nat} (h : rule.run kinds = (result, position)) :
    (∀ others : List Kind, (∀ i ≤ position, others[i]? = kinds[i]?) →
      rule.run others = (result, position)) ∧
    (result = .ok () → rule.run (kinds.take position) = (.ok (), position) ∧
      ∀ q, position < q → q ≤ kinds.length → rule.run (kinds.take q) ≠ (.ok (), q)) := by
  refine ⟨fun others => run_of_agree h, ?_⟩
  intro hok
  subst hok
  exact ⟨run_take_of_ok h, fun q hq _ => run_take_ne_of_lt h hq⟩

theorem run_lookahead_second_lineBreak :
    statement.run [.identifier, .assign, .number, .semicolon, .newline, .newline] = (.ok (), 5) ∧
      (∀ others : List Kind, (∀ i ≤ 5, others[i]? =
          [.identifier, .assign, .number, .semicolon, .newline, .newline][i]?) →
        statement.run others = (.ok (), 5)) ∧
      ∀ q, 5 < q → q ≤ 6 → statement.run
        ([.identifier, .assign, .number, .semicolon, .newline, .newline].take q) ≠ (.ok (), q) := by
  have h : statement.run [.identifier, .assign, .number, .semicolon, .newline, .newline] =
      (.ok (), 5) := by decide
  obtain ⟨hsame, hlongest⟩ := run_lookahead h
  exact ⟨h, hsame, (hlongest rfl).2⟩

end Rule

end LoopScript
