import LoopScript.Proofs.Grammar.Completion

/-! What an error says about the kinds that brought it up. A kind is refused as soon as no sequence
can go on with it, and the end is refused only where some sequence goes on. -/
namespace LoopScript

namespace Goal

variable {limit : Nat}

theorem describes_of_completable {next : Option Kind} {goals : List Goal} {depth depth' : Nat}
    {error : GrammarError} {taken : Bool} (hc : Completable limit goals depth)
    (hs : settle (some limit) next goals depth = .refused error taken depth') :
    error.Describes next taken := by
  induction goals generalizing depth with
  | nil => cases hs
  | cons goal goals ih =>
    obtain ⟨word, ha⟩ := hc
    unfold settle at hs
    split at hs
    · cases hs
    · next depth₁ hr =>
      have hbehind : Completable limit goals depth₁ := by
        rw [depthBehind_of_pass hr]
        exact exists_behind ha
      exact ih hbehind hs
    · next error' taken' depth₁ hr =>
      cases hs
      have hgoal (rule : Rule) : goal ≠ enter rule := by
        intro heq
        subst heq
        have hdepth : depth < limit := ha.1
        simp [respond, hdepth] at hr
      have hd := describes_respond (some limit) next depth hgoal
      rwa [hr] at hd

theorem error_of_blocked {next : Option Kind} {rule : Rule} {goals : List Goal}
    {depth depth' : Nat} {error : GrammarError} {taken : Bool}
    (hb : Blocked limit rule goals depth)
    (hs : settle (some limit) next goals depth = .refused error taken depth') :
    error = .tooDeep rule ∧ taken = false := by
  obtain ⟨hfull, behind, hgoals | hgoals⟩ := hb
  · rw [hgoals, settle_enter hfull] at hs
    cases hs
    exact ⟨rfl, rfl⟩
  · rw [hgoals] at hs
    unfold settle at hs
    split at hs
    · cases hs
    · next depth₁ hr =>
      have hdepth : depth₁ = depth := depthBehind_of_pass hr
      rw [hdepth, settle_enter hfull] at hs
      cases hs
      exact ⟨rfl, rfl⟩
    · next hr =>
      simp only [respond, onOptional] at hr
      split at hr <;> cases hr

end Goal

namespace Rule

open Cursor Goal

/-- What each error tells about the kinds and about how many of them were taken. The end is refused
where some sequence goes on, a kind where some sequence goes on in its place and none goes on with
it, and a level that does not open whatever follows. -/
def Reports (rule : Rule) (kinds : List Kind) (position : Nat) : GrammarError → Prop
  | .unfinished _ => position = kinds.length ∧
      ∃ more, more ≠ [] ∧ rule.checkWhole (kinds ++ more) = .ok ()
  | .unexpected found inner => ∃ i, (i + 1 = position ∨ i = position) ∧ kinds[i]? = some found ∧
      (∃ more, rule.checkWhole (kinds.take i ++ more) = .ok ()) ∧
      ∀ others, kinds.take (i + 1) <+: others →
        rule.check others = .error (.unexpected found inner)
  | .tooDeep inner => ∀ others, kinds.take position <+: others →
      rule.check others = .error (.tooDeep inner)

variable {rule : Rule} {taken : List Kind} {goals : List Goal} {depth : Nat}

private theorem follow_taken (ht : Takes (some maxNesting) taken [.production rule] 0 goals depth)
    (more : List Kind) : follow (some maxNesting) (taken ++ more) [.production rule] 0 0 =
      follow (some maxNesting) more goals taken.length depth := by
  rw [follow_append ht, Nat.zero_add]

private theorem check_taken (ht : Takes (some maxNesting) taken [.production rule] 0 goals depth)
    {more : List Kind} {result : Except GrammarError Unit} {c : Cursor}
    (h : follow (some maxNesting) more goals taken.length depth = (result, c)) :
    rule.check (taken ++ more) = result := by
  simp only [check, matchRule, matchWithin, ofKinds, follow_taken ht, h]

private theorem checkWhole_taken
    (ht : Takes (some maxNesting) taken [.production rule] 0 goals depth) {word : List Kind}
    (ha : Accepts maxNesting goals depth word) : rule.checkWhole (taken ++ word) = .ok () := by
  have horder := orderly_of_takes (orderly_production maxNesting rule) ht
  obtain ⟨c, n, hword, hrest⟩ := exists_follow_of_accepts horder ha.padded taken.length
  exact (checkWhole_eq_ok_iff_follow rule _).mpr ⟨c, n, (follow_taken ht word).trans hword, hrest⟩

private theorem reports_unfinished
    (ht : Takes (some maxNesting) taken [.production rule] 0 goals depth)
    (hc : Completable maxNesting goals depth) {inner : Rule} {depth' : Nat}
    (hs : settle (some maxNesting) none goals depth = .refused (.unfinished inner) false depth') :
    rule.Reports taken taken.length (.unfinished inner) := by
  obtain ⟨word, ha⟩ := hc
  have hne : word ≠ [] := by
    intro hword
    subst hword
    have horder := orderly_of_takes (orderly_production maxNesting rule) ht
    have hend := endsPadded_settle horder ha.padded
    rw [List.head?_nil, hs] at hend
    exact hend
  exact ⟨rfl, word, hne, checkWhole_taken ht ha⟩

private theorem reports_unexpected
    (ht : Takes (some maxNesting) taken [.production rule] 0 goals depth)
    (hc : Completable maxNesting goals depth) {found : Kind} {inner : Rule} {refused : Bool}
    {depth' : Nat} (hs : settle (some maxNesting) (some found) goals depth =
      .refused (.unexpected found inner) refused depth') (behind : List Kind) :
    rule.Reports (taken ++ found :: behind) (taken.length + refused.toNat)
      (.unexpected found inner) := by
  obtain ⟨word, ha⟩ := hc
  have htake : (taken ++ found :: behind).take taken.length = taken := List.take_left
  have htake' : (taken ++ found :: behind).take (taken.length + 1) = taken ++ [found] := by
    rw [List.take_length_add_append]
    rfl
  refine ⟨taken.length, ?_, by simp, ⟨word, ?_⟩, ?_⟩
  · cases refused
    · exact .inr rfl
    · exact .inl rfl
  · rw [htake]
    exact checkWhole_taken ht ha
  · intro others hothers
    obtain ⟨tail, htail⟩ := hothers
    rw [← htail, htake', List.append_assoc]
    have hs' : settle (some maxNesting) (found :: tail).head? goals depth =
        .refused (.unexpected found inner) refused depth' := hs
    have hstop := follow_of_refused hs' (by simp) taken.length
    exact check_taken ht hstop

private theorem reports_tooDeep
    (ht : Takes (some maxNesting) taken [.production rule] 0 goals depth) {inner : Rule}
    (hb : Blocked maxNesting inner goals depth) (rest : List Kind) :
    rule.Reports (taken ++ rest) taken.length (.tooDeep inner) := by
  intro others hothers
  obtain ⟨tail, htail⟩ := hothers
  rw [List.take_left] at htail
  obtain ⟨c, hdeep⟩ := follow_of_blocked hb tail taken.length
  rw [← htail]
  exact check_taken ht hdeep

/-- Every error is reported where it first shows. -/
theorem reports_of_run {rule : Rule} {kinds : List Kind} {error : GrammarError} {position : Nat}
    (h : rule.run kinds = (.error error, position)) : rule.Reports kinds position error := by
  obtain ⟨c, hposition, hf⟩ := exists_follow_of_run h
  obtain ⟨taken, rest, goals, depth, refused, hkinds, hp, ht, hs⟩ := exists_of_follow_error hf
  rw [Nat.zero_add, hposition] at hp
  have hstart : Pending maxNesting [production rule] 0 :=
    .inl (completable_production (by decide) rule)
  rw [hkinds, hp]
  rcases pending_of_takes hstart ht with hc | ⟨inner, hb⟩
  · have hd := describes_of_completable hc hs
    cases error with
    | tooDeep inner => exact hd.elim
    | unfinished inner =>
      obtain ⟨hend, hrefused⟩ := hd
      have hnil : rest = [] := List.head?_eq_none_iff.mp hend
      subst hnil hrefused
      rw [List.append_nil]
      exact reports_unfinished ht hc hs
    | unexpected found inner =>
      have hnext : rest.head? = some found := hd
      obtain ⟨behind, hbehind⟩ := List.head?_eq_some_iff.mp hnext
      rw [hnext] at hs
      rw [hbehind]
      exact reports_unexpected ht hc hs behind
  · obtain ⟨herror, hrefused⟩ := error_of_blocked hb hs
    rw [herror, hrefused]
    exact reports_tooDeep ht hb rest

theorem reports_second_assign :
    statement.run [.identifier, .assign, .number, .assign, .number] =
        (.error (.unexpected .assign .endOfStatement), 3) ∧
      statement.Reports [.identifier, .assign, .number, .assign, .number] 3
        (.unexpected .assign .endOfStatement) := by
  have h : statement.run [.identifier, .assign, .number, .assign, .number] =
      (.error (.unexpected .assign .endOfStatement), 3) := by decide
  exact ⟨h, reports_of_run h⟩

end Rule

end LoopScript
