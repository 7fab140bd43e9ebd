import LoopScript.Proofs.Grammar.Acceptance

/-! Line breaks behind a sequence of kinds. No goal depends on one, so whatever a run makes of line
breaks it makes of the end as well, and a sequence is accepted with them just when it is without. -/
namespace LoopScript

namespace Goal

/-- The goal can be met by a line break, and has to be met by something. -/
def asksBreak : Goal → Bool
  | oneOf kinds _ => kinds.contains .newline
  | _ => false

def NoBreakAsked (goals : List Goal) : Prop := ∀ goal ∈ goals, goal.asksBreak = false

theorem NoBreakAsked.append {goals goals' : List Goal} (h : NoBreakAsked goals)
    (h' : NoBreakAsked goals') : NoBreakAsked (goals ++ goals') :=
  List.forall_mem_append.mpr ⟨h, h'⟩

theorem NoBreakAsked.tail {goal : Goal} {goals : List Goal} (h : NoBreakAsked (goal :: goals)) :
    NoBreakAsked goals :=
  (List.forall_mem_cons.mp h).2

theorem noBreakAsked_of_expands {kind : Kind} {goal : Goal} {more : List Goal}
    (h : Expands kind goal more) : NoBreakAsked more := by
  induction h with
  | mathExpression _ ih | booleanExpression _ ih | oneStatement _ ih =>
    exact ih.append (by simp [NoBreakAsked, asksBreak])
  | arithmetic _ ih | blockStatement _ ih | assignmentStatement _ ih => exact ih
  | _ => simp [NoBreakAsked, asksBreak, one]

theorem noBreakAsked_of_takes {limit : Option Nat} {taken : List Kind} {goals goals' : List Goal}
    {depth depth' : Nat} (ht : Takes limit taken goals depth goals' depth')
    (h : NoBreakAsked goals) : NoBreakAsked goals' := by
  refine ht.preserves (P := fun goals _ => NoBreakAsked goals) ?_ h
  intro kind goals depth goals' depth' h hs
  exact preserves_of_settle (P := fun goals _ => NoBreakAsked goals)
    (fun _ _ _ _ he h => (noBreakAsked_of_expands he).append h.tail)
    (fun _ _ _ _ _ h => h.tail) h hs

/-- A goal that takes a line break is done with it, and would pass over the end. -/
theorem respond_none_of_newline {limit : Option Nat} {goal : Goal} {goals more : List Goal}
    {depth depth' : Nat} (h : NoBreakAsked (goal :: goals))
    (hr : goal.respond limit (some .newline) depth = (.take more, depth')) :
    more = [] ∧ goal.respond limit none depth = (.pass, depth') := by
  cases goal with
  | oneOf kinds rule =>
    have hnot : kinds.contains .newline = false := h _ (List.mem_cons_self ..)
    simp only [respond, onOneOf, Option.any_some, hnot] at hr
    cases hr
  | optional kind =>
    simp only [respond, onOptional] at hr
    split at hr
    · cases hr
      exact ⟨rfl, rfl⟩
    · cases hr
  | production rule =>
    cases rule with
    | endOfStatement =>
      cases hr
      exact ⟨rfl, rfl⟩
    | _ => cases hr
  | enter rule =>
    simp only [respond] at hr
    split at hr <;> cases hr
  | _ => cases hr

theorem settle_none_of_newline {limit : Option Nat} {goals goals' : List Goal}
    {depth depth' depth'' : Nat} (h : NoBreakAsked goals)
    (hs : settle limit (some .newline) goals depth = .took goals' depth')
    (hd : settle limit none goals' depth' = .done depth'') :
    settle limit none goals depth = .done depth'' := by
  induction goals generalizing depth with
  | nil => cases hs
  | cons goal goals ih =>
    unfold settle at hs ⊢
    split at hs
    · next hr =>
      cases hs
      obtain ⟨rfl, hnone⟩ := respond_none_of_newline h hr
      rw [hnone]
      exact hd
    · next hr =>
      rw [respond_none_of_pass hr]
      exact ih h.tail hs
    · cases hs

theorem settle_none_of_follow {limit : Option Nat} {goals : List Goal} {position depth n : Nat}
    {c : Cursor} (h : NoBreakAsked goals)
    (hf : Cursor.follow limit (List.replicate n .newline) goals position depth = (.ok (), c)) :
    ∃ depth', settle limit none goals depth = .done depth' := by
  induction n generalizing goals position depth with
  | zero =>
    cases hs : settle limit none goals depth with
    | done depth' => exact ⟨depth', rfl⟩
    | took goals' depth' => exact absurd hs (settle_none_ne_took _ _ _ _ _)
    | refused error taken depth' => simp [Cursor.follow, hs] at hf
  | succ n ih =>
    rw [List.replicate_succ] at hf
    cases hs : settle limit (some .newline) goals depth with
    | done depth' => exact ⟨depth', settle_none_of_done hs⟩
    | took goals' depth' =>
      simp only [Cursor.follow, hs] at hf
      have htakes : Takes limit [.newline] goals depth goals' depth' := .cons hs .nil
      obtain ⟨depth'', hd⟩ := ih (noBreakAsked_of_takes htakes h) hf
      exact ⟨depth'', settle_none_of_newline h hs hd⟩
    | refused error taken depth' =>
      cases taken <;> simp [Cursor.follow, hs] at hf

end Goal

namespace Rule

open Cursor Goal

variable {rule : Rule} {kinds : List Kind}

theorem checkWhole_of_append (n : Nat)
    (h : rule.checkWhole (kinds ++ List.replicate n .newline) = .ok ()) :
    rule.checkWhole kinds = .ok () := by
  rw [checkWhole_eq_ok_iff_follow] at h ⊢
  obtain ⟨c, m, hf, hrest⟩ := h
  obtain ⟨taken, rest, goals, depth, rfl, ht, hstop⟩ :=
    exists_takes (some maxNesting) kinds [.production rule] 0
  have hbreak : NoBreakAsked goals := noBreakAsked_of_takes ht (by simp [NoBreakAsked, asksBreak])
  rw [List.append_assoc, follow_append ht] at hf
  cases rest with
  | nil =>
    obtain ⟨depth', hd⟩ := settle_none_of_follow hbreak hf
    exact ⟨_, 0, (follow_append ht [] 0).trans (follow_of_done [] hd _), rfl⟩
  | cons kind rest =>
    cases hs : settle (some maxNesting) (some kind) goals depth with
    | took goals' depth' => exact absurd hs (hstop goals' depth')
    | refused error refused depth' =>
      cases refused <;> simp [Cursor.follow, hs] at hf
    | done depth' =>
      have hdone := follow_of_done (kind :: rest ++ List.replicate n .newline) hs
      rw [hdone] at hf
      cases hf
      have hbreaks : ∀ kind' ∈ kind :: rest, kind' = .newline := by
        intro kind' hmem
        have hall : kind' ∈ List.replicate m Kind.newline := hrest ▸ List.mem_append_left _ hmem
        exact List.eq_of_mem_replicate hall
      refine ⟨_, (kind :: rest).length, (follow_append ht _ 0).trans (follow_of_done _ hs _), ?_⟩
      exact List.eq_replicate_of_mem hbreaks

theorem checkWhole_append (n : Nat) (h : rule.checkWhole kinds = .ok ()) :
    rule.checkWhole (kinds ++ List.replicate n .newline) = .ok () := by
  rw [checkWhole_eq_ok_iff_follow] at h ⊢
  obtain ⟨c, m, hf, hrest⟩ := h
  obtain ⟨taken, goals, depth, hkinds, -, ht, hs⟩ := exists_of_follow_ok hf
  have hend : Accepts maxNesting goals depth [] := accepts_of_settle_done (settle_none_of_done hs)
  have hword : Accepts maxNesting [.production rule] 0 (taken ++ []) := accepts_of_takes ht hend
  refine exists_follow_of_accepts (orderly_production maxNesting rule)
    ⟨taken ++ [], m + n, ?_, hword⟩ 0
  rw [hkinds, hrest, List.append_nil, List.append_assoc, List.replicate_append_replicate]

/-- Line breaks at the end of a sequence are of no account. -/
theorem checkWhole_append_iff (n : Nat) :
    rule.checkWhole (kinds ++ List.replicate n .newline) = .ok () ↔
      rule.checkWhole kinds = .ok () :=
  ⟨checkWhole_of_append n, checkWhole_append n⟩

end Rule

end LoopScript
