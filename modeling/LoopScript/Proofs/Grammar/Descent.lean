import LoopScript.Proofs.Grammar.Calls
import LoopScript.Proofs.Grammar.Progress

/-! A match as a descent by single turns. In one turn the first goal turns to a production, takes a
kind, is met without one, or refuses. What shrinks with every turn is twelve times the kinds that
are left and the turns of the goals up to one more kind. So every match ends, the productions and
loops inside of it too, and a loop takes a kind in every round. -/
namespace LoopScript

/-- A match under way: a place in the kinds, and the goals that are still to be met. -/
structure Descent where
  cursor : Cursor
  goals : List Goal
  deriving DecidableEq, Repr

namespace Descent

open Goal

def start (rule : Rule) (c : Cursor) : Descent := ⟨c, [production rule]⟩

/-- One turn, with a goal in front of the others. A refusal ends the match, and closes the levels
that the goals behind it were going to close. -/
def turn (limit : Nat) (c : Cursor) (goal : Goal) (goals : List Goal) :
    Except (GrammarError × Cursor) Descent :=
  match goal.calls? c.next? with
  | some (rule, more) => .ok ⟨c, production rule :: (more ++ goals)⟩
  | none =>
    match goal.respond (some limit) c.next? c.depth with
    | (.take more, depth) => .ok ⟨⟨c.rest.tail, c.position + 1, depth⟩, more ++ goals⟩
    | (.pass, depth) => .ok ⟨⟨c.rest, c.position, depth⟩, goals⟩
    | (.refuse error taken, depth) =>
      .error (error, ⟨c.rest.drop taken.toNat, c.position + taken.toNat,
        depth - goal.closingsBehind goals⟩)

/-- The match takes a turn from each descent of the list in order, and comes to a verdict with the
cursor that it leaves. -/
inductive Runs (limit : Nat) : Descent → List Descent → Except GrammarError Unit × Cursor → Prop
  | met {c : Cursor} : Runs limit ⟨c, []⟩ [] (.ok (), c)
  | refuses {c c' : Cursor} {goal : Goal} {goals : List Goal} {error : GrammarError}
      (turn : turn limit c goal goals = .error (error, c')) :
      Runs limit ⟨c, goal :: goals⟩ [⟨c, goal :: goals⟩] (.error error, c')
  | goesOn {c : Cursor} {goal : Goal} {goals : List Goal} {d : Descent} {turns : List Descent}
      {outcome : Except GrammarError Unit × Cursor} (turn : turn limit c goal goals = .ok d)
      (more : Runs limit d turns outcome) :
      Runs limit ⟨c, goal :: goals⟩ (⟨c, goal :: goals⟩ :: turns) outcome

variable {limit : Nat} {c c' : Cursor} {goal : Goal} {goals : List Goal} {d d' : Descent}
  {error : GrammarError} {turns turns' : List Descent}
  {outcome outcome' : Except GrammarError Unit × Cursor}

/-! ### One turn -/

theorem cases_of_turn (h : turn limit c goal goals = .ok d) :
    (∃ rule more, goal.calls? c.next? = some (rule, more) ∧
      d = ⟨c, production rule :: (more ++ goals)⟩) ∨
    (∃ kind kinds more depth, c.rest = kind :: kinds ∧
      goal.respond (some limit) (some kind) c.depth = (.take more, depth) ∧
      d = ⟨⟨kinds, c.position + 1, depth⟩, more ++ goals⟩) ∨
    ∃ depth, goal.respond (some limit) c.next? c.depth = (.pass, depth) ∧
      d = ⟨⟨c.rest, c.position, depth⟩, goals⟩ := by
  unfold turn at h
  split at h
  · next rule more hcalls =>
    cases h
    exact .inl ⟨rule, more, hcalls, rfl⟩
  · split at h
    · next more depth hr =>
      cases h
      cases hrest : c.rest with
      | nil =>
        have hs : settle (some limit) none [goal] c.depth = .took (more ++ []) depth := by
          rw [Cursor.next?, hrest, List.head?_nil] at hr
          simp only [settle, hr]
        exact absurd hs (settle_none_ne_took _ _ _ _ _)
      | cons kind kinds =>
        rw [Cursor.next?, hrest, List.head?_cons] at hr
        exact .inr (.inl ⟨kind, kinds, more, depth, rfl, hr, rfl⟩)
    · next depth hr =>
      cases h
      exact .inr (.inr ⟨depth, hr, rfl⟩)
    · cases h

theorem depth_le_of_turn (hdepth : c.depth ≤ limit) (h : turn limit c goal goals = .ok d) :
    d.cursor.depth ≤ limit := by
  rcases cases_of_turn h with
    ⟨rule, more, -, rfl⟩ | ⟨kind, kinds, more, depth, -, hr, rfl⟩ | ⟨depth, hr, rfl⟩
  · exact hdepth
  · obtain ⟨-, rfl⟩ := expands_of_respond hr
    exact hdepth
  · have hsame := congrArg Prod.snd hr
    cases goal with
    | enter rule =>
      simp only [respond, Option.all_some, decide_eq_true_eq] at hr
      split at hr
      · next hroom =>
        cases hr
        exact hroom
      · cases hr
    | leave =>
      obtain rfl : c.depth - 1 = depth := hsame
      exact Nat.le_trans (Nat.sub_le ..) hdepth
    | _ =>
      obtain rfl : c.depth = depth := hsame
      exact hdepth

/-! ### The outcome -/

def result (limit : Nat) (d : Descent) : Except GrammarError Unit × Cursor :=
  Cursor.follow (some limit) d.cursor.rest d.goals d.cursor.position d.cursor.depth

theorem result_of_turn (h : turn limit c goal goals = .ok d) :
    result limit ⟨c, goal :: goals⟩ = result limit d := by
  rcases cases_of_turn h with
    ⟨rule, more, hcalls, rfl⟩ | ⟨kind, kinds, more, depth, hrest, hr, rfl⟩ | ⟨depth, hr, rfl⟩
  · exact Cursor.follow_congr (settle_of_calls hcalls) c.position
  · simp only [result, hrest, Cursor.follow, settle, hr]
  · refine Cursor.follow_congr ?_ c.position
    rw [Cursor.next?] at hr
    simp only [settle, hr]

theorem result_of_refusal (h : turn limit c goal goals = .error (error, c')) :
    result limit ⟨c, goal :: goals⟩ = (.error error, c') := by
  unfold turn at h
  split at h
  · cases h
  · split at h
    · cases h
    · cases h
    · next error taken depth hr =>
      cases h
      have hs : settle (some limit) c.rest.head? (goal :: goals) c.depth =
          .refused error taken (depth - goal.closingsBehind goals) := by
        rw [Cursor.next?] at hr
        simp only [settle, hr]
      exact Cursor.follow_of_refused hs (ne_nil_of_settle hs) c.position

theorem eq_result_of_runs (h : Runs limit d turns outcome) : outcome = result limit d := by
  induction h with
  | @met c => exact (Cursor.follow_of_done c.rest rfl c.position).symm
  | refuses turn => exact (result_of_refusal turn).symm
  | goesOn turn _ ih => rw [ih, result_of_turn turn]

/-! ### The number of turns -/

def budget (d : Descent) : Nat := 12 * d.cursor.rest.length + cost d.goals

theorem budget_lt_of_turn (h : turn limit c goal goals = .ok d) :
    d.budget < budget ⟨c, goal :: goals⟩ := by
  rcases cases_of_turn h with
    ⟨rule, more, hcalls, rfl⟩ | ⟨kind, kinds, more, depth, hrest, hr, rfl⟩ | ⟨depth, hr, rfl⟩
  · exact Nat.add_lt_add_left (cost_of_calls hcalls) _
  · have hcost : cost (more ++ goals) < cost (goal :: goals) + 12 :=
      cost_of_expands (expands_of_respond hr).1
    simp only [budget, hrest, List.length_cons]
    omega
  · exact Nat.add_lt_add_left (cost_of_pass hr) _

theorem budget_start (rule : Rule) (c : Cursor) :
    (start rule c).budget ≤ 12 * (c.rest.length + 1) := by
  have hcost : cost [production rule] ≤ 12 := by cases rule <;> decide
  simp only [budget, start]
  omega

theorem length_le_budget (h : Runs limit d turns outcome) : turns.length ≤ d.budget := by
  induction h with
  | met => exact Nat.zero_le _
  | @refuses c c' goal goals error turn =>
    have hrank : 0 < goal.rank := rank_pos goal
    simp only [budget, cost, List.length_singleton]
    omega
  | goesOn turn _ ih => exact Nat.lt_of_le_of_lt ih (budget_lt_of_turn turn)

theorem exists_runs (limit : Nat) (d : Descent) : ∃ turns outcome, Runs limit d turns outcome := by
  obtain ⟨c, goals⟩ := d
  cases goals with
  | nil => exact ⟨_, _, .met⟩
  | cons goal goals =>
    cases hturn : turn limit c goal goals with
    | error refusal => exact ⟨_, _, .refuses hturn⟩
    | ok next =>
      have hlt : next.budget < budget ⟨c, goal :: goals⟩ := budget_lt_of_turn hturn
      obtain ⟨turns, outcome, hruns⟩ := exists_runs limit next
      exact ⟨_, _, .goesOn hturn hruns⟩
termination_by d.budget

theorem Runs.unique (h : Runs limit d turns outcome) (h' : Runs limit d turns' outcome') :
    turns' = turns ∧ outcome' = outcome := by
  induction h generalizing turns' outcome' with
  | met =>
    cases h'
    exact ⟨rfl, rfl⟩
  | refuses turn =>
    cases h' with
    | refuses turn' =>
      rw [turn] at turn'
      cases turn'
      exact ⟨rfl, rfl⟩
    | goesOn turn' => simp [turn] at turn'
  | goesOn turn _ ih =>
    cases h' with
    | refuses turn' => simp [turn] at turn'
    | goesOn turn' more' =>
      rw [turn] at turn'
      cases turn'
      obtain ⟨hturns, houtcome⟩ := ih more'
      exact ⟨congrArg _ hturns, houtcome⟩

/-! ### What holds all the way -/

theorem depth_le_of_runs (h : Runs limit d turns outcome) (hdepth : d.cursor.depth ≤ limit) :
    ∀ d' ∈ turns, d'.cursor.depth ≤ limit := by
  induction h with
  | met => simp
  | refuses => simpa using hdepth
  | goesOn turn _ ih => exact List.forall_mem_cons.mpr ⟨hdepth, ih (depth_le_of_turn hdepth turn)⟩

/-- From anywhere on the way the match goes on as it does. -/
theorem exists_suffix_of_mem (h : Runs limit d turns outcome) (hmem : d' ∈ turns) :
    ∃ turns', Runs limit d' turns' outcome ∧ turns' <:+ turns := by
  induction h with
  | met => cases hmem
  | refuses turn =>
    obtain rfl := List.mem_singleton.mp hmem
    exact ⟨_, .refuses turn, List.suffix_refl _⟩
  | goesOn turn more ih =>
    rcases List.mem_cons.mp hmem with rfl | hmem
    · exact ⟨_, .goesOn turn more, List.suffix_refl _⟩
    · obtain ⟨turns', hruns, hsuffix⟩ := ih hmem
      exact ⟨turns', hruns, hsuffix.trans (List.suffix_cons ..)⟩

/-! ### Rounds of loops -/

def inFrontOf (goals : List Goal) (d : Descent) : Descent := ⟨d.cursor, d.goals ++ goals⟩

theorem turn_append (h : turn limit c goal goals = .ok d) (behind : List Goal) :
    turn limit c goal (goals ++ behind) = .ok (d.inFrontOf behind) := by
  unfold turn at h ⊢
  split at h
  · cases h
    simp [inFrontOf]
  · split at h
    · cases h
      simp [inFrontOf]
    · cases h
      rfl
    · cases h

/-- When goals are met, the match goes on with those behind them. -/
theorem Runs.append (h : Runs limit d turns (.ok (), c')) {behind : List Goal}
    (h' : Runs limit ⟨c', behind⟩ turns' outcome) :
    Runs limit (d.inFrontOf behind) (turns.map (inFrontOf behind) ++ turns') outcome := by
  generalize hfirst : ((.ok (), c') : Except GrammarError Unit × Cursor) = first at h
  induction h with
  | met =>
    cases hfirst
    exact h'
  | refuses => cases hfirst
  | goesOn turn _ ih => exact .goesOn (turn_append turn behind) (ih hfirst)

/-- One round of a loop, with the cursors in front of it and behind it. It begins when the lookahead
does not end the loop, or with a sign. -/
inductive Round : Goal → Cursor → Cursor → Prop
  | statement {c c' : Cursor} (inside : c.atEnd = false) (goesOn : c.sees .rightBrace = false)
      (matched : c.matchRule .statement = (.ok (), c')) : Round statements c c'
  | comparison {c behind c' : Cursor} (sign : c.takeIf .relOp = (true, behind))
      (matched : behind.matchRule .booleanTerm = (.ok (), c')) : Round comparisons c c'
  | operation {c behind c' : Cursor} {kind : Kind} (arithmetic : kind.isArithmetic = true)
      (sign : c.takeIf kind = (true, behind))
      (matched : behind.matchRule .mathTerm = (.ok (), c')) : Round operations c c'

theorem Round.exists_turn {loop : Goal} (h : Round loop c c') (limit : Nat) (goals : List Goal) :
    ∃ rule c₁, turn limit c loop goals = .ok ⟨c₁, production rule :: loop :: goals⟩ ∧
      c.position ≤ c₁.position ∧ rule ≠ .endOfStatement ∧ c₁.matchRule rule = (.ok (), c') := by
  cases h with
  | statement inside goesOn matched =>
    have hcalls : statements.calls? c.next? = some (.statement, [statements]) := by
      refine if_neg ?_
      rintro (hnext | hnext)
      · simp [Cursor.atEnd, List.head?_eq_none_iff.mp hnext] at inside
      · simp [Cursor.sees, hnext] at goesOn
    refine ⟨.statement, c, ?_, Nat.le_refl _, by decide, matched⟩
    simp [turn, hcalls]
  | comparison sign matched =>
    obtain ⟨kinds, hrest, rfl⟩ := Cursor.exists_of_takeIf sign
    refine ⟨.booleanTerm, _, ?_, Nat.le_succ _, by decide, matched⟩
    simp [turn, calls?, Cursor.next?, hrest, respond, onComparisons]
  | operation arithmetic sign matched =>
    obtain ⟨kinds, hrest, rfl⟩ := Cursor.exists_of_takeIf sign
    refine ⟨.mathTerm, _, ?_, Nat.le_succ _, by decide, matched⟩
    simp [turn, calls?, Cursor.next?, hrest, respond, onOperations, arithmetic]

/-- A round takes a kind, and brings the match back to the loop. -/
theorem Round.returns {loop : Goal} (h : Round loop c c') (goals : List Goal)
    (hruns : Runs maxNesting ⟨c, loop :: goals⟩ turns outcome) :
    c.position < c'.position ∧ ⟨c', loop :: goals⟩ ∈ turns := by
  obtain ⟨rule, c₁, hturn, hposition, hrule, hmatched⟩ := h.exists_turn maxNesting goals
  have hprogress := Cursor.position_of_matchWithin hmatched
  rw [if_neg hrule] at hprogress
  obtain ⟨first, outcome₁, hfirst⟩ := exists_runs maxNesting (start rule c₁)
  obtain rfl : outcome₁ = (.ok (), c') := (eq_result_of_runs hfirst).trans hmatched
  obtain ⟨more, outcome₂, hmore⟩ := exists_runs maxNesting ⟨c', loop :: goals⟩
  have hround : Runs maxNesting ⟨c, loop :: goals⟩ _ outcome₂ :=
    .goesOn hturn (hfirst.append hmore)
  obtain ⟨rfl, -⟩ := hround.unique hruns
  have hmem : ⟨c', loop :: goals⟩ ∈ more := by
    cases hmore <;> exact List.mem_cons_self ..
  exact ⟨by omega, by simp [hmem]⟩

/-! ### Productions -/

/-- What a match with `size` kinds in front of it costs. -/
structure Bounded (size : Nat) (turns : List Descent) : Prop where
  length_le : turns.length ≤ 12 * (size + 1)
  depth_le : ∀ d ∈ turns, d.cursor.depth ≤ maxNesting
  rounds : ∀ c loop goals, ⟨c, loop :: goals⟩ ∈ turns → ∀ c', Round loop c c' →
    c.position < c'.position ∧ ⟨c', loop :: goals⟩ ∈ turns

theorem bounded_of_runs {rule : Rule} (h : Runs maxNesting (start rule c) turns outcome)
    (hdepth : c.depth ≤ maxNesting) : Bounded c.rest.length turns where
  length_le := Nat.le_trans (length_le_budget h) (budget_start rule c)
  depth_le := depth_le_of_runs h hdepth
  rounds := by
    intro c loop goals hmem c' hround
    obtain ⟨turns', hruns, hsuffix⟩ := exists_suffix_of_mem h hmem
    obtain ⟨hposition, hreturns⟩ := hround.returns goals hruns
    exact ⟨hposition, hsuffix.mem hreturns⟩

/-- Every production comes to an end, wherever it begins, and leaves as many levels open as there
were. Where it matches it has taken a kind, a terminator apart, which takes two at most. On the way
no more levels are open than may be, and every round of a loop takes a kind. -/
theorem runs_matchRule (rule : Rule) (kinds : List Kind) {current depth : Nat}
    (hcurrent : current ≤ kinds.length) (hdepth : depth ≤ maxNesting) :
    let before : Cursor := ⟨kinds.drop current, current, depth⟩
    let after := (before.matchRule rule).2
    (∃ turns, Runs maxNesting (start rule before) turns (before.matchRule rule) ∧
      (∀ turns' outcome, Runs maxNesting (start rule before) turns' outcome →
        turns' = turns ∧ outcome = before.matchRule rule) ∧
      Bounded (kinds.length - current) turns) ∧
    (after.rest = kinds.drop after.position ∧ current ≤ after.position ∧
      after.position ≤ kinds.length ∧ after.depth = depth) ∧
    ((before.matchRule rule).1 = .ok () →
      if rule = .endOfStatement then after.position ≤ current + 2
      else current < after.position) := by
  intro before after
  have hsize : before.rest.length = kinds.length - current := List.length_drop
  refine ⟨?_, ?_, fun hok => ?_⟩
  · obtain ⟨turns, outcome, hruns⟩ := exists_runs maxNesting (start rule before)
    obtain rfl : outcome = before.matchRule rule := eq_result_of_runs hruns
    exact ⟨turns, hruns, fun _ _ => hruns.unique, hsize ▸ bounded_of_runs hruns hdepth⟩
  · obtain ⟨taken, hrest, hposition, hsame⟩ := before.advances_matchRule rule
    have hposition : after.position = current + taken.length := hposition
    have hlength : taken.length + after.rest.length = kinds.length - current := by
      rw [← hsize, hrest, List.length_append]
    have hdrop : after.rest = kinds.drop after.position := by
      rw [hposition, ← List.drop_drop]
      exact ((congrArg (List.drop _) hrest).trans List.drop_left).symm
    exact ⟨hdrop, by omega, by omega, hsame⟩
  · exact Cursor.position_of_matchWithin (Prod.ext hok rfl)

/-- Two rounds of statements in a block, where there is room for just one more level. -/
theorem runs_matchRule_block :
    let kinds : List Kind := [.semicolon, .leftBrace, .newline, .identifier, .assign, .number,
      .semicolon, .identifier, .assign, .number, .rightBrace, .rightBrace]
    let before : Cursor := ⟨kinds.drop 1, 1, 255⟩
    1 ≤ kinds.length ∧ 255 ≤ maxNesting ∧
      before.matchRule .blockStatement = (.ok (), ⟨[.rightBrace], 11, 255⟩) ∧
      ∃ turns, Runs maxNesting (start .blockStatement before) turns
        (.ok (), ⟨[.rightBrace], 11, 255⟩) ∧ Bounded 11 turns := by
  intro kinds before
  have hcurrent : 1 ≤ kinds.length := by decide
  have hdepth : 255 ≤ maxNesting := by decide
  have hmatch : before.matchRule .blockStatement = (.ok (), ⟨[.rightBrace], 11, 255⟩) := rfl
  obtain ⟨⟨turns, hruns, -, hbounded⟩, -⟩ := runs_matchRule .blockStatement kinds hcurrent hdepth
  rw [hmatch] at hruns
  exact ⟨hcurrent, hdepth, hmatch, turns, hruns, hbounded⟩

end Descent

end LoopScript
