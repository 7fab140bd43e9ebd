import LoopScript.Proofs.Grammar.Nesting

/-! Calls of every sort, one after another on one cursor. A call hangs on the kinds that are left and
on nothing that was called before, so it does what it would do on a cursor of its own. -/
namespace LoopScript.Cursor

/-- An operation on a cursor, with what it is asked for. -/
inductive Call
  | next
  | sees (kind : Kind)
  | atEnd
  | take (rule : Rule)
  | takeOne (kind : Kind) (rule : Rule)
  | takeOneOf (kinds : List Kind) (rule : Rule)
  | takeIf (kind : Kind)
  | matchRule (rule : Rule)
  | matchWhole (rule : Rule)
  deriving DecidableEq, Repr

inductive Reply
  | lookahead (next : Option Kind)
  | told (holds : Bool)
  | taken (result : Except GrammarError Kind)
  | matched (result : Except GrammarError Unit)

def perform (c : Cursor) : Call → Reply × Cursor
  | .next => (.lookahead c.next?, c)
  | .sees kind => (.told (c.sees kind), c)
  | .atEnd => (.told c.atEnd, c)
  | .take rule => (c.take rule).map .taken id
  | .takeOne kind rule => (c.takeOne kind rule).map .matched id
  | .takeOneOf kinds rule => (c.takeOneOf kinds rule).map .taken id
  | .takeIf kind => (c.takeIf kind).map .told id
  | .matchRule rule => (c.matchRule rule).map .matched id
  | .matchWhole rule => (c.matchWhole rule).map .matched id

def performAll (c : Cursor) (calls : List Call) : Cursor :=
  calls.foldl (fun c call => (c.perform call).2) c

/-! ### Cursors that move forward -/

/-- One cursor has come from the other by taking kinds, and stands in the same levels. -/
def Advances (c c' : Cursor) : Prop :=
  ∃ taken, c.rest = taken ++ c'.rest ∧ c'.position = c.position + taken.length ∧ c'.depth = c.depth

namespace Advances

variable {c c' c'' : Cursor}

theorem refl (c : Cursor) : c.Advances c := ⟨[], rfl, rfl, rfl⟩

theorem trans (h : c.Advances c') (h' : c'.Advances c'') : c.Advances c'' := by
  obtain ⟨taken, hrest, hposition, hdepth⟩ := h
  obtain ⟨taken', hrest', hposition', hdepth'⟩ := h'
  refine ⟨taken ++ taken', ?_, ?_, hdepth'.trans hdepth⟩
  · rw [hrest, hrest', List.append_assoc]
  · rw [hposition', hposition, List.length_append, Nat.add_assoc]

end Advances

theorem advances_take (c : Cursor) (rule : Rule) : c.Advances (c.take rule).2 := by
  unfold take
  split
  · exact .refl c
  · next kind kinds hrest => exact ⟨[kind], hrest, rfl, rfl⟩

theorem advances_takeOneOf (c : Cursor) (kinds : List Kind) (rule : Rule) :
    c.Advances (c.takeOneOf kinds rule).2 := by
  have htake := c.advances_take rule
  unfold takeOneOf
  split
  · next heq => rwa [heq] at htake
  · next heq => rwa [heq] at htake

theorem advances_takeIf (c : Cursor) (kind : Kind) : c.Advances (c.takeIf kind).2 := by
  unfold takeIf
  split
  · exact .refl c
  · next found kinds hrest =>
    split
    · exact ⟨[found], hrest, rfl, rfl⟩
    · exact .refl c

theorem advances_takeAll (c : Cursor) (kind : Kind) : c.Advances (c.takeAll kind) :=
  ⟨c.rest.takeWhile (· = kind), List.takeWhile_append_dropWhile.symm, rfl, rfl⟩

private theorem exists_of_follow {limit : Option Nat} {kinds : List Kind} {goals : List Goal}
    {position depth : Nat} {c : Cursor} (h : (follow limit kinds goals position depth).2 = c) :
    ∃ taken, kinds = taken ++ c.rest ∧ c.position = position + taken.length := by
  induction kinds generalizing goals position depth with
  | nil =>
    refine ⟨[], ?_⟩
    rw [← h]
    unfold follow
    split <;> exact ⟨rfl, rfl⟩
  | cons kind kinds ih =>
    unfold follow at h
    split at h
    · exact ⟨[], by rw [← h]; exact ⟨rfl, rfl⟩⟩
    · obtain ⟨taken, hkinds, hposition⟩ := ih h
      refine ⟨kind :: taken, by rw [hkinds]; rfl, ?_⟩
      rw [hposition, List.length_cons]
      omega
    · exact ⟨[kind], by rw [← h]; exact ⟨rfl, rfl⟩⟩
    · exact ⟨[], by rw [← h]; exact ⟨rfl, rfl⟩⟩

theorem advances_matchRule (c : Cursor) (rule : Rule) : c.Advances (c.matchRule rule).2 := by
  obtain ⟨taken, hrest, hposition⟩ := exists_of_follow (c := (c.matchRule rule).2) rfl
  exact ⟨taken, hrest, hposition, depth_matchWithin (some maxNesting) c rule⟩

theorem advances_matchWhole (c : Cursor) (rule : Rule) : c.Advances (c.matchWhole rule).2 := by
  have hmatch := c.advances_matchRule rule
  unfold matchWhole
  split
  · next heq => rwa [heq] at hmatch
  · next c' heq =>
    rw [heq] at hmatch
    have hall : c.Advances (c'.takeAll .newline) := hmatch.trans (c'.advances_takeAll .newline)
    simp only
    split <;> exact hall

theorem advances_perform (c : Cursor) (call : Call) : c.Advances (c.perform call).2 := by
  cases call with
  | next | sees | atEnd => exact .refl c
  | take rule => exact c.advances_take rule
  | takeOne kind rule => exact c.advances_takeOneOf [kind] rule
  | takeOneOf kinds rule => exact c.advances_takeOneOf kinds rule
  | takeIf kind => exact c.advances_takeIf kind
  | matchRule rule => exact c.advances_matchRule rule
  | matchWhole rule => exact c.advances_matchWhole rule

theorem advances_performAll (c : Cursor) (calls : List Call) : c.Advances (c.performAll calls) := by
  induction calls generalizing c with
  | nil => exact .refl c
  | cons call calls ih => exact (c.advances_perform call).trans (ih _)

/-! ### Cursors with kinds in front of them -/

/-- The cursor with `n` more kinds in front of it, which were taken. -/
def behind (n : Nat) (c : Cursor) : Cursor := { c with position := n + c.position }

variable (n : Nat) (c : Cursor)

theorem take_behind (rule : Rule) : (c.behind n).take rule = (c.take rule).map id (behind n) := by
  obtain ⟨rest, position, depth⟩ := c
  cases rest <;> rfl

theorem takeOneOf_behind (kinds : List Kind) (rule : Rule) :
    (c.behind n).takeOneOf kinds rule = (c.takeOneOf kinds rule).map id (behind n) := by
  unfold takeOneOf
  rw [take_behind]
  obtain ⟨result, c'⟩ := c.take rule
  cases result <;> rfl

theorem takeOne_behind (kind : Kind) (rule : Rule) :
    (c.behind n).takeOne kind rule = (c.takeOne kind rule).map id (behind n) := by
  unfold takeOne
  rw [takeOneOf_behind]
  rfl

theorem takeIf_behind (kind : Kind) :
    (c.behind n).takeIf kind = (c.takeIf kind).map id (behind n) := by
  obtain ⟨rest, position, depth⟩ := c
  cases rest with
  | nil => rfl
  | cons found rest =>
    simp only [takeIf, behind]
    split <;> rfl

theorem takeAll_behind (kind : Kind) : (c.behind n).takeAll kind = (c.takeAll kind).behind n := by
  simp only [takeAll, behind, Nat.add_assoc]

private theorem follow_behind (limit : Option Nat) (kinds : List Kind) (goals : List Goal)
    (position depth : Nat) : follow limit kinds goals (n + position) depth =
      (follow limit kinds goals position depth).map id (behind n) := by
  induction kinds generalizing goals position depth with
  | nil =>
    unfold follow
    split <;> rfl
  | cons kind kinds ih =>
    unfold follow
    split
    · rfl
    · next goals' depth' heq =>
      rw [Nat.add_assoc]
      exact ih goals' (position + 1) depth'
    · rfl
    · rfl

theorem matchRule_behind (rule : Rule) :
    (c.behind n).matchRule rule = (c.matchRule rule).map id (behind n) :=
  follow_behind n (some maxNesting) c.rest [.production rule] c.position c.depth

theorem matchWhole_behind (rule : Rule) :
    (c.behind n).matchWhole rule = (c.matchWhole rule).map id (behind n) := by
  unfold matchWhole
  rw [matchRule_behind]
  obtain ⟨result, c'⟩ := c.matchRule rule
  cases result with
  | error error => rfl
  | ok =>
    simp only [Prod.map, id, takeAll_behind]
    cases hnext : (c'.takeAll .newline).next? with
    | none =>
      have hnext' : ((c'.takeAll .newline).behind n).next? = none := hnext
      rw [hnext']
    | some found =>
      have hnext' : ((c'.takeAll .newline).behind n).next? = some found := hnext
      rw [hnext']

/-- A call does not look at what was taken before. -/
theorem perform_behind (call : Call) :
    (c.behind n).perform call = (c.perform call).map id (behind n) := by
  cases call with
  | next | sees | atEnd => rfl
  | take rule =>
    simp only [perform, take_behind]
    rfl
  | takeOne kind rule =>
    simp only [perform, takeOne_behind]
    rfl
  | takeOneOf kinds rule =>
    simp only [perform, takeOneOf_behind]
    rfl
  | takeIf kind =>
    simp only [perform, takeIf_behind]
    rfl
  | matchRule rule =>
    simp only [perform, matchRule_behind]
    rfl
  | matchWhole rule =>
    simp only [perform, matchWhole_behind]
    rfl

/-- Whatever was called before, a call moves the cursor forward within the kinds, leaves no level
open, and does what it does on a fresh cursor on the kinds that are left. -/
theorem perform_performAll (kinds : List Kind) (calls : List Call) (call : Call) :
    let before := (ofKinds kinds).performAll calls
    let after := (before.perform call).2
    let fresh := (ofKinds (kinds.drop before.position)).perform call
    before.position ≤ after.position ∧ after.position ≤ kinds.length ∧
      before.depth = 0 ∧ after.depth = 0 ∧ (before.perform call).1 = fresh.1 ∧
      after.position = before.position + fresh.2.position := by
  intro before after fresh
  obtain ⟨taken, hkinds, hbefore, hdepth⟩ := (ofKinds kinds).advances_performAll calls
  obtain ⟨taken', hrest, hafter, hdepth'⟩ := before.advances_perform call
  have hposition : before.position = taken.length := hbefore.trans (Nat.zero_add _)
  have hlength : kinds.length = before.position + taken'.length + after.rest.length := by
    rw [hposition, Nat.add_assoc, ← List.length_append, ← hrest, ← List.length_append]
    exact congrArg List.length hkinds
  have hdrop : kinds.drop before.position = before.rest := by
    rw [hposition]
    exact congrArg (List.drop _) hkinds |>.trans List.drop_left
  have hbehind : before = (ofKinds (kinds.drop before.position)).behind before.position := by
    rw [hdrop]
    exact congrArg (Cursor.mk before.rest before.position) hdepth
  have hperform : before.perform call = fresh.map id (behind before.position) := by
    rw [← perform_behind, ← hbehind]
  refine ⟨hafter ▸ Nat.le_add_right _ _, ?_, hdepth, hdepth'.trans hdepth, ?_, ?_⟩
  · rw [hlength, ← hafter]
    exact Nat.le_add_right _ _
  · rw [hperform]
    rfl
  · exact congrArg (fun result => result.2.position) hperform

/-- The second match begins behind the semicolon that the first has failed on. -/
example : (ofKinds [.leftParen, .leftParen, .semicolon, .number]).performAll
    [.matchRule .mathTerm, .matchRule .mathTerm] = ⟨[], 4, 0⟩ := by decide

end LoopScript.Cursor
