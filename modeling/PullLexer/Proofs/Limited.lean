import PullLexer.Proofs.InStep
/-!
# Limited sources

A source can be given a budget that each taking of a character uses up, one at the end of the source
too. Each turn of each loop of a scan takes a character, so the budget bounds the turns, whatever
the source does. A pull that leaves some of its budget has come to its end by itself: this is how
pulls over any source are shown to return, and how soon.
-/

namespace PullLexer

/-- A source from which a character can be taken `budget` times; then it is at its end. -/
structure Limited (σ : Type) where
  input : σ
  budget : Nat

namespace Limited

variable {σ : Type} [Source σ]

def peek (s : Limited σ) : Option Char :=
  match s.budget with
  | 0 => none
  | _ + 1 => Source.peek s.input

def next (s : Limited σ) : Option Char × Limited σ :=
  match s.budget with
  | 0 => (none, s)
  | budget + 1 => ((Source.next s.input).1, ⟨(Source.next s.input).2, budget⟩)

/-- Progress is made whether or not the limited source makes any. -/
instance : Source (Limited σ) where
  peek := peek
  next := next
  filename s := Source.filename s.input
  line s := Source.line s.input
  position s := Source.position s.input
  remaining := budget
  progress s := by
    unfold peek next
    cases h : s.budget with
    | zero => exact .inr ⟨rfl, rfl⟩
    | succ budget => exact .inl (Nat.lt_succ_self _)

variable {s : Limited σ}

private theorem peek_of_budget (h : s.budget ≠ 0) : Source.peek s = Source.peek s.input := by
  obtain ⟨input, _ | budget⟩ := s
  · exact absurd rfl h
  · rfl

private theorem next_of_budget (h : s.budget ≠ 0) :
    Source.next s = ((Source.next s.input).1, ⟨(Source.next s.input).2, s.budget - 1⟩) := by
  obtain ⟨input, _ | budget⟩ := s
  · exact absurd rfl h
  · rfl

private theorem next_of_no_budget (h : s.budget = 0) : Source.next s = (none, s) := by
  obtain ⟨input, budget⟩ := s
  subst h
  rfl

/-- The source is limited by a budget of which some is left. -/
structure Limits (s : Limited σ) (input : σ) : Prop where
  input : s.input = input
  budget : s.budget ≠ 0

theorem inStep : Source.InStep (Limits (σ := σ)) Eq (fun s => s.budget = 0) where
  peek := by
    rintro s _ ⟨rfl, h⟩
    exact peek_of_budget h
  given := by
    rintro s _ ⟨rfl, h⟩
    rw [next_of_budget h]
  next := by
    rintro s _ ⟨rfl, h⟩
    rw [next_of_budget h]
    by_cases hlast : s.budget - 1 = 0
    · exact .inl hlast
    · exact .inr ⟨rfl, hlast⟩
  coord := by
    rintro s _ ⟨rfl, _⟩ _
    rfl
  report := by
    rintro s _ ⟨rfl, _⟩ fault
    rfl
  past := by
    apply Source.Keeps.of_next
    intro s h
    rwa [next_of_no_budget h]

/-- Two more than can be taken from the source: one for its end, and one to be left. -/
def Ample (s : Limited σ) : Prop := Source.remaining s.input + 2 ≤ s.budget

/-- The source is at its end, and some budget is left. -/
structure AtRest (s : Limited σ) : Prop where
  budget : s.budget ≠ 0
  peek : Source.peek s.input = none
  next : Source.next s.input = (none, s.input)

private theorem Ample.budget (h : s.Ample) : s.budget ≠ 0 := by
  unfold Ample at h
  omega

private theorem Ample.of_lt (h : s.Ample)
    (hlt : Source.remaining (Source.next s.input).2 < Source.remaining s.input) :
    (Source.next s).2.Ample := by
  rw [next_of_budget h.budget]
  unfold Ample at h ⊢
  dsimp only
  omega

private theorem keeps : Source.Keeps (Ample (σ := σ)) (fun s => s.Ample ∨ s.AtRest) where
  shown := by
    intro s h hshown
    rw [peek_of_budget h.budget] at hshown
    obtain ⟨c, hc⟩ := Option.ne_none_iff_exists'.1 hshown
    exact h.of_lt (Source.remaining_next_lt_of_peek hc)
  given := by
    intro s h hgiven
    rw [next_of_budget h.budget] at hgiven
    obtain ⟨c, hc⟩ := Option.ne_none_iff_exists'.1 hgiven
    exact h.of_lt (Source.remaining_next_lt_of_next hc)
  last := by
    intro s h
    rcases Source.progress s.input with hlt | ⟨hpeek, hstay⟩
    · exact .inl (h.of_lt hlt)
    · -- The one character that is taken at the end leaves some budget, and is the last.
      right
      rw [next_of_budget h.budget, hstay]
      have hleft : s.budget - 1 ≠ 0 := by
        unfold Ample at h
        omega
      exact ⟨hleft, hpeek, hstay⟩
  weaken := by
    intro s h
    exact .inl h
  resume := by
    rintro s (h | h) hshown
    · exact h
    · rw [peek_of_budget h.budget] at hshown
      exact absurd h.peek hshown

end Limited

namespace LexemeStream

variable {σ : Type} [Source σ]

/-- The stream with a budget for its input. -/
def limited (s : LexemeStream σ) (budget : Nat) : LexemeStream (Limited σ) :=
  ⟨⟨s.input, budget⟩, s.config, s.slot, s.stopped⟩

omit [Source σ] in
private theorem eq_limited_of_alike {t : LexemeStream (Limited σ)} {s : LexemeStream σ}
    (h : Alike Limited.Limits t s) : t = s.limited t.input.budget := by
  obtain ⟨⟨input, budget⟩, config, slot, stopped⟩ := t
  obtain ⟨⟨hinput, -⟩, hconfig, hslot, hstopped⟩ := h
  obtain ⟨_, _, _, _⟩ := s
  dsimp only at hinput hconfig hslot hstopped
  subst hinput hconfig hslot hstopped
  rfl

/-- A pull takes a character at most `takes` times: with any larger budget it gives the same answer,
leaves the same stream and has some budget left. -/
def ReturnsWithin (takes : Nat) (s : LexemeStream σ) (p : Pull) : Prop :=
  ∀ budget, takes < budget → ∃ left, left ≠ 0 ∧
    ((s.limited budget).pull p).answer = (s.pull p).answer ∧
      ((s.limited budget).pull p).stream = (s.pull p).stream.limited left

/-- Every pull returns. It takes a character no more often than that is possible, and once more at
the end of the source. -/
theorem pull_returns (s : LexemeStream σ) (p : Pull) :
    s.ReturnsWithin (Source.remaining s.input + 1) p := by
  intro budget hbudget
  have hample : (s.limited budget).input.Ample := hbudget
  have hleft : ((s.limited budget).pull p).stream.input.budget ≠ 0 := by
    rcases pull_keeps Limited.keeps (.inl hample) p with h | h
    · exact h.budget
    · exact h.budget
  have hstart : Alike Limited.Limits (s.limited budget) s := ⟨⟨rfl, hample.budget⟩, rfl, rfl, rfl⟩
  rcases pull_inStep Limited.inStep hstart p with hpast | ⟨hanswer, hstream⟩
  · exact absurd hpast hleft
  · refine ⟨_, hleft, hanswer.eq, ?_⟩
    exact eq_limited_of_alike hstream

end LexemeStream

end PullLexer
