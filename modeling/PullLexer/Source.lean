import PullLexer.Error
/-!
# Sources of characters

All that a scan asks of its input: to show the next character, to take it, and to say where it
stands. What is shown and what is taken need not agree. Progress is the one law: either taking
uses up some of what remains, or the source is at its end, shows nothing and stays as it is.
-/

namespace PullLexer

class Source (σ : Type) where
  /-- The next character, without taking it. -/
  peek : σ → Option Char
  /-- Takes the next character. -/
  next : σ → Option Char × σ
  filename : σ → String
  /-- The current line. -/
  line : σ → Nat
  /-- The position that an error found here carries. -/
  position : σ → Position
  /-- A bound on how often a character can still be taken. -/
  remaining : σ → Nat
  progress : ∀ s, remaining (next s).2 < remaining s ∨ (peek s = none ∧ next s = (none, s))

namespace Source

variable {σ : Type} [Source σ]

def atEnd (s : σ) : Bool := (peek s).isNone

def report (s : σ) (fault : Fault) : LexError := ⟨fault, filename s, position s⟩

/-- The coordinate of an identifier that starts here. -/
def coord (s : σ) : Coord := ⟨filename s, line s⟩

theorem remaining_next_le (s : σ) : remaining (next s).2 ≤ remaining s := by
  rcases progress s with h | ⟨_, h⟩
  · exact Nat.le_of_lt h
  · exact Nat.le_of_eq (congrArg (fun r => remaining r.2) h)

theorem remaining_next_lt_of_peek {s : σ} {c : Char} (h : peek s = some c) :
    remaining (next s).2 < remaining s := by
  rcases progress s with hlt | ⟨hnone, _⟩
  · exact hlt
  · rw [hnone] at h; exact absurd h (by simp)

theorem remaining_next_lt_of_next {s : σ} {c : Char} (h : (next s).1 = some c) :
    remaining (next s).2 < remaining s := by
  rcases progress s with hlt | ⟨_, hstay⟩
  · exact hlt
  · rw [hstay] at h; exact absurd h (by simp)

end Source

end PullLexer
