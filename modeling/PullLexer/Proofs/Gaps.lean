import PullLexer.Proofs.Runs
/-!
# The grammar of gaps

Skipping takes the longest gap that comes next. At the end of a source the last comment of a gap
may lack its newline, and a gap that has been skipped leaves nothing for a second skip.
-/

namespace PullLexer

/-- Blanks, and comments each of which ends in a newline. -/
inductive IsGap : List Char → Prop
  | nil : IsGap []
  | blank {c : Char} {g : List Char} : CharClass.blank.holds c = true → IsGap g → IsGap (c :: g)
  | comment {body g : List Char} : '\n' ∉ body → IsGap g → IsGap ('#' :: (body ++ '\n' :: g))

/-- A gap up to the end of a source, which may end the last comment in place of a newline. -/
inductive IsLastGap : List Char → Prop
  | closed {g : List Char} : IsGap g → IsLastGap g
  | unended {g body : List Char} : IsGap g → '\n' ∉ body → IsLastGap (g ++ '#' :: body)

/-- Whether a gap can start with the character. -/
def startsGap (c : Char) : Bool := c == '#' || CharClass.blank.holds c

theorem IsGap.append {g h : List Char} (hg : IsGap g) (hh : IsGap h) : IsGap (g ++ h) := by
  induction hg with
  | nil => exact hh
  | blank hc _ ih => exact .blank hc ih
  | comment hbody _ ih => simpa using IsGap.comment hbody ih

theorem IsLastGap.append {g h : List Char} (hg : IsGap g) (hh : IsLastGap h) :
    IsLastGap (g ++ h) := by
  cases hh with
  | closed hk => exact .closed (hg.append hk)
  | unended hk hbody => simpa using IsLastGap.unended (hg.append hk) hbody

private theorem exists_line (text : List Char) :
    '\n' ∉ text ∨ ∃ body r, text = body ++ '\n' :: r ∧ '\n' ∉ body := by
  by_cases h : '\n' ∈ text
  · exact .inr (List.eq_append_cons_of_mem h)
  · exact .inl h

/-- A text is a gap up to its end, or a gap and then a character that starts no gap. -/
theorem exists_gap (text : List Char) :
    IsLastGap text ∨ ∃ g c r, text = g ++ c :: r ∧ IsGap g ∧ startsGap c = false := by
  induction hn : text.length using Nat.strongRecOn generalizing text with
  | ind n ih =>
    -- A gap that has been split off leaves a shorter text.
    have after {g r : List Char} (hg : IsGap g) (htext : text = g ++ r)
        (hlen : r.length < n) : IsLastGap text ∨
          ∃ g c r, text = g ++ c :: r ∧ IsGap g ∧ startsGap c = false := by
      subst htext
      rcases ih r.length hlen r rfl with hlast | ⟨g', c, r', rfl, hg', hc⟩
      · exact .inl (hlast.append hg)
      · exact .inr ⟨g ++ g', c, r', by simp, hg.append hg', hc⟩
    cases text with
    | nil => exact .inl (.closed .nil)
    | cons c text =>
      by_cases hblank : CharClass.blank.holds c = true
      · exact after (.blank hblank .nil) (r := text) rfl (by simp [← hn])
      · by_cases hcomment : c = '#'
        · subst hcomment
          rcases exists_line text with hbody | ⟨body, r, rfl, hbody⟩
          · exact .inl (.unended .nil hbody)
          · have hlen : r.length < n := by
              simp only [← hn, List.length_cons, List.length_append]
              omega
            exact after (.comment hbody .nil) (by simp) hlen
        · exact .inr ⟨[], c, text, rfl, .nil, by simp [startsGap, hblank, hcomment]⟩

namespace Gap

variable {σ : Type} [Source σ]

private theorem skipAfter_eq (comments : List Nat) (input : σ) :
    skipAfter comments input =
      ⟨comments.reverse ++ (skipAfter [] input).comments, (skipAfter [] input).rest⟩ := by
  induction hn : Source.remaining input using Nat.strongRecOn generalizing comments input with
  | ind n ih =>
    rw [skipAfter, skipAfter.eq_1 []]
    by_cases h : Source.peek input = some '#'
    · have hlt : Source.remaining (pastBlanks (pastLine input)) < n :=
        hn ▸ Nat.lt_of_le_of_lt (remaining_pastBlanks_le _) (remaining_pastLine_lt h)
      simp only [h, ↓reduceDIte]
      -- Both sides list the comment that starts here, the left one after those before.
      rw [ih _ hlt (Source.line input :: comments) _ rfl, ih _ hlt [Source.line input] _ rfl]
      simp
    · simp [h]

theorem pastBlanks_of_stop {input : σ}
    (h : ∀ c ∈ Source.peek input, CharClass.blank.holds c = false) : pastBlanks input = input := by
  rw [pastBlanks, Run.takeWhile, Run.takeBy]
  split
  · rfl
  · rename_i c hc
    simp [h c hc]

theorem skip_of_stop {input : σ} (h : ∀ c ∈ Source.peek input, startsGap c = false) :
    skip input = ⟨[], input⟩ := by
  have hblank : ∀ c ∈ Source.peek input, CharClass.blank.holds c = false := by
    intro c hc
    have := h c hc
    simp only [startsGap, Bool.or_eq_false_iff] at this
    exact this.2
  have hpeek : Source.peek input ≠ some '#' := by
    intro hc
    have := h '#' hc
    simp [startsGap] at this
  rw [skip, pastBlanks_of_stop hblank, skipAfter]
  simp [hpeek]

theorem skip_of_none {input : σ} (h : Source.peek input = none) : skip input = ⟨[], input⟩ :=
  skip_of_stop (by simp [h])

private theorem skip_blank {c : Char} (hc : CharClass.blank.holds c = true) (filename : String)
    (p : Position) (r : List Char) :
    skip (⟨filename, p, c :: r⟩ : Cursor) = skip ⟨filename, p.afterChar c, r⟩ := by
  obtain ⟨t, r', rfl, ht, hr⟩ := Run.exists_while CharClass.blank.holds r
  have hct : ∀ d ∈ c :: t, CharClass.blank.holds d = true := by
    intro d hd
    rcases List.mem_cons.1 hd with rfl | hd
    · exact hc
    · exact ht d hd
  have hall := Run.takeWhile_append filename p hct hr
  have htail := Run.takeWhile_append filename (p.afterChar c) ht hr
  simp only [skip, pastBlanks]
  rw [List.cons_append] at hall
  rw [hall, htail, Position.after_cons]

private theorem pastLine_append {body r : List Char} (hbody : '\n' ∉ body) (filename : String)
    (p : Position) (hr : ∀ d ∈ r.head?, d = '\n') :
    pastLine (⟨filename, p, body ++ r⟩ : Cursor) =
      ⟨filename, p.after (body ++ r.take 1), r.drop 1⟩ := by
  have hall : ∀ c ∈ body, (c != '\n') = true := by
    intro c hc
    have hne : c ≠ '\n' := fun h => hbody (h ▸ hc)
    simpa using hne
  rw [pastLine, Run.takeWhile_append filename p hall (fun d hd => by simp [hr d hd]),
    Cursor.next_eq, Position.after_append]
  rfl

private theorem skip_comment {body r : List Char} (hbody : '\n' ∉ body) (filename : String)
    (p : Position) (hr : ∀ d ∈ r.head?, d = '\n') :
    (skip (⟨filename, p, '#' :: (body ++ r)⟩ : Cursor)).rest =
      (skip ⟨filename, p.after ('#' :: (body ++ r.take 1)), r.drop 1⟩).rest := by
  have hline : '\n' ∉ '#' :: body := by simp [hbody]
  have hstop : pastBlanks (⟨filename, p, '#' :: (body ++ r)⟩ : Cursor) =
      ⟨filename, p, '#' :: (body ++ r)⟩ := pastBlanks_of_stop (by
    intro c hc
    obtain rfl : '#' = c := by simpa [Cursor.peek_eq] using hc
    decide)
  have hpeek : Source.peek (⟨filename, p, '#' :: (body ++ r)⟩ : Cursor) = some '#' := rfl
  have hpast := pastLine_append hline filename p hr
  rw [List.cons_append] at hpast
  rw [skip, hstop, skipAfter]
  simp only [hpeek, ↓reduceDIte]
  rw [hpast, skipAfter_eq]
  rfl

theorem skip_append {g : List Char} (hg : IsGap g) (filename : String) (p : Position)
    (r : List Char) :
    (skip (⟨filename, p, g ++ r⟩ : Cursor)).rest = (skip ⟨filename, p.after g, r⟩).rest := by
  induction hg generalizing p with
  | nil => rfl
  | @blank c g hc _ ih =>
    rw [List.cons_append, skip_blank hc, ih, Position.after_cons]
  | @comment body g hbody _ ih =>
    have hskip := skip_comment (r := '\n' :: (g ++ r)) hbody filename p (by simp)
    have htext : '#' :: (body ++ '\n' :: g) = '#' :: (body ++ ['\n']) ++ g := by simp
    simp only [List.take_succ_cons, List.take_zero, List.drop_succ_cons, List.drop_zero] at hskip
    rw [htext, Position.after_append, ← ih, ← hskip]
    simp

theorem skip_gap {g r : List Char} (hg : IsGap g) (filename : String) (p : Position)
    (hr : ∀ c ∈ r.head?, startsGap c = false) :
    (skip (⟨filename, p, g ++ r⟩ : Cursor)).rest = ⟨filename, p.after g, r⟩ := by
  rw [skip_append hg, skip_of_stop hr]

theorem skip_lastGap {g : List Char} (hg : IsLastGap g) (filename : String) (p : Position) :
    (skip (⟨filename, p, g⟩ : Cursor)).rest = ⟨filename, p.after g, []⟩ := by
  cases hg with
  | closed hg =>
    have := skip_gap (r := []) hg filename p (by simp)
    simpa using this
  | @unended g body hg hbody =>
    have hskip := skip_comment (r := []) hbody filename (p.after g) (by simp)
    simp only [List.append_nil, List.take_nil, List.drop_nil] at hskip
    rw [skip_append hg, hskip, Position.after_append, skip_of_stop (by simp [Cursor.peek_eq])]

private theorem stop_of_skip (s : Cursor) :
    ∀ c ∈ (skip s).rest.rest.head?, startsGap c = false := by
  obtain ⟨filename, p, text⟩ := s
  rcases exists_gap text with hlast | ⟨g, c, r, rfl, hg, hc⟩
  · rw [skip_lastGap hlast]
    simp
  · have hr : ∀ d ∈ (c :: r).head?, startsGap d = false := by simpa using hc
    rw [skip_gap hg filename p hr]
    exact hr

theorem skip_skip (s : Cursor) : skip (skip s).rest = ⟨[], (skip s).rest⟩ :=
  skip_of_stop (stop_of_skip s)

end Gap

theorem IsGap.append_inj {g g' r r' : List Char} (hg : IsGap g) (hg' : IsGap g')
    (hr : ∀ c ∈ r.head?, startsGap c = false) (hr' : ∀ c ∈ r'.head?, startsGap c = false)
    (h : g ++ r = g' ++ r') : g = g' ∧ r = r' := by
  have hskip := Gap.skip_gap hg "" .start hr
  rw [h, Gap.skip_gap hg' "" .start hr'] at hskip
  obtain rfl : r' = r := congrArg Cursor.rest hskip
  exact ⟨List.append_cancel_right h, rfl⟩

end PullLexer
