import PullLexer.Scan.Gap
import PullLexer.Source.Cursor
/-!
# Longest runs

A run by a rule takes exactly the text over which the rule was followed, once the rule refuses
what comes next. A longest beginning of a form is recognised by its next character alone when the
form is closed under beginnings.
-/

namespace PullLexer

/-- `t` is the longest beginning of `t ++ r` that has the form `P`. -/
structure Longest (P : List Char → Prop) (t r : List Char) : Prop where
  form : P t
  greatest : ∀ u, u <+: t ++ r → P u → u.length ≤ t.length

/-- Whatever begins a text of the form `P`, the empty text apart, has the form itself. -/
def BeginningClosed (P : List Char → Prop) : Prop :=
  ∀ u v, u ≠ [] → P (u ++ v) → P u

theorem longest_iff_next {P : List Char → Prop} (hP : BeginningClosed P) {t r : List Char} :
    Longest P t r ↔ P t ∧ ∀ d ∈ r.head?, ¬ P (t ++ [d]) := by
  constructor
  · intro h
    refine ⟨h.form, ?_⟩
    intro d hd hPd
    obtain ⟨r', rfl⟩ := List.head?_eq_some_iff.1 (Option.mem_def.1 hd)
    have hle := h.greatest (t ++ [d]) ⟨r', by simp⟩ hPd
    simp only [List.length_append, List.length_singleton] at hle
    omega
  · rintro ⟨ht, hnext⟩
    refine ⟨ht, ?_⟩
    intro u hu hPu
    by_cases hlen : u.length ≤ t.length
    · exact hlen
    · obtain ⟨v, rfl⟩ := List.prefix_of_prefix_length_le (List.prefix_append t r) hu (by omega)
      cases v with
      | nil => simp at hlen
      | cons d v =>
        have hd : d ∈ r.head? := by
          obtain ⟨w, hw⟩ := hu
          rw [List.append_assoc, List.append_cancel_left_eq] at hw
          simp [← hw]
        have hPd : P ((t ++ [d]) ++ v) := by simpa using hPu
        exact absurd (hP (t ++ [d]) v (by simp) hPd) (hnext d hd)

theorem Longest.of_head {P : List Char → Prop} (hP : BeginningClosed P) {t r r' : List Char}
    (h : Longest P t r) (hr : ∀ d ∈ r'.head?, d ∈ r.head?) : Longest P t r' := by
  obtain ⟨ht, hnext⟩ := (longest_iff_next hP).1 h
  exact (longest_iff_next hP).2 ⟨ht, fun d hd => hnext d (hr d hd)⟩

namespace Run

variable {β : Type}

theorem takeBy_append (rule : β → Char → Option β) {b b' : β} {t r : List Char}
    (filename : String) (p : Position) (taken : List Char) (ht : t.foldlM rule b = some b')
    (hr : ∀ d ∈ r.head?, rule b' d = none) :
    takeBy rule b (⟨filename, p, t ++ r⟩ : Cursor) taken =
      ⟨taken.reverse ++ t, b', ⟨filename, p.after t, r⟩⟩ := by
  induction t generalizing b p taken with
  | nil =>
    obtain rfl : b = b' := by simpa using ht
    rw [takeBy]
    cases r with
    | nil => simp [Source.peek, Position.after]
    | cons d r =>
      have hd : rule b d = none := hr d (by simp)
      simp [Source.peek, Position.after, hd]
  | cons c t ih =>
    rw [List.foldlM_cons] at ht
    obtain ⟨b₁, hc, ht⟩ := Option.bind_eq_some_iff.1 ht
    have moved : Source.next (⟨filename, p, c :: (t ++ r)⟩ : Cursor) =
        (some c, ⟨filename, p.afterChar c, t ++ r⟩) := rfl
    rw [List.cons_append, takeBy]
    simp [Source.peek, moved, hc, ih (p.afterChar c) (c :: taken) ht, Position.after_cons]

theorem takeWhile_append {q : Char → Bool} {t r : List Char} (filename : String) (p : Position)
    (ht : ∀ c ∈ t, q c = true) (hr : ∀ d ∈ r.head?, q d = false) :
    takeWhile q (⟨filename, p, t ++ r⟩ : Cursor) = ⟨t, (), ⟨filename, p.after t, r⟩⟩ := by
  have hfold : t.foldlM (fun (_ : Unit) c => if q c then some () else none) () = some () := by
    clear hr
    induction t with
    | nil => rfl
    | cons c t ih =>
      have hc : q c = true := ht c (by simp)
      have htail := ih fun d hd => ht d (by simp [hd])
      simpa [List.foldlM_cons, hc] using htail
  rw [takeWhile, takeBy_append _ filename p [] hfold]
  · rfl
  · intro d hd
    simp [hr d hd]

theorem exists_followed (rule : β → Char → Option β) (b : β) (text : List Char) :
    ∃ t r b', text = t ++ r ∧ t.foldlM rule b = some b' ∧ ∀ d ∈ r.head?, rule b' d = none := by
  induction text generalizing b with
  | nil => exact ⟨[], [], b, rfl, rfl, by simp⟩
  | cons c text ih =>
    cases hc : rule b c with
    | none => exact ⟨[], c :: text, b, rfl, rfl, by simp [hc]⟩
    | some b₁ =>
      obtain ⟨t, r, b', rfl, ht, hr⟩ := ih b₁
      refine ⟨c :: t, r, b', rfl, ?_, hr⟩
      rw [List.foldlM_cons, hc]
      exact ht

theorem exists_while (q : Char → Bool) (text : List Char) :
    ∃ t r, text = t ++ r ∧ (∀ c ∈ t, q c = true) ∧ ∀ d ∈ r.head?, q d = false := by
  refine ⟨text.takeWhile q, text.dropWhile q, List.takeWhile_append_dropWhile.symm, ?_, ?_⟩
  · intro c hc
    exact List.all_eq_true.1 List.all_takeWhile c hc
  · intro d hd
    have := List.head?_dropWhile_not q text
    rw [Option.mem_def.1 hd] at this
    simpa using this

end Run

end PullLexer
