import PullLexer.Proofs.GapExchange
import PullLexer.Proofs.Locality
import PullLexer.Proofs.Progress
import PullLexer.Proofs.ReadsInTurn
/-!
# Coordinates

A coordinate names the line of the first character of its identifier, wherever a stream has been
taken before: the gap in front is skipped first, and what is looked past behind the identifier comes
later. So the coordinates of what a stream gives out go down its source line by line, and never up.
-/

namespace PullLexer

def Fragment.coords : Fragment → List Coord
  | .call c => c.coord :: c.callee.coord :: c.args.coord :: c.args.exprs.map Constant.coord
  | .decl d => d.coord :: d.type.coord :: d.type.type.coord :: d.init.coord ::
      d.bitsize.toList.map Constant.coord

namespace Lexeme

/-- The coordinates in a lexeme, at any depth. -/
def coords : Lexeme → List Coord
  | token (.ident _ coord) => [coord]
  | token _ => []
  | fragment f => f.coords

/-- The name of an identifier, be it a token or shaped. -/
def name? : Lexeme → Option String
  | token (.ident name _) => some name
  | token _ => none
  | fragment f => some f.name

/-- The lexeme has a coordinate, and has it all through. -/
structure StandsAt (l : Lexeme) (coord : Coord) : Prop where
  mem : coord ∈ l.coords
  eq : ∀ c ∈ l.coords, c = coord

end Lexeme

private theorem Fragment.standsAt_ofIdentifier (name : String) (coord : Coord) (isCall : Bool) :
    (Lexeme.fragment (.ofIdentifier name coord isCall)).StandsAt coord := by
  cases isCall <;> constructor <;>
    simp [ofIdentifier, Lexeme.coords, coords, FuncCall.ofName, Decl.ofName]

section Spelled

variable {strict : Bool} {coord : Coord} {t r : List Char}

private theorem Spells.of_ident {name : String} {coord' : Coord}
    (h : Spells strict coord t r (.ident name coord')) :
    coord' = coord ∧ name.toList = t ∧ Longest (IsRun .idStart .id) t r := by
  generalize htok : Token.ident name coord' = tok at h
  cases h with
  | word ht =>
    rcases Token.ofWord_cases (String.ofList t) coord with hword | hword | hword
    · simp [hword] at htok
    · simp [hword] at htok
    · simp only [hword, Token.ident.injEq] at htok
      exact ⟨htok.2, by rw [htok.1, String.toList_ofList], ht⟩
  | _ => simp at htok

private theorem DeliveredAs.of_name {mode : IdentifierMode} {tok : Token} {l : Lexeme}
    {name : String} (h : DeliveredAs mode tok l) (hname : l.name? = some name) :
    ∃ coord, tok = .ident name coord ∧ l.StandsAt coord := by
  cases h with
  | token _ =>
    cases tok with
    | ident name' coord =>
      simp only [Lexeme.name?, Option.some.injEq] at hname
      rw [hname]
      exact ⟨coord, rfl, by simp [Lexeme.coords], by simp [Lexeme.coords]⟩
    | _ => simp [Lexeme.name?] at hname
  | @shaped name' coord isCall _ =>
    simp only [Lexeme.name?, Fragment.name_ofIdentifier, Option.some.injEq] at hname
    rw [hname]
    exact ⟨coord, rfl, Fragment.standsAt_ofIdentifier _ _ _⟩

private theorem DeliveredAs.coords_eq_nil {mode : IdentifierMode} {tok : Token} {l : Lexeme}
    (h : DeliveredAs mode tok l) (hname : l.name? = none) : l.coords = [] := by
  cases h with
  | token _ => cases tok <;> simp_all [Lexeme.name?, Lexeme.coords]
  | shaped _ => simp [Lexeme.name?] at hname

end Spelled

namespace Reading

/-- An identifier that is read is spelled behind a gap, and stands on the line behind that gap. -/
theorem lexeme_named {config : Config} {s : Cursor} {l : Lexeme} {name : String}
    (h : (lexeme config s).result = .ok (some l)) (hname : l.name? = some name) :
    ∃ g r, s.rest = g ++ (name.toList ++ r) ∧ IsGap g ∧ Longest (IsRun .idStart .id) name.toList r ∧
      l.StandsAt ⟨s.filename, (s.position.after g).line⟩ := by
  obtain ⟨g, t, r, tok, hrest, hg, ht, hdelivered⟩ := spelled_of_lexeme h
  obtain ⟨coord, rfl, hstands⟩ := hdelivered.of_name hname
  obtain ⟨rfl, rfl, hlongest⟩ := ht.of_ident
  exact ⟨g, r, hrest, hg, hlongest, hstands⟩

end Reading

namespace Cursor

private theorem filename_kept (filename : String) :
    Source.Keeps (fun s : Cursor => s.filename = filename) fun s => s.filename = filename := by
  apply Source.Keeps.of_next
  intro s h
  rwa [next_eq]

private theorem line_kept (line : Nat) :
    Source.Keeps (fun s : Cursor => line ≤ s.position.line) fun s => line ≤ s.position.line := by
  apply Source.Keeps.of_next
  intro s h
  rw [next_eq, position_drop, Position.line_after]
  omega

end Cursor

/-- The coordinates of the lexemes go down the lines from `first` to `last`. -/
structure Descends (first : Nat) (ls : List Lexeme) (last : Nat) : Prop where
  le : first ≤ last
  within : ∀ c ∈ ls.flatMap Lexeme.coords, first ≤ c.line ∧ c.line ≤ last
  sorted : (ls.flatMap Lexeme.coords).Pairwise fun c c' => c.line ≤ c'.line

namespace Descends

variable {first mid last : Nat} {ls ls' : List Lexeme}

private theorem nil (h : first ≤ last) : Descends first [] last := ⟨h, by simp, by simp⟩

private theorem append (h : Descends first ls mid) (h' : Descends mid ls' last) :
    Descends first (ls ++ ls') last where
  le := Nat.le_trans h.le h'.le
  within := by
    intro c hc
    rw [List.flatMap_append, List.mem_append] at hc
    cases hc with
    | inl hc => exact ⟨(h.within c hc).1, Nat.le_trans (h.within c hc).2 h'.le⟩
    | inr hc => exact ⟨Nat.le_trans h.le (h'.within c hc).1, (h'.within c hc).2⟩
  sorted := by
    rw [List.flatMap_append, List.pairwise_append]
    refine ⟨h.sorted, h'.sorted, ?_⟩
    intro c hc c' hc'
    exact Nat.le_trans (h.within c hc).2 (h'.within c' hc').1

private theorem of_standsAt {l : Lexeme} {coord : Coord} (h : l.StandsAt coord)
    (hfirst : first ≤ coord.line) (hlast : coord.line ≤ last) : Descends first [l] last where
  le := Nat.le_trans hfirst hlast
  within := by
    intro c hc
    rw [List.flatMap_singleton] at hc
    rw [h.eq c hc]
    exact ⟨hfirst, hlast⟩
  sorted := by
    rw [List.flatMap_singleton]
    apply List.pairwise_of_forall_mem_list
    intro c hc c' hc'
    rw [h.eq c hc, h.eq c' hc']

end Descends

namespace Reading

/-- What is read stands between the lines on which the read starts and ends. -/
theorem lexeme_descends (config : Config) (s : Cursor) :
    Descends s.position.line (LexemeStream.shownSlot (lexeme config s).result).toList
      (lexeme config s).rest.position.line := by
  have hkeeps (line : Nat) (h : line ≤ (Gap.skip s).rest.position.line) :
      line ≤ (lexeme config s).rest.position.line := (Cursor.line_kept line).lexeme config h
  have hle : s.position.line ≤ (lexeme config s).rest.position.line :=
    hkeeps _ ((Cursor.line_kept _).skip (Nat.le_refl _))
  cases hresult : (lexeme config s).result with
  | error e => exact .nil hle
  | ok l? =>
    cases l? with
    | none => exact .nil hle
    | some l =>
      cases hname : l.name? with
      | none =>
        obtain ⟨g, t, r, tok, -, -, -, hdelivered⟩ := spelled_of_lexeme hresult
        have hcoords := hdelivered.coords_eq_nil hname
        exact ⟨hle, by simp [LexemeStream.shownSlot, hcoords],
          by simp [LexemeStream.shownSlot, hcoords]⟩
      | some name =>
        obtain ⟨g, r, hrest, hg, hlongest, hstands⟩ := lexeme_named hresult hname
        obtain ⟨c, u, hu, hc⟩ := hlongest.form.first
        have hskip : (Gap.skip s).rest = ⟨s.filename, s.position.after g, name.toList ++ r⟩ := by
          rw [← Gap.skip_gap hg s.filename s.position, ← hrest]
          rw [hu]
          simpa using (CharClass.apart_of_idStart hc).2.1
        refine .of_standsAt hstands ?_ (hkeeps _ ?_)
        · rw [Position.line_after]
          exact Nat.le_add_right _ _
        · rw [hskip]

end Reading

theorem ReadsInTurn.descends {config : Config} {s last : Cursor}
    {results : List (Except LexError (Option Lexeme))} (h : ReadsInTurn config s results last) :
    Descends s.position.line (results.filterMap LexemeStream.shownSlot) last.position.line := by
  induction h with
  | nil => exact .nil (Nat.le_refl _)
  | @read s last results _ ih =>
    have happend := (Reading.lexeme_descends config s).append ih
    rw [List.filterMap_cons]
    cases hshown : LexemeStream.shownSlot (Reading.lexeme config s).result with
    | none => simpa [hshown] using happend
    | some l => simpa [hshown] using happend

/-- An identifier comes next in what is left of a source, behind a gap, and the lexeme has all its
coordinates on the line there. -/
inductive IdentifierAhead (filename : String) (source left : List Char) (name : String)
    (l : Lexeme) : Prop
  | mk {before g r : List Char} : source = before ++ left → left = g ++ (name.toList ++ r) →
      IsGap g → Longest (IsRun .idStart .id) name.toList r →
      l.StandsAt ⟨filename, 1 + (before ++ g).count '\n'⟩ →
      IdentifierAhead filename source left name l

/-- Wherever a stream has been taken, an identifier that is read next has its coordinates on the
line of its first character. So the lines of the coordinates never decrease, in what any row of
pulls delivers and in what is drained after it. -/
theorem coordinates_name_lines (config : Config) (filename source : String) (calls : List Pull) :
    (∀ l name,
      (Reading.lexeme config
        ((LexemeStream.ofText config filename source).after calls).input).result = .ok (some l) →
      l.name? = some name →
      IdentifierAhead filename source.toList
        ((LexemeStream.ofText config filename source).after calls).input.rest name l) ∧
      ((Pull.given calls ((LexemeStream.ofText config filename source).answers calls) ++
        ((LexemeStream.ofText config filename source).after calls).drain.lexemes).flatMap
          Lexeme.coords).Pairwise fun c c' => c.line ≤ c'.line := by
  constructor
  · intro l name hread hname
    obtain ⟨before, hsource, hposition⟩ := LexemeStream.after_keeps
      (Cursor.cameThrough_kept source.toList)
      (s := LexemeStream.ofText config filename source) ⟨[], rfl, rfl⟩ calls
    have hfilename := LexemeStream.after_keeps (Cursor.filename_kept filename)
      (s := LexemeStream.ofText config filename source) rfl calls
    obtain ⟨g, r, hrest, hg, hlongest, hstands⟩ := Reading.lexeme_named hread hname
    rw [hfilename, hposition, ← Position.after_append, Position.line_after] at hstands
    exact .mk hsource hrest hg hlongest hstands
  · obtain ⟨results, hreads, hgiven⟩ :=
      LexemeStream.ofSource_reads config (Cursor.ofString filename source) calls
    have hsorted := hreads.descends.sorted
    rw [hgiven, List.flatMap_append, List.pairwise_append] at hsorted
    exact hsorted.1

/-- The lines behind a call are counted through its string literal and a comment, while the stream
holds the literal. -/
theorem coordinates_name_lines_behind_literal :
    let source := "f\n(\x22\n\x22 # c\né"
    let stream := (LexemeStream.ofText {} "a.HC" source).after [.next, .next, .eof]
    let l := Lexeme.fragment (.ofIdentifier "é" ⟨"a.HC", 4⟩ false)
    (Reading.lexeme {} stream.input).result = .ok (some l) ∧ l.name? = some "é" ∧
      IdentifierAhead "a.HC" source.toList stream.input.rest "é" l := by
  intro source stream l
  have hread : (Reading.lexeme {} stream.input).result = .ok (some l) := by decide +kernel
  have hlines := coordinates_name_lines {} "a.HC" source [.next, .next, .eof]
  exact ⟨hread, rfl, hlines.1 l "é" hread rfl⟩

end PullLexer
