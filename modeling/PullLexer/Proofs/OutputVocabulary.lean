import Mathlib.Data.List.Chain
import PullLexer.Proofs.ReadsInTurn
/-!
# The vocabulary of streams

What a stream can deliver, over any source. The characters that are taken may be unrelated to those
that are shown, so that nothing is known of a text but what was decided on the whole of it; what was
shown right before a read decides what the read starts with. So the call of an identifier is always
followed by its opening parenthesis, however the stream is pulled.
-/

namespace PullLexer

/-- A lexeme that may be delivered in this mode, where identifiers can stand as `Stands` says. -/
inductive InVocabulary (mode : IdentifierMode) (Stands : Coord → Prop) : Lexeme → Prop
  | num (n : Number) : InVocabulary mode Stands (.token (.num n))
  | str (text : String) : InVocabulary mode Stands (.token (.str text))
  | op (text : String) : InVocabulary mode Stands (.token (.op text))
  | keyword {text : String} : Vocabulary.isKeyword text = true →
      InVocabulary mode Stands (.token (.keyword text))
  | datatype {text : String} : Vocabulary.isDatatype text = true →
      InVocabulary mode Stands (.token (.datatype text))
  | punc {c : Char} : CharClass.punc.holds c = true →
      InVocabulary mode Stands (.token (.punc c.toString))
  | ident {name : String} {coord : Coord} : mode = .plain → Vocabulary.isKeyword name = false →
      Vocabulary.isDatatype name = false → Stands coord →
      InVocabulary mode Stands (.token (.ident name coord))
  | fragment {f : Fragment} : mode = .fragments → Vocabulary.isKeyword f.name = false →
      Vocabulary.isDatatype f.name = false → Stands f.coord →
      f = .ofIdentifier f.name f.coord f.isCall → InVocabulary mode Stands (.fragment f)

/-- The result of a read and that of the next one: a call is followed by its parenthesis. -/
def OpensCall (result later : Except LexError (Option Lexeme)) : Prop :=
  ∀ call, result = .ok (some (.fragment (.call call))) → later = .ok (some (.token (.punc "(")))

section AnySource

variable {σ : Type} [Source σ] {config : Config} {input : σ} {Stands : Coord → Prop}

namespace Reading

private theorem word_inVocabulary {mode : IdentifierMode} {l : Lexeme}
    (hstands : Stands (Source.coord input)) (h : (word mode input).result = .ok l) :
    InVocabulary mode Stands l := by
  have hworded := wordedBy input mode
  generalize word mode input = reading at h hworded
  cases hworded with
  | keyword hkeyword =>
    rw [← Except.ok.inj h]
    exact .keyword hkeyword
  | datatype hdatatype =>
    rw [← Except.ok.inj h]
    exact .datatype hdatatype
  | ident hmode hkeyword hdatatype =>
    rw [← Except.ok.inj h]
    exact .ident hmode hkeyword hdatatype hstands
  | fragment hmode hkeyword hdatatype =>
    rw [← Except.ok.inj h]
    apply InVocabulary.fragment hmode
    · rwa [Fragment.name_ofIdentifier]
    · rwa [Fragment.name_ofIdentifier]
    · rwa [Fragment.coord_ofIdentifier]
    · rw [Fragment.name_ofIdentifier, Fragment.coord_ofIdentifier, Fragment.isCall_ofIdentifier]

theorem lexeme_inVocabulary {l : Lexeme}
    (hstands : Source.peek (Gap.skip input).rest ≠ none →
      Stands (Source.coord (Gap.skip input).rest))
    (h : (lexeme config input).result = .ok (some l)) :
    InVocabulary config.identifierMode Stands l := by
  obtain ⟨c, reading, hpeek, hstarted, hresult, -⟩ := startedBy_of_lexeme h
  cases hstarted with
  | string _ =>
    obtain ⟨text, rfl⟩ := string_ok hresult
    exact .str text
  | number _ =>
    obtain ⟨n, rfl⟩ := number_ok hresult
    exact .num n
  | word _ => exact word_inVocabulary (hstands (by simp [hpeek])) hresult
  | punc hpunc =>
    rw [← Except.ok.inj hresult]
    exact .punc hpunc
  | operator _ =>
    rw [← Except.ok.inj hresult]
    exact .op _
  | refusal => simp [refusal] at hresult

private theorem peek_of_word_call {mode : IdentifierMode} {call : FuncCall}
    (h : (word mode input).result = .ok (.fragment (.call call))) :
    Source.peek (word mode input).rest = some '(' := by
  have hworded := wordedBy input mode
  generalize word mode input = reading at h hworded ⊢
  cases hworded with
  | keyword _ => simp at h
  | datatype _ => simp at h
  | ident _ _ _ => simp at h
  | @fragment text behind _ _ _ =>
    cases hcall : (Gap.callAhead behind).1 with
    | false => simp [hcall, Fragment.ofIdentifier] at h
    | true => simpa [Gap.callAhead] using hcall

private theorem peek_of_call {call : FuncCall}
    (h : (lexeme config input).result = .ok (some (.fragment (.call call)))) :
    Source.peek (lexeme config input).rest = some '(' := by
  obtain ⟨c, reading, -, hstarted, hresult, hrest⟩ := startedBy_of_lexeme h
  rw [hrest]
  cases hstarted with
  | string _ =>
    obtain ⟨text, htext⟩ := string_ok hresult
    simp at htext
  | number _ =>
    obtain ⟨n, hn⟩ := number_ok hresult
    simp at hn
  | word _ => exact peek_of_word_call hresult
  | punc _ => simp [punc] at hresult
  | operator _ => simp [operator] at hresult
  | refusal => simp [refusal] at hresult

private theorem lexeme_of_peek (config : Config) (h : Source.peek input = some '(') :
    (lexeme config input).result = .ok (some (.token (.punc "("))) := by
  have hgap : ∀ c ∈ Source.peek input, startsGap c = false := by
    intro c hc
    rw [h, Option.mem_some_iff] at hc
    rw [← hc]
    decide
  have hskip : (Gap.skip input).rest = input := by rw [Gap.skip_of_stop hgap]
  rw [(lexeme_of_start (hskip.symm ▸ h)).1, starting_punc _ _ (by decide +kernel)]
  rfl

end Reading

namespace ReadsInTurn

variable {last : σ} {results : List (Except LexError (Option Lexeme))}

theorem inVocabulary {P : σ → Prop} (hkeeps : Source.Keeps P P)
    (hstands : ∀ s, P s → Source.peek s ≠ none → Stands (Source.coord s))
    (h : ReadsInTurn config input results last) (hP : P input) :
    ∀ l ∈ results.filterMap LexemeStream.shownSlot,
      InVocabulary config.identifierMode Stands l := by
  induction h with
  | nil => simp
  | @read input last results _ ih =>
    have hskip : P (Gap.skip input).rest := hkeeps.skip hP
    intro l hl
    rw [List.mem_filterMap] at hl
    obtain ⟨result, hmem, hshown⟩ := hl
    cases List.mem_cons.1 hmem with
    | inl hfirst =>
      rw [hfirst] at hshown
      cases hresult : (Reading.lexeme config input).result with
      | error e => simp [hresult, LexemeStream.shownSlot] at hshown
      | ok l? =>
        apply Reading.lexeme_inVocabulary (hstands _ hskip)
        rw [hresult] at hshown ⊢
        exact congrArg _ hshown
    | inr hlater =>
      exact ih (hkeeps.lexeme config hskip) l (List.mem_filterMap.2 ⟨result, hlater, hshown⟩)

theorem opensCall (h : ReadsInTurn config input results last) : results.IsChain OpensCall := by
  induction h with
  | nil => exact .nil
  | @read input last results hrest ih =>
    -- The call leaves its parenthesis to be shown, where the next read starts, if there is one.
    rw [List.isChain_cons]
    refine ⟨?_, ih⟩
    intro later hlater call hcall
    cases hrest with
    | nil => simp at hlater
    | read _ =>
      rw [← Option.some.inj hlater]
      exact Reading.lexeme_of_peek config (Reading.peek_of_call hcall)

end ReadsInTurn

end AnySource

/-- What is left of the script is the end of these cells. -/
structure Script.OfCells (filename : String) (cells : List Cell) (s : Script) : Prop where
  filename : s.filename = filename
  rest : s.rest <:+ cells

/-- The coordinate is that of a cell. -/
structure Coord.OfCells (filename : String) (cells : List Cell) (coord : Coord) : Prop where
  filename : coord.filename = filename
  line : coord.line ∈ cells.map Cell.line

namespace Script.OfCells

variable {filename : String} {cells : List Cell}

private theorem kept : Source.Keeps (OfCells filename cells) (OfCells filename cells) := by
  apply Source.Keeps.of_next
  intro s h
  obtain ⟨file, index, rest⟩ := s
  cases rest with
  | nil => exact h
  | cons cell rest => exact ⟨h.filename, (List.suffix_cons cell rest).trans h.rest⟩

private theorem coord {s : Script} (h : OfCells filename cells s) (hshown : Source.peek s ≠ none) :
    (Source.coord s).OfCells filename cells := by
  refine ⟨h.filename, ?_⟩
  obtain ⟨file, index, rest⟩ := s
  cases rest with
  | nil => exact absurd rfl hshown
  | cons cell rest => exact List.mem_map_of_mem (h.rest.subset List.mem_cons_self)

end Script.OfCells

/-- Over a script whose cells show and hand out what they like, pulled in any order and drained at
the end, a stream delivers what is in the vocabulary, with its identifiers on the lines of cells. Of
the reads that the pulls make, the first one after a call gives its parenthesis. -/
theorem scripts_deliver_vocabulary (config : Config) (filename : String) (cells : List Cell)
    (calls : List Pull) :
    (∀ l ∈
      Pull.given calls
        ((LexemeStream.ofSource (Script.ofCells filename cells) config).answers calls) ++
      ((LexemeStream.ofSource (Script.ofCells filename cells) config).after calls).drain.lexemes,
      InVocabulary config.identifierMode (Coord.OfCells filename cells) l) ∧
      ((LexemeStream.ofSource (Script.ofCells filename cells) config).reads calls).IsChain
        OpensCall := by
  constructor
  · intro l hl
    obtain ⟨results, hreads, hgiven⟩ :=
      LexemeStream.ofSource_reads config (Script.ofCells filename cells) calls
    apply hreads.inVocabulary Script.OfCells.kept (fun s hs => hs.coord) ⟨rfl, List.suffix_rfl⟩
    rw [hgiven]
    exact List.mem_append_left _ hl
  · exact ((LexemeStream.ofSource (Script.ofCells filename cells) config).after_reads
      calls).1.opensCall

/-- An identifier that hands out no character is still called by the parenthesis that is shown, and
characters that are handed out can make up a keyword where others were shown. -/
theorem scripts_deliver_vocabulary_of_cells :
    let cells : List Cell := [⟨some 'f', some 'i', 7⟩, ⟨some 'g', some 'f', 8⟩, ⟨some '_', none, 8⟩,
      ⟨some 'f', none, 9⟩, ⟨some '(', some 'x', 9⟩]
    let stream := LexemeStream.ofSource (Script.ofCells "a.HC" cells) {}
    let calls : List Pull := [.next, .peek, .next, .eof]
    let l := Lexeme.fragment (.ofIdentifier "" ⟨"a.HC", 9⟩ true)
    l ∈ Pull.given calls (stream.answers calls) ++ (stream.after calls).drain.lexemes ∧
      InVocabulary .fragments (Coord.OfCells "a.HC" cells) l ∧
      stream.reads calls = [.ok (some (.token (.keyword "if"))), .ok (some l),
        .ok (some (.token (.punc "(")))] ∧
      (stream.reads calls).IsChain OpensCall := by
  intro cells stream calls l
  have hgiven : l ∈ Pull.given calls (stream.answers calls) := by decide +kernel
  have hl : l ∈ Pull.given calls (stream.answers calls) ++ (stream.after calls).drain.lexemes :=
    List.mem_append_left _ hgiven
  obtain ⟨hvocabulary, hopens⟩ := scripts_deliver_vocabulary {} "a.HC" cells calls
  exact ⟨hl, hvocabulary l hl, by decide +kernel, hopens⟩

end PullLexer
