import PullLexer.Proofs.Reads
/-!
# String literals

A string literal writes its characters one by one, each with a backslash before it or without, as
the writer likes; quotes and backslashes need one. What is written decides what is held, and a text
starts with one literal at most: the backslashes tell which quote closes it.
-/

namespace PullLexer

/-- A character as it is written in a string literal, after a backslash or without one. -/
@[ext]
structure LiteralChar where
  char : Char
  escaped : Bool
  marked : char = stringQuote ∨ char = '\\' → escaped = true

/-- How a string literal ends: with a quote, or with the source, there after a last backslash or
without one. -/
inductive LiteralEnd
  | quote
  | source
  | backslash

def LiteralChar.text (c : LiteralChar) : List Char := if c.escaped then ['\\', c.char] else [c.char]

private theorem LiteralChar.text_of_escaped {c : LiteralChar} (h : c.escaped = true) :
    c.text = ['\\', c.char] := by
  simp [text, h]

private theorem LiteralChar.text_of_plain {c : LiteralChar} (h : c.escaped = false) :
    c.text = [c.char] ∧ c.char ≠ stringQuote ∧ c.char ≠ '\\' := by
  have hmarked := c.marked
  rw [h] at hmarked
  simpa [text, h] using hmarked

def LiteralEnd.text : LiteralEnd → List Char
  | quote => [stringQuote]
  | source => []
  | backslash => ['\\']

def literalText (chars : List LiteralChar) (ending : LiteralEnd) : List Char :=
  stringQuote :: (chars.flatMap LiteralChar.text ++ ending.text)

/-- A string literal that comes next in a text, behind a gap. Where open strings are kept it may end
with the source. -/
structure StringLiteral (strict : Bool) (text : List Char) where
  gap : List Char
  chars : List LiteralChar
  ending : LiteralEnd
  rest : List Char
  isGap : IsGap gap
  written : text = gap ++ (literalText chars ending ++ rest)
  kept : ending ≠ .quote → strict = false ∧ rest = []

/-- What the literal holds. -/
def StringLiteral.held {strict : Bool} {text : List Char} (lit : StringLiteral strict text) :
    String := String.ofList (lit.chars.map LiteralChar.char)

section Bodies

private theorem unescapes_chars (chars : List LiteralChar) :
    Unescapes (chars.flatMap LiteralChar.text) (chars.map LiteralChar.char) := by
  induction chars with
  | nil => exact .nil
  | cons c chars ih =>
    rw [List.flatMap_cons, List.map_cons]
    cases hescaped : c.escaped with
    | true =>
      rw [LiteralChar.text_of_escaped hescaped]
      exact .escaped ih
    | false =>
      obtain ⟨htext, hquote, hslash⟩ := LiteralChar.text_of_plain hescaped
      rw [htext]
      exact .plain hslash hquote ih

private theorem Unescapes.exists_chars {b held : List Char} (h : Unescapes b held) :
    ∃ chars : List LiteralChar,
      b = chars.flatMap LiteralChar.text ∧ held = chars.map LiteralChar.char := by
  induction h with
  | nil => exact ⟨[], rfl, rfl⟩
  | @plain c b held hslash hquote _ ih =>
    obtain ⟨chars, rfl, rfl⟩ := ih
    exact ⟨⟨c, false, by simp [hslash, hquote]⟩ :: chars, rfl, rfl⟩
  | @escaped c b held _ ih =>
    obtain ⟨chars, rfl, rfl⟩ := ih
    exact ⟨⟨c, true, by simp⟩ :: chars, rfl, rfl⟩

private theorem OpenBody.exists_chars {b held : List Char} (h : OpenBody b held) :
    ∃ (chars : List LiteralChar) (ending : LiteralEnd), ending ≠ .quote ∧
      b = chars.flatMap LiteralChar.text ++ ending.text ∧ held = chars.map LiteralChar.char := by
  cases h with
  | whole hb =>
    obtain ⟨chars, rfl, rfl⟩ := hb.exists_chars
    exact ⟨chars, .source, by simp, by simp [LiteralEnd.text], rfl⟩
  | dangling hb =>
    obtain ⟨chars, rfl, rfl⟩ := hb.exists_chars
    exact ⟨chars, .backslash, by simp, rfl, rfl⟩

private theorem Spells.of_str {strict : Bool} {coord : Coord} {t r : List Char} {text : String}
    (h : Spells strict coord t r (.str text)) :
    ∃ chars ending, t = literalText chars ending ∧ (ending ≠ .quote → strict = false ∧ r = []) ∧
      text = String.ofList (chars.map LiteralChar.char) := by
  generalize htok : Token.str text = tok at h
  cases h with
  | word _ => rcases Token.ofWord_cases (String.ofList t) coord with hword | hword | hword <;>
      simp [hword] at htok
  | str hb =>
    obtain ⟨chars, rfl, rfl⟩ := hb.exists_chars
    exact ⟨chars, .quote, rfl, by simp, Token.str.inj htok⟩
  | openStr hstrict hb =>
    obtain ⟨chars, ending, -, rfl, rfl⟩ := hb.exists_chars
    exact ⟨chars, ending, rfl, fun _ => ⟨hstrict, rfl⟩, Token.str.inj htok⟩
  | _ => simp at htok

end Bodies

section Unique

variable {c c' : LiteralChar} {ending ending' : LiteralEnd} {r r' : List Char}

private theorem LiteralChar.text_append_inj (h : c.text ++ r = c'.text ++ r') :
    c = c' ∧ r = r' := by
  cases hescaped : c.escaped with
  | true =>
    cases hescaped' : c'.escaped with
    | true =>
      rw [text_of_escaped hescaped, text_of_escaped hescaped'] at h
      obtain ⟨hchar, hrest⟩ : c.char = c'.char ∧ r = r' := by simpa using h
      exact ⟨LiteralChar.ext hchar (hescaped.trans hescaped'.symm), hrest⟩
    | false =>
      obtain ⟨htext, -, hslash⟩ := text_of_plain hescaped'
      rw [text_of_escaped hescaped, htext] at h
      exact absurd (List.cons.inj h).1.symm hslash
  | false =>
    obtain ⟨htext, -, hslash⟩ := text_of_plain hescaped
    cases hescaped' : c'.escaped with
    | true =>
      rw [htext, text_of_escaped hescaped'] at h
      exact absurd (List.cons.inj h).1 hslash
    | false =>
      rw [htext, (text_of_plain hescaped').1] at h
      obtain ⟨hchar, hrest⟩ := List.cons.inj h
      exact ⟨LiteralChar.ext hchar (hescaped.trans hescaped'.symm), hrest⟩

private theorem LiteralEnd.text_append_ne (hr : ending ≠ .quote → r = []) :
    ending.text ++ r ≠ c.text ++ r' := by
  intro h
  cases hescaped : c.escaped with
  | true =>
    rw [LiteralChar.text_of_escaped hescaped] at h
    cases ending with
    | quote => exact absurd (List.cons.inj h).1 (by decide)
    | source => simp [text, hr] at h
    | backslash => simp [text, hr] at h
  | false =>
    obtain ⟨htext, hquote, hslash⟩ := LiteralChar.text_of_plain hescaped
    rw [htext] at h
    cases ending with
    | quote => exact absurd (List.cons.inj h).1.symm hquote
    | source => simp [text, hr] at h
    | backslash => exact absurd (List.cons.inj h).1.symm hslash

private theorem LiteralEnd.text_append_inj (hr : ending ≠ .quote → r = [])
    (hr' : ending' ≠ .quote → r' = []) (h : ending.text ++ r = ending'.text ++ r') :
    ending = ending' ∧ r = r' := by
  -- Where the source ends no character follows, so that the first character tells the end.
  have hfirst {e : LiteralEnd} {u : List Char} (hu : e ≠ .quote → u = []) :
      (e.text ++ u).head? = e.text.head? := by
    cases e with
    | quote => rfl
    | source =>
      rw [hu (by simp)]
      rfl
    | backslash => rfl
  have hsame : ending.text.head? = ending'.text.head? := by
    rw [← hfirst hr, h, hfirst hr']
  obtain rfl : ending = ending' := by
    cases ending <;> cases ending' <;> first | rfl | exact absurd hsame (by decide)
  exact ⟨rfl, List.append_cancel_left h⟩

private theorem literalText_append_inj {chars chars' : List LiteralChar}
    (hr : ending ≠ .quote → r = []) (hr' : ending' ≠ .quote → r' = [])
    (h : literalText chars ending ++ r = literalText chars' ending' ++ r') :
    chars = chars' ∧ ending = ending' ∧ r = r' := by
  simp only [literalText, List.cons_append, List.cons.injEq, true_and, List.append_assoc] at h
  -- On the characters of one literal: what comes next is a character in both or the end of both.
  induction chars generalizing chars' with
  | nil =>
    cases chars' with
    | nil => exact ⟨rfl, LiteralEnd.text_append_inj hr hr' h⟩
    | cons c' chars' =>
      rw [List.flatMap_cons, List.append_assoc] at h
      exact absurd h (LiteralEnd.text_append_ne hr)
  | cons c chars ih =>
    rw [List.flatMap_cons, List.append_assoc] at h
    cases chars' with
    | nil => exact absurd h.symm (LiteralEnd.text_append_ne hr')
    | cons c' chars' =>
      rw [List.flatMap_cons, List.append_assoc] at h
      obtain ⟨rfl, hlater⟩ := LiteralChar.text_append_inj h
      obtain ⟨rfl, hend⟩ := ih hlater
      exact ⟨rfl, hend⟩

/-- At most one literal comes next in a text. -/
theorem StringLiteral.unique {strict : Bool} {text : List Char}
    (lit lit' : StringLiteral strict text) : lit = lit' := by
  obtain ⟨gap, chars, ending, rest, hgap, hwritten, hkept⟩ := lit
  obtain ⟨gap', chars', ending', rest', hgap', hwritten', hkept'⟩ := lit'
  have hquote (chars : List LiteralChar) (ending : LiteralEnd) (rest : List Char) :
      ∀ c ∈ (literalText chars ending ++ rest).head?, startsGap c = false := by
    intro c hc
    obtain rfl : stringQuote = c := by simpa [literalText] using hc
    decide
  obtain ⟨rfl, hliteral⟩ := hgap.append_inj hgap' (hquote _ _ _) (hquote _ _ _)
    (hwritten.symm.trans hwritten')
  obtain ⟨rfl, rfl, rfl⟩ := literalText_append_inj (fun h => (hkept h).2) (fun h => (hkept' h).2)
    hliteral
  rfl

end Unique

theorem StringLiteral.spells {strict : Bool} {text : List Char} (lit : StringLiteral strict text)
    (coord : Coord) :
    Spells strict coord (literalText lit.chars lit.ending) lit.rest (.str lit.held) := by
  have hbody := unescapes_chars lit.chars
  cases hending : lit.ending with
  | quote => exact .str hbody
  | source =>
    obtain ⟨hstrict, hrest⟩ := lit.kept (by simp [hending])
    rw [hrest, literalText, LiteralEnd.text, List.append_nil]
    exact .openStr hstrict (.whole hbody)
  | backslash =>
    obtain ⟨hstrict, hrest⟩ := lit.kept (by simp [hending])
    rw [hrest]
    exact .openStr hstrict (.dangling hbody)

/-- A string literal that comes next is read: what is delivered is the characters that it writes,
whichever of them are escaped, and what follows the literal is left. A string that is read comes
from a literal, and from that one alone. -/
theorem string_literals_decode (config : Config) (s : Cursor) :
    (∀ lit : StringLiteral config.strictStrings s.rest,
      (Reading.lexeme config s).result = .ok (some (.token (.str lit.held))) ∧
        (Reading.lexeme config s).rest =
          ⟨s.filename, s.position.after (lit.gap ++ literalText lit.chars lit.ending), lit.rest⟩) ∧
      ∀ text, (Reading.lexeme config s).result = .ok (some (.token (.str text))) →
        ∃ lit : StringLiteral config.strictStrings s.rest, lit.held = text ∧
          ∀ lit' : StringLiteral config.strictStrings s.rest, lit' = lit := by
  obtain ⟨filename, p, rest⟩ := s
  constructor
  · intro lit
    have hspells := lit.spells ⟨filename, (p.after lit.gap).line⟩
    obtain ⟨l, hresult, hdelivered, hrest⟩ := Reading.exists_delivery config lit.isGap hspells
    rw [← lit.written] at hresult hrest
    cases hdelivered with
    | token _ => exact ⟨hresult, hrest rfl⟩
  · intro text hread
    obtain ⟨g, t, r, tok, hwritten, hg, ht, hdelivered⟩ := Reading.spelled_of_lexeme hread
    cases hdelivered with
    | token _ =>
      obtain ⟨chars, ending, rfl, hkept, rfl⟩ := ht.of_str
      exact ⟨⟨g, chars, ending, r, hg, hwritten, hkept⟩, rfl, fun lit' => lit'.unique _⟩

/-- An escaped quote goes on and an escaped letter is the letter, behind a comment and before a last
backslash at the end of the source. -/
theorem string_literals_decode_open :
    let s := Cursor.ofString "a.HC" "#\n\x22\\n\\\x22#\\"
    let chars : List LiteralChar :=
      [⟨'n', true, by decide⟩, ⟨'\x22', true, by decide⟩, ⟨'#', false, by decide⟩]
    s.rest = ['#', '\n'] ++ (literalText chars .backslash ++ []) ∧
      (Reading.lexeme {} s).result = .ok (some (.token (.str "n\x22#"))) ∧
      (Reading.lexeme {} s).rest = ⟨"a.HC", ⟨2, 8, 9⟩, []⟩ ∧
      ∃ lit : StringLiteral false s.rest, lit.held = "n\x22#" ∧
        ∀ lit' : StringLiteral false s.rest, lit' = lit := by
  intro s chars
  have hwritten : s.rest = ['#', '\n'] ++ (literalText chars .backslash ++ []) := by decide +kernel
  have hgap : IsGap ('#' :: ([] ++ '\n' :: [])) := .comment (by simp) .nil
  let lit : StringLiteral false s.rest :=
    ⟨['#', '\n'], chars, .backslash, [], hgap, hwritten, by simp⟩
  obtain ⟨hread, honly⟩ := string_literals_decode {} s
  obtain ⟨hresult, hrest⟩ := hread lit
  exact ⟨hwritten, hresult, hrest, honly _ hresult⟩

end PullLexer
