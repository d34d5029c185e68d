import PullLexer.Proofs.GapExchange
/-!
# Printing tokens

A list of tokens is printed by writing each one out, with single spaces between. Scanning the
printed text gives the list back: each written form spells its token before any gap, so no two
neighbours run together, and the newlines inside string literals are all that moves later tokens
to another line.
-/

namespace PullLexer

/-- A body of a string literal that holds `text`: quotes and backslashes behind a backslash, all
else as it is. -/
def escape (text : List Char) : List Char :=
  text.flatMap fun c => if c = stringQuote ∨ c = '\\' then ['\\', c] else [c]

private theorem unescapes_escape (text : List Char) : Unescapes (escape text) text := by
  induction text with
  | nil => exact .nil
  | cons c text ih =>
    rw [escape, List.flatMap_cons]
    by_cases hc : c = stringQuote ∨ c = '\\'
    · rw [if_pos hc]
      exact .escaped ih
    · obtain ⟨hquote, hslash⟩ := not_or.1 hc
      rw [if_neg hc]
      exact .plain hslash hquote ih

private theorem Vocabulary.isRun_of_reserved {word : String}
    (h : isKeyword word = true ∨ isDatatype word = true) : IsRun .idStart .id word.toList := by
  have hall : (keywords ++ datatypes).all (fun w => w.toList.head?.any CharClass.idStart.holds &&
      w.toList.all CharClass.id.holds) = true := by decide +kernel
  have hmem : word ∈ keywords ++ datatypes := by
    simpa [isKeyword, isDatatype] using h
  have hword := List.all_eq_true.1 hall word hmem
  simp only [Bool.and_eq_true, Option.any_eq_true, List.all_eq_true] at hword
  obtain ⟨⟨c, hhead, hc⟩, hchars⟩ := hword
  obtain ⟨u, hu⟩ := List.head?_eq_some_iff.1 hhead
  exact ⟨⟨c, u, hu, hc⟩, hchars⟩

/-- A token that can be written down, and what there is to choose in writing it. -/
inductive Written
  | num (text : List Char) (numeral : IsNumeral text)
  | str (held : String)
  | keyword (word : String) (reserved : Vocabulary.isKeyword word = true)
  | datatype (word : String) (reserved : Vocabulary.isDatatype word = true)
  | op (text : List Char) (run : IsRun .op .op text)
  | punc (c : Char) (mark : CharClass.punc.holds c = true)
  | ident (name : List Char) (run : IsRun .idStart .id name)
      (notKeyword : Vocabulary.isKeyword (String.ofList name) = false)
      (notDatatype : Vocabulary.isDatatype (String.ofList name) = false)

namespace Written

def text : Written → List Char
  | num text _ => text
  | str held => stringQuote :: (escape held.toList ++ [stringQuote])
  | keyword word _ => word.toList
  | datatype word _ => word.toList
  | op text _ => text
  | punc c _ => [c]
  | ident name _ _ _ => name

/-- The token at a coordinate, which is part of an identifier only. -/
def token (coord : Coord) : Written → Token
  | num text numeral => .num ((Number.read? (text.contains '.') text).get (numeral.read?_isSome _))
  | str held => .str held
  | keyword word _ => .keyword word
  | datatype word _ => .datatype word
  | op text _ => .op (String.ofList text)
  | punc c _ => .punc c.toString
  | ident name _ _ _ => .ident (String.ofList name) coord

/-- The written forms of tokens with single spaces between. -/
def print (ws : List Written) : List Char := [' '].intercalate (ws.map text)

private theorem spells_last (w : Written) (coord : Coord) :
    Spells true coord w.text [] (w.token coord) := by
  have hword {t : List Char} (ht : IsRun .idStart .id t) :
      Spells true coord t [] (.ofWord (String.ofList t) coord) :=
    .word (longest_run_iff.2 ⟨ht, by simp⟩)
  cases w with
  | num t ht => exact .num (longest_numeral_iff.2 ⟨ht, by simp⟩) (Option.some_get _).symm
  | str held =>
    have hstr : Spells true coord (text (.str held)) [] (.str (String.ofList held.toList)) :=
      .str (unescapes_escape held.toList)
    rwa [String.ofList_toList] at hstr
  | keyword word hkeyword =>
    have hspells := hword (Vocabulary.isRun_of_reserved (.inl hkeyword))
    rwa [String.ofList_toList, Token.ofWord, if_pos hkeyword] at hspells
  | datatype word hdatatype =>
    have hkeyword : ¬ Vocabulary.isKeyword word = true := by
      intro h
      rw [Vocabulary.not_isDatatype_of_isKeyword h] at hdatatype
      exact absurd hdatatype (by decide)
    have hspells := hword (Vocabulary.isRun_of_reserved (.inr hdatatype))
    rwa [String.ofList_toList, Token.ofWord, if_neg hkeyword, if_pos hdatatype] at hspells
  | op t ht => exact .op (longest_run_iff.2 ⟨ht, by simp⟩)
  | punc c hc => exact .punc hc
  | ident name hname hkeyword hdatatype =>
    have hspells := hword hname
    rwa [Token.ofWord, hkeyword, hdatatype] at hspells

theorem spells (w : Written) (strict : Bool) (coord : Coord) {r : List Char}
    (hr : ∀ d ∈ r.head?, startsGap d = true) : Spells strict coord w.text r (w.token coord) :=
  (w.spells_last coord).before_gap strict fun d hd => .inr (hr d hd)

private theorem print_cons_cons (w w' : Written) (ws : List Written) :
    print (w :: w' :: ws) = w.text ++ ' ' :: print (w' :: ws) := by
  simp [print]

private theorem count_newline_print_cons (w : Written) (ws : List Written) :
    (print (w :: ws)).count '\n' = w.text.count '\n' + (print ws).count '\n' := by
  cases ws with
  | nil => simp [print]
  | cons w' ws => simp [print_cons_cons]

theorem scans_print (strict : Bool) (filename : String) (p : Position) (ws : List Written) :
    Scans strict filename p (print ws)
      (ws.mapIdx fun i w =>
        .token (w.token ⟨filename, p.line + (print (ws.take i)).count '\n'⟩)) none := by
  induction ws generalizing p with
  | nil => exact .ends (.source (.closed .nil))
  | cons w ws ih =>
    -- The lines of the later tokens count from behind `w` and the space after it.
    have hline (q : Position) (hq : q.line = p.line + w.text.count '\n') (i : Nat) :
        p.line + (print ((w :: ws).take (i + 1))).count '\n' =
          q.line + (print (ws.take i)).count '\n' := by
      rw [List.take_succ_cons, count_newline_print_cons, hq, Nat.add_assoc]
    have hfirst : p.line + (print ((w :: ws).take 0)).count '\n' = p.line := rfl
    rw [List.mapIdx_cons, hfirst]
    cases ws with
    | nil =>
      have hspells := w.spells strict ⟨filename, p.line⟩ (r := []) (by simp)
      have hlast := Scans.token (p := p) .nil hspells (.ends (.source (.closed .nil)))
      simpa [print] using hlast
    | cons w' ws =>
      have hspace : IsGap [' '] := .blank (by decide) .nil
      have hpast : ((p.after w.text).after [' ']).line = p.line + w.text.count '\n' := by
        rw [Position.line_after, Position.line_after]
        rfl
      have hrest := (ih ((p.after w.text).after [' '])).behind_gap hspace
      simp only [hline _ hpast]
      rw [print_cons_cons]
      exact .token .nil (w.spells strict ⟨filename, p.line⟩ (by simp; decide)) hrest

end Written

/-- Scanning a printed list of tokens gives back exactly that list, whether string literals have to
be closed or not. An identifier stands on the line that the newlines printed before it lead to. -/
theorem scanText_print (filename : String) (strict : Bool) (ws : List Written) :
    scanText ⟨.plain, strict⟩ filename (String.ofList (Written.print ws)) =
      .ok (ws.mapIdx fun i w =>
        .token (w.token ⟨filename, 1 + (Written.print (ws.take i)).count '\n'⟩)) := by
  have hscans := Written.scans_print strict filename .start ws
  refine scanText_eq_ok_iff.2 ⟨_, rfl, ?_⟩
  rwa [String.toList_ofList]

/-- A numeral, a string with a quote and a newline, and an identifier on the line after it. -/
example :
    let seven : IsNumeral ['7'] :=
      ⟨⟨'7', [], rfl, rfl⟩, List.forall_mem_singleton.2 (.inl rfl), by decide⟩
    let x : IsRun .idStart .id ['x'] :=
      ⟨⟨'x', [], rfl, by decide +kernel⟩, List.forall_mem_singleton.2 (by decide +kernel)⟩
    let ws := [.num _ seven, .str "a\x22\n", .ident _ x (by decide) (by decide)]
    Written.print ws = "7 \x22a\\\x22\n\x22 x".toList ∧
      scanText .plain "a.HC" (String.ofList (Written.print ws)) =
        .ok [.token (.num (.int 7)), .token (.str "a\x22\n"),
          .token (.ident "x" ⟨"a.HC", 2⟩)] := by
  decide +kernel

end PullLexer
