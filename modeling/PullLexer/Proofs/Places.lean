import PullLexer.Proofs.Modes
/-!
# Scanning from another place

Where a text starts decides the coordinates in what it spells and the position of its error, and
nothing else. The positions of two scans of one text stay related, whatever relation it is, as long
as taking a character keeps it.
-/

namespace PullLexer

section MapCoord

variable (f : Coord → Coord)

def Id.mapCoord (i : Id) : Id := ⟨i.name, f i.coord⟩

def Constant.mapCoord (c : Constant) : Constant := ⟨c.kind, c.value, f c.coord⟩

def ExprList.mapCoord (l : ExprList) : ExprList := ⟨l.exprs.map (Constant.mapCoord f), f l.coord⟩

def FuncCall.mapCoord (c : FuncCall) : FuncCall :=
  ⟨c.callee.mapCoord f, c.args.mapCoord f, f c.coord⟩

def IdentifierType.mapCoord (t : IdentifierType) : IdentifierType := ⟨t.names, f t.coord⟩

def TypeDecl.mapCoord (t : TypeDecl) : TypeDecl :=
  ⟨t.declname, t.quals, t.type.mapCoord f, f t.coord⟩

def Decl.mapCoord (d : Decl) : Decl :=
  ⟨d.name, d.quals, d.storage, d.funcspec, d.type.mapCoord f, d.init.mapCoord f,
    d.bitsize.map (Constant.mapCoord f), f d.coord⟩

def Fragment.mapCoord : Fragment → Fragment
  | .call c => .call (c.mapCoord f)
  | .decl d => .decl (d.mapCoord f)

def Token.mapCoord : Token → Token
  | .ident name coord => .ident name (f coord)
  | t => t

/-- The lexeme with each coordinate in it mapped, at any depth. -/
def Lexeme.mapCoord : Lexeme → Lexeme
  | .token t => .token (t.mapCoord f)
  | .fragment frag => .fragment (frag.mapCoord f)

private theorem Fragment.mapCoord_ofIdentifier (name : String) (coord : Coord) (isCall : Bool) :
    (ofIdentifier name coord isCall).mapCoord f = ofIdentifier name (f coord) isCall := by
  cases isCall <;> rfl

private theorem Token.mapCoord_ofWord (word : String) (coord : Coord) :
    (ofWord word coord).mapCoord f = ofWord word (f coord) := by
  unfold ofWord
  split
  · rfl
  split <;> rfl

private theorem isPunc_mapCoord (l : Lexeme) (text : String) :
    (l.mapCoord f).isPunc text = l.isPunc text := by
  cases l with
  | token t => cases t <;> rfl
  | fragment frag => rfl

theorem isOpening_map_mapCoord (ls : List Lexeme) :
    LexemeStream.isOpening (ls.map (Lexeme.mapCoord f)).head? =
      LexemeStream.isOpening ls.head? := by
  cases ls with
  | nil => rfl
  | cons l ls => exact isPunc_mapCoord f l "("

private theorem shapeBefore_mapCoord (ls : List Lexeme) (l : Lexeme) :
    shapeBefore (ls.map (Lexeme.mapCoord f)).head? (l.mapCoord f) =
      (shapeBefore ls.head? l).mapCoord f := by
  cases l with
  | fragment frag => rfl
  | token t =>
    cases t with
    | ident name coord =>
      simp only [Lexeme.mapCoord, Token.mapCoord, shapeBefore, isOpening_map_mapCoord,
        Fragment.mapCoord_ofIdentifier]
    | _ => rfl

theorem shapeIn_map_mapCoord (mode : IdentifierMode) (ls : List Lexeme) :
    shapeIn mode (ls.map (Lexeme.mapCoord f)) = (shapeIn mode ls).map (Lexeme.mapCoord f) := by
  cases mode with
  | plain => rfl
  | fragments =>
    simp only [shapeIn]
    induction ls with
    | nil => rfl
    | cons l ls ih =>
      rw [List.map_cons, shapeAll, ih, shapeBefore_mapCoord]
      rfl

end MapCoord

theorem Lexeme.mapCoord_id (l : Lexeme) : l.mapCoord id = l := by
  have hconstant : Constant.mapCoord id = id := rfl
  rcases l with t | c | d
  · cases t <;> rfl
  · simp [mapCoord, Fragment.mapCoord, FuncCall.mapCoord, Id.mapCoord, ExprList.mapCoord, hconstant]
  · simp [mapCoord, Fragment.mapCoord, Decl.mapCoord, TypeDecl.mapCoord, IdentifierType.mapCoord,
      hconstant]

/-- Positions related by `R` stay so after any character, and `f` maps the coordinates on the line
of the one to those on the line of the other. -/
structure Position.Moves (f : Coord → Coord) (R : Position → Position → Prop) : Prop where
  afterChar : ∀ {p p' : Position} (c : Char), R p p' → R (p.afterChar c) (p'.afterChar c)
  coord : ∀ {p p' : Position} (filename : String), R p p' →
    f ⟨filename, p.line⟩ = ⟨filename, p'.line⟩

/-- The same fault in the same file, at positions related by `R`. -/
structure LexError.Moved (R : Position → Position → Prop) (e e' : LexError) : Prop where
  fault : e'.fault = e.fault
  filename : e'.filename = e.filename
  position : R e.position e'.position

section Moves

variable {f : Coord → Coord} {R : Position → Position → Prop} {strict : Bool} {filename : String}
  {p p' : Position} {text : List Char}

private theorem Position.Moves.after (hR : Position.Moves f R) (h : R p p') (text : List Char) :
    R (p.after text) (p'.after text) := by
  induction text generalizing p p' with
  | nil => exact h
  | cons c text ih => exact ih (hR.afterChar c h)

private theorem Spells.mapCoord {coord : Coord} {t r : List Char} {tok : Token}
    (h : Spells strict coord t r tok) (f : Coord → Coord) :
    Spells strict (f coord) t r (tok.mapCoord f) := by
  cases h with
  | punc hc => exact .punc hc
  | op ht => exact .op ht
  | num ht hn => exact .num ht hn
  | word ht =>
    rw [Token.mapCoord_ofWord]
    exact .word ht
  | str hb => exact .str hb
  | openStr hstrict hb => exact .openStr hstrict hb

private theorem Ends.moved {failure : Option LexError} (hR : Position.Moves f R) (hp : R p p')
    (h : Ends strict filename p text failure) :
    ∃ failure', Ends strict filename p' text failure' ∧
      Option.Rel (LexError.Moved R) failure failure' := by
  cases h with
  | source hg => exact ⟨none, .source hg, .none⟩
  | stray hg hc => exact ⟨_, .stray hg hc, .some ⟨rfl, rfl, hR.after hp _⟩⟩
  | unclosed hstrict hg hb => exact ⟨_, .unclosed hstrict hg hb, .some ⟨rfl, rfl, hR.after hp _⟩⟩

/-- A text that starts at another place spells the same with its coordinates mapped, and ends with
the same failure at a related position. -/
theorem Scans.moved {ls : List Lexeme} {failure : Option LexError} (hR : Position.Moves f R)
    (hp : R p p') (h : Scans strict filename p text ls failure) :
    ∃ failure', Scans strict filename p' text (ls.map (Lexeme.mapCoord f)) failure' ∧
      Option.Rel (LexError.Moved R) failure failure' := by
  induction h generalizing p' with
  | ends hends =>
    obtain ⟨failure', hends', hrel⟩ := hends.moved hR hp
    exact ⟨failure', .ends hends', hrel⟩
  | @token p g t r tok ls failure hg ht _ ih =>
    obtain ⟨failure', hrest, hrel⟩ := ih (hR.after hp (g ++ t))
    have hspells := ht.mapCoord f
    rw [hR.coord filename (hR.after hp g)] at hspells
    exact ⟨failure', .token hg hspells hrest, hrel⟩

end Moves

end PullLexer
