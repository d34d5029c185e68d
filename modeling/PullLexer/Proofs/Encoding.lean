import Mathlib.Data.List.Forall2
import Mathlib.Tactic.MkIffOfInductiveProp
import PullLexer.Token
/-!
# What JSON keeps of a lexeme

Nothing of a lexeme is lost in JSON. Two lexemes that are written as the same value are the same, in
whatever order the members of its objects stand: each member is told by its key, a coordinate is
told by its text, whose last colon comes before the line, and no token has the keys of a fragment.
Only the sign of a floating-point zero is not told, since the two zeros are one number.
-/

namespace PullLexer

/-- The same number; the two zeros are one. -/
inductive Binary64.SameNumber : Binary64 → Binary64 → Prop
  | refl (x : Binary64) : SameNumber x x
  | zero (negative negative' : Bool) : SameNumber (.zero negative) (.zero negative')

namespace Json

/-- Equality of JSON values. Objects are the same if they have the same under every key, in whatever
order their members stand. A whole number is never the same as a floating-point one. -/
inductive Same : Json → Json → Prop
  | null : Same .null .null
  | bool (b : Bool) : Same (.bool b) (.bool b)
  | int (n : Int) : Same (.int n) (.int n)
  | float {x y : Binary64} : x.SameNumber y → Same (.float x) (.float y)
  | str (s : String) : Same (.str s) (.str s)
  | arr {es es' : List Json} : List.Forall₂ Same es es' → Same (.arr es) (.arr es')
  | obj {ms ms' : List (String × Json)} :
      (∀ key, Option.Rel Same (ms.lookup key) (ms'.lookup key)) → Same (.obj ms) (.obj ms')

private theorem Same.of_members {ms ms' : List (String × Json)}
    (h : List.Forall₂ (fun m m' => m.1 = m'.1 ∧ Same m.2 m'.2) ms ms') :
    Same (.obj ms) (.obj ms') := by
  refine .obj fun key => ?_
  induction h with
  | nil => exact .none
  | @cons m m' ms ms' hm _ ih =>
    obtain ⟨k, v⟩ := m
    obtain ⟨k', v'⟩ := m'
    obtain ⟨rfl, hv⟩ : k = k' ∧ Same v v' := hm
    rw [List.lookup_cons, List.lookup_cons]
    cases key == k with
    | true => exact .some hv
    | false => exact ih

private theorem sizeOf_lt_of_member {ms : List (String × Json)} {m : String × Json} (hm : m ∈ ms) :
    sizeOf m.2 < sizeOf ms := by
  have hlt := List.sizeOf_lt_of_mem hm
  rw [Prod.mk.sizeOf_spec] at hlt
  omega

private theorem Same.refl (j : Json) : Same j j := by
  match j with
  | .null => exact .null
  | .bool b => exact .bool b
  | .int n => exact .int n
  | .float x => exact .float (.refl x)
  | .str s => exact .str s
  | .arr es => exact .arr (List.forall₂_same.2 fun e _ => Same.refl e)
  | .obj ms =>
    refine .of_members (List.forall₂_same.2 fun m hm => ?_)
    have hlt := sizeOf_lt_of_member hm
    exact ⟨rfl, Same.refl m.2⟩

private theorem Same.member {ms ms' : List (String × Json)} {v v' : Json}
    (h : Same (.obj ms) (.obj ms')) (key : String) (hv : ms.lookup key = some v)
    (hv' : ms'.lookup key = some v') : Same v v' := by
  cases h with
  | obj h =>
    have hrel := h key
    rw [hv, hv'] at hrel
    cases hrel with
    | some hsame => exact hsame

def hasKey (key : String) : Json → Bool
  | .obj ms => (ms.lookup key).isSome
  | _ => false

private theorem Same.hasKey {j j' : Json} (h : Same j j') (key : String) :
    j.hasKey key = j'.hasKey key := by
  cases h with
  | @obj ms ms' h =>
    have hrel := h key
    change (ms.lookup key).isSome = (ms'.lookup key).isSome
    generalize ms.lookup key = v, ms'.lookup key = v' at hrel ⊢
    cases hrel <;> rfl
  | _ => rfl

private theorem Same.eq_of_str {s s' : String} (h : Same (.str s) (.str s')) : s = s' := by
  cases h with
  | str s => rfl

private theorem Same.eq_of_int {n n' : Int} (h : Same (.int n) (.int n')) : n = n' := by
  cases h with
  | int n => rfl

private theorem Same.number_of_float {x y : Binary64} (h : Same (.float x) (.float y)) :
    x.SameNumber y := by
  cases h with
  | float hxy => exact hxy

/-- What is written tells all of what was to be written. -/
def Faithful {α : Type} (write : α → Json) : Prop := ∀ {a b : α}, Same (write a) (write b) → a = b

private theorem faithful_str : Faithful Json.str := Same.eq_of_str

private theorem Faithful.list {α : Type} {write : α → Json} (h : Faithful write) :
    Faithful fun as : List α => .arr (as.map write) := by
  intro as bs hsame
  cases hsame with
  | arr hrel =>
    rw [List.forall₂_map_left_iff, List.forall₂_map_right_iff] at hrel
    have heq := hrel.imp fun _ _ => h
    rwa [List.forall₂_eq_eq_eq] at heq

private theorem Faithful.option {α : Type} {write : α → Json} (h : Faithful write)
    (hnull : ∀ a, write a ≠ .null) : Faithful (ofOption write) := by
  have apart (a : α) : ¬ Same .null (write a) ∧ ¬ Same (write a) .null := by
    have ha := hnull a
    generalize write a = j at ha
    constructor
    · rintro ⟨⟩
      exact ha rfl
    · rintro ⟨⟩
      exact ha rfl
  intro a? b? hsame
  cases a? with
  | none =>
    cases b? with
    | none => rfl
    | some b => exact absurd hsame (apart b).1
  | some a =>
    cases b? with
    | none => exact absurd hsame (apart a).2
    | some b => exact congrArg some (h hsame)

private theorem faithful_ofStrings : Faithful ofStrings := faithful_str.list

private theorem faithful_optionalText : Faithful (ofOption Json.str) :=
  faithful_str.option (by simp)

end Json

private theorem eq_of_last_colon {a a' d d' : List Char} (hd : ':' ∉ d) (hd' : ':' ∉ d')
    (h : a ++ ':' :: d = a' ++ ':' :: d') : a = a' ∧ d = d' := by
  rcases List.append_eq_append_iff.1 h with ⟨u, rfl, hu⟩ | ⟨u, rfl, hu⟩
  · cases u with
    | nil => simpa using hu
    | cons c u => exact absurd (by simp [(List.cons.inj hu).2]) hd
  · cases u with
    | nil => simpa using hu.symm
    | cons c u => exact absurd (by simp [(List.cons.inj hu).2]) hd'

/-- The text of a coordinate tells the coordinate, whatever colons and digits its file has. -/
theorem Coord.text_injective {c c' : Coord} (h : c.text = c'.text) : c = c' := by
  obtain ⟨filename, line⟩ := c
  obtain ⟨filename', line'⟩ := c'
  have hdigits (n : Nat) : (toString n).toList = Nat.toDigits 10 n := by
    rw [Nat.toString_eq_ofList_toDigits, String.toList_ofList]
  have hcolon (n : Nat) : ':' ∉ Nat.toDigits 10 n := by
    intro hmem
    exact absurd (Nat.isDigit_of_mem_toDigits (by decide) (by decide) hmem) (by decide)
  have htext : filename.toList ++ ':' :: Nat.toDigits 10 line =
      filename'.toList ++ ':' :: Nat.toDigits 10 line' := by
    rw [← hdigits, ← hdigits]
    simpa [Coord.text] using congrArg String.toList h
  obtain ⟨hfile, hline⟩ := eq_of_last_colon (hcolon line) (hcolon line') htext
  have hvalue := congrArg (Nat.ofDigitChars 10 · 0) hline
  simp only [Nat.ofDigitChars_ten_toDigits] at hvalue
  rw [String.toList_inj.1 hfile, hvalue]

private theorem Coord.eq_of_same {c c' : Coord} (h : Json.Same (.str c.text) (.str c'.text)) :
    c = c' :=
  Coord.text_injective h.eq_of_str

private theorem ConstantKind.name_injective {k k' : ConstantKind} (h : k.name = k'.name) :
    k = k' := by
  cases k <;> cases k' <;> first | rfl | exact absurd h (by decide)

private theorem Constant.faithful_toJson : Json.Faithful Constant.toJson := by
  rintro ⟨kind, value, coord⟩ ⟨kind', value', coord'⟩ h
  obtain rfl : kind = kind' := ConstantKind.name_injective (h.member "type" rfl rfl).eq_of_str
  obtain rfl : value = value' := Json.faithful_optionalText (h.member "value" rfl rfl)
  obtain rfl : coord = coord' := Coord.eq_of_same (h.member "coord" rfl rfl)
  rfl

private theorem Id.faithful_toJson : Json.Faithful Id.toJson := by
  rintro ⟨name, coord⟩ ⟨name', coord'⟩ h
  obtain rfl : name = name' := (h.member "name" rfl rfl).eq_of_str
  obtain rfl : coord = coord' := Coord.eq_of_same (h.member "coord" rfl rfl)
  rfl

private theorem ExprList.faithful_toJson : Json.Faithful ExprList.toJson := by
  rintro ⟨exprs, coord⟩ ⟨exprs', coord'⟩ h
  obtain rfl : exprs = exprs' := Constant.faithful_toJson.list (h.member "exprs" rfl rfl)
  obtain rfl : coord = coord' := Coord.eq_of_same (h.member "coord" rfl rfl)
  rfl

private theorem FuncCall.faithful_toJson : Json.Faithful FuncCall.toJson := by
  rintro ⟨callee, args, coord⟩ ⟨callee', args', coord'⟩ h
  obtain rfl : callee = callee' := Id.faithful_toJson (h.member "name" rfl rfl)
  obtain rfl : args = args' := ExprList.faithful_toJson (h.member "args" rfl rfl)
  obtain rfl : coord = coord' := Coord.eq_of_same (h.member "coord" rfl rfl)
  rfl

private theorem IdentifierType.faithful_toJson : Json.Faithful IdentifierType.toJson := by
  rintro ⟨names, coord⟩ ⟨names', coord'⟩ h
  obtain rfl : names = names' := Json.faithful_ofStrings (h.member "names" rfl rfl)
  obtain rfl : coord = coord' := Coord.eq_of_same (h.member "coord" rfl rfl)
  rfl

private theorem TypeDecl.faithful_toJson : Json.Faithful TypeDecl.toJson := by
  rintro ⟨declname, quals, type, coord⟩ ⟨declname', quals', type', coord'⟩ h
  obtain rfl : declname = declname' := (h.member "declname" rfl rfl).eq_of_str
  obtain rfl : quals = quals' := Json.faithful_ofStrings (h.member "quals" rfl rfl)
  obtain rfl : type = type' := IdentifierType.faithful_toJson (h.member "type" rfl rfl)
  obtain rfl : coord = coord' := Coord.eq_of_same (h.member "coord" rfl rfl)
  rfl

private theorem Decl.faithful_toJson : Json.Faithful Decl.toJson := by
  rintro ⟨name, quals, storage, funcspec, type, init, bitsize, coord⟩
    ⟨name', quals', storage', funcspec', type', init', bitsize', coord'⟩ h
  obtain rfl : name = name' := (h.member "name" rfl rfl).eq_of_str
  obtain rfl : quals = quals' := Json.faithful_ofStrings (h.member "quals" rfl rfl)
  obtain rfl : storage = storage' := Json.faithful_ofStrings (h.member "storage" rfl rfl)
  obtain rfl : funcspec = funcspec' := Json.faithful_ofStrings (h.member "funcspec" rfl rfl)
  obtain rfl : type = type' := TypeDecl.faithful_toJson (h.member "type" rfl rfl)
  obtain rfl : init = init' := Constant.faithful_toJson (h.member "init" rfl rfl)
  obtain rfl : bitsize = bitsize' :=
    Constant.faithful_toJson.option (by simp [Constant.toJson]) (h.member "bitsize" rfl rfl)
  obtain rfl : coord = coord' := Coord.eq_of_same (h.member "coord" rfl rfl)
  rfl

theorem Fragment.faithful_toJson : Json.Faithful Fragment.toJson := by
  rintro (c | d) (c' | d') h
  · rw [FuncCall.faithful_toJson h]
  · exact absurd (h.member "_nodetype" rfl rfl).eq_of_str (by decide)
  · exact absurd (h.member "_nodetype" rfl rfl).eq_of_str (by decide)
  · rw [Decl.faithful_toJson h]

private theorem Fragment.hasKey_nodetype (f : Fragment) : f.toJson.hasKey "_nodetype" = true := by
  cases f <;> rfl

private theorem Token.hasKey_nodetype (t : Token) : t.toJson.hasKey "_nodetype" = false := by
  cases t <;> rfl

/-- Whether the number, if the lexeme is one, is neither infinite nor not-a-number. -/
def Lexeme.isFinite : Lexeme → Bool
  | .token (.num (.float x)) => x.isFinite
  | _ => true

/-- Equal, or a floating-point zero with either sign. -/
@[mk_iff]
inductive Lexeme.SameUpToZero : Lexeme → Lexeme → Prop
  | refl (l : Lexeme) : SameUpToZero l l
  | zero (negative negative' : Bool) :
      SameUpToZero (.token (.num (.float (.zero negative))))
        (.token (.num (.float (.zero negative'))))

private theorem Number.sameUpToZero_of_same {n n' : Number}
    (hn : (Lexeme.token (.num n)).isFinite = true) (hn' : (Lexeme.token (.num n')).isFinite = true)
    (h : n.toJson.Same n'.toJson) :
    Lexeme.SameUpToZero (.token (.num n)) (.token (.num n')) := by
  have hfloat {x : Binary64} (hx : x.isFinite = true) : (Number.float x).toJson = .float x :=
    if_pos hx
  cases n with
  | int i =>
    cases n' with
    | int i' =>
      rw [Int64.toInt_inj.1 h.eq_of_int]
      exact .refl _
    | float y =>
      rw [hfloat hn'] at h
      cases h
  | float x =>
    rw [hfloat hn] at h
    cases n' with
    | int i' => cases h
    | float y =>
      rw [hfloat hn'] at h
      cases h.number_of_float with
      | refl => exact .refl _
      | zero negative negative' => exact .zero negative negative'

private theorem Token.sameUpToZero_of_same {t t' : Token} (ht : (Lexeme.token t).isFinite = true)
    (ht' : (Lexeme.token t').isFinite = true) (h : t.toJson.Same t'.toJson) :
    Lexeme.SameUpToZero (.token t) (.token t') := by
  have hkind : t.kindName = t'.kindName := (h.member "type" rfl rfl).eq_of_str
  have hvalue : t.jsonValue.Same t'.jsonValue := h.member "value" rfl rfl
  -- Tokens of two kinds have two names; the text of a kind is its value.
  cases t <;> cases t' <;> simp only [kindName, String.reduceEq] at hkind
  case num.num => exact Number.sameUpToZero_of_same ht ht' hvalue
  case ident.ident name coord name' coord' =>
    obtain rfl : name = name' := hvalue.eq_of_str
    obtain rfl : coord = coord' := Coord.eq_of_same (h.member "coord" rfl rfl)
    exact .refl _
  all_goals
    rw [Json.Same.eq_of_str hvalue]
    exact .refl _

/-- Two lexemes whose numbers are finite are written as the same JSON value exactly if they are
equal, up to the sign of a floating-point zero. -/
theorem toJson_same_iff {l l' : Lexeme} (hl : l.isFinite = true) (hl' : l'.isFinite = true) :
    l.toJson.Same l'.toJson ↔ l.SameUpToZero l' := by
  constructor
  · intro h
    have hkey := h.hasKey "_nodetype"
    cases l with
    | token t =>
      cases l' with
      | token t' => exact Token.sameUpToZero_of_same hl hl' h
      | fragment f' =>
        have hapart := t.hasKey_nodetype.symm.trans (hkey.trans f'.hasKey_nodetype)
        exact absurd hapart (by decide)
    | fragment f =>
      cases l' with
      | token t' =>
        have hapart := f.hasKey_nodetype.symm.trans (hkey.trans t'.hasKey_nodetype)
        exact absurd hapart (by decide)
      | fragment f' =>
        rw [Fragment.faithful_toJson h]
        exact .refl _
  · intro h
    cases h with
    | refl => exact .refl _
    | zero negative negative' =>
      have hzero (b : Bool) : Json.ofBinary64 (.zero b) = .float (.zero b) := by
        cases b <;> rfl
      have hvalue : (Json.ofBinary64 (.zero negative)).Same (.ofBinary64 (.zero negative')) := by
        rw [hzero, hzero]
        exact .float (.zero negative negative')
      exact .of_members (.cons ⟨rfl, .refl _⟩ (.cons ⟨rfl, hvalue⟩ .nil))

/-- Files with colons and digits in their names do not make two coordinates one, and the whole
number zero is no floating-point one. -/
theorem toJson_same_iff_of_lookalikes :
    let here : Lexeme := .token (.ident "x" ⟨"a:1", 2⟩)
    let there : Lexeme := .token (.ident "x" ⟨"a", 12⟩)
    let zero (negative : Bool) : Lexeme := .token (.num (.float (.zero negative)))
    let whole : Lexeme := .token (.num (.int 0))
    here.isFinite = true ∧ there.isFinite = true ∧ (∀ negative, (zero negative).isFinite = true) ∧
      whole.isFinite = true ∧ ¬ here.toJson.Same there.toJson ∧
      (zero true).toJson.Same (zero false).toJson ∧ ¬ (zero false).toJson.Same whole.toJson := by
  intro here there zero whole
  have hzero : ∀ negative, (zero negative).isFinite = true := by decide
  refine ⟨rfl, rfl, hzero, rfl, ?_, ?_, ?_⟩
  · intro h
    have hsame := (toJson_same_iff (l := here) rfl rfl).1 h
    simp [Lexeme.sameUpToZero_iff, here, there] at hsame
  · exact (toJson_same_iff (hzero true) (hzero false)).2 (.zero true false)
  · intro h
    have hsame := (toJson_same_iff (hzero false) rfl).1 h
    simp [Lexeme.sameUpToZero_iff, zero, whole] at hsame

end PullLexer
