import NodeBootstrap.Proofs.Cutting
import NodeBootstrap.Template.Render

/-!
# Placeholders of a template

The simplest templates are texts with names in double braces between them.

* `Form`, `Form.source`, `Form.statements`: texts with names between them, as a template and as the
  statements of one;
* `Form.Plain`: no text has an opening brace in it, and all names are words;
* `Piece.tokens_word`, `Piece.splitFrom_source`: the pieces of the template of a form;
* `Expr.ofTokens_word`: a word alone is an expression, except for the word of negation;
* **`Form.ofText_source`**: the template of a plain form has the statements of the form.
-/

namespace NodeBootstrap.Template

/-- A word: a letter or an underscore, and then letters, digits and underscores. -/
def IsWord (x : String) : Prop :=
  ∃ c cs, x.toList = c :: cs ∧ Token.isWordStart c = true ∧ ∀ d ∈ cs, Token.isWordChar d = true

/-- Texts with names between them. -/
inductive Form where
  | text (s : String)
  | place (s name : String) (rest : Form)
deriving Repr, Inhabited

namespace Form

/-- The names, in order. -/
def names : Form → List String
  | text _ => []
  | place _ x rest => x :: rest.names

/-- The texts, in order. -/
def texts : Form → List String
  | text s => [s]
  | place s _ rest => s :: rest.texts

/-- The form as a template, with each name in double braces. -/
def source : Form → String
  | text s => s
  | place s x rest => s ++ "\x7b\x7b " ++ x ++ " \x7d\x7d" ++ rest.source

/-- The pieces of the template. -/
def pieces : Form → List Piece
  | text s => [.literal s.toList]
  | place s x rest => .literal s.toList :: .output [.word x] :: rest.pieces

/-- The statements of the template. -/
def statements : Form → List Node
  | text s => [.literal s.toList]
  | place s x rest => .literal s.toList :: .output (Expr.ofWord x) :: rest.statements

/-- The form with a text for each name. -/
def filled (value : String → String) : Form → String
  | text s => s
  | place s x rest => s ++ value x ++ rest.filled value

/-- No text has an opening brace in it, and all names are words. -/
structure Plain (f : Form) : Prop where
  texts : ∀ s ∈ f.texts, '\x7b' ∉ s.toList
  names : ∀ x ∈ f.names, IsWord x

theorem Plain.rest {s x : String} {rest : Form} (h : (place s x rest).Plain) : rest.Plain :=
  ⟨fun t ht => h.texts t (List.mem_cons_of_mem _ ht),
    fun y hy => h.names y (List.mem_cons_of_mem _ hy)⟩

theorem toList_source_place (s x : String) (rest : Form) : (place s x rest).source.toList =
    s.toList ++ '\x7b' :: '\x7b' :: ' ' :: (x.toList ++ ' ' :: '\x7d' :: '\x7d' ::
      rest.source.toList) := by
  simp [source]

theorem length_names_le (f : Form) : f.names.length ≤ f.source.toList.length := by
  induction f with
  | text s => simp [names]
  | place s x rest ih =>
    rw [toList_source_place, names]
    simp only [List.length_append, List.length_cons]
    omega

end Form

/-! ## Tokens -/

theorem Token.isGap_of_isWordStart {c : Char} (h : isWordStart c = true) : isGap c = false := by
  refine Bool.eq_false_iff.mpr fun hgap => ?_
  simp only [isGap, Bool.or_eq_true, beq_iff_eq] at hgap
  rcases hgap with (((rfl | rfl) | rfl) | rfl) | rfl
  all_goals exact absurd h (by decide)

theorem Token.read_word {x : String} (h : IsWord x) {rest : List Char}
    (hrest : ∀ d ∈ rest.head?, isWordChar d = false) :
    read (x.toList ++ rest) = some (.word x, rest) := by
  obtain ⟨c, cs, hx, hc, hcs⟩ := h
  have hword : String.ofList (c :: cs) = x := by rw [← hx, String.ofList_toList]
  rw [hx, List.cons_append, read, if_pos hc, Chars.takeWhile_run hcs hrest,
    Chars.dropWhile_run hcs hrest, hword]

namespace Piece

/-- The mark after a value. -/
def outputEnd : List Char := ['\x7d', '\x7d']

theorem closing?_eq_none {c : Char} (h : Token.isWordStart c = true) (cs : List Char) :
    closing? outputEnd (c :: cs) = none := by
  have hminus : c ≠ '-' := fun hc => absurd h (by rw [hc]; decide)
  have hplus : c ≠ '+' := fun hc => absurd h (by rw [hc]; decide)
  have hbrace : '\x7d' ≠ c := fun hc => absurd h (by rw [← hc]; decide)
  simp [closing?, control, outputEnd, Chars.after?, hminus, hplus, hbrace]

/-- The tokens of a placeholder are its word. -/
theorem tokens_word {x : String} (h : IsWord x) (fuel : Nat) (after : List Char) :
    tokens outputEnd (fuel + 2) 0 (' ' :: (x.toList ++ ' ' :: '\x7d' :: '\x7d' :: after)) =
      some ([.word x], false, after) := by
  have hread : Token.read (x.toList ++ ' ' :: '\x7d' :: '\x7d' :: after) =
      some (.word x, ' ' :: '\x7d' :: '\x7d' :: after) := Token.read_word h fun d hd => by
    obtain rfl : ' ' = d := Option.some.inj hd
    decide
  obtain ⟨c, cs, hx, hc, -⟩ := h
  have hstart : (' ' :: (x.toList ++ ' ' :: '\x7d' :: '\x7d' :: after)).dropWhile Token.isGap =
      x.toList ++ ' ' :: '\x7d' :: '\x7d' :: after := by
    rw [hx, List.dropWhile_cons_of_pos (by decide), List.cons_append,
      List.dropWhile_cons_of_neg (by simp [Token.isGap_of_isWordStart hc])]
  have hopen : closing? outputEnd (x.toList ++ ' ' :: '\x7d' :: '\x7d' :: after) = none := by
    rw [hx]
    exact closing?_eq_none hc _
  have hclose : tokens outputEnd (fuel + 1) 0 (' ' :: '\x7d' :: '\x7d' :: after) =
      some ([], false, after) := rfl
  rw [tokens, hstart]
  simp [hopen, hread, depthAfter, hclose]

/-! ## Pieces -/

theorem opening?_of_not_mem {cs : List Char} (h : '\x7b' ∉ cs) : opening? cs = none := by
  induction cs with
  | nil => rfl
  | cons c cs ih =>
    rw [List.mem_cons, not_or] at h
    rcases cs with _ | ⟨d, cs⟩
    · rfl
    · rw [opening?, if_neg (Ne.symm h.1)]
      simp [ih h.2]

theorem opening?_append {cs : List Char} (h : '\x7b' ∉ cs) (rest : List Char) :
    opening? (cs ++ '\x7b' :: '\x7b' :: rest) = some (cs, .output, rest) := by
  induction cs with
  | nil => rfl
  | cons c cs ih =>
    rw [List.mem_cons, not_or] at h
    obtain ⟨d, ds, hds⟩ := List.exists_cons_of_ne_nil
      (l := cs ++ '\x7b' :: '\x7b' :: rest) (by simp)
    have hrest := ih h.2
    rw [List.cons_append, hds, opening?, if_neg (Ne.symm h.1), ← hds]
    simp [hrest]

theorem splitFrom_source {f : Form} (h : f.Plain) {fuel : Nat} (hfuel : f.names.length < fuel) :
    splitFrom fuel false f.source.toList = some f.pieces := by
  induction f generalizing fuel with
  | text s =>
    obtain ⟨fuel, rfl⟩ := Nat.exists_eq_add_one_of_ne_zero (Nat.ne_zero_of_lt hfuel)
    have hnone : opening? (dropStart false s.toList) = none :=
      opening?_of_not_mem (h.texts s (by simp [Form.texts]))
    rw [Form.source, splitFrom, hnone]
    rfl
  | place s x rest ih =>
    obtain ⟨fuel, rfl⟩ := Nat.exists_eq_add_one_of_ne_zero (Nat.ne_zero_of_lt hfuel)
    have hrest : splitFrom fuel false rest.source.toList = some rest.pieces :=
      ih h.rest (by simpa [Form.names] using hfuel)
    rw [Form.toList_source_place]
    generalize rest.source.toList = after at hrest ⊢
    have hopening : opening? (dropStart false (s.toList ++ '\x7b' :: '\x7b' :: ' ' ::
        (x.toList ++ ' ' :: '\x7d' :: '\x7d' :: after))) = some (s.toList, .output, _) :=
      opening?_append (h.texts s (by simp [Form.texts])) _
    have htokens := tokens_word (h.names x (by simp [Form.names]))
      (x.toList ++ ' ' :: '\x7d' :: '\x7d' :: after).length after
    rw [splitFrom, hopening]
    have hcontrol : control (' ' :: (x.toList ++ ' ' :: '\x7d' :: '\x7d' :: after)) =
      (false, ' ' :: (x.toList ++ ' ' :: '\x7d' :: '\x7d' :: after)) := rfl
    simp only [hcontrol, List.length_cons]
    change ((tokens outputEnd _ 0 _).bind fun r => (splitFrom fuel r.2.1 r.2.2).bind fun ps =>
      some (literal (dropEnd false s.toList) :: output r.1 :: ps)) = _
    rw [htokens]
    simp [hrest, dropEnd, Form.pieces]

end Piece

/-! ## Expressions -/

namespace Expr

/-- How the operators of a level are written. -/
def Level.spellings : Level → List (List String)
  | .negation => []
  | .binary operators => operators.map (·.1)

theorem nil_not_mem_spellings : ∀ l ∈ levels, [] ∉ l.spellings := by decide

theorem operator?_nil {operators : List (List String × Operator)}
    (h : [] ∉ operators.map (·.1)) : operator? operators [] = none := by
  induction operators with
  | nil => rfl
  | cons o operators ih =>
    obtain ⟨written, op⟩ := o
    rw [List.map_cons, List.mem_cons, not_or] at h
    obtain ⟨s, ss, rfl⟩ := List.exists_cons_of_ne_nil (Ne.symm h.1)
    rw [operator?, afterWritten]
    exact ih h.2

theorem readOperand_nil (ls : List Level) (fuel : Nat) : readOperand fuel ls [] = none := by
  induction fuel generalizing ls with
  | zero => rfl
  | succ fuel ih =>
    rcases ls with _ | ⟨l, ls⟩
    · rw [readOperand]
      rcases fuel with _ | _ | fuel <;> rfl
    · cases l with
      | negation => rw [readOperand, ih]; simp
      | binary operators => rw [readOperand, ih]; rfl

/-- A word alone is a value on every level of operators. -/
theorem readOperand_word {x : String} (hx : x ≠ "not") {ls : List Level}
    (hls : ∀ l ∈ ls, [] ∉ l.spellings) (fuel : Nat) :
    readOperand (fuel + ls.length + 3) ls [.word x] = some (ofWord x, []) := by
  induction ls with
  | nil => rfl
  | cons l ls ih =>
    have hrest := ih fun l hl => hls l (List.mem_cons_of_mem _ hl)
    have hfuel : fuel + (l :: ls).length + 3 = (fuel + ls.length + 3) + 1 := by
      rw [List.length_cons]
      omega
    rw [hfuel]
    cases l with
    | negation =>
      rw [readOperand, hrest]
      simpa using hx
    | binary operators =>
      have hnone : operator? operators [] = none :=
        operator?_nil (hls (.binary operators) (by simp))
      rw [readOperand, hrest]
      simp [readChain, hnone]

theorem ofTokens_word {x : String} (hx : x ≠ "not") : ofTokens [.word x] = some (ofWord x) := by
  have hread : read (fuelFor [.word x]) [.word x] = some (ofWord x, []) := by
    have hoperand : readOperand 47 levels [.word x] = some (ofWord x, []) :=
      readOperand_word hx nil_not_mem_spellings 36
    change ((readOperand 47 levels [.word x]).bind fun r => readChoice 47 r.1 r.2) = _
    rw [hoperand]
    rfl
  rw [ofTokens, hread]

/-- The word of negation needs an operand. -/
theorem ofTokens_not : ofTokens [.word "not"] = none := by
  have hoperand : readOperand 47 levels [.word "not"] = none := by
    change ((((readOperand 44 (levels.drop 2) []).bind fun r => some (not r.1, r.2)).bind
      fun r => readChain 45 [(["and"], .and)] (levels.drop 2) r.1 r.2).bind
      fun r => readChain 46 [(["or"], .or)] (levels.drop 1) r.1 r.2) = _
    rw [readOperand_nil]
    rfl
  have hread : read (fuelFor [.word "not"]) [.word "not"] = none := by
    change ((readOperand 47 levels [.word "not"]).bind fun r => readChoice 47 r.1 r.2) = _
    rw [hoperand]
    rfl
  rw [ofTokens, hread]

end Expr

/-! ## Statements -/

namespace Form

theorem readAll_pieces (f : Form) {fuel : Nat} (hfuel : f.pieces.length < fuel) :
    Node.readAll fuel [] f.pieces =
      if "not" ∈ f.names then none else some (f.statements, []) := by
  induction f generalizing fuel with
  | text s =>
    obtain ⟨fuel, rfl⟩ : ∃ k, fuel = k + 2 := ⟨fuel - 2, by simp [pieces] at hfuel; omega⟩
    rfl
  | place s x rest ih =>
    rw [pieces, List.length_cons, List.length_cons] at hfuel
    obtain ⟨fuel, rfl⟩ : ∃ k, fuel = k + 2 := ⟨fuel - 2, by omega⟩
    have hrest : Node.readAll fuel [] rest.pieces =
        if "not" ∈ rest.names then none else some (rest.statements, []) := ih (by omega)
    rw [pieces, Node.readAll, Node.readAll, hrest]
    by_cases hx : x = "not"
    · subst hx
      simp [Expr.ofTokens_not, names]
    · rw [Expr.ofTokens_word hx]
      by_cases hnot : "not" ∈ rest.names
      · simp [names, hnot]
      · simp [names, hnot, Ne.symm hx, statements]

/-- **The template of a plain form has the statements of the form**, unless the word of negation is
among its names. -/
theorem ofText_source {f : Form} (h : f.Plain) : Node.ofText f.source =
    if "not" ∈ f.names then none else some f.statements := by
  have hlength := f.length_names_le
  have hsplit : Piece.split f.source.toList = some f.pieces := Piece.splitFrom_source h (by omega)
  have hfuel : f.pieces.length < Node.fuelFor f.pieces := by rw [Node.fuelFor]; omega
  have hread := readAll_pieces f hfuel
  rw [Node.ofText, hsplit, Option.bind_some, Node.ofPieces, hread]
  by_cases hnot : "not" ∈ f.names
  · rw [if_pos hnot, if_pos hnot]
  · rw [if_neg hnot, if_neg hnot]

end Form

end NodeBootstrap.Template
