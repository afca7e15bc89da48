import SceneRender.Proofs.Script.Height
import SceneRender.Proofs.Script.TokenWeight
import SceneRender.Script.StringLiteral

/-!
# How high the pieces of a string are

A formatted string is cut into pieces, and the text of each replacement field is handed to
a reader of expressions.  If that reader makes no more levels of a text than the text has
characters, and three, then a piece is at most two levels higher than the characters that
were left when it began.
-/

namespace SceneRender.Script

/-- The expression that a field reader makes of a text is hardly higher than it is long. -/
def FieldReader.Fits (read : FieldReader) : Prop :=
  ∀ ⦃text o e⦄, read text o = .ok e → e.height ≤ text.length + 3

/-- The characters ahead. -/
def Place.left (p : Place) : Nat := p.rest.length

/-- One character less is left behind the next one. -/
theorem Place.left_next {p p' : Place} {c : Char} (h : p.next? = some (c, p')) :
    p'.left + 1 = p.left := by
  obtain ⟨rest, pos⟩ := p
  cases rest with
  | nil => cases h
  | cons d rest =>
      obtain ⟨-, rfl⟩ := Prod.mk.inj (Option.some.inj h)
      rfl

/-! ## Escapes -/

variable {p p' : Place} {c : Char} {kind : StringKind}

/-- Taking hexadecimal digits leaves no more than before. -/
theorem takeHex_left {n v v' : Nat} (h : takeHex n v p = some (v', p')) : p'.left ≤ p.left := by
  induction n generalizing v p with
  | zero =>
      obtain ⟨-, rfl⟩ := Prod.mk.inj (Option.some.inj h)
      exact Nat.le_refl _
  | succ n ih =>
      simp only [takeHex] at h
      split at h
      case h_1 c p₁ hnext =>
        have := Place.left_next hnext
        obtain ⟨d, -, hd⟩ := Option.bind_eq_some_iff.mp h
        have := ih hd
        omega
      case h_2 => cases h

/-- A numeric escape leaves no more than before. -/
theorem numericEscape_left {n : Nat} (h : numericEscape n p = .ok (c, p')) : p'.left ≤ p.left := by
  simp only [numericEscape] at h
  split at h
  case h_1 v p₁ hhex =>
    have := takeHex_left hhex
    split at h
    · obtain ⟨-, rfl⟩ := Prod.mk.inj (Except.ok.inj h)
      exact this
    · split at h
      · obtain ⟨-, rfl⟩ := Prod.mk.inj (Except.ok.inj h)
        exact this
      · cases h
  case h_2 => cases h

/-- Taking octal digits leaves no more than before. -/
theorem takeOctal_left (n v : Nat) (p : Place) : (takeOctal n v p).2.left ≤ p.left := by
  induction n generalizing v p with
  | zero => exact Nat.le_refl _
  | succ n ih =>
      simp only [takeOctal]
      split
      case h_1 c p₁ hnext =>
        have := Place.left_next hnext
        split
        · have := ih (8 * v + (c.toNat - '0'.toNat)) p₁
          omega
        · exact Nat.le_refl _
      case h_2 => exact Nat.le_refl _

/-- A named escape leaves no more than before. -/
theorem namedEscape_left (h : namedEscape p = .ok (c, p')) : p'.left ≤ p.left := by
  obtain ⟨rest, pos⟩ := p
  simp only [namedEscape] at h
  split at h
  case h_1 rest' =>
    split at h
    case h_1 => cases h
    case h_2 d rest'' hdrop =>
      have hlen : rest''.length + 1 ≤ rest'.length := by
        rw [← List.length_cons, ← hdrop]
        exact (List.dropWhile_suffix _).length_le
      split at h
      · cases h
      · split at h
        · obtain ⟨-, rfl⟩ := Prod.mk.inj (Except.ok.inj h)
          simp only [Place.left, List.length_cons]
          omega
        · cases h
  case h_2 => cases h

/-- A single character that an escape stands for. -/
theorem escaped_left {r : Except ScriptError (Char × Place)} {cs : List Char} {k : Nat}
    (hr : ∀ {c p'}, r = .ok (c, p') → p'.left ≤ k)
    (h : (r.map fun (c, p) => ([c], p)) = .ok (cs, p')) : p'.left ≤ k := by
  cases r with
  | error e => cases h
  | ok x =>
      obtain ⟨c, p₁⟩ := x
      obtain ⟨-, rfl⟩ := Prod.mk.inj (Except.ok.inj h)
      exact hr rfl

/-- An escape leaves no more than before. -/
theorem decodeEscape_left {cs : List Char} (h : decodeEscape kind p = .ok (cs, p')) :
    p'.left ≤ p.left := by
  unfold decodeEscape at h
  split at h
  case h_1 => cases h
  case h_2 c p₁ hnext =>
    have hleft := Place.left_next hnext
    have hsome {xs : List Char} (h : Except.ok (ε := ScriptError) (xs, p₁) = .ok (cs, p')) :
        p'.left ≤ p.left := by
      obtain ⟨-, rfl⟩ := Prod.mk.inj (Except.ok.inj h)
      omega
    have hother {b : Bool} {e : ScriptError} {xs : List Char}
        (h : (if b = true then .error e else Except.ok (xs, p₁)) = .ok (cs, p')) :
        p'.left ≤ p.left := by
      cases b with
      | true => cases h
      | false => exact hsome h
    have hmany {r : Except ScriptError (Char × Place)}
        (hr : ∀ {c p'}, r = .ok (c, p') → p'.left ≤ p₁.left)
        (h : (r.map fun (c, p) => ([c], p)) = .ok (cs, p')) : p'.left ≤ p.left := by
      have := escaped_left hr h
      omega
    dsimp only at h
    split at h
    case h_11 => exact hmany numericEscape_left h
    case h_12 =>
      split at h
      · exact hother h
      · exact hmany numericEscape_left h
    case h_13 =>
      split at h
      · exact hother h
      · exact hmany numericEscape_left h
    case h_14 =>
      split at h
      · exact hother h
      · exact hmany namedEscape_left h
    case h_16 =>
      split at h
      · have hoctal := takeOctal_left 2 (c.toNat - '0'.toNat) p₁
        obtain ⟨-, rfl⟩ := Prod.mk.inj (Except.ok.inj h)
        omega
      · exact hother h
    -- what is left stands for a character of its own, or for nothing
    all_goals exact hsome h

/-! ## Fields -/

variable {read : FieldReader} {f f' : FieldState} {B : Nat}

/-- A conversion leaves no more than before. -/
theorem takeConversion_left {conversion : Conversion}
    (h : takeConversion p = .ok (conversion, p')) : p'.left ≤ p.left := by
  unfold takeConversion at h
  split at h
  case h_1 => cases h
  case h_2 c p₁ hnext =>
    have hleft := Place.left_next hnext
    dsimp only at h
    split at h
    case h_1 => cases h
    case h_2 =>
      split at h
      case h_3 => cases h
      all_goals
        obtain ⟨-, rfl⟩ := Prod.mk.inj (Except.ok.inj h)
        omega

/-- What was quoted was taken from the rest. -/
theorem takeQuoted_left {quote : Char} {text text' rest : List Char} {pos : Nat}
    (h : takeQuoted quote text rest pos = .ok (text', p')) :
    text'.length + p'.left = text.length + rest.length ∧ p'.left ≤ rest.length := by
  induction rest generalizing text pos with
  | nil => cases h
  | cons c rest ih =>
      rw [takeQuoted] at h
      split at h
      · obtain ⟨rfl, rfl⟩ := Prod.mk.inj (Except.ok.inj h)
        simp only [List.length_cons, Place.left]
        omega
      · have := ih h
        simp only [List.length_cons] at this ⊢
        omega

/-- A closing bracket belongs to the expression of its field. -/
theorem closeBracket_ok {closer : Char} (h : closeBracket f closer p = .ok f') :
    f'.expression.length = f.expression.length + 1 ∧ f'.spec = f.spec := by
  unfold closeBracket at h
  split at h
  · cases h
  · split at h
    · obtain rfl := Except.ok.inj h
      exact ⟨rfl, rfl⟩
    · cases h

/-- A piece of text is one high at most. -/
theorem textPiece_height (text : List Char) : tallest Expr.height (textPiece text) ≤ 1 := by
  unfold textPiece
  split
  · exact Nat.zero_le 1
  · simp only [tallest_cons, tallest_nil, Expr.height_constant]
    omega

/-- The pieces of a field are no higher than its text allows. -/
theorem closeField_height (hread : read.Fits) {start : Nat} {pieces : List Expr}
    (h : closeField read start f p = .ok pieces) (hB : f.expression.length + 4 ≤ B)
    (hspec : tallest Expr.height f.spec.toList + 1 ≤ B) : tallest Expr.height pieces ≤ B := by
  unfold closeField at h
  split at h
  · cases h
  · dsimp only at h
    split at h
    case h_1 => cases h
    case h_2 value hvalue =>
      have hheight := hread hvalue
      rw [List.length_reverse] at hheight
      split at h
      all_goals
        obtain rfl := Except.ok.inj h
        simp only [tallest_cons, tallest_nil, Expr.height_constant, Expr.height_formatted]
        omega

/-- **The pieces of a string are within bounds**, however much fuel is left: pieces, fields
and format specifications reach at most as high as the characters ahead allow. -/
structure PiecesFit (read : FieldReader) (kind : StringKind) (fuel : Nat) : Prop where
  pieces {nested : Nat} {text : List Char} {before after : List Expr} {p p' : Place} {B : Nat}
    (h : takePieces read kind fuel nested text before p = .ok (after, p'))
    (hB : p.left + 2 ≤ B) (hbefore : tallest Expr.height before ≤ B) :
    tallest Expr.height after ≤ B ∧ p'.left ≤ p.left
  field {nested start : Nat} {f : FieldState} {after : List Expr} {p p' : Place} {B : Nat}
    (h : takeField read kind fuel nested start f p = .ok (after, p'))
    (hB : f.expression.length + p.left + 3 ≤ B)
    (hspec : tallest Expr.height f.spec.toList + 1 ≤ B) :
    tallest Expr.height after ≤ B ∧ p'.left ≤ p.left
  spec {nested : Nat} {text : List Char} {before after : List Expr} {p p' : Place} {B : Nat}
    (h : takeSpec read kind fuel nested text before p = .ok (after, p'))
    (hB : p.left + 2 ≤ B) (hbefore : tallest Expr.height before ≤ B) :
    tallest Expr.height after ≤ B ∧ p'.left ≤ p.left

variable {fuel nested start : Nat} {text : List Char} {before after : List Expr}

/-- One more piece of text does not make the pieces higher. -/
theorem textPiece_append (hbefore : tallest Expr.height before ≤ B) (hB : 1 ≤ B) :
    tallest Expr.height (textPiece text ++ before) ≤ B := by
  have := textPiece_height text
  rw [tallest_append]
  omega

/-- Pieces fit with one more unit of fuel. -/
theorem PiecesFit.takePieces (ih : PiecesFit read kind fuel)
    (h : takePieces read kind (fuel + 1) nested text before p = .ok (after, p'))
    (hB : p.left + 2 ≤ B) (hbefore : tallest Expr.height before ≤ B) :
    tallest Expr.height after ≤ B ∧ p'.left ≤ p.left := by
  have hend (h : Except.ok (ε := ScriptError) (textPiece text ++ before, p) = .ok (after, p')) :
      tallest Expr.height after ≤ B ∧ p'.left ≤ p.left := by
    obtain ⟨rfl, rfl⟩ := Prod.mk.inj (Except.ok.inj h)
    exact ⟨textPiece_append hbefore (by omega), Nat.le_refl _⟩
  -- a doubled brace is a character of the text
  have hdouble {p₁ : Place} {c d : Char} {rest : List Char} {pos : Nat}
      (hnext : p.next? = some (c, p₁)) (hrest : p₁.rest = d :: rest)
      (h : Script.takePieces read kind fuel nested (c :: text) before ⟨rest, pos⟩ =
        .ok (after, p')) : tallest Expr.height after ≤ B ∧ p'.left ≤ p.left := by
    have hleft := Place.left_next hnext
    have hlen : p₁.left = rest.length + 1 := congrArg List.length hrest
    have := ih.pieces h (by simp only [Place.left]; omega) hbefore
    simp only [Place.left] at this hlen hleft ⊢
    omega
  rw [Script.takePieces] at h
  split at h
  case h_1 => exact hend h
  case h_2 p₁ hnext =>
    have hleft := Place.left_next hnext
    split at h
    case h_1 rest hrest => exact hdouble hnext hrest h
    case h_2 => cases h
    case h_3 =>
      split at h
      case h_1 new p₂ hfield =>
        obtain ⟨hnew, hp₂⟩ := ih.field (B := B) hfield
          (by simp only [FieldState.start, List.length_nil]; omega)
          (by simp only [FieldState.start, Option.toList_none, tallest_nil]; omega)
        have hmore : tallest Expr.height (new.reverse ++ (textPiece text ++ before)) ≤ B := by
          have htext : tallest Expr.height (textPiece text ++ before) ≤ B :=
            textPiece_append hbefore (by omega)
          rw [tallest_append, tallest_reverse]
          omega
        have := ih.pieces h (by omega) hmore
        omega
      case h_2 => cases h
  case h_3 p₁ hnext =>
    split at h
    · exact hend h
    · split at h
      case h_1 rest hrest => exact hdouble hnext hrest h
      case h_2 => cases h
  case h_4 c p₁ _ _ hnext =>
    have hleft := Place.left_next hnext
    dsimp only at h
    split at h
    · split at h
      case h_1 cs p₂ hescape =>
        have := decodeEscape_left hescape
        have := ih.pieces h (by omega) hbefore
        omega
      case h_2 => cases h
    · have := ih.pieces h (by omega) hbefore
      omega

/-- Fields fit with one more unit of fuel. -/
theorem PiecesFit.takeField (hread : read.Fits) (ih : PiecesFit read kind fuel)
    (h : takeField read kind (fuel + 1) nested start f p = .ok (after, p'))
    (hB : f.expression.length + p.left + 3 ≤ B)
    (hspec : tallest Expr.height f.spec.toList + 1 ≤ B) :
    tallest Expr.height after ≤ B ∧ p'.left ≤ p.left := by
  rw [Script.takeField] at h
  split at h
  case h_1 => cases h
  case h_2 c p₁ hnext =>
    have hleft := Place.left_next hnext
    -- the field goes on, further on and with no more left than before
    have hmore {f' : FieldState} {p₂ : Place}
        (h : Script.takeField read kind fuel nested start f' p₂ = .ok (after, p'))
        (hexpr : f'.expression.length + p₂.left ≤ f.expression.length + p.left)
        (hp₂ : p₂.left ≤ p.left) (hspec : tallest Expr.height f'.spec.toList + 1 ≤ B) :
        tallest Expr.height after ≤ B ∧ p'.left ≤ p.left := by
      have := ih.field h (by omega) hspec
      omega
    dsimp only at h
    refine branch_cases h (fun hc h => ?_) fun _ h => ?_
    · have htail : p₁.rest.tail.length + 1 = p₁.rest.length := by
        obtain ⟨rest, pos⟩ := p₁
        cases rest with
        | nil => simp at hc
        | cons d rest => rfl
      refine hmore h ?_ ?_ hspec
      · simp only [List.length_append, List.length_cons, List.length_nil, Place.left] at hleft ⊢
        omega
      · simp only [Place.left] at hleft ⊢
        omega
    refine branch_cases h (fun _ h => ?_) fun _ h => ?_
    · replace h := ok_of_check h
      split at h
      case h_1 conversion p₂ hconversion =>
        have := takeConversion_left hconversion
        exact hmore h (by dsimp only; omega) (by omega) hspec
      case h_2 => cases h
    refine branch_cases h (fun _ h => hmore h (by dsimp only; omega) (by omega) hspec) fun _ h => ?_
    refine branch_cases h (fun _ h => ?_) fun _ h => ?_
    · split at h
      case h_1 pieces p₂ hpieces =>
        obtain ⟨hheight, hp₂⟩ := ih.spec (B := B - 2) hpieces (by omega) (Nat.zero_le _)
        refine hmore h (by dsimp only; omega) (by omega) ?_
        simp only [Option.toList_some, tallest_cons, tallest_nil, Expr.height_joined,
          tallest_reverse]
        omega
      case h_2 => cases h
    refine branch_cases h (fun _ h => ?_) fun _ h => ?_
    · exact hmore h (by simp only [List.length_cons]; omega) (by omega) hspec
    refine branch_cases h (fun _ h => ?_) fun _ h => ?_
    · split at h
      case h_1 f' hclose =>
        obtain ⟨hlen, hspec'⟩ := closeBracket_ok hclose
        exact hmore h (by omega) (by omega) (hspec' ▸ hspec)
      case h_2 => cases h
    refine branch_cases h (fun _ h => ?_) fun _ h => ?_
    · cases hclose : closeField read start f p₁ with
      | error e => rw [hclose] at h; cases h
      | ok pieces =>
          rw [hclose] at h
          obtain ⟨rfl, rfl⟩ := Prod.mk.inj (Except.ok.inj h)
          exact ⟨closeField_height hread hclose (by omega) hspec, by omega⟩
    refine branch_cases h (fun _ h => ?_) fun _ h => ?_
    · split at h
      case h_1 expression p₂ hquoted =>
        obtain ⟨hlen, hle⟩ := takeQuoted_left hquoted
        simp only [Place.left, List.length_cons] at hlen hle hleft
        exact hmore h (by simp only [Place.left]; omega) (by simp only [Place.left]; omega) hspec
      case h_2 => cases h
    refine branch_cases h (fun _ h => hmore h (by dsimp only; omega) (by omega) hspec) fun _ h => ?_
    replace h := ok_of_check h
    replace h := ok_of_check h
    exact hmore h (by simp only [List.cons_append, List.nil_append, List.length_cons]; omega)
      (by omega) hspec

/-- Format specifications fit with one more unit of fuel. -/
theorem PiecesFit.takeSpec (ih : PiecesFit read kind fuel)
    (h : takeSpec read kind (fuel + 1) nested text before p = .ok (after, p'))
    (hB : p.left + 2 ≤ B) (hbefore : tallest Expr.height before ≤ B) :
    tallest Expr.height after ≤ B ∧ p'.left ≤ p.left := by
  have hend (h : Except.ok (ε := ScriptError) (textPiece text ++ before, p) = .ok (after, p')) :
      tallest Expr.height after ≤ B ∧ p'.left ≤ p.left := by
    obtain ⟨rfl, rfl⟩ := Prod.mk.inj (Except.ok.inj h)
    exact ⟨textPiece_append hbefore (by omega), Nat.le_refl _⟩
  rw [Script.takeSpec] at h
  split at h
  case h_1 => exact hend h
  case h_2 => exact hend h
  case h_3 =>
    split at h
    · cases h
    · split at h
      case h_1 new p₁ hpieces =>
        obtain ⟨hnew, hp₁⟩ := ih.pieces hpieces hB (Nat.zero_le _)
        have hmore : tallest Expr.height (new ++ (textPiece text ++ before)) ≤ B := by
          have htext : tallest Expr.height (textPiece text ++ before) ≤ B :=
            textPiece_append hbefore (by omega)
          rw [tallest_append]
          omega
        have := ih.spec h (by omega) hmore
        omega
      case h_2 => cases h
  case h_4 c p₁ _ _ hnext =>
    have hleft := Place.left_next hnext
    have := ih.spec h (by omega) hbefore
    omega

/-- **The pieces of every string fit.** -/
theorem piecesFit (hread : read.Fits) (kind : StringKind) (fuel : Nat) :
    PiecesFit read kind fuel := by
  induction fuel with
  | zero =>
      constructor
      case pieces =>
        intro nested text before after p p' B h hB hbefore
        rw [takePieces] at h
        obtain ⟨rfl, rfl⟩ := Prod.mk.inj (Except.ok.inj h)
        exact ⟨textPiece_append hbefore (by omega), Nat.le_refl _⟩
      case field =>
        intro nested start f after p p' B h hB hspec
        rw [takeField] at h
        cases h
      case spec =>
        intro nested text before after p p' B h hB hbefore
        rw [takeSpec] at h
        obtain ⟨rfl, rfl⟩ := Prod.mk.inj (Except.ok.inj h)
        exact ⟨textPiece_append hbefore (by omega), Nat.le_refl _⟩
  | succ fuel ih => exact ⟨ih.takePieces, ih.takeField hread, ih.takeSpec⟩

/-! ## Literals -/

/-- What a literal pays for: its body, its letters and two quotes. -/
def StringPart.weight (part : StringPart) : Nat := part.body.length + part.kind.letters + 2

/-- A formatted string has a letter in front. -/
theorem letters_pos_of_formatted (h : kind.isFormatted = true) : 0 < kind.letters := by
  cases kind <;> first | exact Nat.zero_lt_succ _ | cases h

/-- A part is heavier than its pieces are high. -/
theorem StringPart.pieces_height (hread : read.Fits) {part : StringPart} {pieces : List Expr}
    (h : part.pieces read = .ok pieces) : tallest Expr.height pieces + 1 ≤ part.weight := by
  unfold StringPart.pieces at h
  dsimp only at h
  refine branch_cases h (fun hformatted h => ?_) fun _ h => ?_
  · have hletters := letters_pos_of_formatted hformatted
    cases hpieces : takePieces read part.kind (2 * part.body.length + 2) 0 [] [] part.place with
    | error e => rw [hpieces] at h; cases h
    | ok r =>
        obtain ⟨new, p'⟩ := r
        rw [hpieces] at h
        obtain rfl := Except.ok.inj h
        have hplace : part.place.left = part.body.length := rfl
        have hnew := ((piecesFit hread part.kind _).pieces hpieces (Nat.le_refl _)
          (Nat.zero_le _)).1
        dsimp only
        rw [tallest_reverse, StringPart.weight]
        omega
  · cases hbody : decodeBody part.kind (2 * part.body.length + 2) [] part.place with
    | error e => rw [hbody] at h; cases h
    | ok text =>
        rw [hbody] at h
        obtain rfl := Except.ok.inj h
        simp only [tallest_cons, tallest_nil, Expr.height_constant, StringPart.weight]
        omega

/-- All pieces are no higher than their parts weigh. -/
theorem allPieces_height (hread : read.Fits) {parts : List StringPart} {pieces : List Expr}
    (h : allPieces read parts = .ok pieces) :
    tallest Expr.height pieces ≤ (parts.map (·.weight)).sum - 1 := by
  induction parts generalizing pieces with
  | nil =>
      obtain rfl := Except.ok.inj h
      exact Nat.zero_le _
  | cons part parts ih =>
      rw [allPieces] at h
      split at h
      case h_1 => cases h
      case h_2 new hnew =>
        split at h
        case h_1 => cases h
        case h_2 more hmore =>
          obtain rfl := Except.ok.inj h
          have hfirst := StringPart.pieces_height hread hnew
          have hrest := ih hmore
          rw [tallest_append, List.map_cons, List.sum_cons]
          omega

/-- Merging pieces does not make them higher. -/
theorem mergePieces_height (pieces : List Expr) :
    tallest Expr.height (mergePieces pieces) ≤ tallest Expr.height pieces := by
  fun_induction mergePieces pieces with
  | case1 a rest b rest' heq ih =>
      simp only [heq, tallest_cons, Expr.height_constant] at ih ⊢
      omega
  | case2 a rest _ ih =>
      simp only [tallest_cons]
      omega
  | case3 e rest _ ih =>
      simp only [tallest_cons]
      omega
  | case4 => exact Nat.le_refl _

/-- **The value of adjacent literals is no higher than they are long.** -/
theorem joinLiterals_height (hread : read.Fits) {parts : List StringPart} {e : Expr}
    (hne : parts ≠ []) (h : joinLiterals read parts = .ok e) :
    e.height ≤ (parts.map (·.weight)).sum := by
  have hpos : 2 ≤ (parts.map (·.weight)).sum := by
    cases parts with
    | nil => exact absurd rfl hne
    | cons part parts =>
        rw [List.map_cons, List.sum_cons, StringPart.weight]
        omega
  unfold joinLiterals at h
  dsimp only at h
  replace h := ok_of_check h
  cases hpieces : allPieces read parts with
  | error e => rw [hpieces] at h; cases h
  | ok pieces =>
      rw [hpieces] at h
      have hheight := allPieces_height hread hpieces
      have hmerged := mergePieces_height pieces
      obtain rfl := Except.ok.inj h
      split
      · rw [Expr.height_constant]
        omega
      · split
        · rw [Expr.height_joined]
          omega
        · rw [Expr.height_constant]
          omega

end SceneRender.Script
