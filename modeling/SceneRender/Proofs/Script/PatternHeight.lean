import SceneRender.Proofs.Script.ExpressionHeight
import SceneRender.Script.Grammar.Pattern

/-!
# Patterns are no higher than their tokens weigh

The height of a pattern is that of the expressions in it, and its readers fit it.
-/

namespace SceneRender.Script

open Reader

/-! ## Heights -/

/-- The expressions in patterns are as high as the patterns. -/
theorem tallest_patternExprs (ps : List Pattern) :
    tallest Expr.height (patternExprs ps) = tallest Pattern.height ps := by
  induction ps with
  | nil => rfl
  | cons p ps ih => rw [patternExprs, tallest_append, ih, tallest_cons, Pattern.height]

/-- The expressions in the patterns for attributes are as high as these. -/
theorem tallest_keywordPatternExprs (ps : List (String × Pattern)) :
    tallest Expr.height (keywordPatternExprs ps) = tallest (fun p => p.2.height) ps := by
  induction ps with
  | nil => rfl
  | cons p ps ih =>
      obtain ⟨name, p⟩ := p
      rw [keywordPatternExprs, tallest_append, ih, tallest_cons, Pattern.height]

namespace Pattern

theorem height_value (e : Expr) : (value e).height = e.height := by
  rw [height, exprs, tallest_cons, tallest_nil, Nat.max_zero]

theorem height_sequence (ps : List Pattern) :
    (sequence ps).height = tallest Pattern.height ps := by
  rw [height, exprs, tallest_patternExprs]

theorem height_mapping (keys : List Expr) (ps : List Pattern) (rest : Option String) :
    (mapping keys ps rest).height = max (tallest Expr.height keys) (tallest height ps) := by
  rw [height, exprs, tallest_append, tallest_patternExprs]

theorem height_object (cls : Expr) (ps : List Pattern) (keywords : List (String × Pattern)) :
    (object cls ps keywords).height =
      max (max cls.height (tallest height ps)) (tallest (fun p => p.2.height) keywords) := by
  rw [height, exprs, tallest_append, tallest_cons, tallest_patternExprs,
    tallest_keywordPatternExprs]

theorem height_capture (p : Pattern) (name : Option String) :
    (capture (some p) name).height = p.height := by
  rw [height, exprs, height]

theorem height_or (ps : List Pattern) : (or ps).height = tallest Pattern.height ps := by
  rw [height, exprs, tallest_patternExprs]

end Pattern

variable {read : FieldReader} {s : TokenStream} {n k : Nat}

/-! ## Numbers and names -/

/-- A number weighs one and is one high. -/
theorem number_weight {t : Token} {e : Expr} (h : number? t = some e) :
    t.weight = 1 ∧ e.height = 1 := by
  unfold number? at h
  split at h
  case h_4 => cases h
  all_goals
    obtain rfl := Option.some.inj h
    exact ⟨rfl, Expr.height_constant _⟩

/-- A number in a pattern is paid for. -/
theorem numberPattern_fits : Fits numberPattern Expr.height := by
  intro s
  refine .peek ?_
  split
  case h_1 e he =>
    obtain ⟨t, ht, he⟩ := Option.bind_eq_some_iff.mp he
    obtain ⟨hw, hheight⟩ := number_weight he
    exact .advance_known ht hw fun s₁ h₁ => .pure (by omega)
  case h_2 => exact .unexpected

/-- A complex number in a pattern is paid for. -/
theorem complexPattern_fits : Fits complexPattern Expr.height := by
  intro s
  -- a second number after the first, which is paid for
  have hsecond {first : Expr} {s₁ : TokenStream} (h : first.height + s₁.weight ≤ s.weight) :
      After (do
        if ← accept (.symbol .plus) then
          let second ← numberPattern
          return .binary first .add second
        else if ← accept (.symbol .minus) then
          let second ← numberPattern
          return .binary first .sub second
        else return first) s₁ fun e s' => e.height + s'.weight ≤ s.weight := by
    refine .accept rfl (fun s₂ h₂ => ?_) (.accept rfl (fun s₂ h₂ => ?_) (.pure h))
    · refine numberPattern_fits.bind fun second s₃ h₃ => .pure ?_
      rw [Expr.height_binary]
      omega
    · refine numberPattern_fits.bind fun second s₃ h₃ => .pure ?_
      rw [Expr.height_binary]
      omega
  refine .accept rfl (fun s₁ h₁ => ?_) (numberPattern_fits.bind fun first s₁ h₁ => hsecond h₁)
  have hnegative : After (Expr.unary .minus <$> numberPattern) s₁ fun e s' =>
      e.height + s'.weight ≤ s.weight := by
    refine .map ((numberPattern_fits s₁).mono fun e s' h => ?_)
    rw [Expr.height_unary]
    omega
  exact hnegative.bind fun first s₂ h₂ => hsecond h₂

/-- Each further name of a dotted one is paid for by its dot. -/
theorem dottedTail_after {e : Expr} (h : e.height + s.weight ≤ k) :
    After (dottedTail n e) s fun e' s' => e'.height + s'.weight ≤ k := by
  induction n generalizing e s with
  | zero => exact .unexpected
  | succ n ih =>
      rw [dottedTail]
      refine .accept rfl (fun s₁ h₁ => identifier_fits.bind fun word s₂ h₂ => ih ?_) (.pure h)
      rw [Expr.height_attribute]
      omega

/-- A singleton weighs one. -/
theorem singleton_weight {t : Token} {c : Constant} (h : singleton? t = some c) :
    t.weight = 1 := by
  cases t <;> first | rfl | cases h

/-- The key of a mapping is paid for. -/
theorem patternKey_fits (hread : read.Fits) : Fits (patternKey read n) Expr.height := by
  intro s
  refine .peek ?_
  split
  case h_1 ht => exact strings_after hread ht
  case h_2 word ht =>
    refine .advance_known ht rfl fun s₁ h₁ => .at_ite (fun _ => dottedTail_after ?_) .unexpected
    rw [Expr.height_name]
    omega
  case h_3 t _ _ ht =>
    split
    case h_1 c hc =>
      refine .advance_known ht (singleton_weight hc) fun s₁ h₁ => .pure ?_
      rw [Expr.height_constant]
      omega
    case h_2 => exact complexPattern_fits s
  case h_4 => exact .unexpected

/-! ## Parts of patterns -/

/-- The height of the patterns in the brackets of a class pattern. -/
def ClassParts.height (parts : ClassParts) : Nat :=
  max (tallest Pattern.height parts.patterns) (tallest (fun p => p.2.height) parts.keywords)

/-- The height of the entries of a mapping pattern. -/
def MappingParts.height (parts : MappingParts) : Nat :=
  max (tallest Expr.height parts.keys) (tallest Pattern.height parts.patterns)

variable {pattern : Reader Pattern}

/-- The parts of a class pattern are paid for. -/
theorem classParts_after (hpattern : Fits pattern Pattern.height) {parts : ClassParts}
    (h : parts.height + s.weight ≤ k) :
    After (classParts pattern n parts) s fun parts' s' => parts'.height + s'.weight ≤ k := by
  induction n generalizing parts s with
  | zero => exact .unexpected
  | succ n ih =>
      rw [classParts]
      -- a comma goes on, a bracket ends the parts
      have hnext {parts : ClassParts} {s₁ : TokenStream} (h : parts.height + s₁.weight ≤ k) :
          After (do
            if ← accept (.symbol .comma) then classParts pattern n parts
            else if ← at? (.symbol .rightParen) then return parts
            else unexpected) s₁ fun parts' s' => parts'.height + s'.weight ≤ k :=
        .accept rfl (fun s₂ h₂ => ih (by omega)) (.at_ite (fun _ => .pure h) .unexpected)
      have hplace : After (do
          let p ← pattern
          let parts ← Pure.pure ({ parts with patterns := parts.patterns ++ [p] } : ClassParts)
          if ← accept (.symbol .comma) then classParts pattern n parts
          else if ← at? (.symbol .rightParen) then return parts
          else unexpected) s fun parts' s' => parts'.height + s'.weight ≤ k := by
        refine hpattern.bind fun p s₁ h₁ => .pure_bind (hnext ?_)
        simp only [ClassParts.height, tallest_append, tallest_cons, tallest_nil] at h ⊢
        omega
      refine .at_ite (fun _ => .pure h) (.peekSecond (.peek ?_))
      dsimp only
      split
      · refine .ite (fun _ => ?_) fun _ => hplace
        refine identifier_fits.bind fun word s₁ h₁ => .symbol fun s₂ h₂ =>
          hpattern.bind fun p s₃ h₃ => .pure_bind (hnext ?_)
        simp only [ClassParts.height, tallest_append, tallest_cons, tallest_nil] at h ⊢
        omega
      · exact .ite (fun _ => .unexpected_bind) fun _ => hplace

/-- The parts of a mapping pattern are paid for. -/
theorem mappingParts_after (hread : read.Fits) (hpattern : Fits pattern Pattern.height)
    {parts : MappingParts} (h : parts.height + s.weight ≤ k) :
    After (mappingParts read pattern n parts) s fun parts' s' =>
      parts'.height + s'.weight ≤ k := by
  induction n generalizing parts s with
  | zero => exact .unexpected
  | succ n ih =>
      rw [mappingParts]
      refine .at_ite (fun _ => .pure h) (.accept rfl (fun s₁ h₁ => ?_) ?_)
      · refine identifier_fits.bind fun word s₂ h₂ => .accept rfl (fun s₃ h₃ => .pure ?_)
          (.pure ?_)
        · simp only [MappingParts.height] at h ⊢
          omega
        · simp only [MappingParts.height] at h ⊢
          omega
      · refine (patternKey_fits hread).bind fun key s₁ h₁ => .symbol fun s₂ h₂ =>
          hpattern.bind fun p s₃ h₃ => ?_
        have hparts : MappingParts.height
            { parts with keys := parts.keys ++ [key], patterns := parts.patterns ++ [p] } +
              s₃.weight ≤ k := by
          simp only [MappingParts.height, tallest_append, tallest_cons, tallest_nil] at h ⊢
          omega
        exact .accept rfl (fun s₄ h₄ => ih (by omega)) (.pure hparts)

/-! ## Patterns -/

/-- The readers of patterns, with some fuel, fit. -/
structure PatternsFit (read : FieldReader) (n : Nat) : Prop where
  pattern : Fits (Script.pattern read n) Pattern.height
  closedPattern : Fits (closedPattern read n) Pattern.height

namespace PatternsFit

/-- A pattern fits if the patterns below do. -/
theorem pattern_succ (ih : PatternsFit read n) :
    Fits (Script.pattern read (n + 1)) Pattern.height := by
  intro s
  rw [Script.pattern]
  refine .offset fun start => ih.closedPattern.bind fun first s₁ h₁ =>
    (chainTail_after rfl ih.closedPattern nil_fits).bind
      fun rest s₂ h₂ => ?_
  have hp : (if rest.isEmpty then first else .or (first :: rest) : Pattern).height +
      s₂.weight ≤ s.weight := by
    split
    · omega
    · rw [Pattern.height_or, tallest_cons]
      omega
  refine .accept rfl (fun s₃ h₃ => ?_) (.pure hp)
  refine identifier_fits.bind fun word s₄ h₄ => .ite (fun _ => rejectBefore_after) fun _ =>
    .pure ?_
  rw [Pattern.height_capture]
  omega

/-- A closed pattern fits if the patterns below do. -/
theorem closedPattern_succ (hread : read.Fits) (ih : PatternsFit read n) :
    Fits (Script.closedPattern read (n + 1)) Pattern.height := by
  intro s
  rw [Script.closedPattern]
  refine .peek ?_
  split
  case h_1 ht =>
    refine (strings_after hread ht).bind fun e s₁ h₁ => .pure ?_
    rw [Pattern.height_value]
    exact h₁
  case h_2 word ht =>
    refine .advance_known ht rfl fun s₁ h₁ => ?_
    have hname : (Expr.name word).height + s₁.weight ≤ s.weight := by
      rw [Expr.height_name]
      omega
    refine (dottedTail_after hname).bind fun cls s₂ h₂ => .accept_ite rfl (fun s₃ h₃ => ?_) ?_
    · have hempty : ClassParts.height ⟨[], []⟩ + s₃.weight ≤ s₃.weight :=
        Nat.le_of_eq (Nat.zero_add _)
      refine (classParts_after ih.pattern hempty).bind fun parts s₄ h₄ => .symbol fun s₅ h₅ =>
        .pure ?_
      rw [Pattern.height_object]
      simp only [ClassParts.height] at h₄
      omega
    · split
      case h_1 w =>
        refine .pure ?_
        show 0 + s₂.weight ≤ s.weight
        omega
      case h_2 =>
        refine .pure ?_
        rw [Pattern.height_value]
        exact h₂
  case h_3 ht =>
    refine .advance_known ht rfl fun s₁ h₁ => identifier_fits.bind fun word s₂ h₂ => .pure ?_
    show 0 + s₂.weight ≤ s.weight
    omega
  case h_4 ht =>
    refine .advance_known ht rfl fun s₁ h₁ => .accept_ite rfl (fun s₂ h₂ => .pure ?_) ?_
    · rw [Pattern.height_sequence, tallest_nil]
      omega
    · refine ih.pattern.bind fun first s₂ h₂ => ?_
      refine (commaTail_first ih.pattern h₂).bind fun r s₃ h₃ => .symbol fun s₄ h₄ => ?_
      split
      case h_1 p heq _ =>
        refine .pure ?_
        rw [heq, tallest_cons] at h₃
        omega
      case h_2 =>
        refine .pure ?_
        rw [Pattern.height_sequence]
        omega
  case h_5 ht =>
    refine .advance_known ht rfl fun s₁ h₁ => .accept_ite rfl (fun s₂ h₂ => .pure ?_) ?_
    · rw [Pattern.height_sequence, tallest_nil]
      omega
    · refine ih.pattern.bind fun first s₂ h₂ => ?_
      refine (commaTail_first ih.pattern h₂).bind fun r s₃ h₃ => .symbol fun s₄ h₄ =>
        .pure ?_
      rw [Pattern.height_sequence]
      omega
  case h_6 ht =>
    refine .advance_known ht rfl fun s₁ h₁ => ?_
    have hempty : MappingParts.height ⟨[], [], none⟩ + s₁.weight ≤ s₁.weight :=
      Nat.le_of_eq (Nat.zero_add _)
    refine (mappingParts_after hread ih.pattern hempty).bind fun parts s₂ h₂ =>
      .symbol fun s₃ h₃ => .pure ?_
    rw [Pattern.height_mapping]
    simp only [MappingParts.height] at h₂
    omega
  case h_7 t _ _ _ _ _ _ ht =>
    split
    case h_1 c hc =>
      refine .advance_known ht (singleton_weight hc) fun s₁ h₁ => .pure ?_
      show 0 + s₁.weight ≤ s.weight
      omega
    case h_2 =>
      refine complexPattern_fits.bind fun e s₁ h₁ => .pure ?_
      rw [Pattern.height_value]
      exact h₁
  case h_8 => exact .unexpected

end PatternsFit

/-- **The grammar of patterns fits.** -/
theorem patternsFit (hread : read.Fits) (n : Nat) : PatternsFit read n := by
  induction n with
  | zero =>
      constructor
      case pattern => exact .of_unexpected (by rw [pattern])
      case closedPattern => exact .of_unexpected (by rw [closedPattern])
  | succ n ih => exact ⟨ih.pattern_succ, ih.closedPattern_succ hread⟩

/-- The pattern of a case is paid for. -/
theorem casePattern_fits (hread : read.Fits) : Fits (casePattern read n) Pattern.height := by
  intro s
  have hpattern := (patternsFit hread n).pattern
  refine hpattern.bind fun first s₁ h₁ => ?_
  refine (commaTail_first hpattern h₁).bind fun r s₂ h₂ => ?_
  obtain ⟨items, trailing⟩ := r
  dsimp only at h₂ ⊢
  split
  case h_1 p _ =>
    refine .pure ?_
    rw [tallest_cons] at h₂
    omega
  case h_2 =>
    refine .pure ?_
    rw [Pattern.height_sequence]
    omega

end SceneRender.Script
