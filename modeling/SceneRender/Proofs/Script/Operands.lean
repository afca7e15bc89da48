import SceneRender.Proofs.Script.Parameters
import SceneRender.Proofs.Script.Pieces
import SceneRender.Script.Grammar.Expression

/-!
# What strings, operators and trailers take

The readers beside the grammar of expressions: adjacent strings, the operators after an
operand, and the calls, indices and attributes after an atom.  Each is given the readers
of what stands inside, and fits if they do.
-/

namespace SceneRender.Script

open Reader

variable {read : FieldReader} {s : TokenStream} {n k : Nat}

/-- An expression without its place fits. -/
theorem exprOf_fits {r : Reader Placed} (hr : Fits r fun p => p.expr.height) :
    Fits (exprOf r) Expr.height := by
  intro s e s' h
  unfold exprOf at h
  split at h
  case h_1 p s₁ hp =>
    obtain ⟨rfl, rfl⟩ := Prod.mk.inj (Except.ok.inj h)
    exact hr s hp
  case h_2 => cases h

/-! ## Strings -/

/-- **Strings in front weigh what their literals pay for.** -/
theorem splitStrings_weight (tokens : List Located) :
    ((splitStrings tokens).1.map (·.weight)).sum + weight (splitStrings tokens).2 =
      weight tokens := by
  induction tokens with
  | nil => rfl
  | cons t rest ih =>
      rw [splitStrings]
      split
      case h_1 body kind triple ht =>
        have htoken : t.token.weight = body.length + kind.letters + 2 := by rw [ht]; rfl
        have hpart : StringPart.weight ⟨body.toList, kind, triple, t.start⟩ =
            body.length + kind.letters + 2 := by
          rw [StringPart.weight, String.length_toList]
        simp only [List.map_cons, List.sum_cons, hpart]
        simp only [weight, List.map_cons, List.sum_cons, htoken] at ih ⊢
        omega
      case h_2 =>
        rw [List.map_nil, List.sum_nil, Nat.zero_add]

/-- Where a string is ahead there is one to read. -/
theorem splitStrings_ne_nil {body : String} {kind : StringKind} {triple : Bool}
    (h : s.ahead = some (.string body kind triple)) : (splitStrings s.tokens).1 ≠ [] := by
  obtain ⟨tokens, e⟩ := s
  cases tokens with
  | nil => cases h
  | cons t rest =>
      obtain ⟨token, start, stop⟩ := t
      obtain rfl : token = .string body kind triple := Option.some.inj h
      exact List.cons_ne_nil _ _

/-- Strings side by side are paid for. -/
theorem strings_after (hread : read.Fits) {follows : Token → Bool} {body : String}
    {kind : StringKind} {triple : Bool} (h : s.ahead = some (.string body kind triple)) :
    After (strings read follows) s fun e s' => e.height + s'.weight ≤ s.weight := by
  have hweight := splitStrings_weight s.tokens
  intro e s' hs
  unfold strings at hs
  dsimp only at hs
  cases hjoin : joinLiterals read (splitStrings s.tokens).1 with
  | ok joined =>
      rw [hjoin] at hs
      obtain ⟨rfl, rfl⟩ := Prod.mk.inj (Except.ok.inj hs)
      have := joinLiterals_height hread (splitStrings_ne_nil h) hjoin
      simp only [TokenStream.weight] at hweight ⊢
      omega
  | error fault =>
      rw [hjoin] at hs
      have hrejected : After (rejectBefore follows fault.fault fault.offset)
          { s with tokens := (splitStrings s.tokens).2 }
          fun (e : Expr) s' => e.height + s'.weight ≤ s.weight := rejectBefore_after
      exact hrejected hs

/-! ## Operators -/

/-- A binary operator weighs one. -/
theorem binaryOperator_weight {t : Token} {op : BinaryOp × Nat}
    (h : binaryOperator? t = some op) : t.weight = 1 := by
  cases t <;> first | rfl | cases h

/-- The operators after an operand are paid for. -/
theorem binaryTail_after {operand : Nat → Reader Expr} {level start : Nat} {left : Placed}
    (hoperand : ∀ above, Fits (operand above) Expr.height)
    (h : left.expr.height + s.weight ≤ k) :
    After (binaryTail operand level start n left) s fun p s' =>
      p.expr.height + s'.weight ≤ k := by
  induction n generalizing left s with
  | zero => exact .unexpected
  | succ n ih =>
      rw [binaryTail]
      refine .peek ?_
      split
      case h_1 op precedence hop =>
        obtain ⟨t, ht, hop⟩ := Option.bind_eq_some_iff.mp hop
        refine .ite (fun _ => .pure h) fun _ => .advance_known ht (binaryOperator_weight hop) ?_
        refine fun s₁ h₁ => (hoperand _).bind fun right s₂ h₂ => ih ?_
        rw [Expr.height_binary]
        omega
      case h_2 => exact .pure h

/-- A comparison weighs one. -/
theorem comparison_weight {t : Token} {op : CompareOp} (h : comparison? t = some op) :
    t.weight = 1 := by
  cases t <;> first | rfl | cases h

/-- A comparison takes at least a token. -/
theorem compareOperator_after : After compareOperator s fun o s' =>
    (o = none ∧ s' = s) ∨ s'.weight + 1 ≤ s.weight := by
  refine .peek ?_
  split
  case h_1 h => exact .advance_known h rfl fun s₁ h₁ => .pure (Or.inr (by omega))
  case h_2 h =>
    refine .advance_known h rfl fun s₁ h₁ => .keyword fun s₂ h₂ => .pure (Or.inr (by omega))
  case h_3 h =>
    refine .advance_known h rfl fun s₁ h₁ => .accept rfl (fun s₂ h₂ => ?_) ?_
    · exact .pure (Or.inr (by omega))
    · exact .pure (Or.inr (by omega))
  case h_4 t _ _ _ h =>
    split
    case h_1 op hop =>
      exact .advance_known h (comparison_weight hop) fun s₁ h₁ => .pure (Or.inr (by omega))
    case h_2 => exact .pure (Or.inl ⟨rfl, rfl⟩)
  case h_5 => exact .pure (Or.inl ⟨rfl, rfl⟩)

/-- The comparisons after an operand are paid for. -/
theorem compareTail_after {operand : Reader Expr} {ops : List CompareOp} {operands : List Expr}
    (hoperand : Fits operand Expr.height) (h : tallest Expr.height operands + s.weight ≤ k) :
    After (compareTail operand n ops operands) s fun r s' =>
      tallest Expr.height r.2 + s'.weight ≤ k ∧ s'.weight ≤ s.weight := by
  induction n generalizing ops operands s with
  | zero => exact .unexpected
  | succ n ih =>
      rw [compareTail]
      refine compareOperator_after.bind fun o s₁ h₁ => ?_
      split
      case h_1 op =>
        refine hoperand.bind fun e s₂ h₂ => ?_
        have he : tallest Expr.height (e :: operands) + s₂.weight ≤ k := by
          rw [tallest_cons]
          rcases h₁ with ⟨ho, -⟩ | h₁
          · cases ho
          · omega
        refine (ih he).mono fun r s' hr => ?_
        rcases h₁ with ⟨ho, -⟩ | h₁
        · cases ho
        · omega
      case h_2 =>
        refine .pure ?_
        rcases h₁ with ⟨-, rfl⟩ | h₁
        · rw [tallest_reverse]
          omega
        · rw [tallest_reverse]
          omega

/-- **A comparison pays for its node.** -/
theorem compareTail_more {operand : Reader Expr} (hoperand : Fits operand Expr.height) :
    After (compareTail operand n [] []) s fun r s' =>
      (r = ([], []) ∧ s' = s) ∨
        (tallest Expr.height r.2 + 1 + s'.weight ≤ s.weight ∧ s'.weight + 1 ≤ s.weight) := by
  cases n with
  | zero => exact .unexpected
  | succ n =>
      rw [compareTail]
      refine compareOperator_after.bind fun o s₁ h₁ => ?_
      split
      case h_1 op =>
        refine hoperand.bind fun e s₂ h₂ => ?_
        rcases h₁ with ⟨ho, -⟩ | h₁
        · cases ho
        · have he : tallest Expr.height [e] + s₂.weight ≤ s.weight - 1 := by
            rw [tallest_cons, tallest_nil]
            omega
          refine (compareTail_after hoperand he).mono fun r s' hr => Or.inr ?_
          omega
      case h_2 =>
        refine .pure ?_
        rcases h₁ with ⟨-, rfl⟩ | h₁
        · exact Or.inl ⟨rfl, rfl⟩
        · refine Or.inr ?_
          simp only [List.reverse_nil, tallest_nil]
          omega

/-! ## Trailers -/

/-- The trailers of an expression are paid for. -/
theorem trailers_after {arguments : Reader (List Argument)} {index : Reader Expr} {start : Nat}
    {e : Placed} (harguments : Fits arguments (tallest Argument.height))
    (hindex : Fits index Expr.height) (h : e.expr.height + s.weight ≤ k) :
    After (trailers arguments index start n e) s fun p s' => p.expr.height + s'.weight ≤ k := by
  induction n generalizing e s with
  | zero => exact .unexpected
  | succ n ih =>
      rw [trailers]
      refine .peek ?_
      split
      case h_1 ht =>
        refine .advance_known ht rfl fun s₁ h₁ => harguments.bind fun args s₂ h₂ =>
          .symbol fun s₃ h₃ => ih ?_
        have hpositional := positionalArgs_height args
        have hkeyword := keywordArgs_height args
        rw [Expr.height_call]
        omega
      case h_2 ht =>
        refine .advance_known ht rfl fun s₁ h₁ => hindex.bind fun i s₂ h₂ =>
          .symbol fun s₃ h₃ => ih ?_
        rw [Expr.height_subscript]
        omega
      case h_3 ht =>
        refine .advance_known ht rfl fun s₁ h₁ => identifier_fits.bind fun word s₂ h₂ => ih ?_
        rw [Expr.height_attribute]
        omega
      case h_4 => exact .pure h

/-- A list of arguments is paid for. -/
theorem argumentList_fits {argument : Reader Argument} (h : Fits argument Argument.height) :
    Fits (argumentList argument n) (tallest Argument.height) := by
  intro s
  refine .at_ite (fun _ => .pure ?_) (h.bind fun first s₁ h₁ => ?_)
  · simp only [tallest_nil]
    omega
  · refine (commaTail_first h h₁).bind fun r s₂ h₂ => .at? (.ite (fun _ => .unexpected) ?_)
    intro _
    split
    · exact reject_after
    · exact .pure h₂.1

/-- **A list without brackets is paid for by its commas**: one element alone is itself, and
more of them, or a comma, pay for a tuple. -/
theorem Reader.After.elements {β : Type} {item : Reader Placed} {starts : Token → Bool}
    {f : List Placed × Bool → Reader β} {R : β → TokenStream → Prop}
    (hitem : Fits item fun p => p.expr.height)
    (hf : ∀ r s', (∀ start, (tupleOf start r.1 r.2).expr.height + s'.weight ≤ s.weight) →
      After (f r) s' R) :
    After (item >>= fun first => commaTail item starts n [first] >>= f) s R := by
  refine hitem.bind fun first s₁ h₁ => ?_
  refine (commaTail_more hitem h₁).bind fun r s₂ h₂ => hf r s₂ fun start => ?_
  rcases h₂ with ⟨rfl, rfl⟩ | ⟨h₂, -⟩
  · exact h₁
  · unfold tupleOf
    split
    case h_1 e heq _ =>
      rw [heq, tallest_cons] at h₂
      omega
    case h_2 =>
      simp only [Expr.height_tuple, tallest_map]
      omega

/-- A literal weighs one. -/
theorem literal_weight {t : Token} {c : Constant} (h : literal? t = some c) : t.weight = 1 := by
  cases t <;> first | rfl | cases h

end SceneRender.Script
