import SceneRender.Proofs.Script.ConditionChains
import SceneRender.Proofs.Script.Policy
import SceneRender.Proofs.Script.StatementHeight

/-!
# How deep the tree of an accepted script is

The scan keeps its own estimate of the nesting within limits, in every script.  The tree
that the reader builds is another matter: signs behind a comment that ends in a carriage
return, and conditions in a chain, are as many levels of the tree as there are of them,
and the scan passes any number.  What does bound the depth is the weight of the tokens, and
the scan makes no difference to that: a script that passes can be as deep as any of its
weight.
-/

namespace SceneRender.Script

variable {body : List Stmt} {k d : Nat} {n : TreeNode}

/-! ## What bounds the depth -/

/-- The weight of the tokens of a text. -/
def textWeight (text : List Char) : Nat := weight (lex text 0).tokens

/-- **No node lies deeper than the tokens of the script weigh.** -/
theorem depth_le_weight {text : List Char} (h : readScript text = .ok body)
    (hn : AtDepth body k n) : k ≤ textWeight text :=
  Nat.le_trans hn.le_tallest (readScript_height h)

/-- So no node lies deeper than the script is long, and one. -/
theorem depth_le_length {text : List Char} (h : readScript text = .ok body)
    (hn : AtDepth body k n) : k ≤ text.length + 1 :=
  Nat.le_trans (depth_le_weight h hn) (weight_lex_le text 0)

/-- A text has no more characters than bytes. -/
theorem length_le_utf8ByteSize (source : String) : source.length ≤ source.utf8ByteSize := by
  have hchars (cs : List Char) : cs.length ≤ (cs.flatMap String.utf8EncodeChar).length := by
    induction cs with
    | nil => exact Nat.le_refl _
    | cons c cs ih =>
        have hpos := c.utf8Size_pos
        rw [List.flatMap_cons, List.length_append, String.length_utf8EncodeChar, List.length_cons]
        omega
  have hbytes := hchars source.toList
  rw [← utf8_ofList, String.ofList_toList, String.length_toList] at hbytes
  exact hbytes

/-- **What bounds the depth is the size ceiling**: it holds for every script that is read. -/
theorem ReadsAs.depth_le {source : String} (h : ReadsAs source body) (hn : AtDepth body k n) :
    k ≤ maxScriptBytes + 1 := by
  have hdepth := depth_le_length h.parsed hn
  have hlength := length_le_utf8ByteSize source
  have hsmall := h.small
  rw [String.length_toList] at hdepth
  omega

/-! ## Signs -/

/-- Each sign is one level. -/
theorem height_negated (d : Nat) : (negated d).height = d + 1 := by
  induction d with
  | zero => exact Expr.height_constant _
  | succ d ih => rw [negated, Expr.height_unary, ih]

/-- **A line of signs is a level deeper for each.** -/
theorem hasDepth_signs (d : Nat) : HasDepth [.expr (negated d)] (d + 2) := by
  have hheight : tallest Stmt.height [.expr (negated d)] = d + 2 := by
    rw [tallest_cons, tallest_nil, Nat.max_zero, Stmt.height_expr, height_negated]
  rw [← hheight]
  exact hasDepth_tallest (List.cons_ne_nil _ _)

/-- Each sign weighs one, and so do the number and the end of the line. -/
theorem weight_signTokens (d pos : Nat) : weight (signTokens d pos) = d + 2 := by
  induction d generalizing pos with
  | zero => rfl
  | succ d ih =>
      rw [signTokens, weight_cons, ih]
      exact Nat.add_comm 1 (d + 2)

/-- A comment in front weighs nothing, and the signs one each. -/
theorem textWeight_comment_signs (d : Nat) :
    textWeight ('#' :: '\r' :: signs d) = d + 2 := by
  rw [textWeight, lex_comment_signs]
  exact weight_signTokens d 2

/-! ## Conditions -/

/-- A branch is one higher than its block and the branches after it. -/
theorem height_nestedBranches (d : Nat) :
    tallest Stmt.height (nestedBranches (d + 1)) =
      max 2 (tallest Stmt.height (nestedBranches d)) + 1 := by
  rw [nestedBranches, tallest_cons, tallest_nil, Nat.max_zero, Stmt.height_branch, tallest_cons,
    tallest_nil, Nat.max_zero, Stmt.height_expr, height_negated]
  omega

/-- **A chain of conditions is a level deeper for each.** -/
theorem hasDepth_conditions (d : Nat) : HasDepth (nestedBranches (d + 1)) (d + 3) := by
  have hheight : tallest Stmt.height (nestedBranches (d + 1)) = d + 3 := by
    induction d with
    | zero => exact height_nestedBranches 0
    | succ d ih =>
        rw [height_nestedBranches, ih]
        omega
  rw [← hheight]
  exact hasDepth_tallest (List.cons_ne_nil _ _)

/-! ## What the scan bounds, and what it does not -/

/-- **A comment hides whatever is in front of the next line feed.** -/
theorem check_hidden {text : List Char} (h : '\n' ∉ text) :
    Nesting.check (utf8 (String.ofList ('#' :: text))) = none := by
  have hbytes : utf8 (String.ofList ('#' :: text)) =
      Nesting.byte '#' :: utf8 (String.ofList text) := by
    rw [utf8_ofList, utf8_ofList]
    rfl
  rw [hbytes]
  exact Nesting.check_comment (lineFeed_not_mem_utf8 h)

/-- The scan does not see signs behind a comment. -/
theorem check_hidden_signs (d : Nat) :
    Nesting.check (utf8 (String.ofList ('#' :: '\r' :: signs d))) = none :=
  check_hidden (by simp [signs])

/-- The scan passes the script, and the reader makes this of it. -/
structure Accepted (source : String) (body : List Stmt) : Prop where
  shallow : Nesting.check (utf8 source) = none
  parsed : readScript source.toList = .ok body

/-- A script of signs behind a comment is accepted. -/
theorem accepted_hidden_signs (d : Nat) :
    Accepted (String.ofList ('#' :: '\r' :: signs d)) [.expr (negated d)] where
  shallow := check_hidden_signs d
  parsed := by
    rw [String.toList_ofList]
    exact readScript_comment_signs d

/-- **The scan bounds nothing that the weight does not**: among the scripts that pass, those of
a weight are within a limit exactly if the weight is. -/
theorem accepted_within_iff (w limit : Nat) :
    (∀ source body k n, Accepted source body → textWeight source.toList ≤ w →
      AtDepth body k n → k ≤ limit + 1) ↔ w ≤ limit + 1 := by
  constructor
  · intro hbound
    by_cases hw : w ≤ 1
    · omega
    · obtain ⟨n, hn⟩ := (hasDepth_signs (w - 2)).attained
      have hweight : textWeight (String.ofList ('#' :: '\r' :: signs (w - 2))).toList ≤ w := by
        rw [String.toList_ofList, textWeight_comment_signs]
        omega
      have hle := hbound _ _ _ n (accepted_hidden_signs (w - 2)) hweight hn
      omega
  · intro hw source body k n haccepted hweight hn
    have hle := depth_le_weight haccepted.parsed hn
    omega

/-- **The scan bounds its estimate, not the depth of the tree.**

In a script that passes, the scan comes to its end, and brackets, estimate and indentation
are within limits wherever it stands.  The depth of the tree is bounded by the weight of
the tokens, so by the length of the script, and by nothing less: scripts of a weight are
within a limit exactly if that weight is.  For on a line of signs the estimate is two short
of the depth, and a chain of them passes exactly if it is not too long; but a comment hides
whatever is in front of the next line feed, while the reader goes on behind a carriage
return, and there the same chain passes at any length.  Conditions in a chain are not
estimated at all, and each is a level of the tree. -/
theorem scan_bounds_estimate (source : String) (w limit d : Nat) :
    (Nesting.check (utf8 source) = none →
      (∃ s, Nesting.Reached (utf8 source) s ∧ s.rest = []) ∧
        ∀ s, Nesting.Reached (utf8 source) s → s.WithinLimits) ∧
    (∀ body k n, Accepted source body → AtDepth body k n →
      k ≤ textWeight source.toList ∧ k ≤ source.length + 1) ∧
    ((∀ source body k n, Accepted source body → textWeight source.toList ≤ w →
      AtDepth body k n → k ≤ limit + 1) ↔ w ≤ limit + 1) ∧
    ('\n' ∉ source.toList → Nesting.check (utf8 (String.ofList ('#' :: source.toList))) = none) ∧
    ((Nesting.check (utf8 (String.ofList (signs d))) = none ↔ d ≤ Nesting.maxDepth) ∧
      readScript (signs d) = .ok [.expr (negated d)] ∧
      Accepted (String.ofList ('#' :: '\r' :: signs d)) [.expr (negated d)] ∧
      HasDepth [.expr (negated d)] (d + 2)) ∧
    Accepted (String.ofList (conditions d)) (nestedBranches (d + 1)) ∧
      HasDepth (nestedBranches (d + 1)) (d + 3) := by
  refine ⟨?_, ?_, accepted_within_iff w limit, check_hidden, ⟨?_, readScript_signs d,
    accepted_hidden_signs d, hasDepth_signs d⟩, ⟨?_, ?_⟩, hasDepth_conditions d⟩
  · intro hcheck
    exact ⟨Nesting.check_eq_none_iff.mp hcheck, fun s hs => hs.withinLimits⟩
  · intro body k n haccepted hn
    have hlength := depth_le_length haccepted.parsed hn
    rw [String.length_toList] at hlength
    exact ⟨depth_le_weight haccepted.parsed hn, hlength⟩
  · rw [utf8_signs]
    exact Nesting.check_signBytes d
  · rw [utf8_conditions]
    exact Nesting.check_conditions d
  · rw [String.toList_ofList]
    exact readScript_conditions d

/-- Four thousand levels are no bound: 3999 signs behind a comment pass. -/
theorem hidden_signs_too_deep :
    ¬ ∀ source body k n, Nesting.check (utf8 source) = none →
      readScript source.toList = .ok body → AtDepth body k n → k ≤ 4000 := by
  intro hbound
  have haccepted := accepted_hidden_signs 3999
  obtain ⟨n, hn⟩ := (hasDepth_signs 3999).attained
  have hle := hbound _ _ _ n haccepted.shallow haccepted.parsed hn
  omega

end SceneRender.Script
