import SceneRender.Proofs.Script.Taking
import SceneRender.Script.Grammar.Argument

/-!
# What parameters and arguments take

The readers for the parameters of a function fit the height of what they yield, whatever
reads the values in them does.  The arguments of a call are no higher than they were
written.
-/

namespace SceneRender.Script

open Reader

variable {s : TokenStream} {n k : Nat}

/-! ## Heights -/

/-- The height of the typing after a name. -/
def WrittenName.height (p : WrittenName) : Nat := tallest Expr.height p.typing.toList

/-- The height of a parameter as it is written. -/
def WrittenParam.height (p : WrittenParam) : Nat :=
  max p.toWrittenName.height (tallest Expr.height p.default.toList)

/-- The height of a list of parameters as it is written. -/
def WrittenParams.height (ps : WrittenParams) : Nat :=
  max (max (tallest WrittenParam.height ps.positionalOnly)
      (tallest WrittenParam.height ps.positional))
    (max (tallest WrittenName.height ps.rest.toList)
      (max (tallest WrittenParam.height ps.keywordOnly)
        (tallest WrittenName.height ps.keywordRest.toList)))

/-- The nodes of parameters are as high as the parameters. -/
theorem WrittenParam.tallest_parts (ps : List WrittenParam) :
    tallest Expr.height ((ps.map (·.node)).flatMap (·.parts)) =
      tallest WrittenParam.height ps := by
  rw [tallest_flatMap, tallest_map]
  refine congrArg (tallest · ps) (funext fun p => ?_)
  exact tallest_append _ _

/-- The node of a parameter that takes the rest is as high as its typing. -/
theorem WrittenName.tallest_option (o : Option WrittenName) :
    tallest Expr.height ((o.map (·.node)).toList.flatMap (·.typing.toList)) =
      tallest WrittenName.height o.toList := by
  rw [tallest_flatMap]
  cases o <;> rfl

/-- **The node of a list of parameters is as high as the list.** -/
theorem WrittenParams.node_height (ps : WrittenParams) : ps.node.height = ps.height := by
  simp only [WrittenParams.node, Parameters.height, Parameters.parts, List.flatMap_append,
    tallest_append, WrittenParam.tallest_parts, WrittenName.tallest_option, WrittenParams.height]
  ac_rfl

/-- The height of an argument; a star makes a node of its own. -/
def Argument.height : Argument → Nat
  | positional _ value | keyword _ _ value | unpackedMapping _ value => value.height
  | unpacked _ value => value.height + 1

/-- The arguments given by place are no higher than all arguments. -/
theorem positionalArgs_height (args : List Argument) :
    tallest Expr.height (positionalArgs args) ≤ tallest Argument.height args := by
  induction args with
  | nil => exact Nat.le_refl _
  | cons a args ih =>
      rw [tallest_cons]
      cases a with
      | positional start value =>
          show max value.height (tallest Expr.height (positionalArgs args)) ≤ _
          simp only [Argument.height]
          omega
      | unpacked start value =>
          show max (Expr.starred value).height (tallest Expr.height (positionalArgs args)) ≤ _
          rw [Expr.height_starred]
          simp only [Argument.height]
          omega
      | keyword start name value => exact Nat.le_trans ih (Nat.le_max_right _ _)
      | unpackedMapping start value => exact Nat.le_trans ih (Nat.le_max_right _ _)

/-- The arguments given by keyword are no higher than all arguments. -/
theorem keywordArgs_height (args : List Argument) :
    tallest KeywordArg.height (keywordArgs args) ≤ tallest Argument.height args := by
  induction args with
  | nil => exact Nat.le_refl _
  | cons a args ih =>
      rw [tallest_cons]
      cases a with
      | positional start value => exact Nat.le_trans ih (Nat.le_max_right _ _)
      | unpacked start value => exact Nat.le_trans ih (Nat.le_max_right _ _)
      | keyword start name value =>
          show max value.height (tallest KeywordArg.height (keywordArgs args)) ≤ _
          simp only [Argument.height]
          omega
      | unpackedMapping start value =>
          show max value.height (tallest KeywordArg.height (keywordArgs args)) ≤ _
          simp only [Argument.height]
          omega

/-! ## Checks take nothing -/

/-- After a refusal there is nothing to show. -/
theorem reject_after {α : Type} {fault : Fault} {o : Nat} {Q : α → TokenStream → Prop} :
    After (reject fault o) s Q :=
  .peek .fail

/-- After a refusal that looks ahead there is nothing to show. -/
theorem rejectBefore_after {α : Type} {follows : Token → Bool} {fault : Fault} {o : Nat}
    {Q : α → TokenStream → Prop} : After (rejectBefore follows fault o) s Q :=
  .peek (.ite (fun _ => .fail) fun _ => .unexpected)

/-- The check of the defaults takes nothing. -/
theorem WrittenParams.checkDefaults_after (ps : WrittenParams) :
    After ps.checkDefaults s fun _ s' => s' = s := by
  unfold checkDefaults
  split
  · exact reject_after
  · exact .pure rfl

/-- The check of the names takes nothing. -/
theorem WrittenParams.checkNames_after (ps : WrittenParams) (follows : Token → Bool) :
    After (ps.checkNames follows) s fun _ s' => s' = s := by
  unfold checkNames
  split
  · exact rejectBefore_after
  · exact .pure rfl

/-! ## Parameters -/

namespace ParamStyle

variable {style : ParamStyle} {typing : Reader Expr} {ps : WrittenParams}

/-- What parameters are written with fits. -/
structure Fits (style : ParamStyle) : Prop where
  value : Reader.Fits style.value Expr.height
  starValue : Reader.Fits style.starValue Expr.height

/-- A name with its typing is paid for. -/
theorem name_fits (h : Reader.Fits typing Expr.height) :
    Reader.Fits (style.name typing) WrittenName.height := by
  intro s
  refine .offset fun start => identifier_fits.bind fun name s₁ h₁ => .at? (.ite (fun _ => ?_) ?_)
  · have htail := s₁.weight_tail_le
    refine .advance (h.bind fun a s₂ h₂ => .pure ?_)
    simp only [WrittenName.height, Option.toList_some, tallest_cons, tallest_nil]
    omega
  · refine fun _ => .pure ?_
    simp only [WrittenName.height, Option.toList_none, tallest_nil]
    omega

/-- A parameter is paid for. -/
theorem param_fits (h : style.Fits) : Reader.Fits style.param WrittenParam.height := by
  intro s
  refine (name_fits h.value).bind fun p s₁ h₁ => .accept rfl (fun s₂ h₂ => ?_) (.pure ?_)
  · refine h.value.bind fun d s₃ h₃ => .pure ?_
    simp only [WrittenParam.height, Option.toList_some, tallest_cons, tallest_nil]
    omega
  · simpa only [WrittenParam.height, Option.toList_none, tallest_nil, Nat.max_zero] using h₁

/-- The end of a list takes nothing. -/
theorem close_after (h : ps.height + s.weight ≤ k) :
    After (style.close ps) s fun ps' s' => ps'.height + s'.weight ≤ k := by
  refine .at_ite (fun _ => ?_) .unexpected
  refine (ps.checkDefaults_after).bind fun _ s₁ hs => ?_
  subst hs
  exact .pure h

/-- The parameter for further keyword arguments is paid for. -/
theorem keywordRest_after (hstyle : style.Fits) (h : ps.height + s.weight ≤ k) :
    After (style.keywordRest ps) s fun ps' s' => ps'.height + s'.weight ≤ k := by
  refine .symbol fun s₁ h₁ => .ahead (.perhaps (name_fits hstyle.value)
    fun rest s₂ h₂ => ?_)
  have hps : ({ ps with keywordRest := rest } : WrittenParams).height + s₂.weight ≤ k := by
    simp only [WrittenParams.height] at h ⊢
    omega
  exact .accept rfl (fun s₃ h₃ => close_after (by omega)) (close_after hps)

/-- The end of a list with a star takes nothing. -/
theorem closeStar_after {star : Nat} (h : ps.height + s.weight ≤ k) :
    After (style.closeStar star ps) s fun ps' s' => ps'.height + s'.weight ≤ k :=
  .at? (.ite (fun _ => .unexpected) fun _ =>
    .ite (fun _ => reject_after) fun _ => close_after h)

/-- The parameters after a star are paid for. -/
theorem keywordOnly_after (hstyle : style.Fits) {star : Nat} (h : ps.height + s.weight ≤ k) :
    After (style.keywordOnly star n ps) s fun ps' s' => ps'.height + s'.weight ≤ k := by
  induction n generalizing ps s with
  | zero => exact .unexpected
  | succ n ih =>
      rw [keywordOnly]
      refine .accept rfl (fun s₁ h₁ => ?_) (closeStar_after h)
      refine .ahead_ite (fun _ => (param_fits hstyle).bind fun p s₂ h₂ => ih ?_) ?_
      · simp only [WrittenParams.height, tallest_append, tallest_cons, tallest_nil] at h ⊢
        omega
      · exact .at_ite (fun _ => keywordRest_after hstyle (by omega)) (closeStar_after (by omega))

/-- A star and what follows are paid for. -/
theorem star_after (hstyle : style.Fits) (h : ps.height + s.weight ≤ k) :
    After (style.star n ps) s fun ps' s' => ps'.height + s'.weight ≤ k := by
  refine .offset fun start => .symbol fun s₁ h₁ => .ahead
    (.perhaps (name_fits hstyle.starValue) fun rest s₂ h₂ => ?_)
  refine keywordOnly_after hstyle ?_
  simp only [WrittenParams.height] at h ⊢
  omega

/-- What follows a comma is paid for. -/
theorem afterComma_after (hstyle : style.Fits) (h : ps.height + s.weight ≤ k) :
    After (style.afterComma n ps) s fun ps' s' => ps'.height + s'.weight ≤ k :=
  .at_ite (fun _ => star_after hstyle h) <|
    .at_ite (fun _ => keywordRest_after hstyle h) (close_after h)

/-- The parameters that places reach are paid for. -/
theorem positional_after (hstyle : style.Fits) {slashed : Bool} (h : ps.height + s.weight ≤ k) :
    After (style.positional n slashed ps) s fun ps' s' => ps'.height + s'.weight ≤ k := by
  induction n generalizing ps s slashed with
  | zero => exact .unexpected
  | succ n ih =>
      rw [positional]
      refine (param_fits hstyle).bind fun p s₁ h₁ => ?_
      have hps : ({ ps with positional := ps.positional ++ [p] } : WrittenParams).height +
          s₁.weight ≤ k := by
        simp only [WrittenParams.height, tallest_append, tallest_cons, tallest_nil] at h ⊢
        omega
      refine .accept rfl (fun s₂ h₂ => ?_) (close_after hps)
      refine .ahead_ite (fun _ => ih (by omega)) ?_
      -- a slash moves the parameters before it, and takes a token
      have hmoved {s' : TokenStream} (hs : s'.weight ≤ s₂.tail.weight) : ({ ps with
          positionalOnly := ps.positional ++ [p], positional := [] } : WrittenParams).height +
            s'.weight ≤ k := by
        have := s₂.weight_tail_le
        simp only [WrittenParams.height, tallest_nil] at hps ⊢
        omega
      refine .at? (.ite (fun _ => .advance (.accept rfl (fun s₃ h₃ => ?_) ?_)) fun _ =>
        afterComma_after hstyle (by omega))
      · exact .ahead_ite (fun _ => ih (hmoved (by omega)))
          (afterComma_after hstyle (hmoved (by omega)))
      · exact close_after (hmoved (Nat.le_refl _))

/-- **A list of parameters is paid for.** -/
theorem list_fits (hstyle : style.Fits) : Reader.Fits (style.list n) WrittenParams.height := by
  intro s
  have hempty : WrittenParams.empty.height + s.weight ≤ s.weight := by
    simp only [WrittenParams.height, WrittenParams.empty, Option.toList_none, tallest_nil]
    omega
  exact .at_ite (fun _ => .pure hempty) <| .ahead_ite (fun _ => positional_after hstyle hempty) <|
    .at_ite (fun _ => star_after hstyle hempty) <|
      .at_ite (fun _ => keywordRest_after hstyle hempty) .unexpected

end ParamStyle

end SceneRender.Script
