import SceneRender.Script.Grammar.Statement

/-!
# Reading an operand that stands alone

The grammar of expressions has a reader for each precedence.  An operand with nothing
but its signs before it, and a token behind it that no operator is, passes through all
of them unchanged.  So what the reader of signs makes of it is what every reader makes of
it, up to the statement that it is on a line of its own.  An operand that begins with a
name may go on as attributes and calls, and a call reads its arguments as operands again.
-/

namespace SceneRender.Script

/-- **One reader after the other**: the second goes on where the first stopped. -/
theorem Reader.bind_ok {α β : Type} {r : Reader α} {f : α → Reader β} {s s' : TokenStream} {a : α}
    (h : r s = .ok (a, s')) : (r >>= f) s = f a s' := by
  change Reader.andThen r f s = f a s'
  rw [Reader.andThen, h]

/-- The tokens that an operand begins with, but for brackets. -/
inductive Token.OpensOperand : Token → Prop
  | minus : OpensOperand (.symbol .minus)
  | number (value : Nat) : OpensOperand (.int value)
  | name (word : String) : OpensOperand (.name word)
  | string (body : String) (kind : StringKind) (triple : Bool) :
    OpensOperand (.string body kind triple)

/-- The tokens that end an expression: a line end, a colon or an equals sign, and inside a
call a comma or its closing bracket. -/
inductive Token.EndsOperand : Token → Prop
  | newline : EndsOperand .newline
  | equal : EndsOperand (.symbol .equal)
  | colon : EndsOperand (.symbol .colon)
  | comma : EndsOperand (.symbol .comma)
  | closer : EndsOperand (.symbol .rightParen)

variable {read : FieldReader} {n : Nat} {t u v : Located} {ts us : List Located} {e : Ending}
  {p : Placed}

/-- A number alone is an operand. -/
theorem factor_number {k start stop : Nat} (hu : u.token.EndsOperand) :
    factor read (n + 3) ⟨⟨.int k, start, stop⟩ :: u :: us, e⟩ =
      .ok (⟨start, .constant (.int k)⟩, ⟨u :: us, e⟩) := by
  obtain ⟨follower, start', stop'⟩ := u
  have hatom : atom read (n + 1) ⟨⟨.int k, start, stop⟩ :: ⟨follower, start', stop'⟩ :: us, e⟩ =
      .ok (⟨start, .constant (.int k)⟩, ⟨⟨follower, start', stop'⟩ :: us, e⟩) := by
    rw [atom]
    rfl
  have hpower : power read (n + 2) ⟨⟨.int k, start, stop⟩ :: ⟨follower, start', stop'⟩ :: us, e⟩ =
      .ok (⟨start, .constant (.int k)⟩, ⟨⟨follower, start', stop'⟩ :: us, e⟩) := by
    rw [power]
    cases hu <;> exact (Reader.bind_ok hatom).trans rfl
  rw [factor]
  exact hpower

/-- No operator follows, and no `not` leads. -/
theorem negation_alone (ht : t.token.OpensOperand) (hu : u.token.EndsOperand)
    (h : factor read (n + 1) ⟨t :: ts, e⟩ = .ok (p, ⟨u :: us, e⟩)) :
    negation read (n + 3) ⟨t :: ts, e⟩ = .ok (p, ⟨u :: us, e⟩) := by
  obtain ⟨token, start, stop⟩ := t
  obtain ⟨follower, start', stop'⟩ := u
  have hbinary : binary read (n + 2) 1 ⟨⟨token, start, stop⟩ :: ts, e⟩ =
      .ok (p, ⟨⟨follower, start', stop'⟩ :: us, e⟩) := by
    rw [binary]
    cases hu <;> exact (Reader.bind_ok h).trans rfl
  rw [negation]
  cases ht <;> cases hu <;> exact (Reader.bind_ok hbinary).trans rfl

/-- Nothing else joins it to an operand. -/
theorem test_alone (ht : t.token.OpensOperand) (hu : u.token.EndsOperand)
    (h : factor read (n + 1) ⟨t :: ts, e⟩ = .ok (p, ⟨u :: us, e⟩)) :
    test read (n + 6) ⟨t :: ts, e⟩ = .ok (p, ⟨u :: us, e⟩) := by
  have hnegation := negation_alone ht hu h
  obtain ⟨token, start, stop⟩ := t
  obtain ⟨follower, start', stop'⟩ := u
  have hconjunction : conjunction read (n + 4) ⟨⟨token, start, stop⟩ :: ts, e⟩ =
      .ok (p, ⟨⟨follower, start', stop'⟩ :: us, e⟩) := by
    rw [conjunction]
    cases hu <;> exact (Reader.bind_ok hnegation).trans rfl
  have hdisjunction : disjunction read (n + 5) ⟨⟨token, start, stop⟩ :: ts, e⟩ =
      .ok (p, ⟨⟨follower, start', stop'⟩ :: us, e⟩) := by
    rw [disjunction]
    cases hu <;> exact (Reader.bind_ok hconjunction).trans rfl
  rw [test]
  cases ht <;> cases hu <;> exact (Reader.bind_ok hdisjunction).trans rfl

/-- No star leads. -/
theorem starTest_alone (ht : t.token.OpensOperand) (hu : u.token.EndsOperand)
    (h : factor read (n + 1) ⟨t :: ts, e⟩ = .ok (p, ⟨u :: us, e⟩)) :
    starTest read (n + 7) ⟨t :: ts, e⟩ = .ok (p, ⟨u :: us, e⟩) := by
  have htest := test_alone ht hu h
  obtain ⟨token, start, stop⟩ := t
  rw [starTest]
  cases ht <;> exact htest

/-- **A line of its own**: an operand before a line end is an expression statement. -/
theorem smallLine_alone {start' stop' : Nat} (ht : t.token.OpensOperand)
    (h : factor read (n + 1) ⟨t :: ts, e⟩ = .ok (p, ⟨⟨.newline, start', stop'⟩ :: us, e⟩)) :
    smallLine read (n + 8) [] ⟨t :: ts, e⟩ = .ok ([.expr p.expr], ⟨us, e⟩) := by
  have hstar := starTest_alone ht .newline h
  have hstmt : smallStmt read (n + 7) ⟨t :: ts, e⟩ =
      .ok (.expr p.expr, ⟨⟨.newline, start', stop'⟩ :: us, e⟩) := by
    obtain ⟨token, start, stop⟩ := t
    cases ht <;> exact (Reader.bind_ok hstar).trans rfl
  rw [smallLine]
  exact (Reader.bind_ok hstmt).trans rfl

/-! ## Names and calls -/

variable {arguments : Reader (List Argument)} {index : Reader Expr} {word : String}
  {start stop start' stop' : Nat} {args : List Argument} {a b : Argument}

/-- **A name is what its trailers make of it.** -/
theorem factor_name (hu : u.token.EndsOperand)
    (h : trailers (argumentList (argument read (n + 1)) (n + 1)) (Script.index read (n + 1)) start
      (n + 1) ⟨start, .name word⟩ ⟨ts, e⟩ = .ok (p, ⟨u :: us, e⟩)) :
    factor read (n + 3) ⟨⟨.name word, start, stop⟩ :: ts, e⟩ = .ok (p, ⟨u :: us, e⟩) := by
  obtain ⟨follower, start', stop'⟩ := u
  have hatom : atom read (n + 1) ⟨⟨.name word, start, stop⟩ :: ts, e⟩ =
      .ok (⟨start, .name word⟩, ⟨ts, e⟩) := by
    rw [atom]
    rfl
  have hpower : power read (n + 2) ⟨⟨.name word, start, stop⟩ :: ts, e⟩ =
      .ok (p, ⟨⟨follower, start', stop'⟩ :: us, e⟩) := by
    rw [power]
    refine (Reader.bind_ok hatom).trans ((Reader.bind_ok h).trans ?_)
    cases hu <;> rfl
  rw [factor]
  exact hpower

/-- Where an operand ends, so do its trailers. -/
theorem trailers_end (hu : u.token.EndsOperand) :
    trailers arguments index start (n + 1) p ⟨u :: us, e⟩ = .ok (p, ⟨u :: us, e⟩) := by
  obtain ⟨follower, start', stop'⟩ := u
  cases hu <;> rfl

/-- Behind an attribute the trailers go on. -/
theorem trailers_attribute {dot dot' : Nat} :
    trailers arguments index start (n + 1) p
        ⟨⟨.symbol .dot, dot, dot'⟩ :: ⟨.name word, start', stop'⟩ :: ts, e⟩ =
      trailers arguments index start n ⟨start, .attribute p.expr word⟩ ⟨ts, e⟩ := rfl

/-- **A call**: behind its arguments and the closing bracket the trailers go on. -/
theorem trailers_call {opener opener' : Nat}
    (h : arguments ⟨ts, e⟩ = .ok (args, ⟨⟨.symbol .rightParen, start', stop'⟩ :: us, e⟩)) :
    trailers arguments index start (n + 1) p
        ⟨⟨.symbol .leftParen, opener, opener'⟩ :: ts, e⟩ =
      trailers arguments index start n
        ⟨start, .call start p.expr (positionalArgs args) (keywordArgs args)⟩ ⟨us, e⟩ :=
  (Reader.bind_ok h).trans rfl

/-- The tokens behind a name that is neither bound to a value nor a keyword of a call. -/
inductive Token.FollowsName : Token → Prop
  | comma : FollowsName (.symbol .comma)
  | closer : FollowsName (.symbol .rightParen)
  | opener : FollowsName (.symbol .leftParen)
  | dot : FollowsName (.symbol .dot)

/-- The tokens behind an argument. -/
inductive Token.EndsArgument : Token → Prop
  | comma : EndsArgument (.symbol .comma)
  | closer : EndsArgument (.symbol .rightParen)

/-- What ends an argument ends an operand. -/
theorem Token.EndsArgument.endsOperand {t : Token} (h : t.EndsArgument) : t.EndsOperand := by
  cases h
  · exact .comma
  · exact .closer

/-- **An operand is an argument by place.** -/
theorem argument_alone (ht : t.token.OpensOperand) (hv : v.token.FollowsName)
    (hu : u.token.EndsArgument)
    (h : factor read (n + 1) ⟨t :: v :: ts, e⟩ = .ok (p, ⟨u :: us, e⟩)) :
    argument read (n + 8) ⟨t :: v :: ts, e⟩ =
      .ok (.positional p.start p.expr, ⟨u :: us, e⟩) := by
  have htest := test_alone ht hu.endsOperand h
  obtain ⟨token, start, stop⟩ := t
  obtain ⟨second, start₂, stop₂⟩ := v
  obtain ⟨follower, start', stop'⟩ := u
  have hnamed : namedTest read (n + 7) ⟨⟨token, start, stop⟩ :: ⟨second, start₂, stop₂⟩ :: ts, e⟩ =
      .ok (⟨p.start, p.expr, .plain⟩, ⟨⟨follower, start', stop'⟩ :: us, e⟩) := by
    rw [namedTest]
    cases ht <;> cases hv <;> exact (Reader.bind_ok htest).trans rfl
  rw [argument]
  cases ht <;> cases hv <;> cases hu <;> exact (Reader.bind_ok hnamed).trans rfl

/-- An operand behind a name and an equals sign is an argument by keyword. -/
theorem argument_keyword {equal equal' : Nat} (ht : t.token.OpensOperand)
    (hu : u.token.EndsArgument) (h : factor read (n + 1) ⟨t :: ts, e⟩ = .ok (p, ⟨u :: us, e⟩)) :
    argument read (n + 7)
        ⟨⟨.name word, start, stop⟩ :: ⟨.symbol .equal, equal, equal'⟩ :: t :: ts, e⟩ =
      .ok (.keyword start word p.expr, ⟨u :: us, e⟩) := by
  rw [argument]
  exact (Reader.bind_ok (test_alone ht hu.endsOperand h)).trans rfl

/-- **The arguments of a call** end at its closing bracket, if none stands where it may not. -/
theorem argumentList_closed {argument : Reader Argument} {s : TokenStream} {trailing : Bool}
    (ht : t.token.OpensOperand) (hfirst : argument ⟨t :: ts, e⟩ = .ok (a, s))
    (hrest : Reader.commaTail argument startsArgument n [a] s =
      .ok ((args, trailing), ⟨⟨.symbol .rightParen, start', stop'⟩ :: us, e⟩))
    (hargs : firstArgumentFault? [] args = none) :
    argumentList argument n ⟨t :: ts, e⟩ =
      .ok (args, ⟨⟨.symbol .rightParen, start', stop'⟩ :: us, e⟩) := by
  obtain ⟨token, start, stop⟩ := t
  cases ht <;>
    refine (Reader.bind_ok hfirst).trans ((Reader.bind_ok hrest).trans ?_) <;>
    dsimp only <;>
    rw [hargs] <;>
    rfl

/-- One argument by place makes a list. -/
theorem argumentList_one {argument : Reader Argument} {value : Expr} (ht : t.token.OpensOperand)
    (h : argument ⟨t :: ts, e⟩ =
      .ok (.positional start value, ⟨⟨.symbol .rightParen, start', stop'⟩ :: us, e⟩)) :
    argumentList argument (n + 1) ⟨t :: ts, e⟩ =
      .ok ([.positional start value], ⟨⟨.symbol .rightParen, start', stop'⟩ :: us, e⟩) :=
  argumentList_closed ht h rfl rfl

/-- **A line with an assignment** to a name. -/
theorem smallLine_assignment {equal equal' : Nat} (ht : t.token.OpensOperand)
    (h : factor read (n + 2) ⟨t :: ts, e⟩ = .ok (p, ⟨⟨.newline, start', stop'⟩ :: us, e⟩)) :
    smallLine read (n + 10) []
        ⟨⟨.name word, start, stop⟩ :: ⟨.symbol .equal, equal, equal'⟩ :: t :: ts, e⟩ =
      .ok ([.assign [.name word] p.expr], ⟨us, e⟩) := by
  have htarget : starTest read (n + 9)
      ⟨⟨.name word, start, stop⟩ :: ⟨.symbol .equal, equal, equal'⟩ :: t :: ts, e⟩ =
      .ok (⟨start, .name word⟩, ⟨⟨.symbol .equal, equal, equal'⟩ :: t :: ts, e⟩) :=
    starTest_alone (.name word) .equal (factor_name .equal (trailers_end .equal))
  have hvalue : testList read (n + 9) ⟨t :: ts, e⟩ =
      .ok (p, ⟨⟨.newline, start', stop'⟩ :: us, e⟩) := by
    rw [testList]
    exact (Reader.bind_ok (starTest_alone ht .newline h)).trans rfl
  have hassigned : assigned read (n + 9) ⟨t :: ts, e⟩ =
      .ok (p.expr, ⟨⟨.newline, start', stop'⟩ :: us, e⟩) := by
    have hexpr : exprOf (testList read (n + 9)) ⟨t :: ts, e⟩ =
        .ok (p.expr, ⟨⟨.newline, start', stop'⟩ :: us, e⟩) := by rw [exprOf, hvalue]
    obtain ⟨token, _, _⟩ := t
    cases ht <;> exact hexpr
  have hstmt : expressionStmt read (n + 9)
      ⟨⟨.name word, start, stop⟩ :: ⟨.symbol .equal, equal, equal'⟩ :: t :: ts, e⟩ =
      .ok (.assign [.name word] p.expr, ⟨⟨.newline, start', stop'⟩ :: us, e⟩) :=
    (Reader.bind_ok htarget).trans ((Reader.bind_ok hassigned).trans rfl)
  rw [smallLine]
  exact (Reader.bind_ok hstmt).trans rfl

end SceneRender.Script
