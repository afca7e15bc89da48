import SceneRender.Proofs.Script.Height
import SceneRender.Proofs.Script.TokenWeight
import SceneRender.Script.Grammar.Reader

/-!
# What a reader takes

A reader *fits* a size if what it yields is no larger than the weight of the tokens it
takes.  That is kept by every way of putting
readers together, which is what this file shows; it leaves the readers of the grammar to
be looked at one by one.

`Reader.After r s Q` says that whenever `r` reads the stream `s`, the value and the stream
that is left satisfy `Q`.
-/

namespace SceneRender.Script

namespace TokenStream

/-- The weight of the tokens of a stream. -/
def weight (s : TokenStream) : Nat := Script.weight s.tokens

/-- The token ahead. -/
def ahead (s : TokenStream) : Option Token := s.tokens.head?.map (·.token)

/-- The stream behind the token ahead. -/
def tail (s : TokenStream) : TokenStream := { s with tokens := s.tokens.tail }

variable {s : TokenStream} {t : Token}

/-- Behind a token its weight is gone. -/
theorem weight_tail (h : s.ahead = some t) : s.tail.weight + t.weight = s.weight := by
  obtain ⟨tokens, e⟩ := s
  cases tokens with
  | nil => cases h
  | cons u tokens =>
      obtain rfl : u.token = t := Option.some.inj h
      exact Nat.add_comm _ _

/-- Behind a token there is no more than before. -/
theorem weight_tail_le (s : TokenStream) : s.tail.weight ≤ s.weight := by
  obtain ⟨tokens, e⟩ := s
  cases tokens with
  | nil => exact Nat.le_refl _
  | cons u tokens => exact Nat.le_add_left _ _

end TokenStream

namespace Reader

/-! ## After a reader -/

/-- What holds of the value and of the rest of the stream whenever the reader succeeds. -/
def After {α : Type} (r : Reader α) (s : TokenStream) (Q : α → TokenStream → Prop) : Prop :=
  ∀ ⦃a s'⦄, r s = .ok (a, s') → Q a s'

/-- **What a reader yields is no larger than what it takes.** -/
def Fits {α : Type} (r : Reader α) (size : α → Nat) : Prop :=
  ∀ s, After r s fun a s' => size a + s'.weight ≤ s.weight

variable {α β : Type} {r r' : Reader α} {f : α → Reader β} {s : TokenStream} {t : Token}
  {P Q : α → TokenStream → Prop} {R : β → TokenStream → Prop} {size : α → Nat}

/-- What holds after a reader is what its sequel starts from. -/
theorem After.bind (hr : After r s P) (hf : ∀ a s', P a s' → After (f a) s' R) :
    After (r >>= f) s R := by
  intro b s' h
  change Reader.andThen r f s = .ok (b, s') at h
  rw [Reader.andThen] at h
  cases hrs : r s with
  | error e =>
      rw [hrs] at h
      cases h
  | ok p =>
      obtain ⟨a, s₁⟩ := p
      rw [hrs] at h
      exact hf a s₁ (hr hrs) h

/-- What holds after a reader may be weakened. -/
theorem After.mono (hr : After r s P) (hPQ : ∀ a s', P a s' → Q a s') : After r s Q :=
  fun _ _ h => hPQ _ _ (hr h)

/-- A reader that reads nothing leaves everything as it is. -/
theorem After.pure {a : α} (h : Q a s) : After (Pure.pure a) s Q := by
  intro a' s' h'
  obtain ⟨rfl, rfl⟩ := Prod.mk.inj (Except.ok.inj h')
  exact h

/-- A sequel of nothing starts right here. -/
theorem After.pure_bind {a : α} (h : After (f a) s R) : After (Pure.pure a >>= f) s R := h

/-- A mapped result is shown as the result. -/
theorem After.map {g : α → β} (hr : After r s fun a s' => R (g a) s') :
    After (g <$> r) s R :=
  hr.bind fun _ _ h => After.pure h

/-- A branch of the program is a branch of the proof. -/
theorem After.ite {c : Prop} [Decidable c] (hyes : c → After r s Q) (hno : ¬ c → After r' s Q) :
    After (if c then r else r') s Q := by
  split
  · exact hyes ‹_›
  · exact hno ‹_›

/-- Where a reader fits a size, its value is paid for. -/
theorem Fits.bind (hr : Fits r size)
    (hf : ∀ a s', size a + s'.weight ≤ s.weight → After (f a) s' R) : After (r >>= f) s R :=
  (hr s).bind hf

/-- What fits a size fits a smaller one. -/
theorem Fits.mono {size' : α → Nat} (hr : Fits r size) (h : ∀ a, size' a ≤ size a) :
    Fits r size' :=
  fun s => (hr s).mono fun a s' ha => by
    have := h a
    omega

/-! ## Readers that refuse -/

/-- After a refusal nothing is to be shown. -/
theorem After.unexpected : After Reader.unexpected s Q := by
  intro a s' h
  obtain ⟨tokens, e⟩ := s
  cases tokens with
  | cons t tokens => cases h
  | nil => cases e <;> cases h

/-- A refusal has no sequel. -/
theorem After.unexpected_bind : After (Reader.unexpected >>= f) s R :=
  (After.unexpected : After Reader.unexpected s fun _ _ => False).bind fun _ _ h => h.elim

/-- A reader that always refuses fits. -/
theorem Fits.of_unexpected (h : r = Reader.unexpected) : Fits r size :=
  fun _ => h ▸ After.unexpected

/-- After a fault nothing is to be shown. -/
theorem After.fail {fault : Fault} {o : Nat} : After (Reader.fail fault o) s Q :=
  fun _ _ h => nomatch h

/-! ## One token -/

/-- Peeking takes nothing. -/
theorem peek_ok {o : Option Token} {s' : TokenStream} (h : peek s = .ok (o, s')) :
    s' = s ∧ o = s.ahead := by
  obtain ⟨tokens, e⟩ := s
  cases tokens with
  | cons t tokens =>
      obtain ⟨rfl, rfl⟩ := Prod.mk.inj (Except.ok.inj h)
      exact ⟨rfl, rfl⟩
  | nil =>
      cases e with
      | done o' =>
          obtain ⟨rfl, rfl⟩ := Prod.mk.inj (Except.ok.inj h)
          exact ⟨rfl, rfl⟩
      | fault e => cases h

/-- The token ahead is looked at and stays. -/
theorem After.peek {f : Option Token → Reader β} (h : After (f s.ahead) s R) :
    After (Reader.peek >>= f) s R := by
  refine After.bind (P := fun o s' => s' = s ∧ o = s.ahead) (fun _ _ h => peek_ok h) ?_
  rintro o s' ⟨rfl, rfl⟩
  exact h

/-- So is the one after it. -/
theorem After.peekSecond {f : Option Token → Reader β} (h : After (f s.tail.ahead) s R) :
    After (Reader.peekSecond >>= f) s R := by
  refine After.bind (P := fun o s' => s' = s ∧ o = s.tail.ahead) ?_ ?_
  · intro o s' h
    obtain ⟨tokens, e⟩ := s
    match tokens with
    | [] =>
        obtain ⟨rfl, rfl⟩ := Prod.mk.inj (Except.ok.inj h)
        exact ⟨rfl, rfl⟩
    | [t] =>
        obtain ⟨rfl, rfl⟩ := Prod.mk.inj (Except.ok.inj h)
        exact ⟨rfl, rfl⟩
    | t :: u :: tokens =>
        obtain ⟨rfl, rfl⟩ := Prod.mk.inj (Except.ok.inj h)
        exact ⟨rfl, rfl⟩
  · rintro o s' ⟨rfl, rfl⟩
    exact h

/-- Asking for the place takes nothing. -/
theorem After.offset {f : Nat → Reader β} (h : ∀ o, After (f o) s R) :
    After (Reader.offset >>= f) s R := by
  refine After.bind (P := fun _ s' => s' = s) ?_ ?_
  · intro o s' h
    obtain ⟨tokens, e⟩ := s
    cases tokens with
    | cons t tokens => exact (Prod.mk.inj (Except.ok.inj h)).2.symm
    | nil => cases e <;> exact (Prod.mk.inj (Except.ok.inj h)).2.symm
  · rintro o s' rfl
    exact h o

/-- The token ahead is taken. -/
theorem After.advance {f : Unit → Reader β} (h : After (f ()) s.tail R) :
    After (Reader.advance >>= f) s R := h

/-- A token that is known weighs what it weighs. -/
theorem After.advance_known {f : Unit → Reader β} (ht : s.ahead = some t) (hw : t.weight = 1)
    (h : ∀ s', s'.weight + 1 = s.weight → After (f ()) s' R) :
    After (Reader.advance >>= f) s R :=
  h _ (hw ▸ TokenStream.weight_tail ht)

/-- Asking for a token takes nothing. -/
theorem After.at? {f : Bool → Reader β} (h : After (f (s.ahead == some t)) s R) :
    After (Reader.at? t >>= f) s R :=
  (After.peek (After.pure ⟨rfl, rfl⟩) : After (Reader.at? t) s fun b s' =>
    b = (s.ahead == some t) ∧ s' = s).bind fun b s' ⟨hb, hs⟩ => by
      subst hb hs
      exact h

/-- A branch on the token ahead. -/
theorem After.at_ite {a b : Reader β} (hyes : s.ahead = some t → After a s R)
    (hno : After b s R) : After (Reader.at? t >>= fun c => if c = true then a else b) s R :=
  .at? (.ite (fun h => hyes (eq_of_beq h)) fun _ => hno)

/-- Asking for a kind of token takes nothing. -/
theorem After.ahead {f : Bool → Reader β} {p : Token → Bool} (h : After (f (s.ahead.any p)) s R) :
    After (Reader.ahead p >>= f) s R :=
  (After.peek (After.pure ⟨rfl, rfl⟩) : After (Reader.ahead p) s fun c s' =>
    c = s.ahead.any p ∧ s' = s).bind fun c s' ⟨hc, hs⟩ => by
      subst hc hs
      exact h

/-- A branch on whether a token of some kind is ahead. -/
theorem After.ahead_ite {p : Token → Bool} {a b : Reader β}
    (hyes : s.ahead.any p = true → After a s R) (hno : After b s R) :
    After (Reader.ahead p >>= fun c => if c = true then a else b) s R :=
  .ahead (.ite hyes fun _ => hno)

/-- An accepted token was ahead and is taken. -/
theorem accept_after (t : Token) (s : TokenStream) :
    After (accept t) s fun b s' =>
      (b = true ∧ s.ahead = some t ∧ s' = s.tail) ∨ (b = false ∧ s.ahead ≠ some t ∧ s' = s) := by
  refine .at? (.ite (fun h => ?_) fun h => ?_)
  · exact .advance (.pure (Or.inl ⟨rfl, eq_of_beq h, rfl⟩))
  · exact .pure (Or.inr ⟨rfl, fun heq => h (beq_iff_eq.mpr heq), rfl⟩)

/-- An accepted token takes its weight. -/
theorem After.accept {f : Bool → Reader β} (hw : t.weight = 1)
    (hyes : ∀ s', s'.weight + 1 = s.weight → After (f true) s' R) (hno : After (f false) s R) :
    After (Reader.accept t >>= f) s R := by
  refine (accept_after t s).bind ?_
  rintro b s' (⟨rfl, ht, rfl⟩ | ⟨rfl, -, rfl⟩)
  · exact hyes _ (hw ▸ TokenStream.weight_tail ht)
  · exact hno

/-- A branch on a token that is taken if it is ahead. -/
theorem After.accept_ite {a b : Reader β} (hw : t.weight = 1)
    (hyes : ∀ s', s'.weight + 1 = s.weight → After a s' R) (hno : After b s R) :
    After (Reader.accept t >>= fun c => if c = true then a else b) s R :=
  .accept hw hyes hno

/-- A token that is accepted under a condition takes its weight. -/
theorem After.acceptIf {f : Bool → Reader β} {c : Bool} (hw : t.weight = 1)
    (hyes : ∀ s', s'.weight + 1 = s.weight → After (f true) s' R) (hno : After (f false) s R) :
    After (Reader.acceptIf c t >>= f) s R := by
  cases c with
  | false => exact hno
  | true => exact .accept hw hyes hno

/-- An expected token is taken. -/
theorem expect_after (t : Token) (s : TokenStream) :
    After (expect t) s fun _ s' => s'.weight + t.weight = s.weight := by
  refine .at_ite (fun ht => ?_) .unexpected
  rintro _ s' heq
  obtain rfl : s.tail = s' := (Prod.mk.inj (Except.ok.inj heq)).2
  exact TokenStream.weight_tail ht

/-- An expected token takes its weight. -/
theorem After.expect {f : Unit → Reader β} (hw : t.weight = 1)
    (h : ∀ s', s'.weight + 1 = s.weight → After (f ()) s' R) :
    After (Reader.expect t >>= f) s R :=
  (expect_after t s).bind fun _ s' hs => h s' (hw ▸ hs)

/-- A symbol takes its weight. -/
theorem After.symbol {f : Unit → Reader β} {y : Symbol}
    (h : ∀ s', s'.weight + 1 = s.weight → After (f ()) s' R) :
    After (Reader.symbol y >>= f) s R :=
  .expect rfl h

/-- A keyword takes its weight. -/
theorem After.keyword {f : Unit → Reader β} {k : Keyword}
    (h : ∀ s', s'.weight + 1 = s.weight → After (f ()) s' R) :
    After (Reader.keyword k >>= f) s R :=
  .expect rfl h

/-- A name weighs at least one. -/
theorem identifier_fits : Fits identifier fun _ => 1 := by
  intro s
  refine .peek ?_
  split
  case h_1 word h => exact .advance_known h rfl fun s' hs => .pure (by dsimp only; omega)
  case h_2 => exact .unexpected

/-- An indentation has no height. -/
theorem indentation_fits : Fits indentation fun _ => 0 := by
  rintro ⟨tokens, e⟩ u s' h
  show 0 + s'.weight ≤ _
  cases tokens with
  | nil => cases e <;> cases h
  | cons t tokens =>
      simp only [indentation] at h
      split at h
      · obtain rfl := (Prod.mk.inj (Except.ok.inj h)).2
        have hle := TokenStream.weight_tail_le ⟨t :: tokens, e⟩
        simp only [TokenStream.tail, List.tail_cons] at hle
        omega
      · cases h

/-! ## Lists -/

/-- Nothing is paid for by nothing. -/
theorem nil_fits : tallest size [] + s.weight ≤ s.weight := Nat.le_of_eq (Nat.zero_add _)

variable {item : Reader α} {items : List α} {starts : Token → Bool} {n k : Nat}

/-- Items after commas are paid for, and those before them stay so. -/
theorem commaTail_after (hitem : Fits item size) (h : tallest size items + s.weight ≤ k) :
    After (commaTail item starts n items) s fun r s' =>
      tallest size r.1 + s'.weight ≤ k ∧ s'.weight ≤ s.weight := by
  induction n generalizing items s with
  | zero => exact .unexpected
  | succ n ih =>
      rw [commaTail]
      refine .accept rfl (fun s₁ h₁ => .ahead_ite (fun _ => hitem.bind fun x s₂ h₂ => ?_) ?_) ?_
      · have hx : tallest size (x :: items) + s₂.weight ≤ k := by
          rw [tallest_cons]
          omega
        refine (ih hx).mono fun r s' hr => ?_
        omega
      · refine .pure ?_
        rw [tallest_reverse]
        omega
      · refine .pure ?_
        rw [tallest_reverse]
        omega

/-- The first item may have been read before. -/
theorem commaTail_first {a : α} (hitem : Fits item size) (h : size a + s.weight ≤ k) :
    After (commaTail item starts n [a]) s fun r s' =>
      tallest size r.1 + s'.weight ≤ k ∧ s'.weight ≤ s.weight :=
  commaTail_after hitem ((tallest_singleton a).symm ▸ h)

/-- **A comma pays for the list**: either there is none, or the items and one more are
paid for. -/
theorem commaTail_more {a : α} (hitem : Fits item size) (h : size a + s.weight ≤ k) :
    After (commaTail item starts n [a]) s fun r s' =>
      (r = ([a], false) ∧ s' = s) ∨
        (tallest size r.1 + 1 + s'.weight ≤ k ∧ s'.weight + 1 ≤ s.weight) := by
  cases n with
  | zero => exact .unexpected
  | succ n =>
      rw [commaTail]
      refine .accept rfl (fun s₁ h₁ => .ahead_ite (fun _ => hitem.bind fun x s₂ h₂ => ?_) ?_) ?_
      · have hx : tallest size [x, a] + s₂.weight ≤ k - 1 := by
          rw [tallest_cons, tallest_singleton]
          omega
        refine (commaTail_after hitem hx).mono fun r s' hr => Or.inr ?_
        omega
      · refine .pure (Or.inr ?_)
        rw [tallest_reverse, tallest_singleton]
        omega
      · exact .pure (Or.inl ⟨rfl, rfl⟩)

/-- Items with commas between them are paid for. -/
theorem commaSeparated_after (hitem : Fits item size) (h : tallest size items + s.weight ≤ k) :
    After (commaSeparated item n items) s fun r s' =>
      tallest size r + s'.weight ≤ k ∧ s'.weight ≤ s.weight := by
  induction n generalizing items s with
  | zero => exact .unexpected
  | succ n ih =>
      rw [commaSeparated]
      refine hitem.bind fun x s₁ h₁ => ?_
      have hx : tallest size (x :: items) + s₁.weight ≤ k := by
        rw [tallest_cons]
        omega
      refine .accept rfl (fun s₂ h₂ => ?_) ?_
      · have hx₂ : tallest size (x :: items) + s₂.weight ≤ k := by omega
        refine (ih hx₂).mono fun r s' hr => ?_
        omega
      · refine .pure ?_
        rw [tallest_reverse]
        omega

/-- Items with some token between them are paid for. -/
theorem chainTail_after (hw : t.weight = 1) (hitem : Fits item size)
    (h : tallest size items + s.weight ≤ k) :
    After (chainTail item t n items) s fun r s' =>
      tallest size r + s'.weight ≤ k ∧ s'.weight ≤ s.weight := by
  induction n generalizing items s with
  | zero => exact .unexpected
  | succ n ih =>
      rw [chainTail]
      refine .accept hw (fun s₁ h₁ => hitem.bind fun x s₂ h₂ => ?_) ?_
      · have hx : tallest size (x :: items) + s₂.weight ≤ k := by
          rw [tallest_cons]
          omega
        refine (ih hx).mono fun r s' hr => ?_
        omega
      · refine .pure ?_
        rw [tallest_reverse]
        omega

/-- **A separator pays for the chain.** -/
theorem chainTail_more {a : α} (hw : t.weight = 1) (hitem : Fits item size)
    (ht : s.ahead = some t) (h : size a + s.weight ≤ k) :
    After (chainTail item t n [a]) s fun r s' => tallest size r + 1 + s'.weight ≤ k := by
  cases n with
  | zero => exact .unexpected
  | succ n =>
      rw [chainTail]
      refine (accept_after t s).bind ?_
      rintro b s₁ (⟨rfl, -, rfl⟩ | ⟨-, hne, -⟩)
      · have h₁ := TokenStream.weight_tail ht
        refine hitem.bind fun x s₂ h₂ => ?_
        have hx : tallest size [x, a] + s₂.weight ≤ k - 1 := by
          rw [tallest_cons, tallest_singleton]
          omega
        refine (chainTail_after hw hitem hx).mono fun r s' hr => ?_
        omega
      · exact absurd ht hne

/-- Items one after the other are paid for. -/
theorem many_after (hitem : Fits item size) (h : tallest size items + s.weight ≤ k) :
    After (many item starts n items) s fun r s' =>
      tallest size r + s'.weight ≤ k ∧ s'.weight ≤ s.weight := by
  induction n generalizing items s with
  | zero => exact .unexpected
  | succ n ih =>
      rw [many]
      refine .ahead_ite (fun _ => hitem.bind fun x s₁ h₁ => ?_) ?_
      · have hx : tallest size (x :: items) + s₁.weight ≤ k := by
          rw [tallest_cons]
          omega
        refine (ih hx).mono fun r s' hr => ?_
        omega
      · refine .pure ?_
        rw [tallest_reverse]
        omega

/-- **The first of many pays for one more**, where each item takes more than it is high. -/
theorem many_more (hitem : Fits item fun a => size a + 1) (hahead : s.ahead.any starts = true)
    (h : tallest size items + s.weight ≤ k) :
    After (many item starts n items) s fun r s' =>
      tallest size r + 1 + s'.weight ≤ k ∧ s'.weight + 1 ≤ s.weight := by
  cases n with
  | zero => exact .unexpected
  | succ n =>
      rw [many]
      refine .ahead (.ite (fun _ => hitem.bind fun x s₁ h₁ => ?_) fun hno => absurd hahead hno)
      have hx : tallest size (x :: items) + s₁.weight ≤ k - 1 := by
        rw [tallest_cons]
        omega
      refine (many_after (hitem.mono fun _ => Nat.le_succ _) hx).mono fun r s' hr => ?_
      omega

/-- Items that may be missing are paid for when they are there. -/
theorem optional_fits (hitem : Fits item size) :
    Fits (optional item starts) fun o => tallest size o.toList := by
  intro s
  refine .ahead_ite (fun _ => hitem.bind fun x s₁ h₁ => .pure ?_) (.pure ?_)
  · simp only [Option.toList_some, tallest_cons, tallest_nil]
    omega
  · simp only [Option.toList_none, tallest_nil]
    omega

/-- A part that is read on a condition, and what comes after it. -/
theorem After.perhaps {c : Prop} [Decidable c] {f : Option α → Reader β} (hr : Fits r size)
    (hf : ∀ o s', tallest size o.toList + s'.weight ≤ s.weight → After (f o) s' R) :
    After (if c then some <$> r >>= f else Pure.pure none >>= f) s R := by
  have hsome : After (some <$> r) s fun o s' => tallest size o.toList + s'.weight ≤ s.weight := by
    refine .map ((hr s).mono fun a s' h => ?_)
    simp only [Option.toList_some, tallest_cons, tallest_nil]
    omega
  have hnone : After (Pure.pure none : Reader (Option α)) s fun o s' =>
      tallest size o.toList + s'.weight ≤ s.weight := by
    refine .pure ?_
    simp only [Option.toList_none, tallest_nil]
    omega
  exact .ite (fun _ => hsome.bind hf) fun _ => hnone.bind hf

end Reader

end SceneRender.Script
