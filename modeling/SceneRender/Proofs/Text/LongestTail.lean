import SceneRender.Render.Launch

/-!
# The tail that a cut keeps

A text that is too long is cut down to a tail with at most so many bytes, and no character is
split.  This is the longest such tail: it begins at the first boundary of characters that is met
going on byte by byte from where the bound would cut.  That search ends within the text, at most
three bytes on, because what it passes over lies inside one character (`not_isValid_within`).

The tail is kept character by character; `CutsAt` says what is known where that stops, and all
else follows from it.
-/

namespace SceneRender.Text

open String (Pos)

variable {text front tail : String} {c : Char} {start stop max : Nat}

/-! ## Boundaries of characters -/

/-- **Between the bytes of a character is no boundary.** -/
theorem not_isValid_within (hfront : front.utf8ByteSize < start)
    (hchar : start < front.utf8ByteSize + c.utf8Size) :
    ¬ Pos.Raw.IsValid (front ++ (String.singleton c ++ tail)) ⟨start⟩ := by
  rw [Pos.Raw.isValid_append, Pos.Raw.isValid_append, Pos.Raw.isValid_singleton]
  rintro (hvalid | ⟨-, (hzero | hend) | ⟨hbehind, -⟩⟩)
  · have hle := Pos.Raw.le_iff.mp hvalid.le_rawEndPos
    simp only [String.byteIdx_rawEndPos] at hle
    omega
  · have hidx := congrArg Pos.Raw.byteIdx hzero
    simp only [Pos.Raw.byteIdx_sub_string, Pos.Raw.byteIdx_zero] at hidx
    omega
  · rw [Pos.Raw.byteIdx_sub_string] at hend
    dsimp only at hend
    omega
  · have hle := Pos.Raw.le_iff.mp hbehind
    simp only [String.byteIdx_rawEndPos, String.utf8ByteSize_singleton,
      Pos.Raw.byteIdx_sub_string] at hle
    omega

/-- **Looking for a boundary** from an offset on, a byte at a time: where the search ends. -/
inductive Finds (text : String) : Nat → Nat → Prop
  | here {start : Nat} (hstart : Pos.Raw.IsValid text ⟨start⟩) : Finds text start start
  | next {start stop : Nat} (hstart : ¬ Pos.Raw.IsValid text ⟨start⟩)
      (hrest : Finds text (start + 1) stop) : Finds text start stop

/-- A search ends at the first boundary that it meets. -/
theorem finds_first (hle : start ≤ stop) (hstop : Pos.Raw.IsValid text ⟨stop⟩)
    (hbetween : ∀ i, start ≤ i → i < stop → ¬ Pos.Raw.IsValid text ⟨i⟩) :
    Finds text start stop := by
  induction hn : stop - start generalizing start with
  | zero =>
      obtain rfl : start = stop := by omega
      exact .here hstop
  | succ n ih =>
      refine .next (hbetween start (Nat.le_refl _) (by omega)) ?_
      exact ih (by omega) (fun i hi => hbetween i (by omega)) (by omega)

/-! ## Where the tail begins -/

/-- The text is dropped up to a character that is too much, and kept behind it. -/
structure CutsAt (text front : String) (c : Char) (tail : String) (max : Nat) : Prop where
  split : text = front ++ (String.singleton c ++ tail)
  fits : tail.utf8ByteSize ≤ max
  tooMuch : max < c.utf8Size + tail.utf8ByteSize

/-- The end of some characters is kept behind the last one that is too much. -/
theorem keepEnd_cutsAt (cs : List Char) (hlong : max < (String.ofList cs).utf8ByteSize) :
    ∃ front c, CutsAt (String.ofList cs) front c
      (String.ofList (keepEnd max (String.ofList cs).utf8ByteSize cs)) max := by
  induction cs with
  | nil => exact absurd hlong (Nat.not_lt_zero max)
  | cons d cs ih =>
      have hsize : (String.ofList (d :: cs)).utf8ByteSize =
          d.utf8Size + (String.ofList cs).utf8ByteSize := by
        rw [String.ofList_cons, String.utf8ByteSize_append, String.utf8ByteSize_singleton]
      have hkeep : keepEnd max (String.ofList (d :: cs)).utf8ByteSize (d :: cs) =
          keepEnd max (String.ofList cs).utf8ByteSize cs := by
        rw [keepEnd, if_neg (Nat.not_le.mpr hlong), hsize, Nat.add_sub_cancel_left]
      rw [hkeep]
      rcases Nat.lt_or_ge max (String.ofList cs).utf8ByteSize with hlong' | hshort
      · obtain ⟨front, c, hcut⟩ := ih hlong'
        refine ⟨String.singleton d ++ front, c, ?_, hcut.fits, hcut.tooMuch⟩
        rw [String.ofList_cons, String.append_assoc, ← hcut.split]
      · have hall : keepEnd max (String.ofList cs).utf8ByteSize cs = cs := by
          cases cs with
          | nil => rfl
          | cons e cs => rw [keepEnd, if_pos hshort]
        rw [hall]
        refine ⟨"", d, ?_, hshort, hsize ▸ hlong⟩
        rw [String.ofList_cons, String.empty_append]

/-- A long text is cut behind the last character that is too much. -/
theorem truncateTail_cutsAt (hlong : max < text.utf8ByteSize) :
    ∃ front c tail, CutsAt text front c tail max ∧ truncateTail text max = "..." ++ tail := by
  have hsize : max < (String.ofList text.toList).utf8ByteSize := by rwa [String.ofList_toList]
  obtain ⟨front, c, hcut⟩ := keepEnd_cutsAt text.toList hsize
  rw [String.ofList_toList] at hcut
  exact ⟨front, c, _, hcut, if_neg (Nat.not_le.mpr hlong)⟩

namespace CutsAt

/-- The bytes in front of the tail. -/
theorem size_eq (h : CutsAt text front c tail max) :
    text.utf8ByteSize = front.utf8ByteSize + c.utf8Size + tail.utf8ByteSize := by
  rw [h.split, String.utf8ByteSize_append, String.utf8ByteSize_append,
    String.utf8ByteSize_singleton, Nat.add_assoc]

/-- The tail begins at a boundary. -/
theorem isValid (h : CutsAt text front c tail max) :
    Pos.Raw.IsValid text ⟨front.utf8ByteSize + c.utf8Size⟩ := by
  refine Pos.Raw.isValid_iff_exists_append.mpr ⟨front ++ String.singleton c, tail, ?_, ?_⟩
  · rw [String.append_assoc, ← h.split]
  · rw [Pos.Raw.ext_iff, String.byteIdx_rawEndPos, String.utf8ByteSize_append,
      String.utf8ByteSize_singleton]

/-- **No boundary in front of it leaves few enough bytes.** -/
theorem not_isValid (h : CutsAt text front c tail max) (hfew : text.utf8ByteSize - max ≤ start)
    (hstart : start < front.utf8ByteSize + c.utf8Size) : ¬ Pos.Raw.IsValid text ⟨start⟩ := by
  have hsize := h.size_eq
  have htooMuch := h.tooMuch
  have hfits := h.fits
  rw [h.split]
  exact not_isValid_within (by omega) hstart

/-- The bytes of the tail are those of the text from there on. -/
theorem extract_eq (h : CutsAt text front c tail max) :
    text.toByteArray.extract (front.utf8ByteSize + c.utf8Size) text.utf8ByteSize =
      tail.toByteArray := by
  have hfront : (front ++ String.singleton c).toByteArray.size =
      front.utf8ByteSize + c.utf8Size := by
    rw [String.size_toByteArray, String.utf8ByteSize_append, String.utf8ByteSize_singleton]
  have htext : text.toByteArray = (front ++ String.singleton c).toByteArray ++ tail.toByteArray := by
    rw [← String.toByteArray_append, String.append_assoc, ← h.split]
  rw [htext]
  refine ByteArray.extract_append_eq_right hfront.symm ?_
  rw [hfront, String.size_toByteArray, h.size_eq]

end CutsAt

/-- **A cut keeps the longest tail that fits.**

A text with at most the given number of bytes is left alone.  Of a longer one three dots and a
tail are left.  The tail begins where the search for a boundary ends that goes on, a byte at a
time, from where the bound would cut; it ends within the text and at most three bytes on.  The
bytes from there on are UTF-8 again and as many as are allowed, and no earlier boundary leaves
as few.  With its dots the result has at most three bytes more than allowed. -/
theorem truncateTail_keeps_longest (text : String) (max : Nat) :
    (text.utf8ByteSize ≤ max → truncateTail text max = text) ∧
    (max < text.utf8ByteSize → ∃ stop tail,
      Finds text (text.utf8ByteSize - max) stop ∧
      stop ≤ text.utf8ByteSize ∧ stop ≤ text.utf8ByteSize - max + 3 ∧
      truncateTail text max = "..." ++ tail ∧
      tail.toByteArray = text.toByteArray.extract stop text.utf8ByteSize ∧
      tail.utf8ByteSize ≤ max ∧
      ∀ start, Pos.Raw.IsValid text ⟨start⟩ → text.utf8ByteSize - start ≤ max → stop ≤ start) ∧
    (truncateTail text max).utf8ByteSize ≤ max + 3 := by
  refine ⟨fun hshort => if_pos hshort, fun hlong => ?_, ?_⟩
  · obtain ⟨front, c, tail, hcut, htail⟩ := truncateTail_cutsAt hlong
    have hsize := hcut.size_eq
    have hfits := hcut.fits
    have htooMuch := hcut.tooMuch
    have hwidth := c.utf8Size_le_four
    refine ⟨front.utf8ByteSize + c.utf8Size, tail, ?_, by omega, by omega, htail,
      hcut.extract_eq.symm, hfits, ?_⟩
    · exact finds_first (by omega) hcut.isValid fun i hi => hcut.not_isValid hi
    · intro start hstart hfew
      refine Nat.not_lt.mp fun hbefore => ?_
      exact hcut.not_isValid (by omega) hbefore hstart
  · rcases Nat.lt_or_ge max text.utf8ByteSize with hlong | hshort
    · obtain ⟨front, c, tail, hcut, htail⟩ := truncateTail_cutsAt hlong
      have hdots : "...".utf8ByteSize = 3 := by decide
      rw [htail, String.utf8ByteSize_append, hdots, Nat.add_comm]
      exact Nat.add_le_add_right hcut.fits 3
    · rw [truncateTail, if_pos hshort]
      exact Nat.le_add_right_of_le hshort

example : truncateTail "aéb" 2 = "...b" := by decide

end SceneRender.Text
