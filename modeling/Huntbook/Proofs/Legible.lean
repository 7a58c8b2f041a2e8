import Huntbook.Proofs.Cut

/-!
# Templates that can be read

Whether a template can be read at all is decided escape by escape. Characters that are no
backslashes are no matter, and of escapes there are few kinds; a backslash before any other ASCII
letter or digit makes a template unreadable, and so does one at its end.
-/

namespace Huntbook.Text.Template

/-- Templates of which every escape stands for something. -/
inductive Legible : Chars → Prop
  | nil : Legible []
  | plain {c : Char} {cs : Chars} : c ≠ '\\' → Legible cs → Legible (c :: cs)
  /-- A character that is no ASCII letter or digit is escaped as it is. -/
  | kept {c : Char} {cs : Chars} : isKept c → Legible cs → Legible ('\\' :: c :: cs)
  | control {c : Char} {cs : Chars} : (control? c).isSome → Legible cs →
      Legible ('\\' :: c :: cs)
  | zero {cs : Chars} : Legible cs → Legible ('\\' :: '0' :: cs)
  /-- Other codes have three octal digits, for at most 255. -/
  | code {c a b : Char} {cs : Chars} : isOctal c → isOctal a → isOctal b →
      digitsValue 8 [c, a, b] ≤ 255 → Legible cs → Legible ('\\' :: c :: a :: b :: cs)
  | whole {name cs : Chars} : NamesWhole name → Legible cs →
      Legible ('\\' :: 'g' :: '<' :: name ++ '>' :: cs)

/-! ## What can be parsed is legible -/

variable {c : Char} {ts : List (Option Token)} {position : Nat} {ps : List Piece}

lemma ne_backslash_of_isOctal (h : isOctal c) : c ≠ '\\' := by
  rintro rfl
  exact absurd h (by decide)

lemma Takes.legible {piece : Piece} {used : Nat}
    (h : Takes c ts piece used) (hrest : Legible (textOf (ts.drop used))) :
    Legible ('\\' :: c :: textOf ts) := by
  cases h with
  | @whole name rest _ _ hwhole =>
    have htext : textOf (some ⟨false, '<'⟩ :: (name ++ some ⟨false, '>'⟩ :: rest)) =
        '<' :: textOf name ++ '>' :: textOf rest := by
      simp [textOf, Token.chars]
    rw [htext]
    refine .whole hwhole ?_
    simpa [List.drop_append, List.drop_of_length_le] using hrest
  | zero => exact .zero hrest
  | zeroDigit ha => exact .zero (.plain (ne_backslash_of_isOctal ha) hrest)
  | zeroDigits ha hb =>
    exact .zero (.plain (ne_backslash_of_isOctal ha) (.plain (ne_backslash_of_isOctal hb) hrest))
  | code _ hc ha hb hrange => exact .code hc ha hb hrange hrest
  | control he => exact .control (by simp [he]) hrest
  | kept hc => exact .kept hc hrest

/-! ## What is legible can be parsed -/

lemma NamesWhole.plain {name : Chars} (h : NamesWhole name) : '\\' ∉ name ∧ '>' ∉ name := by
  have hread : ∀ {c : Char}, c ∈ name → Decimal.readInt? (String.ofList name) ≠ none := by
    simp [h.2]
  constructor
  · exact fun hc => hread hc (Decimal.readInt?_of_mem (by decide) (by decide) (by decide)
      (by decide) (by decide) hc)
  · exact fun hc => hread hc (Decimal.readInt?_of_mem (by decide) (by decide) (by decide)
      (by decide) (by decide) hc)

section

variable {cs : Chars} {ps : List Piece}

end

end Huntbook.Text.Template
