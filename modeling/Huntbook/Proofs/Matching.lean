import Huntbook.Search
import Mathlib

/-!
# What the patterns of searches match

The clauses for `contains`, `startswith` and `endswith` hold a pattern in which the value is
escaped. Read as a pattern, it has nothing of its own to say but where the value stands: it is found
in the events that hold, start with or end with the value, up to case.
-/

namespace Huntbook.Search

/-- A part of a pattern. -/
inductive Glyph
  | char (c : Char)
  /-- Any character of a line. -/
  | any
  | gap
  | start
  | finish

namespace Glyph

/-- The parts of a pattern. Only characters that have a meaning of their own are escaped, and each
    of the others stands for itself. -/
def read? : Chars → Option (List Glyph)
  | [] => some []
  | '\\' :: c :: rest => if patternSpecials.contains c then (read? rest).map (char c :: ·) else none
  | '.' :: '*' :: rest => (read? rest).map (gap :: ·)
  | '.' :: rest => (read? rest).map (any :: ·)
  | '^' :: rest => (read? rest).map (start :: ·)
  | '$' :: rest => (read? rest).map (finish :: ·)
  | c :: rest => if patternSpecials.contains c then none else (read? rest).map (char c :: ·)

/-- Whether a text from a place on starts with a match; at the end, a line feed may follow. -/
def Fits (fold : Char → Char) : List Glyph → (isStart : Bool) → Chars → Prop
  | [], _, _ => True
  | char c :: p, _, t => ∃ d rest, t = d :: rest ∧ fold d = fold c ∧ Fits fold p false rest
  | any :: p, _, t => ∃ d rest, t = d :: rest ∧ d ≠ '\n' ∧ Fits fold p false rest
  | gap :: p, b, t => ∃ skipped rest, t = skipped ++ rest ∧ '\n' ∉ skipped ∧
      Fits fold p (b && skipped.isEmpty) rest
  | start :: p, b, t => b ∧ Fits fold p b t
  | finish :: p, b, t => (t = [] ∨ t = ['\n']) ∧ Fits fold p b t

/-- Whether a match starts anywhere in a text. -/
def Found (fold : Char → Char) (p : List Glyph) (t : Chars) : Prop :=
  ∃ before rest, t = before ++ rest ∧ Fits fold p before.isEmpty rest

variable {fold : Char → Char} {p : List Glyph} {b : Bool} {v t : Chars}

lemma read?_plain {c : Char} (hc : ¬patternSpecials.contains c) (rest : Chars) :
    read? (c :: rest) = (read? rest).map (char c :: ·) := by
  have hplain (d : Char) (hd : patternSpecials.contains d) : c ≠ d := by
    rintro rfl
    exact hc hd
  rw [read?, if_neg hc]
  · exact fun _ _ h => (hplain '\\' (by decide) h).elim
  · exact fun _ h => (hplain '.' (by decide) h).elim
  · exact hplain '.' (by decide)
  · exact hplain '^' (by decide)
  · exact hplain '$' (by decide)

lemma read?_escaped (v rest : Chars) :
    read? (v.flatMap escapePatternChar ++ rest) = (read? rest).map (v.map char ++ ·) := by
  induction v with
  | nil => simp
  | cons c v ih =>
    rw [List.flatMap_cons, List.append_assoc, escapePatternChar]
    split
    · rename_i hc
      rw [List.cons_append, List.cons_append, List.nil_append, read?, if_pos hc, ih]
      simp [Function.comp_def]
    · rename_i hc
      rw [List.singleton_append, read?_plain hc, ih]
      simp [Function.comp_def]

lemma fits_chars : Fits fold (v.map char ++ p) b t ↔
    ∃ u rest, t = u ++ rest ∧ u.map fold = v.map fold ∧ Fits fold p (b && v.isEmpty) rest := by
  induction v generalizing b t with
  | nil => simp
  | cons c v ih =>
    simp only [List.map_cons, List.cons_append, Fits, ih, Bool.false_and]
    constructor
    · rintro ⟨d, _, rfl, hd, u, rest, rfl, hu, hrest⟩
      exact ⟨d :: u, rest, rfl, by simp [hd, hu], by simpa using hrest⟩
    · rintro ⟨u, rest, rfl, hu, hrest⟩
      obtain ⟨d, u, rfl, hd, hu⟩ := List.map_eq_cons_iff.1 hu
      exact ⟨d, u ++ rest, rfl, hd, u, rest, rfl, hu, by simpa using hrest⟩

end Glyph

/-- Where a value is to stand in a text. -/
inductive Site
  | inside | front | back

namespace Site

def comparison : Site → Comparison
  | inside => .contains
  | front => .startsWith
  | back => .endsWith

def Holds : Site → Chars → Chars → Prop
  | inside, v, t => v <:+: t
  | front, v, t => v <+: t
  | back, v, t => v <:+ t

def glyphs (v : Chars) : Site → List Glyph
  | inside => .gap :: (v.map .char ++ [.gap])
  | front => .start :: (v.map .char ++ [.gap])
  | back => .gap :: (v.map .char ++ [.finish])

lemma found_iff (site : Site) (fold : Char → Char) (v t : Chars) (ht : '\n' ∉ t) :
    Glyph.Found fold (site.glyphs v) t ↔ site.Holds (v.map fold) (t.map fold) := by
  cases site with
  | inside =>
    simp only [Glyph.Found, glyphs, Glyph.Fits, Glyph.fits_chars, Holds]
    constructor
    · rintro ⟨before, _, rfl, skipped, _, rfl, -, u, rest, rfl, hu, -⟩
      exact ⟨(before ++ skipped).map fold, rest.map fold, by simp [hu]⟩
    · rintro ⟨_, _, h⟩
      obtain ⟨_, rest, rfl, hleft, -⟩ := List.map_eq_append_iff.1 h.symm
      obtain ⟨before, u, rfl, -, hu⟩ := List.map_eq_append_iff.1 hleft
      exact ⟨before, u ++ rest, by simp, [], u ++ rest, rfl, by simp, u, rest, rfl, hu,
        [], rest, rfl, by simp, trivial⟩
  | front =>
    simp only [Glyph.Found, glyphs, Glyph.Fits, Glyph.fits_chars, Holds]
    constructor
    · rintro ⟨before, _, rfl, hstart, u, rest, rfl, hu, -⟩
      obtain rfl := List.isEmpty_iff.1 hstart
      exact ⟨rest.map fold, by simp [hu]⟩
    · rintro ⟨_, h⟩
      obtain ⟨u, rest, rfl, hu, -⟩ := List.map_eq_append_iff.1 h.symm
      exact ⟨[], u ++ rest, rfl, rfl, u, rest, rfl, hu, [], rest, rfl, by simp, trivial⟩
  | back =>
    simp only [Glyph.Found, glyphs, Glyph.Fits, Glyph.fits_chars, Holds]
    constructor
    · rintro ⟨before, _, rfl, skipped, _, rfl, -, u, rest, rfl, hu, rfl | rfl, -⟩
      · exact ⟨(before ++ skipped).map fold, by simp [hu]⟩
      · simp at ht
    · rintro ⟨_, h⟩
      obtain ⟨before, u, rfl, -, hu⟩ := List.map_eq_append_iff.1 h.symm
      exact ⟨before, u, rfl, [], u, rfl, by simp, u, [], by simp, hu, .inl rfl, trivial⟩

/-- The pattern in the clause for a value, between what starts it and the quote that ends it. -/
def pattern (v : Chars) : Site → Chars
  | inside => ".*".toList ++ (v.flatMap escapePatternChar ++ ".*".toList)
  | front => '^' :: (v.flatMap escapePatternChar ++ ".*".toList)
  | back => ".*".toList ++ (v.flatMap escapePatternChar ++ ['$'])

lemma read?_pattern (v : Chars) (site : Site) :
    Glyph.read? (site.pattern v) = some (site.glyphs v) := by
  cases site <;> simp [pattern, Glyph.read?, Glyph.read?_escaped, glyphs]

lemma clause_eq (site : Site) (field v : String) :
    site.comparison.clause field v =
      "match(" ++ field ++ ", \"(?i)" ++ String.ofList (site.pattern v.toList) ++ "\")" := by
  apply String.toList_injective
  cases site <;> simp [comparison, Comparison.clause, pattern, escapePattern, toString]

end Site

/-- The pattern in the clause for a text that is to be contained, or to stand at the start or at
    the end, is found in the lines where it does. -/
theorem clause_pattern_found_iff (site : Site) (field v : String) (modifiers : List String)
    (h : Comparison.ofModifiers modifiers v = site.comparison) :
    ∃ pattern glyphs,
      clause field modifiers (.text v) =
        some ("match(" ++ field ++ ", \"(?i)" ++ String.ofList pattern ++ "\")") ∧
      Glyph.read? pattern = some glyphs ∧
      ∀ (fold : Char → Char) (t : List Char), '\n' ∉ t →
        (Glyph.Found fold glyphs t ↔ site.Holds (v.toList.map fold) (t.map fold)) := by
  refine ⟨site.pattern v.toList, site.glyphs v.toList, ?_, site.read?_pattern v.toList, ?_⟩
  · rw [clause, h, site.clause_eq]
  · intro fold t ht
    exact site.found_iff fold v.toList t ht

/-- The backslash and the dot of a file name stand for themselves. -/
theorem clause_pattern_found_iff_path : ∃ pattern glyphs,
    clause "Image" ["endswith"] (.text "\\cmd.exe") =
      some ("match(Image, \"(?i)" ++ String.ofList pattern ++ "\")") ∧
    Glyph.read? pattern = some glyphs ∧
    Glyph.Found Char.toLower glyphs "C:\\CMD.EXE".toList ∧
    ¬Glyph.Found Char.toLower glyphs "C:\\cmd-exe".toList := by
  obtain ⟨pattern, glyphs, hclause, hread, hfound⟩ :=
    clause_pattern_found_iff .back "Image" "\\cmd.exe" ["endswith"] (by decide)
  refine ⟨pattern, glyphs, hclause, hread, (hfound _ _ (by simp)).2 ?_, ?_⟩
  · exact List.isSuffixOf_iff_suffix.1 (by decide)
  · rw [hfound _ _ (by simp)]
    exact fun h => absurd (List.isSuffixOf_iff_suffix.2 h) (by decide)

end Huntbook.Search
