import Huntbook.Search
import Mathlib

/-!
# Escapes that are read back

The marks of a text are escaped one after the other: each replacement puts a backslash before one
mark, and it runs over what the earlier ones have left. The backslash is the first mark, so no
backslash that was put in is escaped again, and all replacements together are one pass.

* `escapePattern_read_back`: a text that is escaped for a pattern stands for itself there;
* `escapeValue_closed`: a text that is escaped for a literal ends at the quote that closes it.
-/

namespace Huntbook.Search

open List

/-! ## One mark after the other -/

def escapeMark (s : String) (mark : Char) : String :=
  Text.replace s (String.singleton mark) (String.ofList ['\\', mark])

def escapeEach (marks : Chars) (s : String) : String := marks.foldl escapeMark s

def escapeOne (marks : Chars) (c : Char) : Chars := if c ∈ marks then ['\\', c] else [c]

lemma replaceFrom_singleton (c : Char) (new cs : Chars) :
    Text.replaceFrom [c] new 0 cs = cs.flatMap fun d => if d = c then new else [d] := by
  induction cs with
  | nil => rfl
  | cons d cs ih =>
    rw [Text.replaceFrom, flatMap_cons]
    by_cases h : d = c
    · simp [h, ih]
    · simp [h, ih, Ne.symm h]

variable {marks : Chars}

/-- The replacement of one more mark, after others that are not touched by it. -/
lemma escapeMark_escapeOne {mark : Char} (hnew : mark ∉ marks)
    (hfirst : marks ≠ [] → mark ≠ '\\') (cs : Chars) :
    escapeMark (String.ofList (cs.flatMap (escapeOne marks))) mark =
      String.ofList (cs.flatMap (escapeOne (marks ++ [mark]))) := by
  rw [escapeMark, Text.replace, String.toList_ofList, String.toList_singleton, String.toList_ofList,
    replaceFrom_singleton, flatMap_assoc]
  congr 2
  funext c
  by_cases hc : c ∈ marks
  · have hmark : '\\' ≠ mark := (hfirst (ne_nil_of_mem hc)).symm
    have hne : c ≠ mark := by
      rintro rfl
      exact hnew hc
    simp [escapeOne, hc, hmark, hne]
  · by_cases hne : c = mark
    · subst hne
      simp [escapeOne, hc]
    · simp [escapeOne, hc, hne]

lemma escapeEach_eq (hnodup : marks.Nodup) (hfirst : '\\' ∉ marks.tail) (s : String) :
    escapeEach marks s = String.ofList (s.toList.flatMap (escapeOne marks)) := by
  induction marks using reverseRecOn with
  | nil =>
    have hkept : escapeOne [] = fun c => [c] := rfl
    simp [escapeEach, hkept]
  | append_singleton marks mark ih =>
    obtain ⟨hmarks, -, hnew⟩ := nodup_append.1 hnodup
    have hearlier : '\\' ∉ marks.tail := fun h => hfirst (by cases marks <;> simp_all)
    rw [escapeEach, foldl_concat, ← escapeEach, ih hmarks hearlier]
    refine escapeMark_escapeOne (fun h => hnew mark h mark (mem_singleton_self _) rfl) ?_ _
    rintro hne rfl
    exact hfirst (by cases marks <;> simp_all)

lemma escapePatternChar_eq : escapePatternChar = escapeOne patternSpecials := by
  funext c
  simp [escapePatternChar, escapeOne]

lemma escapeValueChar_eq : escapeValueChar = escapeOne ['\\', '"'] := by
  funext c
  simp [escapeValueChar, escapeOne]

/-! ## Reading them back -/

/-- What is read up to the first mark that no backslash escapes, and what is left from there. -/
def readUpTo (marks : Chars) : Chars → Chars × Chars
  | '\\' :: c :: rest => (readUpTo marks rest).map (c :: ·) id
  | c :: rest => if c ∈ marks then ([], c :: rest) else (readUpTo marks rest).map (c :: ·) id
  | [] => ([], [])

lemma readUpTo_escaped (hback : '\\' ∈ marks) (v rest : Chars) :
    readUpTo marks (v.flatMap (escapeOne marks) ++ rest) =
      (readUpTo marks rest).map (v ++ ·) id := by
  induction v with
  | nil => rfl
  | cons c v ih =>
    rw [flatMap_cons, append_assoc]
    by_cases hc : c ∈ marks
    · rw [escapeOne, if_pos hc, cons_append, singleton_append, readUpTo, ih]
      rfl
    · rw [escapeOne, if_neg hc, singleton_append, readUpTo, if_neg hc, ih]
      · rfl
      · exact fun _ _ heq _ => hc (heq ▸ hback)

/-- The value of a literal whose opening quote has been read, and what follows its closing quote. -/
def closed? (cs : Chars) : Option (Chars × Chars) :=
  match readUpTo ['\\', '"'] cs with
  | (value, '"' :: rest) => some (value, rest)
  | _ => none

/-- All special characters are escaped as by one pass, what is read up to the first one that is not
    escaped is the whole text, and so no two texts are escaped alike. -/
theorem escapePattern_read_back (v : String) :
    escapeEach patternSpecials v = escapePattern v ∧
      readUpTo patternSpecials (escapePattern v).toList = (v.toList, []) ∧
      ∀ w, escapePattern w = escapePattern v → w = v := by
  have hread (w : String) : readUpTo patternSpecials (escapePattern w).toList = (w.toList, []) := by
    have hback : '\\' ∈ patternSpecials := by decide
    have h := readUpTo_escaped hback w.toList []
    rw [append_nil] at h
    rw [escapePattern, String.toList_ofList, escapePatternChar_eq, h]
    simp [readUpTo]
  refine ⟨?_, hread v, fun w hw => ?_⟩
  · rw [escapeEach_eq (by decide) (by decide), escapePattern, escapePatternChar_eq]
  · have h := hread w
    rw [hw, hread v] at h
    exact (String.toList_injective (Prod.ext_iff.1 h).1).symm

/-- A text is escaped as by one pass, and read as the rest of a literal it is closed by the quote
    that follows it, however many backslashes it ends in. -/
theorem escapeValue_closed (v r : String) :
    escapeEach ['\\', '"'] v = escapeValue v ∧
      closed? (escapeValue v ++ "\"" ++ r).toList = some (v.toList, r.toList) := by
  constructor
  · rw [escapeEach_eq (by decide) (by decide), escapeValue, escapeValueChar_eq]
  · have htext : (escapeValue v ++ "\"" ++ r).toList =
        v.toList.flatMap (escapeOne ['\\', '"']) ++ '"' :: r.toList := by
      simp [escapeValue, escapeValueChar_eq]
    rw [closed?, htext, readUpTo_escaped (by decide)]
    simp [readUpTo]

end Huntbook.Search
