import Huntbook.Proofs.Matching

/-!
# Wildcards

A value with wildcards stands for the texts that match it as a whole: a star for any characters, a
question mark for any one, and every other character for itself, up to case. The pattern in its
clause may start and end anywhere in the text, and takes a dot for any character.

* `wildcard_found_iff`: the values that keep their meaning.
-/

namespace Huntbook.Search

open List

/-- A part of a value with wildcards. -/
inductive Wild
  | many
  | one (c : Option Char)

namespace Wild

def ofChar (c : Char) : Wild :=
  if c = '*' then many else if c = '?' then one none else one (some c)

/-- Whether a text as a whole matches. -/
def Matches (fold : Char → Char) : List Wild → Chars → Prop
  | [], t => t = []
  | many :: ws, t => ∃ skipped rest, t = skipped ++ rest ∧ Matches fold ws rest
  | one c :: ws, t => ∃ d rest, t = d :: rest ∧ (∀ e ∈ c, fold d = fold e) ∧ Matches fold ws rest

/-- The wildcards at the front include a star. -/
def Opens : List Wild → Prop
  | many :: _ => True
  | one none :: ws => Opens ws
  | _ => False

variable {fold : Char → Char} {ws vs : List Wild} {t : Chars}

/-! ## Texts that match -/

lemma matches_append : Matches fold (ws ++ vs) t ↔
    ∃ a b, t = a ++ b ∧ Matches fold ws a ∧ Matches fold vs b := by
  induction ws generalizing t with
  | nil => simp [Matches]
  | cons w ws ih =>
    cases w with
    | many =>
      simp only [cons_append, Matches, ih]
      constructor
      · rintro ⟨skipped, _, rfl, a, b, rfl, ha, hb⟩
        exact ⟨skipped ++ a, b, by simp, ⟨skipped, a, rfl, ha⟩, hb⟩
      · rintro ⟨_, b, rfl, ⟨skipped, a, rfl, ha⟩, hb⟩
        exact ⟨skipped, a ++ b, by simp, a, b, rfl, ha, hb⟩
    | one c =>
      simp only [cons_append, Matches, ih]
      constructor
      · rintro ⟨d, _, rfl, hd, a, b, rfl, ha, hb⟩
        exact ⟨d :: a, b, rfl, ⟨d, a, rfl, hd, ha⟩, hb⟩
      · rintro ⟨_, b, rfl, ⟨d, a, rfl, hd, ha⟩, hb⟩
        exact ⟨d, a ++ b, rfl, hd, a, b, rfl, ha, hb⟩

lemma Matches.reverse (h : Matches fold ws t) : Matches fold ws.reverse t.reverse := by
  induction ws generalizing t with
  | nil =>
    obtain rfl := h
    rfl
  | cons w ws ih =>
    rw [← singleton_append, matches_append] at h
    obtain ⟨a, b, rfl, ha, hb⟩ := h
    rw [reverse_cons, reverse_append]
    refine matches_append.2 ⟨b.reverse, a.reverse, rfl, ih hb, ?_⟩
    cases w with
    | many => exact ⟨a.reverse, [], by simp, rfl⟩
    | one c =>
      obtain ⟨d, _, rfl, hd, rfl⟩ := ha
      exact ⟨d, [], rfl, hd, rfl⟩

lemma Matches.append_left (hws : Opens ws) (h : Matches fold ws t) (a : Chars) :
    Matches fold ws (a ++ t) := by
  induction ws generalizing t a with
  | nil => exact hws.elim
  | cons w ws ih =>
    cases w with
    | many =>
      obtain ⟨skipped, rest, rfl, hrest⟩ := h
      exact ⟨a ++ skipped, rest, by simp, hrest⟩
    | one c =>
      cases c with
      | none =>
        obtain ⟨d, rest, rfl, -, hrest⟩ := h
        cases a with
        | nil => exact ⟨d, rest, rfl, by simp, hrest⟩
        | cons x a => exact ⟨x, a ++ [d] ++ rest, by simp, by simp, ih hws hrest (a ++ [d])⟩
      | some c => exact hws.elim

lemma Matches.append_right (hws : Opens ws.reverse) (h : Matches fold ws t) (b : Chars) :
    Matches fold ws (t ++ b) := by
  simpa using (h.reverse.append_left hws b.reverse).reverse

/-- Up to case, a dot is no other character. -/
def KeepsDot (fold : Char → Char) : Prop := ∀ c, fold c = fold '.' → c = '.'

lemma KeepsDot.exists_ne (h : KeepsDot fold) (c : Char) : ∃ z, z ≠ '\n' ∧ fold z ≠ fold c := by
  by_cases hc : c = '.'
  · exact ⟨'x', by decide, fun hx => absurd (h 'x' (hc ▸ hx)) (by decide)⟩
  · exact ⟨'.', by decide, fun hdot => hc (h c hdot.symm)⟩

lemma exists_not_matches (hfold : KeepsDot fold) (h : ¬Opens ws) :
    ∃ k x, x ≠ '\n' ∧ ∀ t, ¬Matches fold ws (List.replicate k x ++ t) := by
  induction ws with
  | nil =>
    obtain ⟨x, hx, -⟩ := hfold.exists_ne 'x'
    exact ⟨1, x, hx, fun t ht => cons_ne_nil _ _ ht⟩
  | cons w ws ih =>
    cases w with
    | many => exact absurd trivial h
    | one c =>
      cases c with
      | none =>
        obtain ⟨k, x, hx, hnot⟩ := ih h
        refine ⟨k + 1, x, hx, ?_⟩
        rintro t ⟨d, rest, heq, -, hrest⟩
        obtain ⟨-, rfl⟩ := cons.inj heq
        exact hnot t hrest
      | some c =>
        obtain ⟨x, hx, hne⟩ := hfold.exists_ne c
        refine ⟨1, x, hx, ?_⟩
        rintro t ⟨d, rest, heq, hd, -⟩
        obtain ⟨rfl, -⟩ := cons.inj heq
        exact hne (hd c rfl)

/-! ## The pattern of a value -/

/-- The character that the pattern of a value asks for. A dot stands for any. -/
def asked (c : Option Char) : Option Char := if c = some '.' then none else c

def glyph : Wild → Glyph
  | many => .gap
  | one c => (asked c).elim .any .char

/-- A wildcard, a dot or a character without a meaning of its own in patterns. -/
def isPlain (c : Char) : Bool := c == '*' || c == '?' || c == '.' || !patternSpecials.contains c

variable {c x : Char}

lemma read?_wildcardChar (hc : isPlain c) {rest : Chars} (hrest : rest.head? ≠ some '*') :
    Glyph.read? (wildcardChar c ++ rest) = (Glyph.read? rest).map ((ofChar c).glyph :: ·) := by
  have hdot : Glyph.read? ('.' :: rest) = (Glyph.read? rest).map (.any :: ·) := by
    rw [Glyph.read?]
    rintro _ rfl
    exact hrest rfl
  by_cases hwild : c = '*' ∨ c = '?' ∨ c = '.'
  · rcases hwild with rfl | rfl | rfl
    · rfl
    · exact hdot
    · exact hdot
  · have hspecial : ¬patternSpecials.contains c := by
      intro h
      rw [isPlain, h] at hc
      exact hwild (by simpa [or_assoc] using hc)
    simp only [not_or] at hwild
    have hglyph : (ofChar c).glyph = .char c := by simp [ofChar, glyph, asked, hwild]
    rw [hglyph, wildcardChar, if_neg (by simp [hwild]), if_neg (by simp [hwild]),
      singleton_append, Glyph.read?_plain hspecial]

lemma read?_wildcard {v : Chars} (hv : ∀ c ∈ v, isPlain c) :
    Glyph.read? (v.flatMap wildcardChar) = some ((v.map ofChar).map glyph) := by
  induction v with
  | nil => rfl
  | cons c v ih =>
    obtain ⟨hc, hv⟩ := forall_mem_cons.1 hv
    have hhead : (v.flatMap wildcardChar).head? ≠ some '*' := by
      cases v with
      | nil => simp
      | cons d v =>
        rw [flatMap_cons, wildcardChar]
        grind
    rw [flatMap_cons, read?_wildcardChar hc hhead, ih hv]
    rfl

def sample (x : Char) : List Wild → Chars
  | [] => []
  | many :: ws => sample x ws
  | one c :: ws => (asked c).getD x :: sample x ws

lemma mem_sample (h : c ∈ sample x ws) : c = x ∨ c ≠ '.' ∧ one (some c) ∈ ws := by
  induction ws with
  | nil => cases h
  | cons w ws ih =>
    cases w with
    | many => exact (ih h).imp_right fun hc => ⟨hc.1, mem_cons_of_mem _ hc.2⟩
    | one o =>
      rcases mem_cons.1 h with rfl | h
      · rw [asked]
        split
        · exact .inl rfl
        · cases o with
          | none => exact .inl rfl
          | some c => simp_all
      · exact (ih h).imp_right fun hc => ⟨hc.1, mem_cons_of_mem _ hc.2⟩

lemma fits_sample (hx : x ≠ '\n') (rest : Chars) (b : Bool) :
    Glyph.Fits fold (ws.map glyph) b (sample x ws ++ rest) := by
  induction ws generalizing b with
  | nil => trivial
  | cons w ws ih =>
    cases w with
    | many => exact ⟨[], sample x ws ++ rest, rfl, by simp, ih _⟩
    | one c =>
      simp only [map_cons, glyph, sample]
      cases asked c with
      | none => exact ⟨x, _, rfl, hx, ih _⟩
      | some d => exact ⟨d, _, rfl, rfl, ih _⟩

lemma found_sample (hx : x ≠ '\n') (a b : Chars) :
    Glyph.Found fold (ws.map glyph) (a ++ (sample x ws ++ b)) :=
  ⟨a, _, rfl, fits_sample hx b _⟩

lemma fits_iff (hdot : one (some '.') ∉ ws) (ht : '\n' ∉ t) {b : Bool} :
    Glyph.Fits fold (ws.map glyph) b t ↔ ∃ u rest, t = u ++ rest ∧ Matches fold ws u := by
  induction ws generalizing t b with
  | nil => simp [Glyph.Fits, Matches]
  | cons w ws ih =>
    have hws : one (some '.') ∉ ws := fun h => hdot (mem_cons_of_mem w h)
    cases w with
    | many =>
      constructor
      · rintro ⟨skipped, rest, rfl, -, hrest⟩
        obtain ⟨u, rest, rfl, hu⟩ := (ih hws (by simp_all)).1 hrest
        exact ⟨skipped ++ u, rest, by simp, skipped, u, rfl, hu⟩
      · rintro ⟨_, rest, rfl, skipped, u, rfl, hu⟩
        refine ⟨skipped, u ++ rest, by simp, by simp_all, ?_⟩
        exact (ih hws (by simp_all)).2 ⟨u, rest, rfl, hu⟩
    | one c =>
      have hc : c ≠ some '.' := fun h => hdot (h ▸ mem_cons_self)
      have hfits : Glyph.Fits fold ((one c :: ws).map glyph) b t ↔ ∃ d rest, t = d :: rest ∧
          (∀ e ∈ c, fold d = fold e) ∧ Glyph.Fits fold (ws.map glyph) false rest := by
        rw [map_cons, glyph, asked, if_neg hc]
        cases c with
        | none =>
          refine exists_congr fun d => exists_congr fun rest => and_congr_right ?_
          rintro rfl
          simp_all [eq_comm]
        | some c => simp [Glyph.Fits]
      rw [hfits]
      constructor
      · rintro ⟨d, rest, rfl, hd, hrest⟩
        obtain ⟨u, rest, rfl, hu⟩ := (ih hws (by simp_all)).1 hrest
        exact ⟨d :: u, rest, rfl, d, u, rfl, hd, hu⟩
      · rintro ⟨_, rest, rfl, d, u, rfl, hd, hu⟩
        exact ⟨d, u ++ rest, rfl, hd, (ih hws (by simp_all)).2 ⟨u, rest, rfl, hu⟩⟩

lemma found_iff (hdot : one (some '.') ∉ ws) (ht : '\n' ∉ t) :
    Glyph.Found fold (ws.map glyph) t ↔ ∃ a u b, t = a ++ (u ++ b) ∧ Matches fold ws u := by
  constructor
  · rintro ⟨a, rest, rfl, hrest⟩
    obtain ⟨u, b, rfl, hu⟩ := (fits_iff hdot (by simp_all)).1 hrest
    exact ⟨a, u, b, rfl, hu⟩
  · rintro ⟨a, u, b, rfl, hu⟩
    exact ⟨a, u ++ b, rfl, (fits_iff hdot (by simp_all)).2 ⟨u, b, rfl, hu⟩⟩

lemma exists_mem_of_matches (h : Matches fold ws t) (hc : one (some c) ∈ ws) :
    ∃ d ∈ t, fold d = fold c := by
  induction ws generalizing t with
  | nil => cases hc
  | cons w ws ih =>
    cases w with
    | many =>
      obtain ⟨skipped, rest, rfl, hrest⟩ := h
      obtain ⟨d, hd, hfold⟩ := ih hrest (by simpa using hc)
      exact ⟨d, mem_append_right skipped hd, hfold⟩
    | one o =>
      obtain ⟨d, rest, rfl, hd, hrest⟩ := h
      rcases mem_cons.1 hc with heq | hc
      · obtain rfl := Wild.one.inj heq
        exact ⟨d, mem_cons_self, hd c rfl⟩
      · obtain ⟨d', hd', hfold⟩ := ih hrest hc
        exact ⟨d', mem_cons_of_mem d hd', hfold⟩

/-- A value means the same as its pattern if it has no dot and stars open it at both ends. -/
lemma found_iff_matches (hfold : KeepsDot fold) (hline : one (some '\n') ∉ ws) :
    (∀ t, '\n' ∉ t → (Glyph.Found fold (ws.map glyph) t ↔ Matches fold ws t)) ↔
      one (some '.') ∉ ws ∧ Opens ws ∧ Opens ws.reverse := by
  constructor
  · intro hsame
    -- Whatever stands around a sample, the pattern is found in it.
    have hsample {x : Char} (hx : x ≠ '\n') {a b : Chars} (ha : '\n' ∉ a) (hb : '\n' ∉ b) :
        Matches fold ws (a ++ (sample x ws ++ b)) := by
      refine (hsame _ ?_).1 (found_sample hx a b)
      have hnot : '\n' ∉ sample x ws := fun h => (mem_sample h).elim (hx ·.symm) (hline ·.2)
      simp [ha, hb, hnot]
    have hrun (k : Nat) {y : Char} (hy : y ≠ '\n') : '\n' ∉ replicate k y :=
      fun h => hy (eq_of_mem_replicate h).symm
    obtain ⟨x, hx, hdot⟩ := hfold.exists_ne '.'
    refine ⟨fun hmem => ?_, ?_, ?_⟩
    · have hmatch : Matches fold ws (sample x ws) := by
        simpa using hsample hx not_mem_nil not_mem_nil
      obtain ⟨d, hd, hfold'⟩ := exists_mem_of_matches hmatch hmem
      obtain rfl := hfold d hfold'
      exact (mem_sample hd).elim (fun h => hdot (h ▸ rfl)) (·.1 rfl)
    · by_contra hopens
      obtain ⟨k, y, hy, hnot⟩ := exists_not_matches hfold hopens
      exact hnot _ (hsample hx (hrun k hy) not_mem_nil)
    · by_contra hopens
      obtain ⟨k, y, hy, hnot⟩ := exists_not_matches hfold hopens
      have hmatch := hsample hx not_mem_nil (hrun k hy)
      exact hnot (sample x ws).reverse (by simpa using hmatch.reverse)
  · rintro ⟨hdot, hopens, hopens'⟩ t ht
    rw [found_iff hdot ht]
    constructor
    · rintro ⟨a, u, b, rfl, hu⟩
      exact (hu.append_right hopens' b).append_left hopens a
    · intro h
      exact ⟨[], t, [], by simp, h⟩

end Wild

/-- The clause for a value with wildcards, of whose other characters only dots mean something in a
    pattern, is found in the lines that the value stands for exactly if it has no dot and stars
    open it at both ends. -/
theorem wildcard_found_iff (field v : String) (modifiers : List String)
    (h : Comparison.ofModifiers modifiers v = .wildcard) (hv : ∀ c ∈ v.toList, Wild.isPlain c)
    (hline : '\n' ∉ v.toList) :
    ∃ pattern glyphs,
      clause field modifiers (.text v) =
        some ("match(" ++ field ++ ", \"(?i)" ++ String.ofList pattern ++ "\")") ∧
      Glyph.read? pattern = some glyphs ∧
      ∀ fold, Wild.KeepsDot fold →
        ((∀ t, '\n' ∉ t → (Glyph.Found fold glyphs t ↔
            Wild.Matches fold (v.toList.map Wild.ofChar) t)) ↔
          '.' ∉ v.toList ∧ Wild.Opens (v.toList.map Wild.ofChar) ∧
            Wild.Opens (v.toList.map Wild.ofChar).reverse) := by
  have hmem (c : Char) (hc : Wild.ofChar c = .one (some c)) :
      Wild.one (some c) ∈ v.toList.map Wild.ofChar ↔ c ∈ v.toList := by
    rw [mem_map]
    constructor
    · rintro ⟨d, hd, heq⟩
      rw [Wild.ofChar] at heq
      grind
    · exact fun hmem => ⟨c, hmem, hc⟩
  refine ⟨_, _, ?_, Wild.read?_wildcard hv, ?_⟩
  · rw [clause, h]
    apply congrArg some
    apply String.toList_injective
    simp [Comparison.clause, wildcardPattern, toString]
  · intro fold hfold
    rw [Wild.found_iff_matches hfold (mt (hmem '\n' rfl).1 hline), hmem '.' rfl]

/-- A word that stars surround keeps its meaning. -/
theorem wildcard_found_iff_word :
    ∃ pattern glyphs,
      clause "Image" [] (.text "*cmd*") =
        some ("match(Image, \"(?i)" ++ String.ofList pattern ++ "\")") ∧
      Glyph.read? pattern = some glyphs ∧
      ∀ t, '\n' ∉ t → (Glyph.Found Char.toLower glyphs t ↔
        Wild.Matches Char.toLower ("*cmd*".toList.map Wild.ofChar) t) := by
  have hfold : Wild.KeepsDot Char.toLower := by
    intro c hc
    unfold Char.toLower at hc
    split at hc
    · rename_i hupper
      have hcode := congrArg (fun d : Char => d.val.toNat) hc
      have hleast := UInt32.le_iff_toNat_le.1 hupper.1
      have hmost := UInt32.le_iff_toNat_le.1 hupper.2
      simp at hcode hleast hmost
      omega
    · exact hc
  obtain ⟨pattern, glyphs, hclause, hread, hiff⟩ :=
    wildcard_found_iff "Image" "*cmd*" [] (by decide) (all_eq_true.1 (by decide)) (by decide)
  exact ⟨pattern, glyphs, hclause, hread, (hiff _ hfold).2 ⟨by decide, trivial, trivial⟩⟩

/-- The ending of a file name does not: its dot is any character. -/
theorem wildcard_found_elsewhere :
    clause "Image" [] (.text "*.exe") = some "match(Image, \"(?i).*.exe\")" ∧
    ∃ glyphs, Glyph.read? ".*.exe".toList = some glyphs ∧
      Glyph.Found Char.toLower glyphs "cmd-exe".toList ∧
      ¬Wild.Matches Char.toLower ("*.exe".toList.map Wild.ofChar) "cmd-exe".toList := by
  refine ⟨by decide, _, rfl, ?_, ?_⟩
  · refine ⟨[], _, rfl, "cmd".toList, "-exe".toList, rfl, by decide, '-', "exe".toList, rfl,
      by decide, 'e', "xe".toList, rfl, rfl, 'x', "e".toList, rfl, rfl, 'e', [], rfl, rfl, trivial⟩
  · intro h
    obtain ⟨d, hd, hfold⟩ := Wild.exists_mem_of_matches (c := '.') h (by simp [Wild.ofChar])
    have hnone : "cmd-exe".toList.all (fun d => d.toLower != '.') = true := by decide
    exact bne_iff_ne.1 (all_eq_true.1 hnone d hd) hfold

end Huntbook.Search
