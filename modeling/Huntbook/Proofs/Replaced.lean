import Huntbook.Proofs.Contained
import Huntbook.Proofs.Cut
import Huntbook.Proofs.Gap

/-!
# Texts put into conditions

Where a condition is not just a name, clauses are read as templates, which takes away half of the
backslashes of an escaped value; so no text of the rule stays in its literal for sure. For every
kind of comparison there are two texts, a quiet one and a loud one, that come through the template
and through all passes as two walls, the loud one with a bar more.
-/

namespace Huntbook.Conversion

open List Search Text

/-! ## Quiet and loud texts -/

/-- How the text of a part is compared; nothing for one that is looked for anywhere. -/
def Part.kind : Part → Option Comparison
  | .compared _ modifiers s => some (Comparison.ofModifiers modifiers s)
  | _ => none

def encodedAs (s : String) : Option Comparison → String
  | some c => c.encoded s
  | none => escapeValue s

def padding (longest : Nat) : Chars := List.replicate (longest + 1) ';'

def padded (longest : Nat) (s : String) : String :=
  String.ofList (padding longest ++ (s.toList ++ padding longest))

def quietCore : Option Comparison → String
  | some .wildcard => "*"
  | _ => ""

def loudCore : Option Comparison → String
  | some .wildcard => "|\"|\"*"
  | some .contains | some .startsWith | some .endsWith => "|\"|\""
  | _ => "|\\\"|\\\""

def quiet (longest : Nat) (k : Option Comparison) : String := padded longest (quietCore k)

def loud (longest : Nat) (k : Option Comparison) : String := padded longest (loudCore k)

lemma flatMap_padding {f : Char → Chars} (hf : f ';' = [';']) (longest : Nat) :
    (padding longest).flatMap f = padding longest := by
  unfold padding
  induction longest + 1 with
  | zero => rfl
  | succ n ih => rw [replicate_succ, flatMap_cons, hf, ih]; rfl

lemma toList_encodedAs_padded (longest : Nat) (s : String) (k : Option Comparison) :
    (encodedAs (padded longest s) k).toList =
      padding longest ++ ((encodedAs s k).toList ++ padding longest) := by
  have hvalue := flatMap_padding (show escapeValueChar ';' = [';'] by decide) longest
  have hpattern := flatMap_padding (show escapePatternChar ';' = [';'] by decide) longest
  have hwildcard := flatMap_padding (show wildcardChar ';' = [';'] by decide) longest
  rcases k with _ | c
  · simp [encodedAs, escapeValue, padded, hvalue]
  · cases c <;> simp [encodedAs, Comparison.encoded, escapeValue, escapePattern, wildcardPattern,
      padded, hvalue, hpattern, hwildcard]

lemma hasWildcard_padded (longest : Nat) (s : String) :
    hasWildcard (padded longest s) = hasWildcard s := by
  have hno : (padding longest).any (fun c => c == '*' || c == '?') = false := by
    simp [padding, any_replicate]
  simp only [hasWildcard, padded, String.toList_ofList, any_append, hno, Bool.false_or,
    Bool.or_false]

variable {core : Option Comparison → String} {p : Part} {longest : Nat} {ps : List Part}
  {text : Chars}

lemma ofModifiers_padded
    (hcore : ∀ k, hasWildcard (core k) = (k == some .wildcard)) (longest : Nat)
    (modifiers : Texts) (s : String) : Comparison.ofModifiers modifiers
        (padded longest (core (some (Comparison.ofModifiers modifiers s)))) =
      Comparison.ofModifiers modifiers s := by
  obtain ⟨-, c, -, hall⟩ | ⟨-, ⟨c, -, hall⟩ | hfree⟩ := Comparison.ofModifiers_cases modifiers
  · rw [hall, hall]
  · rw [hall, hall]
  · rw [hfree (padded _ _), hasWildcard_padded, hcore, hfree]
    split <;> rfl

lemma reword_padded (hcore : ∀ k, hasWildcard (core k) = (k == some .wildcard)) (longest : Nat)
    (hp : p.isFixed = false) : (p.reword fun k => padded longest (core k)).text.toList =
      p.opening ++ (padding longest ++
        ((encodedAs (core p.kind) p.kind).toList ++ padding longest) ++ p.closing) := by
  rw [← toList_encodedAs_padded, Part.toList_text]
  cases p with
  | fixed text => simp [Part.isFixed] at hp
  | compared field modifiers s =>
    simp only [Part.reword, Part.opening, Part.encoded, Part.closing, ofModifiers_padded hcore]
    rfl
  | keyword s => rfl

lemma reword_quiet (longest : Nat) (hp : p.isFixed = false) :
    (p.reword (quiet longest)).text.toList = p.opening ++ (padding longest ++
      ((encodedAs (quietCore p.kind) p.kind).toList ++ padding longest) ++ p.closing) := by
  refine reword_padded (fun k => ?_) longest hp
  rcases k with _ | c
  · decide
  · cases c <;> decide

lemma reword_loud (longest : Nat) (hp : p.isFixed = false) :
    (p.reword (loud longest)).text.toList = p.opening ++ (padding longest ++
      ((encodedAs (loudCore p.kind) p.kind).toList ++ padding longest) ++ p.closing) := by
  refine reword_padded (fun k => ?_) longest hp
  rcases k with _ | c
  · decide
  · cases c <;> decide

/-! ## What templates make of them -/

def quietRead : Option Comparison → Chars
  | some .wildcard => ".*".toList
  | _ => []

def loudRead : Option Comparison → Chars
  | some .wildcard => "|\"|\".*".toList
  | some .contains | some .startsWith | some .endsWith => "\\|\"\\|\"".toList
  | _ => "|\\\\\"|\\\\\"".toList

section

open Template

variable {cs out : Chars}

lemma spells_quiet (k : Option Comparison) (h : Spells cs out) :
    Spells ((encodedAs (quietCore k) k).toList ++ cs) (quietRead k ++ out) := by
  have hread : (encodedAs (quietCore k) k).toList = quietRead k ∧ '\\' ∉ quietRead k := by
    rcases k with _ | c
    · decide
    · cases c <;> decide
  rw [hread.1]
  exact h.append_plain hread.2

lemma spells_loud (k : Option Comparison) (h : Spells cs out) :
    Spells ((encodedAs (loudCore k) k).toList ++ cs) (loudRead k ++ out) := by
  -- The backslash before a quote is doubled by the escape, and what is left of it closes the literal.
  have hvalue : Spells ((escapeValue "|\\\"|\\\"").toList ++ cs) ("|\\\\\"|\\\\\"".toList ++ out) := by
    have hescaped : (escapeValue "|\\\"|\\\"").toList =
        ['|', '\\', '\\', '\\', '"', '|', '\\', '\\', '\\', '"'] := by decide
    rw [hescaped]
    refine .plain (by decide) (.control (by decide) (.kept (by decide) ?_))
    exact .plain (by decide) (.control (by decide) (.kept (by decide) h))
  have hpattern : Spells ((escapePattern "|\"|\"").toList ++ cs) ("\\|\"\\|\"".toList ++ out) := by
    have hescaped : (escapePattern "|\"|\"").toList = ['\\', '|', '"', '\\', '|', '"'] := by decide
    rw [hescaped]
    refine .kept (by decide) (.plain (by decide) (.kept (by decide) (.plain (by decide) h)))
  have hwildcard : Spells ((wildcardPattern "|\"|\"*").toList ++ cs) ("|\"|\".*".toList ++ out) := by
    have hescaped : (wildcardPattern "|\"|\"*").toList = "|\"|\".*".toList := by decide
    rw [hescaped]
    exact h.append_plain (by decide)
  rcases k with _ | c
  · exact hvalue
  · cases c with
    | pattern | network | equals => exact hvalue
    | contains | startsWith | endsWith => exact hpattern
    | wildcard => exact hwildcard

end

lemma wall_padded {w : Chars} (hw : ∀ c ∈ w, isWord c = false) :
    Wall longest (padding longest ++ (w ++ padding longest)) where
  other c hc := by
    have hpad : ∀ c ∈ padding longest, isWord c = false := fun c hc => by
      rw [eq_of_mem_replicate hc]
      decide
    simp only [mem_append] at hc
    rcases hc with hc | hc | hc
    · exact hpad c hc
    · exact hw c hc
    · exact hpad c hc
  long := by
    simp only [length_append, padding, length_replicate]
    omega
  ends := by
    refine ⟨replicate longest ';' ++ (w ++ replicate longest ';'), ?_⟩
    have hcons : padding longest = ';' :: replicate longest ';' := replicate_succ
    have hconcat : padding longest = replicate longest ';' ++ [';'] := replicate_succ'
    nth_rewrite 1 [hcons]
    rw [hconcat]
    simp

lemma gap_padded (longest : Nat) (k : Option Comparison) :
    Gap longest (padding longest ++ (quietRead k ++ padding longest))
      (padding longest ++ (loudRead k ++ padding longest)) where
  wall := wall_padded (by rcases k with _ | c <;> [decide; (cases c <;> decide)])
  wall' := wall_padded (by rcases k with _ | c <;> [decide; (cases c <;> decide)])
  more := by
    -- The semicolon before the core makes sure that it is not escaped.
    have hcore : OneMore (';' :: quietRead k) (';' :: loudRead k) := by
      intro z
      rcases k with _ | c
      · cases z <;> decide
      · cases c <;> cases z <;> decide
    have := hcore.frame (replicate longest ';') (padding longest)
    simpa [padding, replicate_succ'] using this

/-! ## Templates of clauses -/

lemma Part.exists_stops (hp : p.isFixed = false) :
    (∃ o c, p.opening = o ++ [c] ∧ Template.isStop c) ∧
      ∃ d r, p.closing = d :: r ∧ Template.isStop d := by
  cases p with
  | fixed text => simp [isFixed] at hp
  | keyword s => exact ⟨⟨[], '"', rfl, by decide⟩, '"', [], rfl, by decide⟩
  | compared field modifiers s =>
    simp only [opening, closing]
    constructor
    · cases Comparison.ofModifiers modifiers s with
      | pattern =>
        exact ⟨(s!"match({field}, ").toList, '"', by simp [Comparison.opening, toString], by decide⟩
      | network => exact ⟨"cidrmatch(".toList, '"', by simp [Comparison.opening], by decide⟩
      | contains | endsWith =>
        exact ⟨(s!"match({field}, \"(?i).").toList, '*', by simp [Comparison.opening, toString],
          by decide⟩
      | startsWith =>
        exact ⟨(s!"match({field}, \"(?i)").toList, '^', by simp [Comparison.opening, toString],
          by decide⟩
      | wildcard =>
        exact ⟨(s!"match({field}, \"(?i").toList, ')', by simp [Comparison.opening, toString],
          by decide⟩
      | equals =>
        exact ⟨(s!"lower({field})=lower(").toList, '"', by simp [Comparison.opening, toString],
          by decide⟩
    · cases Comparison.ofModifiers modifiers s with
      | pattern | wildcard | equals => exact ⟨'"', [')'], by simp [Comparison.closing], by decide⟩
      | network =>
        exact ⟨'"', (s!", {field})").toList, by simp [Comparison.closing, toString], by decide⟩
      | contains | startsWith => exact ⟨'.', "*\")".toList, by simp [Comparison.closing], by decide⟩
      | endsWith => exact ⟨'$', "\")".toList, by simp [Comparison.closing], by decide⟩

section

open Template

lemma expand_append (ps qs : List Piece) (found : Chars) :
    expand (ps ++ qs) found = expand ps found ++ expand qs found :=
  flatMap_append

lemma spells_padded {longest : Nat} {encoded read : Chars} {d : Char} (hd : isStop d)
    (h : ∀ {cs out}, Spells cs out → Spells (encoded ++ cs) (read ++ out)) :
    Spells (padding longest ++ (encoded ++ padding longest) ++ [d])
      (padding longest ++ (read ++ padding longest) ++ [d]) := by
  have hpad : '\\' ∉ padding longest := fun hmem => absurd (eq_of_mem_replicate hmem) (by decide)
  have hne : d ≠ '\\' := by
    rintro rfl
    exact absurd hd (by decide)
  simp only [append_assoc]
  exact .append_plain hpad (h (.append_plain hpad (.plain hne spells_nil)))

lemma parse_padded (longest : Nat) {u : Chars} {ps : List Part} {pieces : List Piece}
    (h : parse (u ++ (chars ps ++ [')'])) = .ok pieces) :
    ∃ a b, parse (u ++ (chars (ps.map (Part.reword (quiet longest))) ++ [')'])) = .ok a ∧
      parse (u ++ (chars (ps.map (Part.reword (loud longest))) ++ [')'])) = .ok b ∧
      ∀ found, ∃ n, Twin longest (expand a found) (expand b found) n ∧
        (ps.all Part.isFixed = false → 0 < n) := by
  induction ps generalizing u pieces with
  | nil => exact ⟨pieces, pieces, h, h, fun found => ⟨0, .refl _, by simp⟩⟩
  | cons p ps ih =>
    simp only [map_cons, chars_cons, all_cons]
    cases hf : p.isFixed with
    | true =>
      have hassoc : ∀ v, u ++ (p.text.toList ++ v ++ [')']) = (u ++ p.text.toList) ++ (v ++ [')']) :=
        fun v => by simp
      rw [chars_cons, hassoc] at h
      rw [Part.reword_of_isFixed hf, Part.reword_of_isFixed hf, hassoc, hassoc, Bool.true_and]
      exact ih h
    | false =>
      obtain ⟨⟨o, c, ho, hc⟩, d, r, hr, hd⟩ := Part.exists_stops hf
      -- What comes before the text, the text, and what follows it are read one by one.
      have hassoc : ∀ e v, u ++ (p.opening ++ (e ++ p.closing) ++ v ++ [')']) =
          (u ++ o) ++ c :: (e ++ d :: (r ++ (v ++ [')']))) := fun e v => by
        simp [ho, hr]
      rw [chars_cons, Part.toList_text, hassoc] at h
      obtain ⟨a₁, b₁, rfl, hb₁, hjoin⟩ := parse_append_cons hc h
      obtain ⟨a₂, b₂, rfl, hb₂, -⟩ := parse_append_cons hd hb₁
      obtain ⟨a, b, ha, hb, htwin⟩ := ih hb₂
      rw [reword_quiet longest hf, reword_loud longest hf, hassoc, hassoc]
      refine ⟨_, _, hjoin _ _ ((spells_padded hd (spells_quiet p.kind)).parse_append hd ha),
        hjoin _ _ ((spells_padded hd (spells_loud p.kind)).parse_append hd hb), fun found => ?_⟩
      obtain ⟨n, hn, -⟩ := htwin found
      refine ⟨n + 1, ?_, fun _ => Nat.succ_pos n⟩
      have := Twin.gap (expand a₁ found) (gap_padded longest p.kind) (hn.append_left [d])
      simpa only [expand_append, expand_map_char, append_assoc] using this

end

lemma twin_insertion (longest : Nat) (name : String) (h : Readable (spell ps)) :
    Readable (spell (ps.map (Part.reword (quiet longest)))) ∧
      Readable (spell (ps.map (Part.reword (loud longest)))) ∧
      ∃ n, Twin longest (insertion (name, spell (ps.map (Part.reword (quiet longest)))))
          (insertion (name, spell (ps.map (Part.reword (loud longest))))) n ∧
        (ps.all Part.isFixed = false → 0 < n) := by
  have htemplate : ∀ qs, clauseTemplate (spell qs) = ['('] ++ (chars qs ++ [')']) := fun qs => by
    simp [clauseTemplate]
  obtain ⟨pieces, hp⟩ := h
  rw [htemplate] at hp
  obtain ⟨a, b, ha, hb, htwin⟩ := parse_padded longest hp
  rw [← htemplate] at ha hb
  refine ⟨⟨a, ha⟩, ⟨b, hb⟩, ?_⟩
  simp only [insertion, ha, hb]
  exact htwin name.toList

/-! ## Conditions -/

abbrev NamedParts := String × List Part

/-- A name with its clause. -/
def NamedParts.clause (c : NamedParts) : NamedClause := (c.1, spell c.2)

def NamedParts.reword (g : Option Comparison → String) (c : NamedParts) : NamedParts :=
  (c.1, c.2.map (Part.reword g))

/-- In the passes for names, one after the other, no clause that has a text of the rule is put in:
    its name does not stand in what the passes before have made of the condition. -/
def Untouched : List NamedParts → Chars → Prop
  | [], _ => True
  | c :: cs, text =>
    if c.2.all Part.isFixed then Untouched cs (pass c.clause text)
    else ¬StandsIn c.1.toList text ∧ Untouched cs text

lemma pass_of_not_standsIn {c : NamedClause} (h : ¬StandsIn c.1.toList text) :
    pass c text = text :=
  rewrite_of_not_standsIn h

lemma eq_of_all_isFixed {qs : List Part} (hp : ps.all Part.isFixed)
    (h : Forall₂ Alike ps qs) : qs = ps := by
  induction h with
  | nil => rfl
  | cons hpq _ ih =>
    simp only [all_cons, Bool.and_eq_true] at hp
    rw [hpq.eq_of_isFixed hp.1, ih hp.2]

lemma Untouched.passes_eq {cs cs' : List NamedParts} (hu : Untouched cs text)
    (h : Forall₂ (fun c c' => c'.1 = c.1 ∧ Forall₂ Alike c.2 c'.2) cs cs') :
    passes (cs'.map NamedParts.clause) text = passes (cs.map NamedParts.clause) text := by
  induction h generalizing text with
  | nil => rfl
  | @cons c c' cs cs' hc _ ih =>
    obtain ⟨hname, halike⟩ := hc
    rw [Untouched] at hu
    rw [map_cons, map_cons, passes_cons, passes_cons]
    split at hu
    · rename_i hfixed
      have hsame : c'.clause = c.clause := by
        rw [NamedParts.clause, NamedParts.clause, hname, eq_of_all_isFixed hfixed halike]
      rw [hsame]
      exact ih hu
    · obtain ⟨hno, hu⟩ := hu
      have hno' : ¬StandsIn c'.1.toList text := by rwa [hname]
      rw [pass_of_not_standsIn (c := c.clause) hno, pass_of_not_standsIn (c := c'.clause) hno']
      exact ih hu

lemma map_reword_of_all_isFixed (h : ps.all Part.isFixed)
    (g : Option Comparison → String) : ps.map (Part.reword g) = ps := by
  refine (map_congr_left fun p hp => ?_).trans (map_id ps)
  exact Part.reword_of_isFixed (all_eq_true.1 h p hp) g

lemma twin_passes {cs : List NamedParts}
    (hlen : ∀ c ∈ cs, c.1.length ≤ longest) (hread : ∀ c ∈ cs, Readable (spell c.2))
    {x y : Chars} {n : Nat} (h : Twin longest x y n) :
    ∃ m, Twin longest (passes ((cs.map (NamedParts.reword (quiet longest))).map NamedParts.clause) x)
        (passes ((cs.map (NamedParts.reword (loud longest))).map NamedParts.clause) y) m ∧
      n ≤ m ∧ (¬Untouched cs x → 0 < m) := by
  induction cs generalizing x y n with
  | nil => exact ⟨n, h, Nat.le_refl n, fun hu => absurd trivial hu⟩
  | cons c cs ih =>
    obtain ⟨hlen, hlens⟩ := forall_mem_cons.1 hlen
    obtain ⟨hread, hreads⟩ := forall_mem_cons.1 hread
    obtain ⟨-, -, k, hk, hpos⟩ := twin_insertion longest c.1 hread
    have hlen' : c.1.toList.length ≤ longest := by rwa [String.length_toList]
    obtain ⟨m₁, hm₁, hle₁, hstands⟩ := Twin.rewrite hlen' hk h
    obtain ⟨m, hm, hle, hu⟩ := ih hlens hreads hm₁
    refine ⟨m, hm, Nat.le_trans hle₁ hle, fun hno => ?_⟩
    rcases Nat.eq_zero_or_pos m₁ with rfl | hpos₁
    · -- No gap so far: what the pass has made of the condition has no text of the rule.
      obtain rfl : n = 0 := Nat.le_zero.1 hle₁
      refine hu fun huntouched => hno ?_
      rw [Untouched]
      split
      · rename_i hfixed
        rw [map_reword_of_all_isFixed hfixed] at huntouched
        exact huntouched
      · rename_i hfixed
        have hnot : ¬StandsIn c.1.toList x := fun hs =>
          Nat.lt_irrefl 0 (hstands rfl (hpos (Bool.eq_false_iff.2 hfixed)) hs)
        rw [rewrite_of_not_standsIn hnot] at huntouched
        exact ⟨hnot, huntouched⟩
    · exact Nat.lt_of_lt_of_le hpos₁ hle

end Huntbook.Conversion
