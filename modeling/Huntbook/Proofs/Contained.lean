import Huntbook.Proofs.Part
import Huntbook.Proofs.Stage

/-!
# Texts that stay in their literals

Every text of a rule stands in a frame of its clause: an opening that ends in a quote, with the
start of a pattern perhaps, and a closing. What comes in between is the text with its backslashes
and quotes escaped, the text escaped as a pattern, or a pattern made of its wildcards; the latter
two let a quote through.
-/

namespace Huntbook

namespace Search.Comparison

def opening (field : String) : Comparison → String
  | .pattern => s!"match({field}, \""
  | .network => "cidrmatch(\""
  | .contains | .endsWith => s!"match({field}, \"(?i).*"
  | .startsWith => s!"match({field}, \"(?i)^"
  | .wildcard => s!"match({field}, \"(?i)"
  | .equals => s!"lower({field})=lower(\""

def encoded (s : String) : Comparison → String
  | .pattern | .network | .equals => escapeValue s
  | .contains | .startsWith | .endsWith => escapePattern s
  | .wildcard => wildcardPattern s

def closing (field : String) : Comparison → String
  | .pattern | .wildcard | .equals => "\")"
  | .network => s!"\", {field})"
  | .contains | .startsWith => ".*\")"
  | .endsWith => "$\")"

def quotes (modifiers : Texts) : Bool := modifiers.contains "re" || modifiers.contains "cidr"

lemma ofModifiers_cases (modifiers : Texts) :
    (quotes modifiers = true ∧ ∃ c ∈ [pattern, network], ∀ s, ofModifiers modifiers s = c) ∨
      (quotes modifiers = false ∧
        ((∃ c ∈ [contains, startsWith, endsWith], ∀ s, ofModifiers modifiers s = c) ∨
          ∀ s, ofModifiers modifiers s = if hasWildcard s then wildcard else equals)) := by
  cases hre : modifiers.contains "re" with
  | true => exact .inl ⟨by simp only [quotes, hre, Bool.true_or], pattern, by simp, fun s => by
      simp only [ofModifiers, hre, if_true]⟩
  | false =>
    cases hcidr : modifiers.contains "cidr" with
    | true => exact .inl ⟨by simp only [quotes, hcidr, Bool.or_true], network, by simp, fun s => by
        simp only [ofModifiers, hre, hcidr, Bool.false_eq_true, if_true, if_false]⟩
    | false =>
      refine .inr ⟨by simp only [quotes, hre, hcidr, Bool.or_self], ?_⟩
      simp only [ofModifiers, hre, hcidr, Bool.false_eq_true, if_false]
      by_cases hcontains : modifiers.contains "contains"
      · exact .inl ⟨contains, by simp, fun s => if_pos hcontains⟩
      by_cases hstarts : modifiers.contains "startswith"
      · exact .inl ⟨startsWith, by simp, fun s => by rw [if_neg hcontains, if_pos hstarts]⟩
      by_cases hends : modifiers.contains "endswith"
      · exact .inl ⟨endsWith, by simp, fun s => by
          rw [if_neg hcontains, if_neg hstarts, if_pos hends]⟩
      exact .inr fun s => by rw [if_neg hcontains, if_neg hstarts, if_neg hends]

lemma clause_eq (c : Comparison) (field s : String) :
    c.clause field s = c.opening field ++ c.encoded s ++ c.closing field := by
  cases c <;>
    simp [← String.toList_inj, clause, opening, encoded, closing, toString, String.toList_append]

lemma toList_clause (c : Comparison) (field s : String) : (c.clause field s).toList =
    (c.opening field).toList ++ ((c.encoded s).toList ++ (c.closing field).toList) := by
  simp [clause_eq]

end Search.Comparison

namespace Conversion

open Search

def Part.opening : Part → Chars
  | .fixed text => text.toList
  | .compared field modifiers s => ((Comparison.ofModifiers modifiers s).opening field).toList
  | .keyword _ => ['"']

def Part.encoded : Part → Chars
  | .fixed _ => []
  | .compared _ modifiers s => ((Comparison.ofModifiers modifiers s).encoded s).toList
  | .keyword s => (escapeValue s).toList

def Part.closing : Part → Chars
  | .fixed _ => []
  | .compared field modifiers s => ((Comparison.ofModifiers modifiers s).closing field).toList
  | .keyword _ => ['"']

lemma Part.toList_text (p : Part) : p.text.toList = p.opening ++ (p.encoded ++ p.closing) := by
  cases p with
  | fixed t => simp [Part.text, opening, encoded, closing]
  | compared field modifiers s => simp [Part.text, opening, encoded, closing, Comparison.clause_eq]
  | keyword s => simp [Part.text, opening, encoded, closing]

def Part.isFixed : Part → Bool
  | .fixed _ => true
  | _ => false

def Part.isQuoted : Part → Bool
  | .fixed _ => false
  | .compared _ modifiers _ => Comparison.quotes modifiers
  | .keyword _ => true

/-- Every text of the parts stays in a literal of its own, whatever it is: it is written as an
    escaped value, and what comes before it opens a literal. -/
def Contained : Zone → List Part → Prop
  | _, [] => True
  | z, p :: ps =>
    if p.isFixed then Contained (z.after p.text.toList) ps
    else p.isQuoted ∧ z.after p.opening = .inside ∧ Contained (Zone.inside.after p.closing) ps

/-! ## Texts that are contained -/

inductive Alike : Part → Part → Prop
  | fixed (text : String) : Alike (.fixed text) (.fixed text)
  | compared (field : String) (modifiers : Texts) (s t : String) :
      Alike (.compared field modifiers s) (.compared field modifiers t)
  | keyword (s t : String) : Alike (.keyword s) (.keyword t)

lemma Alike.refl (p : Part) : Alike p p := by
  cases p with
  | fixed t => exact .fixed t
  | compared field modifiers s => exact .compared field modifiers s s
  | keyword s => exact .keyword s s

variable {p : Part} {z : Zone}

lemma Alike.eq_of_isFixed {q : Part} (h : Alike p q) (hp : p.isFixed) : q = p := by
  cases h with
  | fixed text => rfl
  | compared | keyword => simp [Part.isFixed] at hp

lemma Alike.quoted {q : Part} (h : Alike p q) (hq : p.isQuoted) :
    q.opening = p.opening ∧ q.closing = p.closing ∧
      ((Zone.inside.after q.encoded = .inside) ∧ Zone.inside.bars q.encoded = 0) := by
  cases h with
  | fixed text => simp [Part.isQuoted] at hq
  | compared field modifiers s t =>
    have hq : Comparison.quotes modifiers = true := hq
    obtain ⟨-, c, hc, hall⟩ | ⟨hno, -⟩ := Comparison.ofModifiers_cases modifiers
    · have hencoded : c.encoded t = escapeValue t := by
        rcases List.mem_pair.1 hc with rfl | rfl <;> rfl
      simp [Part.opening, Part.closing, Part.encoded, hall, hencoded, after_escapeValue,
        bars_escapeValue]
    · simp [hq] at hno
  | keyword s t => exact ⟨rfl, rfl, after_escapeValue t, bars_escapeValue t⟩

lemma Alike.zone {q : Part} (h : Alike p q) (hq : p.isQuoted)
    (hz : z.after p.opening = .inside) : z.after q.text.toList = Zone.inside.after p.closing ∧
      z.bars q.text.toList = z.bars p.opening + Zone.inside.bars p.closing := by
  obtain ⟨hopen, hclose, hafter, hbars⟩ := h.quoted hq
  rw [Part.toList_text, hopen, hclose]
  simp [Zone.after_append, Zone.bars_append, hz, hafter, hbars]

lemma Contained.zone {ps qs : List Part} (hz : Contained z ps)
    (h : List.Forall₂ Alike ps qs) : z.after (chars qs) = z.after (chars ps) ∧
      z.bars (chars qs) = z.bars (chars ps) := by
  induction h generalizing z with
  | nil => exact ⟨rfl, rfl⟩
  | @cons p q ps qs hpq _ ih =>
    rw [Contained] at hz
    simp only [chars_cons, Zone.after_append, Zone.bars_append]
    split at hz
    · rename_i hfixed
      obtain ⟨hafter, hbars⟩ := ih hz
      rw [hpq.eq_of_isFixed hfixed, hafter, hbars]
      exact ⟨rfl, rfl⟩
    · obtain ⟨hq, hin, hz⟩ := hz
      obtain ⟨hafter, hbars⟩ := ih hz
      obtain ⟨hp, hpb⟩ := (Alike.refl p).zone hq hin
      obtain ⟨hp', hpb'⟩ := hpq.zone hq hin
      rw [hp', hpb', hp, hpb, hafter, hbars]
      exact ⟨rfl, rfl⟩

/-! ## Texts that are not -/

def Part.reword (g : Option Comparison → String) : Part → Part
  | .fixed text => .fixed text
  | .compared field modifiers s =>
    .compared field modifiers (g (some (Comparison.ofModifiers modifiers s)))
  | .keyword _ => .keyword (g none)

def calm : Option Comparison → String
  | some .wildcard | some .equals => "*"
  | _ => ";"

def rough : Option Comparison → String
  | some .wildcard | some .equals => "|\"|\"*"
  | some .contains | some .startsWith | some .endsWith => "|\"|\""
  | _ => "|"

lemma Part.reword_of_isFixed (h : p.isFixed) (g : Option Comparison → String) :
    p.reword g = p := by
  cases p with
  | fixed text => rfl
  | compared | keyword => simp [isFixed] at h

lemma Part.toList_compared {modifiers : Texts} {s : String} {c : Comparison}
    (h : Comparison.ofModifiers modifiers s = c) (field : String) :
    (Part.compared field modifiers s).text.toList =
      (c.opening field).toList ++ ((c.encoded s).toList ++ (c.closing field).toList) := by
  rw [Part.text, h, Comparison.toList_clause]

lemma oneMore_of_not_isQuoted (hf : p.isFixed = false) (hq : p.isQuoted = false) :
    OneMore (p.reword calm).text.toList (p.reword rough).text.toList := by
  cases p with
  | fixed text => simp [Part.isFixed] at hf
  | keyword s => simp [Part.isQuoted] at hq
  | compared field modifiers s =>
    have hq : Comparison.quotes modifiers = false := hq
    obtain ⟨hyes, -⟩ | ⟨-, ⟨c, hc, hall⟩ | hfree⟩ := Comparison.ofModifiers_cases modifiers
    · simp [hq] at hyes
    · have hmore : OneMore (c.encoded (calm (some c))).toList (c.encoded (rough (some c))).toList := by
        simp only [List.mem_cons, List.not_mem_nil, or_false] at hc
        obtain rfl | rfl | rfl := hc <;> (intro z; cases z <;> decide)
      rw [Part.reword, Part.reword, hall, Part.toList_compared (hall _), Part.toList_compared (hall _)]
      exact hmore.frame _ _
    · have hmore : OneMore (Comparison.wildcard.encoded "*").toList
          (Comparison.wildcard.encoded "|\"|\"*").toList := by
        intro z
        cases z <;> decide
      have hwild : ∀ t, hasWildcard t → Comparison.ofModifiers modifiers t = .wildcard := fun t ht =>
        (hfree t).trans (if_pos ht)
      have hcalm : calm (some (Comparison.ofModifiers modifiers s)) = "*" := by
        rw [hfree]
        split <;> rfl
      have hrough : rough (some (Comparison.ofModifiers modifiers s)) = "|\"|\"*" := by
        rw [hfree]
        split <;> rfl
      rw [Part.reword, Part.reword, hcalm, hrough, Part.toList_compared (hwild _ (by decide)),
        Part.toList_compared (hwild _ (by decide))]
      exact hmore.frame _ _

lemma reword_of_isQuoted (hq : p.isQuoted) :
    (p.reword calm).text.toList = p.opening ++ ([';'] ++ p.closing) ∧
      (p.reword rough).text.toList = p.opening ++ (['|'] ++ p.closing) ∧
      ∃ o, p.opening = o ++ ['"'] := by
  cases p with
  | fixed text => simp [Part.isQuoted] at hq
  | keyword s =>
    have hcalm : (escapeValue ";").toList = [';'] := by decide
    have hrough : (escapeValue "|").toList = ['|'] := by decide
    exact ⟨by simp [Part.reword, Part.text, calm, hcalm, Part.opening, Part.closing],
      by simp [Part.reword, Part.text, rough, hrough, Part.opening, Part.closing], [], rfl⟩
  | compared field modifiers s =>
    have hq : Comparison.quotes modifiers = true := hq
    obtain ⟨-, c, hc, hall⟩ | ⟨hno, -⟩ := Comparison.ofModifiers_cases modifiers
    · have hcalm : (c.encoded (calm (some c))).toList = [';'] := by
        rcases List.mem_pair.1 hc with rfl | rfl <;> decide
      have hrough : (c.encoded (rough (some c))).toList = ['|'] := by
        rcases List.mem_pair.1 hc with rfl | rfl <;> decide
      have hopen : ∃ o, (c.opening field).toList = o ++ ['"'] := by
        rcases List.mem_pair.1 hc with rfl | rfl
        · exact ⟨(s!"match({field}, ").toList, by simp [Comparison.opening, toString]⟩
        · exact ⟨"cidrmatch(".toList, by simp [Comparison.opening]⟩
      rw [Part.reword, Part.reword, hall, Part.toList_compared (hall _), Part.toList_compared (hall _),
        hcalm, hrough]
      simp only [Part.opening, Part.closing, hall]
      exact ⟨trivial, trivial, hopen⟩
    · simp [hq] at hno

lemma zone_after_quote (z : Zone) (o : Chars) :
    z.after (o ++ ['"']) = .inside ∨ z.after (o ++ ['"']) = .outside := by
  rw [Zone.after_append]
  cases z.after o
  · exact .inl rfl
  · exact .inr rfl
  · exact .inl rfl

lemma contained_of_bars_le (z : Zone) (ps : List Part) :
    z.after (chars (ps.map (Part.reword rough))) = z.after (chars (ps.map (Part.reword calm))) ∧
      z.bars (chars (ps.map (Part.reword calm))) ≤ z.bars (chars (ps.map (Part.reword rough))) ∧
      (z.bars (chars (ps.map (Part.reword rough))) ≤ z.bars (chars (ps.map (Part.reword calm))) →
        Contained z ps) := by
  induction ps generalizing z with
  | nil => exact ⟨rfl, Nat.le_refl _, fun _ => trivial⟩
  | cons p ps ih =>
    simp only [List.map_cons, chars_cons, Zone.after_append, Zone.bars_append, Contained]
    cases hf : p.isFixed with
    | true =>
      rw [Part.reword_of_isFixed hf, Part.reword_of_isFixed hf]
      obtain ⟨hafter, hle, hcontained⟩ := ih (z.after p.text.toList)
      exact ⟨hafter, by omega, fun h => by simpa using hcontained (by omega)⟩
    | false =>
      cases hq : p.isQuoted with
      | false =>
        obtain ⟨hp, hbars⟩ := oneMore_of_not_isQuoted hf hq z
        obtain ⟨hafter, hle, -⟩ := ih (z.after (p.reword calm).text.toList)
        rw [hp, hbars]
        exact ⟨hafter, by omega, fun h => absurd h (by omega)⟩
      | true =>
        obtain ⟨hcalm, hrough, o, ho⟩ := reword_of_isQuoted hq
        simp only [hcalm, hrough, Zone.after_append, Zone.bars_append]
        rcases zone_after_quote z o with hz | hz
        · -- The literal is open, and keeps the bar.
          rw [← ho] at hz
          obtain ⟨hafter, hle, hcontained⟩ := ih (Zone.inside.after p.closing)
          have hsame : ∀ c ∈ [';', '|'], Zone.inside.after [c] = .inside ∧ Zone.inside.bars [c] = 0 := by
            decide
          obtain ⟨hs, hsb⟩ := hsame ';' (by simp)
          obtain ⟨hb, hbb⟩ := hsame '|' (by simp)
          rw [hz, hs, hb, hsb, hbb]
          exact ⟨hafter, by omega, fun h => ⟨trivial, rfl, hcontained (by omega)⟩⟩
        · rw [← ho] at hz
          obtain ⟨hafter, hle, -⟩ := ih (Zone.outside.after p.closing)
          have hone : ∀ c ∈ [';', '|'], Zone.outside.after [c] = .outside ∧
              Zone.outside.bars [c] = if c = '|' then 1 else 0 := by decide
          obtain ⟨hs, hsb⟩ := hone ';' (by simp)
          obtain ⟨hb, hbb⟩ := hone '|' (by simp)
          rw [hz, hs, hb, hsb, hbb]
          exact ⟨hafter, by simp; omega, fun h => absurd h (by simp; omega)⟩

end Conversion

end Huntbook
