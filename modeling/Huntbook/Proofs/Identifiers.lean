import Huntbook.Form.Playbook
import Huntbook.Proofs.Converted
import Mathlib

/-!
# Identifiers of playbooks in the assistant's forms

Three forms ask for the identifier of a playbook. They are not written alike: one of them refuses
fewer lures than the others, and has no least length but a test for the empty text.

* `Form.playbook_id_fields_agree`: the three fields take the same texts as the same identifiers.
-/

namespace Huntbook

open List

namespace Text

lemma strip_append {p : Char → Bool} {body tail : Chars} (hne : body ≠ [])
    (hbody : ∀ c ∈ body, p c = false) (htail : ∀ c ∈ tail, p c = true) :
    strip p (body ++ tail) = body := by
  obtain ⟨c, cs, rfl⟩ := exists_cons_of_ne_nil hne
  obtain ⟨init, d, hlast⟩ := eq_nil_or_concat (c :: cs) |>.resolve_left hne
  have hc : ¬p c := by simp [hbody c (by simp)]
  have hd : ¬p d := by simp [hbody d (by simp [hlast])]
  rw [strip, cons_append, dropWhile_cons_of_neg hc, dropEndWhile, ← cons_append,
    reverse_append, dropWhile_append_of_pos (by simpa using htail), hlast,
    concat_eq_append, reverse_concat, dropWhile_cons_of_neg hd, reverse_cons,
    reverse_reverse]

/-! ## What patterns take up -/

namespace Pattern

variable {p q : Pattern} {P Q : Chars → Prop}

def Takes (p : Pattern) (P : Chars → Prop) : Prop :=
  ∀ pl pl' : Place, pl' ∈ p.ends true pl → ∃ w, P w ∧ pl.rest = w ++ pl'.rest

lemma takes_empty : Pattern.empty.Takes (· = []) := by
  intro pl pl' h
  obtain rfl := mem_singleton.1 h
  exact ⟨[], rfl, rfl⟩

lemma takes_char (s : CharSet) : (Pattern.char s).Takes fun w => ∃ c, s.has true c ∧ w = [c] := by
  rintro ⟨b, cs⟩ pl' h
  cases cs with
  | nil => cases h
  | cons c cs =>
    simp only [ends, mem_ite_nil_right, mem_singleton] at h
    obtain ⟨hc, rfl⟩ := h
    exact ⟨[c], ⟨c, hc, rfl⟩, rfl⟩

lemma Takes.seq (hp : p.Takes P) (hq : q.Takes Q) :
    (p.seq q).Takes fun w => ∃ u v, P u ∧ Q v ∧ w = u ++ v := by
  intro pl pl' h
  obtain ⟨m, hm, h⟩ := mem_flatMap.1 h
  obtain ⟨u, hu, hpl⟩ := hp pl m hm
  obtain ⟨v, hv, hrest⟩ := hq m pl' h
  exact ⟨u ++ v, ⟨u, v, hu, hv, rfl⟩, by rw [hpl, hrest, append_assoc]⟩

lemma takes_text (s : String) : (Pattern.text s).Takes fun w => w.length = s.toList.length := by
  unfold Pattern.text
  induction s.toList with
  | nil =>
    intro pl pl' h
    obtain ⟨w, rfl, hw⟩ := takes_empty pl pl' h
    exact ⟨[], rfl, hw⟩
  | cons d ds ih =>
    intro pl pl' h
    obtain ⟨_, ⟨_, v, ⟨c, -, rfl⟩, hv, rfl⟩, hpl⟩ := ((takes_char (.one d)).seq ih) pl pl' h
    exact ⟨c :: v, congrArg (· + 1) hv, hpl⟩

lemma takes_repeated (s : CharSet) (least : Nat) (most : Option Nat) :
    (Pattern.repeated (.char s) least most).Takes fun w =>
      (∀ c ∈ w, s.has true c) ∧ least ≤ w.length := by
  have hexactly : ∀ (n : Nat) (pl pl' : Place), pl' ∈ exactly ((Pattern.char s).ends true) n pl →
      ∃ w, (∀ c ∈ w, s.has true c) ∧ w.length = n ∧ pl.rest = w ++ pl'.rest := by
    intro n
    induction n with
    | zero =>
      intro pl pl' h
      obtain rfl := mem_singleton.1 h
      exact ⟨[], by simp, rfl, rfl⟩
    | succ n ih =>
      intro pl pl' h
      obtain ⟨m, hm, h⟩ := mem_flatMap.1 h
      obtain ⟨_, ⟨c, hc, rfl⟩, hpl⟩ := takes_char s pl m hm
      obtain ⟨w, hw, rfl, hrest⟩ := ih m pl' h
      exact ⟨c :: w, forall_mem_cons.2 ⟨hc, hw⟩, rfl, by rw [hpl, hrest]; rfl⟩
  have hatMost : ∀ (n : Nat) (pl pl' : Place), pl' ∈ atMost ((Pattern.char s).ends true) n pl →
      ∃ w, (∀ c ∈ w, s.has true c) ∧ pl.rest = w ++ pl'.rest := by
    intro n
    induction n with
    | zero =>
      intro pl pl' h
      obtain rfl := mem_singleton.1 h
      exact ⟨[], by simp, rfl⟩
    | succ n ih =>
      intro pl pl' h
      rcases mem_cons.1 h with rfl | h
      · exact ⟨[], by simp, rfl⟩
      · obtain ⟨m, hm, h⟩ := mem_flatMap.1 h
        obtain ⟨_, ⟨c, hc, rfl⟩, hpl⟩ := takes_char s pl m (mem_of_mem_filter hm)
        obtain ⟨w, hw, hrest⟩ := ih m pl' h
        exact ⟨c :: w, forall_mem_cons.2 ⟨hc, hw⟩, by rw [hpl, hrest]; rfl⟩
  intro pl pl' h
  obtain ⟨m, hm, h⟩ := mem_flatMap.1 h
  obtain ⟨u, hu, rfl, hpl⟩ := hexactly least pl m hm
  obtain ⟨v, hv, hrest⟩ := hatMost _ m pl' h
  exact ⟨u ++ v, ⟨forall_mem_append.2 ⟨hu, hv⟩, by simp⟩, by rw [hpl, hrest, append_assoc]⟩

lemma Takes.exists_of_searchFold (hp : p.Takes P) {s : String} (h : p.searchFold s = true) :
    ∃ a w b, P w ∧ s.toList = a ++ (w ++ b) := by
  have hstart {b : Bool} {cs : Chars} (h : (!(p.ends true ⟨b, cs⟩).isEmpty) = true) :
      ∃ w b, P w ∧ cs = w ++ b := by
    rw [Bool.not_eq_true', isEmpty_eq_false_iff_exists_mem] at h
    obtain ⟨pl, hpl⟩ := h
    obtain ⟨w, hw, hcs⟩ := hp _ pl hpl
    exact ⟨w, pl.rest, hw, hcs⟩
  have hfrom : ∀ (cs : Chars) (b : Bool), searchFrom true p b cs = true →
      ∃ a w b, P w ∧ cs = a ++ (w ++ b) := by
    intro cs
    induction cs with
    | nil =>
      intro b h
      obtain ⟨w, b, hw, hcs⟩ := hstart h
      exact ⟨[], w, b, hw, hcs⟩
    | cons c cs ih =>
      intro b h
      rcases (Bool.or_eq_true _ _).mp h with h | h
      · obtain ⟨w, b, hw, hcs⟩ := hstart h
        exact ⟨[], w, b, hw, hcs⟩
      · obtain ⟨a, w, b, hw, rfl⟩ := ih false h
        exact ⟨c :: a, w, b, hw, rfl⟩
  exact hfrom s.toList true h

end Pattern

end Text

namespace Form

open Text

/-! ## Texts that pass for identifiers -/

variable {s v : String} {x : Value}

lemma exists_of_isIdentifier (h : isIdentifier s = true) :
    ∃ body, body ≠ [] ∧ (∀ c ∈ body, isIdentifierChar c = true) ∧
      (s.toList = body ∨ s.toList = body ++ ['\n']) := by
  have hreverse := s.toList.reverse_reverse
  simp only [isIdentifier, Bool.and_eq_true, Bool.not_eq_true', isEmpty_eq_false_iff,
    all_eq_true] at h
  generalize s.toList.reverse = r at h hreverse
  split at h
  · rename_i rest
    exact ⟨rest.reverse, by simpa using h.1, by simpa using h.2, .inr (by simp [← hreverse])⟩
  · exact ⟨r.reverse, by simpa using h.1, by simpa using h.2, .inl hreverse.symm⟩

lemma isBlank_of_isIdentifierChar {c : Char} (h : isIdentifierChar c = true) :
    isBlank c = false := by
  simp only [isIdentifierChar, Char.isAlphanum, Char.isAlpha, Char.isUpper, Char.isLower,
    Char.isDigit, Bool.or_eq_true, Bool.and_eq_true, decide_eq_true_eq, beq_iff_eq,
    UInt32.le_iff_toNat_le, ge_iff_le] at h
  have hcode : c.toNat = c.val.toNat := rfl
  have hupper : 'A'.val.toNat = 65 ∧ 'Z'.val.toNat = 90 := ⟨rfl, rfl⟩
  have hlower : 'a'.val.toNat = 97 ∧ 'z'.val.toNat = 122 := ⟨rfl, rfl⟩
  have hdigit : '0'.val.toNat = 48 ∧ '9'.val.toNat = 57 := ⟨rfl, rfl⟩
  rcases h with ((h | rfl) | rfl) | rfl
  · simp only [isBlank, Bool.or_eq_false_iff, Bool.and_eq_false_iff, decide_eq_false_iff_not,
      beq_eq_false_iff_ne]
    omega
  all_goals decide

lemma not_found_selectLure (h : isIdentifier s = true) : selectLure.searchFold s = false := by
  rw [Bool.eq_false_iff]
  intro hfound
  have htakes := (Pattern.takes_text "select").seq ((Pattern.takes_repeated .blank 1 none).seq
    ((Pattern.takes_repeated .any 0 none).seq ((Pattern.takes_text "from").seq Pattern.takes_empty)))
  obtain ⟨a, _, b, ⟨u, _, -, ⟨blanks, _, ⟨hblanks, hlength⟩, ⟨skipped, _, -,
    ⟨last, _, hlast, rfl, rfl⟩, rfl⟩, rfl⟩, rfl⟩, hs⟩ := htakes.exists_of_searchFold hfound
  obtain ⟨blank, more, rfl⟩ := exists_cons_of_ne_nil (length_pos_iff.1 hlength)
  -- Something comes after the blank, so it is not the line feed at the end.
  have hmem : blank ∈ s.toList.dropLast := by
    have hsplit : s.toList = a ++ u ++ blank :: (more ++ (skipped ++ (last ++ b))) := by
      simpa using hs
    have hne : more ++ (skipped ++ (last ++ b)) ≠ [] := by
      rintro hnil
      simp only [append_eq_nil_iff] at hnil
      cases hnil.2.2.1 ▸ hlast
    rw [hsplit, dropLast_append_of_ne_nil (by simp), dropLast_cons_of_ne_nil hne]
    simp
  obtain ⟨body, -, hbody, heq | heq⟩ := exists_of_isIdentifier h
  · have := isBlank_of_isIdentifierChar (hbody blank (heq ▸ dropLast_subset _ hmem))
    simp [CharSet.has, this] at hblanks
  · rw [heq, dropLast_concat] at hmem
    have := isBlank_of_isIdentifierChar (hbody blank hmem)
    simp [CharSet.has, this] at hblanks

lemma trim_of_isIdentifier (h : isIdentifier s = true) :
    trim s ≠ "" ∧ (∀ c ∈ (trim s).toList, isIdentifierChar c = true) ∧
      (s = trim s ∨ s = trim s ++ "\n") := by
  obtain ⟨body, hne, hbody, hs⟩ := exists_of_isIdentifier h
  have hplain (c : Char) (hc : c ∈ body) : isBlank c = false :=
    isBlank_of_isIdentifierChar (hbody c hc)
  have htrim : trim s = String.ofList body := by
    rw [trim]
    rcases hs with hs | hs
    · have hstrip := strip_append hne hplain (forall_mem_nil (isBlank · = true))
      rw [append_nil] at hstrip
      rw [hs, hstrip]
    · rw [hs, strip_append hne hplain (by simp [isBlank])]
  rw [htrim]
  refine ⟨by simpa using hne, by simpa using hbody, ?_⟩
  exact hs.imp (fun hs => by rw [← hs, String.ofList_toList]) fun hs =>
    String.toList_injective (by simpa using hs)

/-! ## What the forms take -/

lemma identifierTest_eq_ok_iff {name problem id : String} {lures : List Pattern} :
    identifierTest name lures problem v = .ok id ↔
      lures.any (·.searchFold v) = false ∧ isIdentifier v = true ∧ trim v = id := by
  unfold identifierTest refuseLures onlyIdentifier
  cases lures.any (·.searchFold v) <;> cases isIdentifier v <;>
    simp [bind, Except.bind, pure, Except.pure]

def Names (v id : String) : Prop :=
  (scriptLures ++ statementLures).any (·.searchFold v) = false ∧ isIdentifier v = true ∧ trim v = id

lemma identifierTest_playbookLures_iff {name problem id : String} :
    identifierTest name playbookLures problem v = .ok id ↔ Names v id := by
  rw [identifierTest_eq_ok_iff, playbookLures, any_append, any_cons, any_nil, Bool.or_false]
  constructor
  · rintro ⟨hlures, hv, hid⟩
    exact ⟨(Bool.or_eq_false_iff.1 hlures).1, hv, hid⟩
  · rintro ⟨hlures, hv, hid⟩
    exact ⟨Bool.or_eq_false_iff.2 ⟨hlures, not_found_selectLure hv⟩, hv, hid⟩

lemma contextTest_eq_ok_iff {id : String} : contextTest v = .ok id ↔ Names v id := by
  unfold contextTest
  split
  · rename_i hempty
    obtain rfl : v = "" := by simpa using hempty
    exact ⟨fun h => by simp at h, fun h => absurd h.2.1 (by decide)⟩
  · exact identifierTest_eq_ok_iff

/-- What a form takes a text for in one of its fields, if it takes it. -/
def taken? (f : Form) (name v : String) : Option Value := do
  let field ← f.fields.find? (·.1 == name)
  (field.2.1.check (.text v)).toOption

lemma checkLength_eq_ok_iff {least most : Option Nat} : checkLength least most v = .ok s ↔
      (∀ n ∈ least, n ≤ v.length) ∧ (∀ n ∈ most, v.length ≤ n) ∧ v = s := by
  have hleast : least.filter (v.length < ·) = none ↔ ∀ n ∈ least, n ≤ v.length := by
    simp [Option.filter_eq_none_iff]
  have hmost : most.filter (v.length > ·) = none ↔ ∀ n ∈ most, v.length ≤ n := by
    simp [Option.filter_eq_none_iff]
  rw [checkLength, ← hleast, ← hmost]
  split <;> grind

lemma Kind.check_tested_eq_ok_iff {least most : Option Nat}
    {test : String → Except String String} :
    (Kind.tested (.text least most) test).check (.text v) = .ok x ↔
      (∀ n ∈ least, n ≤ v.length) ∧ (∀ n ∈ most, v.length ≤ n) ∧
        ∃ id, test v = .ok id ∧ x = .text id := by
  have hopen : (Kind.tested (.text least most) test).check (.text v) = .ok x ↔
      ∃ s, checkLength least most v = .ok s ∧ ∃ id, test s = .ok id ∧ x = .text id := by
    simp only [Kind.check, textOf, bind, Except.bind]
    cases checkLength least most v with
    | error p => simp [Except.mapError, Except.map]
    | ok s =>
      simp only [Except.mapError, Except.map, Except.ok.injEq]
      cases htest : test s <;>
        simp [pure, Except.pure, throw, throwThe, MonadExceptOf.throw, htest, eq_comm]
  simp only [hopen, checkLength_eq_ok_iff]
  grind

lemma taken_iff {f : Form} (hf : f ∈ [explain, suggest, generate]) :
    f.taken? "playbook_id" v = some x ↔ v.length ≤ 255 ∧ ∃ id, Names v id ∧ x = .text id := by
  have hlength {id : String} (h : Names v id) : 1 ≤ v.length := by
    refine Nat.pos_of_ne_zero fun hempty => ?_
    obtain rfl : v = "" := by simpa using hempty
    exact absurd h.2.1 (by decide)
  have hasked (name problem : String) :
      (Kind.tested (.text (some 1) (some 255)) (identifierTest name playbookLures problem)).check
        (.text v) = .ok x ↔ v.length ≤ 255 ∧ ∃ id, Names v id ∧ x = .text id := by
    rw [Kind.check_tested_eq_ok_iff]
    simp only [identifierTest_playbookLures_iff, Option.mem_some_iff, forall_eq']
    grind
  simp only [mem_cons, not_mem_nil, or_false] at hf
  rcases hf with rfl | rfl | rfl
  · exact toOption_eq_some_iff.trans (hasked _ _)
  · refine toOption_eq_some_iff.trans ((Kind.check_tested_eq_ok_iff).trans ?_)
    simp [contextTest_eq_ok_iff]
  · exact toOption_eq_some_iff.trans (hasked _ _)

/-- The fields for the identifier of a playbook take the same texts, and give the same
    identifiers. -/
theorem playbook_id_fields_agree (v : String) :
    ∃ verdict : Option String,
      (∀ f ∈ [explain, suggest, generate], f.taken? "playbook_id" v = verdict.map .text) ∧
      ∀ id ∈ verdict, id ≠ "" ∧ id.length ≤ 255 ∧ (v = id ∨ v = id ++ "\n") ∧
        ∀ c ∈ id.toList, c.isAlphanum ∨ c = '_' ∨ c = '-' ∨ c = '.' := by
  have hiff (id : String) : (contextTest v).toOption.filter (fun _ => v.length ≤ 255) = some id ↔
      v.length ≤ 255 ∧ Names v id := by
    simp [Option.filter_eq_some_iff, toOption_eq_some_iff, contextTest_eq_ok_iff, and_comm]
  refine ⟨(contextTest v).toOption.filter fun _ => v.length ≤ 255, ?_, ?_⟩
  · intro f hf
    ext x
    rw [taken_iff hf, Option.map_eq_some_iff]
    simp only [hiff]
    grind
  · intro id hid
    obtain ⟨hlength, -, hv, rfl⟩ := (hiff id).1 hid
    obtain ⟨hne, hchars, hwritten⟩ := trim_of_isIdentifier hv
    refine ⟨hne, ?_, hwritten, fun c hc => ?_⟩
    · rcases hwritten with heq | heq
      · exact heq ▸ hlength
      · rw [heq, String.length_append] at hlength
        omega
    · simpa [isIdentifierChar, or_assoc] using hchars c hc

end Form

end Huntbook
