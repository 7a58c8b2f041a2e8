import Huntbook.Conversion.Backward
import Huntbook.Proofs.Convertible

/-!
# Rules drafted from searches

A search that is read backward is not parsed: phrases are looked for wherever they may stand. What
is found was read at some place, and it has a text that is not empty.

* `reverse_accepted_iff`: the searches whose draft is accepted.
-/

namespace Huntbook

open List

namespace Value

mutual

def agree : Value → Value → Bool
  | .null, .null => true
  | .bool a, .bool b => a == b
  | .int a, .int b => a == b
  | .text a, .text b => a == b
  | .list as, .list bs => agreeAll as bs
  | .map as, .map bs => agreeEntries as bs
  | _, _ => false

def agreeAll : List Value → List Value → Bool
  | [], [] => true
  | a :: as, b :: bs => agree a b && agreeAll as bs
  | _, _ => false

def agreeEntries : Entries → Entries → Bool
  | [], [] => true
  | (k, v) :: as, (l, w) :: bs => agree k l && agree v w && agreeEntries as bs
  | _, _ => false

end

mutual

lemma eq_of_agree {a b : Value} (h : agree a b) : a = b := by
  cases a with
  | list as =>
    cases b with
    | list bs =>
      rw [agree] at h
      rw [eq_of_agreeAll h]
    | _ => simp [agree] at h
  | map as =>
    cases b with
    | map bs =>
      rw [agree] at h
      rw [eq_of_agreeEntries h]
    | _ => simp [agree] at h
  | _ => cases b <;> simp_all [agree]

lemma eq_of_agreeAll {as bs : List Value} (h : agreeAll as bs) : as = bs := by
  cases as with
  | nil => cases bs <;> simp_all [agreeAll]
  | cons a as =>
    cases bs with
    | nil => simp [agreeAll] at h
    | cons b bs =>
      rw [agreeAll, Bool.and_eq_true] at h
      rw [eq_of_agree h.1, eq_of_agreeAll h.2]

lemma eq_of_agreeEntries {as bs : Entries} (h : agreeEntries as bs) : as = bs := by
  cases as with
  | nil => cases bs <;> simp_all [agreeEntries]
  | cons a as =>
    cases bs with
    | nil => simp [agreeEntries] at h
    | cons b bs =>
      rw [agreeEntries, Bool.and_eq_true, Bool.and_eq_true] at h
      rw [Prod.ext (eq_of_agree h.1.1) (eq_of_agree h.1.2), eq_of_agreeEntries h.2]

end

lemma ok_of_agree {ε : Type} {x : Except ε (List Value)} {v : Value}
    (h : x.toOption.any (agreeAll [v]) = true) : x = .ok [v] := by
  obtain ⟨vs, hx, hvs⟩ := exists_ok_of_any h
  rw [hx, eq_of_agreeAll hvs]

end Value

namespace Text

variable {α : Type} {phrase : Phrase α}

lemma firstFrom?_eq (before : Option Char) (cs : Chars)
    (hnil : ∀ before, phrase before [] = none) :
    firstFrom? phrase before cs = (allFrom phrase 0 before cs).head? := by
  induction cs generalizing before with
  | nil => simp [firstFrom?, allFrom, hnil]
  | cons c cs ih =>
    rw [firstFrom?, allFrom]
    cases phrase before (c :: cs) with
    | none => exact ih (some c)
    | some r => rfl

lemma firstFrom?_of_phrase {before : Option Char} {c : Char} {cs rest : Chars} {a : α}
    (h : phrase before (c :: cs) = some (a, rest)) : firstFrom? phrase before (c :: cs) = some a := by
  rw [firstFrom?, h]

lemma exists_of_mem_allFrom {skip : Nat} {before : Option Char} {cs : Chars} {a : α}
    (h : a ∈ allFrom phrase skip before cs) :
    ∃ before' u rest, u <:+ cs ∧ phrase before' u = some (a, rest) := by
  induction cs generalizing skip before with
  | nil => simp [allFrom] at h
  | cons c cs ih =>
    have hlater {skip : Nat} (h : a ∈ allFrom phrase skip (some c) cs) :
        ∃ before' u rest, u <:+ c :: cs ∧ phrase before' u = some (a, rest) := by
      obtain ⟨before', u, rest, hu, hfound⟩ := ih h
      exact ⟨before', u, rest, hu.trans (suffix_cons c cs), hfound⟩
    cases skip with
    | succ skip => exact hlater h
    | zero =>
      rw [allFrom] at h
      split at h
      · rename_i a' rest hfound
        rcases mem_cons.1 h with rfl | h
        · exact ⟨before, c :: cs, rest, suffix_rfl, hfound⟩
        · exact hlater h
      · exact hlater h

lemma run?_eq_some {p : Char → Bool} {cs found rest : Chars}
    (h : run? p cs = some (found, rest)) :
    found ≠ [] ∧ found = cs.takeWhile p ∧ rest = cs.dropWhile p := by
  unfold run? at h
  dsimp only at h
  split at h
  · simp at h
  · rename_i hne
    obtain ⟨rfl, rfl⟩ := Prod.mk.inj (Option.some.inj h)
    refine ⟨by simpa using hne, rfl, ?_⟩
    calc cs.drop (cs.takeWhile p).length
        = (cs.takeWhile p ++ cs.dropWhile p).drop (cs.takeWhile p).length := by
          rw [takeWhile_append_dropWhile]
      _ = cs.dropWhile p := drop_left

end Text

namespace Conversion

open Text

/-! ## Comparisons have texts -/

lemma quoted?_ne_nil {cs found rest : Chars} (h : quoted? cs = some (found, rest)) :
    found ≠ [] := by
  simp only [quoted?, Option.bind_eq_bind, Option.bind_eq_some_iff, Option.pure_def,
    Option.some.injEq, Prod.mk.injEq] at h
  obtain ⟨rest₁, -, ⟨found', rest₂⟩, hrun, rest₃, -, rfl, -⟩ := h
  exact (run?_eq_some hrun).1

lemma ofList_ne_empty {cs : Chars} (h : cs ≠ []) : String.ofList cs ≠ "" := by
  rw [Ne, ← String.toList_inj, String.toList_ofList]
  exact h

variable {before : Option Char} {cs rest : Chars} {c : Comparison}

lemma text_ne_empty_of_equalPhrase (h : equalPhrase before cs = some (c, rest)) :
    c.text ≠ "" := by
  simp only [equalPhrase, Option.bind_eq_bind, Option.bind_eq_some_iff, Option.pure_def,
    Option.some.injEq, Prod.mk.injEq] at h
  obtain ⟨_, -, _, -, _, hquoted, rfl, -⟩ := h
  exact ofList_ne_empty (quoted?_ne_nil hquoted)

lemma text_ne_empty_of_unequalPhrase (h : unequalPhrase before cs = some (c, rest)) :
    c.text ≠ "" := by
  simp only [unequalPhrase, Option.bind_eq_bind, Option.bind_eq_some_iff, Option.pure_def,
    Option.some.injEq, Prod.mk.injEq] at h
  obtain ⟨_, -, _, -, _, -, _, hquoted, rfl, -⟩ := h
  exact ofList_ne_empty (quoted?_ne_nil hquoted)

lemma digits_of_codePhrase {digits : Chars} (h : codePhrase before cs = some (digits, rest)) :
    digits ≠ [] ∧ ∀ d ∈ digits, isDecimal d := by
  simp only [codePhrase, Option.bind_eq_bind, Option.bind_eq_some_iff] at h
  obtain ⟨_, -, _, -, hrun⟩ := h
  obtain ⟨hne, rfl, -⟩ := run?_eq_some hrun
  exact ⟨hne, fun d hd => mem_takeWhile_imp hd⟩

variable {search : String} {entries : Entries}

lemma eventCode_succeeds_iff : Succeeds (eventCode search) ↔
      ∀ digits, first? codePhrase search = some digits → digits.length ≤ Decimal.mostDigits := by
  rw [eventCode]
  cases hfirst : first? codePhrase search with
  | none => exact iff_of_true ⟨none, rfl⟩ (by simp)
  | some digits =>
    rw [first?, firstFrom?_eq _ _ fun _ => rfl] at hfirst
    obtain ⟨before, u, rest, -, hphrase⟩ := exists_of_mem_allFrom (mem_of_mem_head? hfirst)
    obtain ⟨hne, hdecimal⟩ := digits_of_codePhrase hphrase
    have hread := Decimal.readBase_succeeds_iff hne fun d hd => by simp [isDigit, hdecimal d hd]
    rw [and_iff_right hdecimal] at hread
    simp only [Option.some.injEq, forall_eq', ← hread]
    exact Succeeds.map_iff.trans (Succeeds.map_iff.trans Succeeds.mapError_iff)

/-! ## What a draft compares -/

def HasText (e : Value × Value) : Prop := ∃ s, e.2 = .text s ∧ s ≠ ""

def HasTextOrCode (e : Value × Value) : Prop :=
  HasText e ∨ e.1 = .text "EventID" ∧ ∃ n : Nat, e.2 = .int n

lemma mem_put {key value : Value} {e : Value × Value}
    (h : e ∈ Value.put key value entries) : e ∈ entries ∨ e.2 = value := by
  induction entries with
  | nil =>
    rw [Value.put, mem_singleton] at h
    exact .inr (h ▸ rfl)
  | cons f entries ih =>
    rw [Value.put] at h
    split at h
    · rcases mem_cons.1 h with rfl | h
      · exact .inr rfl
      · exact .inl (mem_cons_of_mem f h)
    · rcases mem_cons.1 h with rfl | h
      · exact .inl mem_cons_self
      · exact (ih h).imp_left (mem_cons_of_mem f)

lemma forall_mem_foldl_put {α : Type} {P : Value × Value → Prop} (hP : ∀ e, HasText e → P e)
    {step : Entries → α → Entries} {items : List α}
    (hstep : ∀ entries, ∀ a ∈ items, step entries a = entries ∨
      ∃ key text, text ≠ "" ∧ step entries a = putText entries key text) (h : ∀ e ∈ entries, P e) :
    ∀ e ∈ items.foldl step entries, P e := by
  induction items generalizing entries with
  | nil => exact h
  | cons a items ih =>
    refine ih (fun entries b hb => hstep entries b (mem_cons_of_mem a hb)) ?_
    rcases hstep entries a mem_cons_self with hsame | ⟨key, text, hne, hput⟩
    · rwa [hsame]
    · rw [hput]
      intro e he
      rcases mem_put he with he | he
      · exact h e he
      · exact hP e ⟨text, he, hne⟩

lemma hasTextOrCode_selectionOf {code : Option Nat} :
    ∀ e ∈ selectionOf search code, HasTextOrCode e := by
  refine forall_mem_foldl_put (fun e => .inl) (fun entries c hc => ?_)
    (forall_mem_foldl_put (fun e => .inl) (fun entries c _ => ?_) ?_)
  · obtain ⟨before, u, rest, -, hphrase⟩ := exists_of_mem_allFrom hc
    split
    · exact .inl rfl
    · exact .inr ⟨_, _, text_ne_empty_of_equalPhrase hphrase, rfl⟩
  · dsimp only
    split
    · exact .inl rfl
    · rename_i hne
      exact .inr ⟨_, _, by simpa using hne, rfl⟩
  · -- At the start there is nothing but the event code.
    cases code with
    | none => simp
    | some n =>
      intro e he
      obtain rfl : e = (.text "EventID", .int n) := by simpa [Value.putField, Value.put] using he
      exact .inr ⟨rfl, n, rfl⟩

lemma hasText_filterOf : ∀ e ∈ filterOf search, HasText e := by
  refine forall_mem_foldl_put (fun e => id) (fun entries c hc => .inr ?_) (by simp)
  obtain ⟨before, u, rest, -, hphrase⟩ := exists_of_mem_allFrom hc
  exact ⟨_, _, text_ne_empty_of_unequalPhrase hphrase, rfl⟩

/-! ## The shape of a draft -/

/-- A rule as it is drafted from a search: a selection, and perhaps a filter that is taken away
    from it, in which every field is compared with a text; only the event code is a number. -/
def Drafted (rule : Value) : Prop :=
  ∃ detection selection, rule.field? "detection" = some (.map detection) ∧
    Value.find? detection (.text "selection") = some (.map selection) ∧
    (∀ e ∈ selection, HasTextOrCode e) ∧
    (Value.find? detection (.text "condition") = some (.text "selection") ∧
        Value.find? detection (.text "filter") = none ∨
      Value.find? detection (.text "condition") = some (.text "selection and not filter") ∧
        ∃ filter, Value.find? detection (.text "filter") = some (.map filter) ∧ filter ≠ [] ∧
          ∀ e ∈ filter, HasText e)

/-- What a rule says about itself, in texts; an author and a description may be missing. -/
def headingOf (title level status : String) (author description : Option String) : Heading where
  title := .text title
  level := .text level
  status := .text status
  author := .ofText? author
  description := .ofText? description

section

variable {search title level status : String} {author description : Option String}
  {code : Option Nat}

lemma isNull_orText (v : Option String) (text : String) :
    (orText (.ofText? v) text).isNull = false := by
  cases v with
  | none => rfl
  | some s =>
    unfold orText
    split <;> rfl

lemma draftRule_headingOf :
    draftRule search code (headingOf title level status author description) = .record
      [("title", .text title), ("status", .text status),
       ("description", orText (.ofText? description) "Auto-generated from SPL query"),
       ("author", orText (.ofText? author) "Sigma Translator"),
       ("logsource", .map (sourceOf search code)), ("detection", detectionOf search code),
       ("level", .text level)] := by
  have hdetection : (detectionOf search code).isNull = false := by
    unfold detectionOf
    dsimp only
    split <;> rfl
  have htext (s : String) : (Value.text s).isNull = false := rfl
  have hmap (entries : Entries) : (Value.map entries).isNull = false := rfl
  rw [draftRule, filter_eq_self.2]
  · rfl
  · simp [headingOf, isNull_orText, hdetection, htext, hmap]

lemma field?_draftRule :
    (draftRule search code (headingOf title level status author description)).field? "detection" =
      some (detectionOf search code) := by
  rw [draftRule_headingOf]
  simp [Value.record, Value.field?, Value.entry?, Value.entries?, Value.find?, Value.same]

lemma drafted_draftRule :
    Drafted (draftRule search code (headingOf title level status author description)) := by
  rw [Drafted, field?_draftRule, detectionOf]
  split
  · refine ⟨_, selectionOf search code, rfl, ?_, hasTextOrCode_selectionOf, .inl ⟨?_, ?_⟩⟩
    all_goals simp [Value.find?, Value.same]
  · rename_i hfilter
    refine ⟨_, selectionOf search code, rfl, ?_, hasTextOrCode_selectionOf,
      .inr ⟨?_, filterOf search, ?_, by simpa using hfilter, hasText_filterOf⟩⟩
    all_goals simp [Value.find?, Value.same]

lemma acceptValue_draftRule :
    Rule.acceptValue (draftRule search code (headingOf title level status author description)) =
      .ok (draftRule search code (headingOf title level status author description)) := by
  have hcondition : Rule.hasCondition (detectionOf search code) = .ok true := by
    unfold detectionOf
    dsimp only
    split <;> simp [Rule.hasCondition, Value.record, Value.same]
  rw [draftRule_headingOf]
  simp [Rule.acceptValue, Value.record, Rule.requiredFields, Value.find?, Value.same, hcondition]

/-- If its document is read as it was written, a search gives a rule that is accepted and has the
    shape of a draft, exactly if the event code that it asks for has few enough digits. -/
theorem reverse_accepted_iff
    (hread : ∀ code, eventCode search = .ok code →
      Yaml.readValues (Yaml.write .ascii
        (draftRule search code (headingOf title level status author description))) =
          .ok [draftRule search code (headingOf title level status author description)]) :
    (∃ draft rule, reverse search (headingOf title level status author description) = .ok draft ∧
        Rule.accept draft.document = .ok rule ∧ Drafted rule) ↔
      ∀ digits, first? codePhrase search = some digits → digits.length ≤ Decimal.mostDigits := by
  rw [← eventCode_succeeds_iff]
  constructor
  · rintro ⟨draft, rule, hdraft, -, -⟩
    obtain ⟨code, hcode, -⟩ := bind_eq_ok.1 hdraft
    exact ⟨code, hcode⟩
  · rintro ⟨code, hcode⟩
    refine ⟨_, draftRule search code (headingOf title level status author description),
      bind_eq_ok.2 ⟨code, hcode, rfl⟩, ?_, drafted_draftRule⟩
    rw [Rule.accept, hread code hcode]
    exact acceptValue_draftRule

end

/-- A search for an event code with a field that is ruled out. -/
def filteredSearch : String := "EventCode=2 c!=\"d\""

theorem reverse_accepted_filteredSearch :
    (∃ draft rule, reverse filteredSearch (headingOf "t" "l" "s" (some "a") (some "d")) =
        .ok draft ∧ Rule.accept draft.document = .ok rule ∧ Drafted rule) ∧
      first? codePhrase filteredSearch = some "2".toList := by
  have hcode : first? codePhrase filteredSearch = some "2".toList := by decide +kernel
  refine ⟨(reverse_accepted_iff fun code h => ?_).2 fun digits h => ?_, hcode⟩
  · obtain ⟨code', hcode', hp⟩ := exists_ok_of_any (p := (· == some 2))
      (show (eventCode filteredSearch).toOption.any _ = true by decide +kernel)
    obtain rfl : code = some 2 := by
      rw [hcode', Except.ok.injEq] at h
      rw [← h, eq_of_beq hp]
    exact Value.ok_of_agree (by decide +kernel)
  · obtain rfl := Option.some.inj (hcode.symm.trans h)
    decide

/-- The search for an event code of `n + 1` digits. -/
def codeSearch (n : Nat) : String := "EventCode=" ++ String.ofList (List.replicate (n + 1) '1')

lemma first?_codeSearch (n : Nat) :
    first? codePhrase (codeSearch n) = some (List.replicate (n + 1) '1') := by
  have hskip : skipBlanks (replicate (n + 1) '1') = replicate (n + 1) '1' := by
    simp [skipBlanks, replicate_succ, show isBlank '1' = false by decide]
  have hrun : run? isDecimal (replicate (n + 1) '1') =
      some (replicate (n + 1) '1', []) := by
    rw [run?, takeWhile_eq_self_iff.2 fun c hc => by
      rw [eq_of_mem_replicate hc]; decide]
    simp
  have hdrop : dropFold? "eventcode".toList ('E' :: "ventCode=".toList ++ replicate (n + 1) '1')
      = some ('=' :: replicate (n + 1) '1') := rfl
  have hequals : equals? ('=' :: replicate (n + 1) '1') =
      some (replicate (n + 1) '1') := by
    rw [equals?, show skipBlanks ('=' :: replicate (n + 1) '1') = _ from rfl]
    exact congrArg some hskip
  have hphrase : codePhrase none ('E' :: "ventCode=".toList ++ replicate (n + 1) '1') =
      some (replicate (n + 1) '1', []) := by
    rw [codePhrase, hdrop, Option.bind_eq_bind, Option.bind_some, hequals]
    exact hrun
  have hlist : (codeSearch n).toList = 'E' :: "ventCode=".toList ++ replicate (n + 1) '1' := by
    rw [codeSearch, String.toList_append]
    exact congrArg ("EventCode=".toList ++ ·) String.toList_ofList
  rw [first?, hlist]
  exact firstFrom?_of_phrase hphrase

/-- No rule is drafted from a search with an event code of too many digits. -/
theorem reverse_codeSearch_fails :
    ¬ ∃ draft, reverse (codeSearch 4300)
      (headingOf "Custom Detection Rule" "medium" "experimental" none none) = .ok draft := by
  rintro ⟨draft, h⟩
  obtain ⟨code, hcode, -⟩ := bind_eq_ok.1 h
  have hlength := eventCode_succeeds_iff.1 ⟨code, hcode⟩ _ (first?_codeSearch 4300)
  rw [length_replicate] at hlength
  exact absurd hlength (by decide)

end Conversion

end Huntbook
