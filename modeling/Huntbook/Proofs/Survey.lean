import Huntbook.Proofs.Fields

/-!
# What a conversion reports

Along with a search, a conversion reports the fields of the rule, those without a searched field,
and searches that check the rest. All of these come from one walk through the fields that the
selections of the rule compare, each once.

* `convert_reports`: what a conversion reports.
-/

namespace Huntbook

/-! ## Texts that are not empty -/

namespace Decimal

lemma write_plain_ne_empty (ds : Chars) (point : Int) : Layout.plain.write ds point ≠ "" := by
  unfold Layout.write
  split
  · split
    · simp
    · split <;> simp [Layout.plain]
  · simp

lemma text_ne_empty (x : Float) : text x ≠ "" := by
  have hwrite : ∀ (sign : String) ds point, sign ++ Layout.plain.write ds point ≠ "" :=
    fun sign ds point h => write_plain_ne_empty ds point (String.append_eq_empty_iff.1 h).2
  unfold text Layout.text
  dsimp only
  split
  · decide
  · split
    · exact fun h => absurd (String.append_eq_empty_iff.1 h).2 (by decide)
    · split
      · exact hwrite _ _ _
      · exact hwrite _ _ _

end Decimal

lemma Form.textOf_ne_empty {v : Value} {t : String} (hv : v.truthy) (h : textOf v = .ok t) :
    t ≠ "" := by
  cases v with
  | text s =>
    obtain rfl := Except.ok.inj h
    simpa [Value.truthy] using hv
  | int n =>
    rw [textOf] at h
    split at h
    · simp at h
    obtain rfl := Except.ok.inj h
    cases n <;> simp [toString, Int.repr]
  | bool b =>
    obtain rfl := Except.ok.inj h
    cases b <;> decide
  | float x =>
    obtain rfl := Except.ok.inj h
    exact Decimal.text_ne_empty x
  | bytes data =>
    simp only [textOf] at h
    split at h
    · rename_i s hs
      obtain rfl := Except.ok.inj h
      rintro rfl
      have hdata : "".toByteArray = ⟨data.toArray⟩ := by
        rw [String.fromUTF8?] at hs
        split at hs
        · exact congrArg String.toByteArray (Option.some.inj hs).symm
        · simp at hs
      have hnil : data.toArray = #[] := (congrArg ByteArray.data hdata).symm
      simp_all [Value.truthy]
    · simp at h
  | _ => simp [textOf] at h

namespace Conversion

open Search

/-! ## One walk through the fields -/

/-- Nothing stands for a field, or nothing but the name that it has without an entry. -/
def IsGap (fields : FieldMap) (name : String) : Prop :=
  ∀ v, fields.get? name = some v → v.truthy → v.same (.text (unmapped name))

structure Survey.Covers (map : FieldMap) (survey : Survey) (names : Texts) : Prop where
  fields : survey.results.map (·.field) = names
  status : ∀ f ∈ survey.results, f.status = .missing ↔ f.target = none
  missing : ∀ f ∈ survey.results, f.status = .missing ↔ IsGap map f.field
  target : ∀ f ∈ survey.results, f.target ≠ some ""
  gaps : survey.gaps = (survey.results.filter (·.status = .missing)).map (·.field)

section

variable {fields : FieldMap} {survey survey' : Survey} {names : Texts} {name : String}

lemma covers_empty : Survey.empty.Covers fields [] :=
  ⟨rfl, by simp [Survey.empty], by simp [Survey.empty], by simp [Survey.empty], rfl⟩

lemma Survey.Covers.add_missing (h : survey.Covers fields names) (hgap : IsGap fields name) :
    Survey.Covers fields ⟨survey.results ++ [⟨name, none, .missing⟩], survey.gaps ++ [name]⟩
      (names ++ [name]) where
  fields := by simp [h.fields]
  status := by simpa [or_imp, forall_and] using h.status
  missing := by simpa [or_imp, forall_and, hgap] using h.missing
  target := by simpa [or_imp, forall_and] using h.target
  gaps := by simp [h.gaps]

lemma Survey.Covers.add_found (h : survey.Covers fields names) (hgap : ¬IsGap fields name)
    {t : String} (ht : t ≠ "") :
    Survey.Covers fields ⟨survey.results ++ [⟨name, some t, .ok⟩], survey.gaps⟩
      (names ++ [name]) where
  fields := by simp [h.fields]
  status := by simpa [or_imp, forall_and] using h.status
  missing := by simpa [or_imp, forall_and, hgap] using h.missing
  target := by simpa [or_imp, forall_and, ht] using h.target
  gaps := by simp [h.gaps]

lemma covers_add (h : survey.Covers fields names)
    (hadd : survey.add fields name = .ok survey') : survey'.Covers fields (names ++ [name]) := by
  unfold Survey.add at hadd
  split at hadd
  · rename_i hnone
    obtain rfl := Except.ok.inj hadd
    exact h.add_missing fun v hv => absurd (hnone.symm.trans hv) (by simp)
  · rename_i v hv
    split at hadd
    · rename_i hmapped
      simp only [Bool.and_eq_true, Bool.not_eq_true'] at hmapped
      split at hadd
      · rename_i t ht
        obtain rfl := Except.ok.inj hadd
        refine h.add_found (fun hgap => ?_) (Form.textOf_ne_empty hmapped.1 ht)
        exact absurd (hgap v hv hmapped.1) (by simp [hmapped.2])
      · simp at hadd
    · rename_i hmapped
      obtain rfl := Except.ok.inj hadd
      refine h.add_missing fun w hw htruthy => ?_
      obtain rfl := Option.some.inj (hv.symm.trans hw)
      simpa [htruthy] using hmapped

lemma covers_foldlM {seen : Texts} (h : survey.Covers fields seen)
    (hrun : names.foldlM (Survey.add fields) survey = .ok survey') :
    survey'.Covers fields (seen ++ names) := by
  induction names generalizing survey seen with
  | nil =>
    obtain rfl := Except.ok.inj hrun
    simpa using h
  | cons name names ih =>
    obtain ⟨next, hadd, hrun⟩ := bind_eq_ok.1 hrun
    simpa using ih (covers_add h hadd) hrun

lemma covers_surveyOf (h : surveyOf fields names = .ok survey) : survey.Covers fields names :=
  covers_foldlM covers_empty h

end

/-! ## The checks -/

lemma codesText_isEmpty (feed : Feed) : feed.codesText.isEmpty ↔ feed.codes = [] := by
  rw [String.isEmpty_iff, ← String.toList_inj, Feed.codesText, String.toList_intercalate]
  rcases feed.codes with _ | ⟨n, _ | ⟨m, ns⟩⟩
  · simp
  · simp [toString]
  · simp [List.intercalate_cons_cons]

def Checks (scope : Scope) (f : FieldResult) (c : HealthCheck) : Prop :=
  ∃ target, f.target = some target ∧ c = fieldCheck scope f.field target

lemma exists_healthChecks_eq (scope : Scope) {results : List FieldResult}
    (hstatus : ∀ f ∈ results, f.status = .missing ↔ f.target = none)
    (htarget : ∀ f ∈ results, f.target ≠ some "") :
    ∃ checks, healthChecks scope results = scopeChecks scope ++ checks ∧
      List.Forall₂ (Checks scope) (results.filter (·.status = .ok)) checks := by
  refine ⟨_, rfl, ?_⟩
  induction results with
  | nil => exact .nil
  | cons f results ih =>
    obtain ⟨name, target, status⟩ := f
    obtain ⟨hf, hstatus'⟩ := List.forall_mem_cons.1 hstatus
    obtain ⟨hempty, htarget'⟩ := List.forall_mem_cons.1 htarget
    have hrest := ih hstatus' htarget'
    cases status with
    | missing => simpa using hrest
    | ok =>
      obtain ⟨t, rfl⟩ : ∃ t, target = some t := by
        simpa [Option.ne_none_iff_exists', eq_comm] using hf
      have ht : t.isEmpty = false := by simpa using hempty
      rw [List.filter_cons_of_pos (by simp), List.filterMap_cons_some (by simp only [ht]; rfl)]
      exact .cons ⟨t, rfl, rfl⟩ hrest

/-! ## Conversions -/

/-- What a conversion reports about a rule whose log source has this feed. -/
structure Reported (rule : Value) (options : Options) (feed : Feed) (result : Result) : Prop where
  nodup : (result.fields.map (·.field)).Nodup
  compared : ∀ field, field ∈ result.fields.map (·.field) ↔ RuleCompares (fun _ => True) rule field
  status : ∀ f ∈ result.fields, f.status = .missing ↔ f.target = none
  gaps : result.gaps = (result.fields.filter (·.status = .missing)).map (·.field)
  /-- The checks are that of the log source, that of its event codes if it has any, and one for
      every field that is not missing, in the order of fields. -/
  checks : ∃ checks, result.healthChecks = sourceCheck (scopeOf options feed) ::
      (if feed.codes = [] then [] else [codeCheck (scopeOf options feed)]) ++ checks ∧
    List.Forall₂ (Checks (scopeOf options feed)) (result.fields.filter (·.status = .ok)) checks

/-- What a conversion reports: the fields that the rule compares, each once, the gaps among them,
    and the checks of the log source and of the fields that are no gaps. -/
theorem convert_reports {rule : Value} {options : Options} {result : Result}
    (h : convert rule options = .ok result) :
    ∃ feed, (LogSource.ofRule rule >>= LogSource.feed) = .ok feed ∧
      Reported rule options feed result := by
  obtain ⟨feed, entries, condition, blocks, clause, survey, needs, hfeed, hdetection, -, hblocks, -,
    hsurvey, -, rfl⟩ := convert_eq_ok.1 h
  have hcovers := covers_surveyOf hsurvey
  obtain ⟨checks, hchecks, hall⟩ :=
    exists_healthChecks_eq (scopeOf options feed) hcovers.status hcovers.target
  refine ⟨feed, hfeed, ?_, ?_, hcovers.status, hcovers.gaps, checks, ?_, hall⟩
  · rw [hcovers.fields]
    exact Rule.nodup_sortedTexts _
  · intro field
    rw [hcovers.fields, mem_fieldsOf hblocks, ruleCompares_iff hdetection]
  · rw [hchecks, scopeChecks]
    simp only [scopeOf, codesText_isEmpty]

def mixedDetection : Entries :=
  [(.text "selection", .record [("CommandLine|re", .text "x"), ("Tool", .int 1)]),
   (.text "others", .list [.record [("Tool|contains", .text "y")], .text "z"]),
   (.text "condition", .text "selection")]

def mixedBlocks : List (Value × Block) :=
  [(.text "selection",
    ⟨some "match(CommandLine, \"x\") AND UNMAPPED_Tool=1", ["CommandLine", "Tool"]⟩),
   (.text "others", ⟨some "(match(UNMAPPED_Tool, \"(?i).*y.*\")) OR (\"z\")", ["Tool"]⟩)]

/-- A rule with this detection, about processes that are started. -/
def mixedRule : Value :=
  .record
    [("logsource", .record [("product", .text "windows"), ("category", .text "process_creation")]),
     ("detection", .map mixedDetection)]

theorem convert_reports_mixedRule : ∃ result, convert mixedRule .default = .ok result ∧
    result.fields = [⟨"CommandLine", some "CommandLine", .ok⟩, ⟨"Tool", none, .missing⟩] ∧
    ∃ feed, (LogSource.ofRule mixedRule >>= LogSource.feed) = .ok feed ∧
      Reported mixedRule .default feed result := by
  have hfeed : (LogSource.ofRule mixedRule >>= LogSource.feed) =
      .ok ⟨"windows", sysmonEvents, [1]⟩ := by
    cbv
  have hblocks : blocksOf (fieldMap [] false) mixedDetection = .ok mixedBlocks := by
    simp only [blocksOf, mixedDetection, List.filter_cons, Value.same, List.filter_nil]
    rfl
  have hclause : resolveValue (.text "selection") (clausesOf mixedBlocks) =
      .ok "match(CommandLine, \"x\") AND UNMAPPED_Tool=1" := by
    cbv
  have hsurvey : surveyOf (fieldMap [] false) (fieldsOf mixedBlocks) =
      .ok ⟨[⟨"CommandLine", some "CommandLine", .ok⟩, ⟨"Tool", none, .missing⟩], ["Tool"]⟩ := by
    cbv
  obtain ⟨needs, hneeds, -⟩ := exists_ok_of_any (p := fun _ => true)
    (show (requirements mixedRule (.ok [.int 1])).toOption.any _ = true by decide +kernel)
  have hconvert := (@convert_eq_ok _ mixedRule .default).2 ⟨_, mixedDetection, .text "selection",
    mixedBlocks, _, _, needs, hfeed, by cbv, by cbv, hblocks, hclause, hsurvey, hneeds, rfl⟩
  exact ⟨_, hconvert, rfl, convert_reports hconvert⟩

end Conversion

end Huntbook
