import Huntbook.Proofs.Survey

/-!
# Gaps and the fields of a search

A field of a rule that has no searched field is reported as a gap, and a gap is said to stand in
the search under a name of its own. The report and the search look the field up on their own: the
search takes whatever stands for it, the report only what is not empty or zero.

* `gap_iff_unmapped_iff`: when the report and the search agree on a field.
-/

namespace Huntbook

/-! ## How values start -/

lemma capitalU_not_mem_digits (n : Nat) : 'U' ∉ Nat.toDigits 10 n :=
  fun h => absurd (Nat.isDigit_of_mem_toDigits (by decide) (by decide) h) (by decide)

namespace Decimal

lemma capitalU_not_mem_write {ds : Chars} (hds : 'U' ∉ ds) (f : Layout) (point : Int) :
    'U' ∉ (f.write ds point).toList := by
  have htake (n : Nat) : 'U' ∉ ds.take n := fun h => hds (List.mem_of_mem_take h)
  have hdrop (n : Nat) : 'U' ∉ ds.drop n := fun h => hds (List.mem_of_mem_drop h)
  have hexponent (e : Int) : 'U' ∉ (exponentText e).toList := by
    have hdigits := capitalU_not_mem_digits e.natAbs
    unfold exponentText
    dsimp only
    split <;> split <;> simpa [toString, Nat.repr] using hdigits
  unfold Layout.write
  dsimp only
  split
  · split
    · simpa using hds
    · split
      · split <;> simpa using hds
      · simp [htake, hdrop]
  · split <;> simp [htake, hdrop, hexponent, -List.drop_one]

lemma capitalU_not_mem_text (x : Float) : 'U' ∉ (text x).toList := by
  unfold text Layout.text
  dsimp only
  split
  · decide
  · split
    · split <;> decide
    · split <;> split <;>
        simp [capitalU_not_mem_write, capitalU_not_mem_digits]

end Decimal

lemma capitalU_not_mem_padded (width n : Nat) : 'U' ∉ (padded width n).toList := by
  simp [padded, capitalU_not_mem_digits]

lemma capitalU_not_mem_date (d : Date) : 'U' ∉ d.text.toList := by
  simp [Date.text, capitalU_not_mem_padded]

open Search

lemma Value.plain_eq_unmapped_iff {v : Value} {name : String} :
    v.plain = unmapped name ↔ v = .text (unmapped name) := by
  refine ⟨fun h => ?_, fun h => h ▸ rfl⟩
  have hhead : v.plain.toList.head? = some 'U' := by
    rw [h, unmapped, String.toList_append]
    rfl
  have hmem : 'U' ∈ v.plain.toList := List.mem_of_head? hhead
  cases v with
  | text s => exact congrArg Value.text h
  | int n =>
    refine absurd hmem ?_
    cases n <;> simp [plain, shown, toString, Int.repr, Nat.repr, capitalU_not_mem_digits]
  | float x => exact absurd hmem (Decimal.capitalU_not_mem_text x)
  | date d => exact absurd hmem (capitalU_not_mem_date d)
  | moment t =>
    have hdate : (t.textWith " ").toList.head? = t.date.text.toList.head? := by
      unfold Moment.textWith
      split <;> split <;> simp [Date.text, padded]
    refine absurd (List.mem_of_head? ?_) (capitalU_not_mem_date t.date)
    rw [← hdate]
    exact hhead
  | tuple items => rcases items with _ | ⟨v, _ | ⟨w, vs⟩⟩ <;> simp [plain, shown] at hhead
  | set items => cases items <;> simp [plain, shown] at hhead
  | bool b => cases b <;> simp [plain, shown, boolText] at hhead
  | _ => simp [plain, shown, quotedBytes] at hhead

namespace Conversion

lemma mem_gaps_surveyOf {fields : FieldMap} {names : Texts} {survey : Survey}
    (h : surveyOf fields names = .ok survey) {field : String} :
    field ∈ survey.gaps ↔ field ∈ names ∧ IsGap fields field := by
  have hcovers := covers_surveyOf h
  rw [hcovers.gaps, ← hcovers.fields]
  simp only [List.mem_map, List.mem_filter, decide_eq_true_eq]
  constructor
  · rintro ⟨f, ⟨hf, hstatus⟩, rfl⟩
    exact ⟨⟨f, hf, rfl⟩, (hcovers.missing f hf).1 hstatus⟩
  · rintro ⟨⟨f, hf, rfl⟩, hgap⟩
    exact ⟨f, ⟨hf, (hcovers.missing f hf).2 hgap⟩, rfl⟩

lemma target_eq_unmapped_iff {fields : FieldMap} {name : String} :
    fields.target name = unmapped name ↔
      ∀ v, fields.get? name = some v → v = .text (unmapped name) := by
  rw [FieldMap.target]
  split
  · rename_i v hv
    simp [hv, Value.plain_eq_unmapped_iff]
  · rename_i hnone
    simp [hnone]

/-- For a field that a rule compares, the report of a gap and the name in the search agree exactly
    if what stands for the field, if anything does, is not empty or zero. -/
theorem gap_iff_unmapped_iff {rule : Value} {options : Options} {result : Result}
    (h : convert rule options = .ok result) {field : String}
    (hfield : RuleCompares (fun _ => True) rule field) :
    (field ∈ result.gaps ↔
        (fieldMap options.custom options.useModel).target field = unmapped field) ↔
      ∀ v, (fieldMap options.custom options.useModel).get? field = some v → v.truthy := by
  obtain ⟨feed, entries, condition, blocks, clause, survey, needs, -, hdetection, -, hblocks, -,
    hsurvey, -, rfl⟩ := convert_eq_ok.1 h
  have hmem : field ∈ fieldsOf blocks :=
    (mem_fieldsOf hblocks).2 ((ruleCompares_iff hdetection).1 hfield)
  rw [mem_gaps_surveyOf hsurvey, and_iff_right hmem, target_eq_unmapped_iff, IsGap]
  simp only [Value.same_text]
  cases (fieldMap options.custom options.useModel).get? field with
  | none => simp
  | some v =>
    have htruthy : (Value.text (unmapped field)).truthy := by
      simp [Value.truthy, unmapped]
    simp only [Option.some.injEq, forall_eq']
    constructor
    · intro h
      by_contra hv
      exact hv (h.1 (fun hv' => absurd hv' hv) ▸ htruthy)
    · intro hv
      exact ⟨fun h => h hv, fun h _ => h⟩

/-- A rule that compares one field. -/
def toolRule : Value :=
  .record [("detection", .record
    [("selection", .record [("Tool", .int 1)]), ("condition", .text "selection")])]

lemma compares_toolRule : RuleCompares (fun _ => True) toolRule "Tool" := by
  refine ⟨[(.text "selection", .record [("Tool", .int 1)]),
    (.text "condition", .text "selection")], by cbv, [(.text "Tool", .int 1)], ?_, ?_⟩
  · simp [selections, Value.same, blockSelections, Value.record]
  · exact ⟨"Tool", .int 1, List.mem_cons_self, trivial, by decide⟩

/-- A field without an entry is a gap, and stands in the search as one. -/
theorem gap_iff_unmapped_iff_toolRule : ∃ result, convert toolRule .default = .ok result ∧
    result.search = "index=*\n| where UNMAPPED_Tool=1" ∧ "Tool" ∈ result.gaps := by
  have hsearch : (convert toolRule .default).map (·.search) =
      .ok "index=*\n| where UNMAPPED_Tool=1" := by
    cbv
  obtain ⟨result, hresult, hsearch⟩ := map_eq_ok.1 hsearch
  refine ⟨result, hresult, hsearch, ?_⟩
  refine ((gap_iff_unmapped_iff hresult compares_toolRule).2 ?_).2 ?_
  · intro v hv
    have hnone : (fieldMap Options.default.custom Options.default.useModel).get? "Tool" = none := by
      cbv
    rw [hnone] at hv
    cases hv
  · cbv

/-- A field with an empty entry is told as a gap, but does not stand in the search as one. -/
theorem gap_not_unmapped :
    (convert toolRule { Options.default with custom := [("Tool", .text "")] }).map
      (fun result => (result.search, result.gaps)) = .ok ("index=*\n| where =1", ["Tool"]) := by
  cbv

end Conversion
end Huntbook
