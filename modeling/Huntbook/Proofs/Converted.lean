import Huntbook.Proofs.Use

/-!
# Conversions that succeed

A conversion goes from the log source and the blocks of a rule to its search, and fails as soon as
one of its steps does.
-/

namespace Huntbook

open List

/-- A computation that does not fail. -/
def Succeeds {ε α : Type} (x : Except ε α) : Prop := ∃ a, x = .ok a

namespace Succeeds

variable {ε α β : Type} {x : Except ε α} {f : α → Except ε β}

lemma bind_iff {Q : Prop} (hf : ∀ a, Succeeds (f a) ↔ Q) :
    Succeeds (x >>= f) ↔ Succeeds x ∧ Q := by
  simp only [Succeeds, bind_eq_ok]
  constructor
  · rintro ⟨b, a, ha, hb⟩
    exact ⟨⟨a, ha⟩, (hf a).1 ⟨b, hb⟩⟩
  · rintro ⟨⟨a, ha⟩, hq⟩
    obtain ⟨b, hb⟩ := (hf a).2 hq
    exact ⟨b, a, ha, hb⟩

lemma bind_pure_iff {f : α → β} : Succeeds (x >>= fun a => pure (f a)) ↔ Succeeds x :=
  (bind_iff fun a => iff_of_true ⟨f a, rfl⟩ trivial).trans (and_iff_left trivial)

lemma map_iff {f : α → β} : Succeeds (x.map f) ↔ Succeeds x := by
  cases x <;> simp [Succeeds, Except.map]

lemma mapError_iff {ε' : Type} {f : ε → ε'} : Succeeds (x.mapError f) ↔ Succeeds x := by
  cases x <;> simp [Succeeds, Except.mapError]

lemma mapM_iff {xs : List α} : Succeeds (xs.mapM f) ↔ ∀ x ∈ xs, Succeeds (f x) := by
  induction xs with
  | nil => exact ⟨fun _ x hx => absurd hx (by simp), fun _ => ⟨[], rfl⟩⟩
  | cons x xs ih =>
    simp only [Succeeds, mapM_cons, bind_eq_ok, forall_mem_cons] at ih ⊢
    constructor
    · rintro ⟨_, y, hy, ys, hys, -⟩
      exact ⟨⟨y, hy⟩, ih.1 ⟨ys, hys⟩⟩
    · rintro ⟨⟨y, hy⟩, hxs⟩
      obtain ⟨ys, hys⟩ := ih.2 hxs
      exact ⟨y :: ys, y, hy, ys, hys, rfl⟩

lemma of_isSome (h : x.toOption.isSome) : Succeeds x := by
  cases x with
  | ok a => exact ⟨a, rfl⟩
  | error _ => cases h

end Succeeds

lemma toOption_eq_some_iff {ε α : Type} {x : Except ε α} {a : α} :
    x.toOption = some a ↔ x = .ok a := by
  cases x <;> simp [Except.toOption]

lemma exists_ok_of_any {ε α : Type} {x : Except ε α} {p : α → Bool}
    (h : x.toOption.any p = true) : ∃ a, x = .ok a ∧ p a := by
  obtain ⟨a, ha, hp⟩ := (Option.any_eq_true ..).1 h
  exact ⟨a, toOption_eq_some_iff.1 ha, hp⟩

namespace Conversion

open Search

lemma convert_eq_ok {result : Result} {rule : Value} {options : Options} :
    convert rule options = .ok result ↔ ∃ feed entries condition blocks clause survey needs,
        (LogSource.ofRule rule >>= LogSource.feed) = .ok feed ∧
        rule.getOr "detection" (.map []) = .ok (.map entries) ∧
        (Value.map entries).getOr "condition" (.text "") = .ok condition ∧
        blocksOf (fieldMap options.custom options.useModel) entries = .ok blocks ∧
        resolveValue condition (clausesOf blocks) = .ok clause ∧
        surveyOf (fieldMap options.custom options.useModel) (fieldsOf blocks) = .ok survey ∧
        requirements rule (.ok (feed.codes.map fun (n : Nat) => .int n)) = .ok needs ∧
        result = ⟨searchText (scopeOf options feed) clause options.timeRange, survey.results, needs,
          survey.gaps, healthChecks (scopeOf options feed) survey.results⟩ := by
  simp only [convert, bind_eq_ok]
  constructor
  · rintro ⟨source, hsource, feed, hfeed, detection, hdetection, condition, hcondition, entries,
      hentries, blocks, hblocks, clause, hclause, survey, hsurvey, needs, hneeds, hresult⟩
    cases detection with
    | map es =>
      obtain rfl := Except.ok.inj hentries
      exact ⟨feed, es, condition, blocks, clause, survey, needs, ⟨source, hsource, hfeed⟩,
        hdetection, hcondition, hblocks, hclause, hsurvey, hneeds, (Except.ok.inj hresult).symm⟩
    | _ => simp [Value.entries] at hentries
  · rintro ⟨feed, entries, condition, blocks, clause, survey, needs, ⟨source, hsource, hfeed⟩,
      hdetection, hcondition, hblocks, hclause, hsurvey, hneeds, rfl⟩
    exact ⟨source, hsource, feed, hfeed, _, hdetection, condition, hcondition, entries, rfl, blocks,
      hblocks, clause, hclause, survey, hsurvey, needs, hneeds, rfl⟩

end Conversion

end Huntbook
