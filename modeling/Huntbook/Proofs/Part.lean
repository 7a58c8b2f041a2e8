import Huntbook.Conversion.Forward
import Huntbook.Proofs.Condition
import Huntbook.Proofs.Selection

/-!
# Clauses by parts

The clause of a block is put together from *parts*: texts that no value of the rule has a share in,
such as names of fields, numbers and operators, and the texts of the rule, each in a frame that
depends on how it is compared. Here the parts of a clause are computed along with the clause.
-/

namespace Huntbook.Conversion

open Search

inductive Part
  | fixed (text : String)
  | compared (field : String) (modifiers : Texts) (s : String)
  | keyword (s : String)
  deriving DecidableEq

/-- A part as it is written. -/
def Part.text : Part → String
  | .fixed text => text
  | .compared field modifiers s => (Comparison.ofModifiers modifiers s).clause field s
  | .keyword s => "\"" ++ escapeValue s ++ "\""

def chars (ps : List Part) : Chars := ps.flatMap fun p => p.text.toList

def spell (ps : List Part) : String := String.ofList (chars ps)

@[simp] lemma chars_nil : chars [] = [] := rfl

@[simp] lemma chars_cons (p : Part) (ps : List Part) :
    chars (p :: ps) = p.text.toList ++ chars ps := rfl

@[simp] lemma chars_append (ps qs : List Part) : chars (ps ++ qs) = chars ps ++ chars qs :=
  List.flatMap_append

@[simp] lemma toList_spell (ps : List Part) : (spell ps).toList = chars ps :=
  String.toList_ofList

lemma spell_singleton (text : String) : spell [.fixed text] = text := by
  simp [spell, Part.text]

/-! ## The parts of a clause -/

def bracketed (ps : List Part) : List Part := .fixed "(" :: ps ++ [.fixed ")"]

def joined (sep : String) (pss : List (List Part)) : Option (List Part) :=
  if pss.isEmpty then none else some ([.fixed sep].intercalate pss)

def valueParts (field : String) (modifiers : Texts) : Value → Option (List Part)
  | .text s => some [.compared field modifiers s]
  | v => (clause field modifiers v).map fun text => [.fixed text]

def fieldParts (fields : FieldMap) (ref : FieldRef) : Value → Option (List Part)
  | .list values =>
    (joined " OR " (values.filterMap (valueParts (fields.target ref.name) ref.modifiers))).map
      bracketed
  | value => valueParts (fields.target ref.name) ref.modifiers value

def entryParts (fields : FieldMap) (e : Value × Value) : Option (List Part) :=
  (FieldRef.ofKey e.1).toOption.bind fun ref => fieldParts fields ref e.2

def selectionParts (fields : FieldMap) (entries : Entries) : Option (List Part) :=
  joined " AND " (entries.filterMap (entryParts fields))

def itemParts (fields : FieldMap) : Value → Option (List Part)
  | .map entries => selectionParts fields entries
  | .text s => some [.keyword s]
  | _ => none

def blockParts (fields : FieldMap) : Value → Option (List Part)
  | .map entries => selectionParts fields entries
  | .list items => joined " OR " ((items.filterMap (itemParts fields)).map bracketed)
  | _ => none

/-! ## Clauses are made up of their parts -/

lemma spell_bracketed (ps : List Part) : spell (bracketed ps) = "(" ++ spell ps ++ ")" := by
  simp [← String.toList_inj, bracketed, Part.text]

lemma spell_intercalate (sep : String) (pss : List (List Part)) :
    spell ([.fixed sep].intercalate pss) = sep.intercalate (pss.map spell) := by
  rw [← String.toList_inj, toList_spell, chars, Reader.flatMap_intercalate,
    String.toList_intercalate, List.map_map]
  simp [Part.text, Function.comp_def, chars]

lemma clause_eq_spell (field : String) (modifiers : Texts) (v : Value) :
    clause field modifiers v = (valueParts field modifiers v).map spell := by
  cases v with
  | text s => simp [clause, valueParts, spell, Part.text]
  | _ => simp [clause, valueParts, spell_singleton]

lemma filterMap_spell {α : Type} {f : α → Option String} {g : α → Option (List Part)}
    (h : ∀ a, f a = (g a).map spell) (xs : List α) :
    xs.filterMap f = (xs.filterMap g).map spell := by
  rw [List.map_filterMap]
  exact List.filterMap_congr fun a _ => h a

variable {fields : FieldMap} {ps : List Part} {entries : Entries}

variable {ref : FieldRef} {value v : Value} {sep : String} {b : Block} {pss : List (List Part)}

lemma fieldParts_scalar (h : ∀ vs, value ≠ .list vs) :
    fieldParts fields ref value = valueParts (fields.target ref.name) ref.modifiers value := by
  cases value <;> first | rfl | exact absurd rfl (h _)

lemma fieldClause_eq_spell (fields : FieldMap) (ref : FieldRef) (value : Value) :
    fieldClause fields ref value = (fieldParts fields ref value).map spell := by
  rcases Reader.value_cases value with ⟨values, rfl⟩ | ⟨hscalar, -⟩
  · rw [fieldClause, fieldParts, filterMap_spell (clause_eq_spell _ _), List.isEmpty_map, joined]
    split
    · rfl
    · simp [spell_bracketed, spell_intercalate]
  · rw [Reader.fieldClause_scalar hscalar, fieldParts_scalar hscalar, clause_eq_spell]

lemma joined_eq_some :
    joined sep pss = some ps ↔ pss ≠ [] ∧ ps = [.fixed sep].intercalate pss := by
  cases pss with
  | nil => simp [joined]
  | cons qs pss =>
    rw [joined, if_neg (by simp), Option.some.injEq]
    simp [eq_comm]

lemma map_eq_ok {ε α β : Type} {x : Except ε α} {f : α → β} {b : β} :
    x.map f = .ok b ↔ ∃ a, x = .ok a ∧ f a = b := by
  cases x <;> simp [Except.map]

lemma mapM_eq_ok {ε α β : Type} {f : α → Except ε β} {xs : List α} {ys : List β} :
    xs.mapM f = .ok ys ↔ List.Forall₂ (fun x y => f x = .ok y) xs ys := by
  induction xs generalizing ys with
  | nil => simp [pure, Except.pure, eq_comm]
  | cons x xs ih =>
    rw [List.mapM_cons, bind_eq_ok, List.forall₂_cons_left_iff]
    simp only [bind_eq_ok, ih]
    constructor
    · rintro ⟨y, hy, ys', hys, he⟩
      exact ⟨y, ys', hy, hys, (Except.ok.inj he).symm⟩
    · rintro ⟨y, ys', hy, hys, rfl⟩
      exact ⟨y, hy, ys', hys, rfl⟩

lemma exists_mem_of_forall₂ {α β : Type} {R : α → β → Prop} {xs : List α} {ys : List β}
    (h : List.Forall₂ R xs ys) {y : β} (hy : y ∈ ys) : ∃ x ∈ xs, R x y := by
  induction h with
  | nil => cases hy
  | cons hxy _ ih =>
    rcases List.mem_cons.1 hy with rfl | hy
    · exact ⟨_, List.mem_cons_self, hxy⟩
    · obtain ⟨x, hx, hxy⟩ := ih hy
      exact ⟨x, List.mem_cons_of_mem _ hx, hxy⟩

lemma exists_of_mem_mapM {ε α β : Type} {f : α → Except ε β} {xs : List α} {ys : List β}
    (h : xs.mapM f = .ok ys) {y : β} (hy : y ∈ ys) : ∃ x ∈ xs, f x = .ok y :=
  exists_mem_of_forall₂ (mapM_eq_ok.1 h) hy

def NoWord (ps : List Part) : Prop := ∃ c ∈ chars ps, Text.isWord c = false

lemma NoWord.ne_nil (h : NoWord ps) : chars ps ≠ [] := by
  obtain ⟨c, hc, -⟩ := h
  exact List.ne_nil_of_mem hc

lemma noWord_joined (hpss : ∀ ps ∈ pss, NoWord ps)
    (h : joined sep pss = some ps) : NoWord ps := by
  obtain ⟨hne, rfl⟩ := joined_eq_some.1 h
  obtain ⟨qs, pss, rfl⟩ := List.exists_cons_of_ne_nil hne
  obtain ⟨c, hc, hword⟩ := hpss qs List.mem_cons_self
  refine ⟨c, ?_, hword⟩
  cases pss with
  | nil => simpa using hc
  | cons rs pss => simp [List.intercalate_cons_cons, hc]

lemma noWord_valueParts {field : String} {modifiers : Texts}
    (h : valueParts field modifiers v = some ps) : NoWord ps := by
  cases v with
  | text s =>
    obtain rfl := Option.some.inj h
    refine ⟨'(', ?_, by decide⟩
    cases hc : Comparison.ofModifiers modifiers s <;>
      simp [chars, Part.text, hc, Comparison.clause, toString]
  | null =>
    obtain rfl := Option.some.inj h
    exact ⟨'(', by simp [Part.text, toString], by decide⟩
  | bool | int | float =>
    obtain rfl := Option.some.inj h
    exact ⟨'=', by simp [Part.text, toString], by decide⟩
  | _ => simp [valueParts, clause] at h

lemma noWord_bracketed (ps : List Part) : NoWord (bracketed ps) :=
  ⟨'(', by simp [bracketed, Part.text], by decide⟩

lemma noWord_fieldParts (h : fieldParts fields ref value = some ps) : NoWord ps := by
  rcases Reader.value_cases value with ⟨values, rfl⟩ | ⟨hscalar, -⟩
  · obtain ⟨qs, -, rfl⟩ := Option.map_eq_some_iff.1 h
    exact noWord_bracketed qs
  · exact noWord_valueParts (fieldParts_scalar hscalar ▸ h)

lemma noWord_selectionParts (h : selectionParts fields entries = some ps) : NoWord ps := by
  refine noWord_joined (fun qs hqs => ?_) h
  obtain ⟨e, -, he⟩ := List.mem_filterMap.1 hqs
  obtain ⟨ref, -, hr⟩ := Option.bind_eq_some_iff.1 he
  exact noWord_fieldParts hr

lemma noWord_blockParts (h : blockParts fields v = some ps) : NoWord ps := by
  cases v with
  | map entries => exact noWord_selectionParts h
  | list items =>
    refine noWord_joined (fun qs hqs => ?_) h
    obtain ⟨rs, -, rfl⟩ := List.mem_map.1 hqs
    exact noWord_bracketed rs
  | _ => simp [blockParts] at h

lemma filterMap_entryParts {refs : List (FieldRef × Value)}
    (h : selectionRefs entries = .ok refs) :
    entries.filterMap (entryParts fields) = refs.filterMap fun r => fieldParts fields r.1 r.2 := by
  have hall := mapM_eq_ok.1 h
  clear h
  induction hall with
  | nil => rfl
  | @cons e r entries refs he _ ih =>
    obtain ⟨hkey, hvalue, -⟩ := entryRef_eq_ok.1 he
    simp [List.filterMap_cons, entryParts, hkey, hvalue, Except.toOption, ih]

lemma clause_of_ofSelection (h : Block.ofSelection fields entries = .ok b) :
    b.clause = (selectionParts fields entries).map spell := by
  obtain ⟨refs, hrefs, hb⟩ := bind_eq_ok.1 h
  obtain rfl := Except.ok.inj hb
  have hparts : selectionParts fields entries =
      joined " AND " (refs.filterMap fun r => fieldParts fields r.1 r.2) := by
    rw [selectionParts, filterMap_entryParts hrefs]
  have hclause : selectionClause fields refs = " AND ".intercalate
      ((refs.filterMap fun r => fieldParts fields r.1 r.2).map spell) := by
    rw [selectionClause, filterMap_spell fun r : FieldRef × Value => fieldClause_eq_spell _ r.1 r.2]
  cases hps : selectionParts fields entries with
  | none =>
    have hnil : (refs.filterMap fun r => fieldParts fields r.1 r.2) = [] := by
      simpa [joined] using hparts.symm.trans hps
    simp [hclause, hnil]
  | some ps =>
    have hne := (noWord_selectionParts hps).ne_nil
    obtain ⟨-, rfl⟩ := joined_eq_some.1 (hparts.symm.trans hps)
    rw [← spell_intercalate] at hclause
    have hfull : ¬(selectionClause fields refs).isEmpty := by
      rw [hclause, String.isEmpty_iff, ← String.toList_eq_nil_iff, toList_spell]
      exact hne
    rw [if_neg hfull, hclause]
    rfl

lemma clause_of_ofItem (h : Block.ofItem fields v = .ok b) :
    b.clause = (itemParts fields v).map spell := by
  cases v with
  | map entries => exact clause_of_ofSelection h
  | text s =>
    obtain rfl := Except.ok.inj h
    simp [itemParts, spell, Part.text, String.append_assoc]
  | _ =>
    obtain rfl := Except.ok.inj h
    rfl

lemma clauses_of_ofItem {items : List Value} {blocks : List Block}
    (h : List.Forall₂ (fun v b => Block.ofItem fields v = .ok b) items blocks) :
    blocks.filterMap (·.clause) = (items.filterMap (itemParts fields)).map spell := by
  induction h with
  | nil => rfl
  | @cons v b items blocks hitem _ ih =>
    have hclause := clause_of_ofItem hitem
    cases hv : itemParts fields v with
    | none => simp [hclause, hv, ih]
    | some ps => simp [hclause, hv, ih]

lemma clause_of_ofValue (h : Block.ofValue fields v = .ok b) :
    b.clause = (blockParts fields v).map spell := by
  cases v with
  | map entries => exact clause_of_ofSelection h
  | list items =>
    obtain ⟨blocks, hblocks, hb⟩ := bind_eq_ok.1 h
    obtain rfl := Except.ok.inj hb
    have hclauses := clauses_of_ofItem (mapM_eq_ok.1 hblocks)
    simp only [hclauses, blockParts, joined, List.isEmpty_map, List.map_map]
    split
    · rfl
    · simp [spell_intercalate, spell_bracketed, Function.comp_def]
  | _ =>
    obtain rfl := Except.ok.inj h
    rfl

end Huntbook.Conversion
