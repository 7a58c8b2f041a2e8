import Huntbook.Rule
import Huntbook.Proofs.Converted

/-!
# Fields that rules compare

A detection compares fields in its *selections*: the mappings among its blocks, and those in the
lists among its blocks. The field of an entry is what comes before the first bar of its key.
-/

namespace Huntbook

open List

/-! ## Texts in order -/

lemma nodup_eraseDups {α : Type} [BEq α] [LawfulBEq α] :
    ∀ xs : List α, xs.eraseDups.Nodup
  | [] => by simp
  | x :: xs => by
    rw [eraseDups_cons, nodup_cons]
    exact ⟨by simp, nodup_eraseDups _⟩
termination_by xs => xs.length
decreasing_by exact Nat.lt_succ_of_le (length_filter_le _ _)

lemma Text.splitList_eq_splitOn (sep : Char) (cs : Chars) :
    splitList sep cs = cs.splitOn sep := by
  induction cs with
  | nil => rfl
  | cons c cs ih =>
    rw [splitList, splitOn_cons_eq_if_modifyHead, ih]
    cases hcs : cs.splitOn sep with
    | nil => exact absurd hcs (splitOn_ne_nil _ _)
    | cons piece pieces => rfl

namespace Rule

lemma mem_sortedTexts {xs : Texts} {x : String} : x ∈ sortedTexts xs ↔ x ∈ xs := by
  rw [sortedTexts, mem_mergeSort, mem_eraseDups]

lemma nodup_sortedTexts (xs : Texts) : (sortedTexts xs).Nodup :=
  (mergeSort_perm _ _).nodup_iff.2 (nodup_eraseDups xs)

lemma pairwise_sortedTexts (xs : Texts) : (sortedTexts xs).Pairwise (· ≤ ·) := by
  have h : (sortedTexts xs).Pairwise fun a b => decide (a ≤ b) = true :=
    pairwise_mergeSort (fun a b c => by simpa using String.le_trans)
      (fun a b => by simpa using String.le_total a b) _
  simpa using h

lemma mergeSort_sortedTexts (xs : Texts) :
    (sortedTexts xs).mergeSort (fun a b => a ≤ b) = sortedTexts xs :=
  mergeSort_of_pairwise (by simpa using pairwise_sortedTexts xs)

lemma sortedTexts_eq_iff {xs ys : Texts} :
    sortedTexts xs = sortedTexts ys ↔ ∀ x, x ∈ sortedTexts xs ↔ x ∈ sortedTexts ys := by
  refine ⟨fun h x => by rw [h], fun h => ?_⟩
  exact List.Perm.eq_of_pairwise (fun a b _ _ => String.le_antisymm) (pairwise_sortedTexts xs)
    (pairwise_sortedTexts ys)
    ((perm_ext_iff_of_nodup (nodup_sortedTexts xs) (nodup_sortedTexts ys)).2 h)

end Rule

namespace Conversion

open Search

variable {P : Value → Prop}

/-! ## Keys and their fields -/

def keyName (key : String) : String := String.ofList (key.toList.takeWhile (· != '|'))

lemma splitList_eq_cons (sep : Char) (cs : Chars) :
    ∃ pieces, Text.splitList sep cs = cs.takeWhile (· != sep) :: pieces := by
  induction cs with
  | nil => exact ⟨[], rfl⟩
  | cons c cs ih =>
    obtain ⟨pieces, hpieces⟩ := ih
    by_cases hc : c = sep
    · exact ⟨Text.splitList sep cs, by simp [Text.splitList, hc]⟩
    · exact ⟨pieces, by simp [Text.splitList, hc, hpieces]⟩

lemma name_ofText (key : String) : (FieldRef.ofText key).name = keyName key := by
  obtain ⟨pieces, hpieces⟩ := splitList_eq_cons '|' key.toList
  rw [FieldRef.ofText, Text.split, hpieces]
  rfl

lemma ofKey_eq_ok {key : Value} {ref : FieldRef} :
    FieldRef.ofKey key = .ok ref ↔ ∃ s, key = .text s ∧ ref = FieldRef.ofText s := by
  cases key with
  | text s => simp [FieldRef.ofKey, Value.asCut, Value.asText, Except.map, eq_comm]
  | _ => simp [FieldRef.ofKey, Value.asCut, Value.asText, Except.map]

/-! ## Selections and what they compare -/

def blockSelections : Value → List Entries
  | .map selection => [selection]
  | .list items => items.filterMap Value.entries?
  | _ => []

def selections (entries : Entries) : List Entries :=
  (entries.filter fun e => !e.1.same (.text "condition")).flatMap fun e => blockSelections e.2

def Compares (P : Value → Prop) (selection : Entries) (field : String) : Prop :=
  ∃ key value, (Value.text key, value) ∈ selection ∧ P value ∧ keyName key = field

/-- Some selection of a rule compares a field with a value of which `P` holds. -/
def RuleCompares (P : Value → Prop) (rule : Value) (field : String) : Prop :=
  ∃ entries, rule.getOr "detection" (.map []) = .ok (.map entries) ∧
    ∃ selection ∈ selections entries, Compares P selection field

variable {field : String}

variable {rule : Value} {entries : Entries}

lemma RuleCompares.imp {Q : Value → Prop} (hPQ : ∀ v, P v → Q v)
    (h : RuleCompares P rule field) : RuleCompares Q rule field := by
  obtain ⟨entries, hentries, selection, hselection, key, value, hmem, hP, hname⟩ := h
  exact ⟨entries, hentries, selection, hselection, key, value, hmem, hPQ value hP, hname⟩

lemma compares_nil : ¬Compares P [] field := by
  rintro ⟨key, value, hmem, -⟩
  simp at hmem

lemma compares_cons {key : String} {value : Value} {selection : Entries} :
    Compares P ((.text key, value) :: selection) field ↔
      P value ∧ keyName key = field ∨ Compares P selection field := by
  constructor
  · rintro ⟨k, v, hmem, hP, rfl⟩
    rcases mem_cons.1 hmem with he | hmem
    · obtain ⟨hk, rfl⟩ := Prod.mk.inj he
      obtain rfl := Value.text.inj hk
      exact .inl ⟨hP, rfl⟩
    · exact .inr ⟨k, v, hmem, hP, rfl⟩
  · rintro (⟨hP, rfl⟩ | ⟨k, v, hmem, hP, rfl⟩)
    · exact ⟨key, value, mem_cons_self, hP, rfl⟩
    · exact ⟨k, v, mem_cons_of_mem _ hmem, hP, rfl⟩

lemma ruleCompares_iff (h : rule.getOr "detection" (.map []) = .ok (.map entries)) :
    RuleCompares P rule field ↔ ∃ selection ∈ selections entries, Compares P selection field := by
  constructor
  · rintro ⟨entries', h', hcompares⟩
    obtain rfl := Value.map.inj (Except.ok.inj (h.symm.trans h'))
    exact hcompares
  · exact fun hcompares => ⟨entries, h, hcompares⟩

/-! ## The fields of a conversion -/

lemma exists_mem_of_mapM {ε α β : Type} {f : α → Except ε β} {xs : List α} {ys : List β}
    (h : xs.mapM f = .ok ys) {x : α} (hx : x ∈ xs) : ∃ y ∈ ys, f x = .ok y :=
  exists_mem_of_forall₂ (mapM_eq_ok.1 h).flip hx

lemma mem_flatMap_of_mapM {ε α β : Type} {f : α → Except ε β} {g : β → Texts} {xs : List α}
    {ys : List β} (h : xs.mapM f = .ok ys) {Q : α → Prop}
    (hstep : ∀ x ∈ xs, ∀ y, f x = .ok y → (field ∈ g y ↔ Q x)) :
    field ∈ ys.flatMap g ↔ ∃ x ∈ xs, Q x := by
  have hall := mapM_eq_ok.1 h
  clear h
  induction hall with
  | nil => simp
  | @cons x y xs ys hxy _ ih =>
    obtain ⟨hx, hxs⟩ := forall_mem_cons.1 hstep
    rw [flatMap_cons, mem_append, hx y hxy, exists_mem_cons_iff]
    exact or_congr_right (ih hxs)

lemma mem_selectionFields {refs : List (FieldRef × Value)}
    (h : selectionRefs entries = .ok refs) :
    field ∈ selectionFields refs ↔ Compares (fun _ => True) entries field := by
  have hall := mapM_eq_ok.1 h
  rw [selectionFields, mem_eraseDups]
  clear h
  induction hall with
  | nil => simp [compares_nil]
  | @cons e r entries refs he _ ih =>
    obtain ⟨key, value⟩ := e
    obtain ⟨hkey, -, -⟩ := entryRef_eq_ok.1 he
    obtain ⟨s, rfl, href⟩ := ofKey_eq_ok.1 hkey
    rw [map_cons, mem_cons, href, name_ofText, compares_cons]
    simpa [eq_comm] using or_congr_right ih

section

variable {fields : FieldMap} {field : String} {b : Block}

variable {entries : Entries} {v : Value}

lemma mem_fields_ofSelection (h : Block.ofSelection fields entries = .ok b) :
    field ∈ b.fields ↔ Compares (fun _ => True) entries field := by
  obtain ⟨refs, hrefs, hb⟩ := bind_eq_ok.1 h
  obtain rfl := Except.ok.inj hb
  exact mem_selectionFields hrefs

lemma mem_fields_ofItem (h : Block.ofItem fields v = .ok b) :
    field ∈ b.fields ↔ ∃ selection, v.entries? = some selection ∧
      Compares (fun _ => True) selection field := by
  cases v with
  | map entries => simp [Value.entries?, mem_fields_ofSelection h]
  | _ =>
    obtain rfl := Except.ok.inj h
    simp [Value.entries?]

lemma mem_fields_ofValue (h : Block.ofValue fields v = .ok b) : field ∈ b.fields ↔
      ∃ selection ∈ blockSelections v, Compares (fun _ => True) selection field := by
  cases v with
  | map entries => simp [blockSelections, mem_fields_ofSelection h]
  | list items =>
    obtain ⟨blocks, hblocks, hb⟩ := bind_eq_ok.1 h
    obtain rfl := Except.ok.inj hb
    rw [mem_flatMap_of_mapM hblocks fun v _ b hb => mem_fields_ofItem hb]
    simp only [blockSelections, mem_filterMap]
    constructor
    · rintro ⟨v, hv, selection, hselection, hfield⟩
      exact ⟨selection, ⟨v, hv, hselection⟩, hfield⟩
    · rintro ⟨selection, ⟨v, hv, hselection⟩, hfield⟩
      exact ⟨v, hv, selection, hselection, hfield⟩
  | _ =>
    obtain rfl := Except.ok.inj h
    simp [blockSelections]

lemma mem_fieldsOf {blocks : List (Value × Block)} (h : blocksOf fields entries = .ok blocks) :
    field ∈ fieldsOf blocks ↔
      ∃ selection ∈ selections entries, Compares (fun _ => True) selection field := by
  have hblock : ∀ e ∈ entries.filter fun e => !e.1.same (.text "condition"), ∀ b : Value × Block,
      (Block.ofValue fields e.2).map (e.1, ·) = .ok b → (field ∈ b.2.fields ↔
        ∃ selection ∈ blockSelections e.2, Compares (fun _ => True) selection field) := by
    intro e _ b hb
    obtain ⟨block, hblock, rfl⟩ := map_eq_ok.1 hb
    exact mem_fields_ofValue hblock
  rw [fieldsOf, mem_mergeSort, mem_eraseDups, mem_flatMap_of_mapM h hblock]
  simp only [selections, mem_flatMap]
  constructor
  · rintro ⟨e, he, selection, hselection, hfield⟩
    exact ⟨selection, ⟨e, he, hselection⟩, hfield⟩
  · rintro ⟨selection, ⟨e, he, hselection⟩, hfield⟩
    exact ⟨e, he, selection, hselection, hfield⟩

end

end Conversion

end Huntbook
