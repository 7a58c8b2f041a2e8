import Huntbook.Proofs.Part
import Huntbook.Store.Basic

/-!
# Tables

What statements do to the tables of the store. Whatever the statements are, a table keeps the
columns of its kind, its rows stay in the order of their keys, no two of them with the same one,
and every row has a cell for every column.
-/

namespace Huntbook

open List

/-! ## Work step by step -/

section

variable {ε σ α β : Type}

lemma run_bind (w : ExceptT ε (StateM σ) α) (f : α → ExceptT ε (StateM σ) β) (s : σ) :
    (w >>= f).run.run s = match w.run.run s with
      | (.ok a, s') => (f a).run.run s'
      | (.error e, s') => (.error e, s') := by
  simp only [ExceptT.bind, ExceptT.run, ExceptT.mk, StateT.run, bind, StateT.bind]
  rcases w s with ⟨_ | _, _⟩ <;> rfl

lemma run_bind_eq_ok {w : ExceptT ε (StateM σ) α} {f : α → ExceptT ε (StateM σ) β} {s s' : σ}
    {b : β} : (w >>= f).run.run s = (.ok b, s') ↔
      ∃ a s₁, w.run.run s = (.ok a, s₁) ∧ (f a).run.run s₁ = (.ok b, s') := by
  rw [run_bind]
  rcases w.run.run s with ⟨e | a, s₁⟩
  · constructor
    · intro h
      cases h
    · rintro ⟨a, s₂, h, -⟩
      cases h
  · constructor
    · exact fun h => ⟨a, s₁, rfl, h⟩
    · rintro ⟨a', s₂, h, hf⟩
      cases h
      exact hf

lemma foldlM_keeps {f : β → α → Except ε β} {P : β → Prop} {xs : List α} {b b' : β}
    (hstep : ∀ x ∈ xs, ∀ b b', P b → f b x = .ok b' → P b') (hstart : P b)
    (h : xs.foldlM f b = .ok b') : P b' := by
  induction xs generalizing b with
  | nil =>
    cases h
    exact hstart
  | cons x xs ih =>
    rw [forall_mem_cons] at hstep
    obtain ⟨b₁, hfirst, h⟩ := bind_eq_ok.1 h
    exact ih hstep.2 (hstep.1 b b₁ hstart hfirst) h

lemma foldlM_congr {f g : β → α → Except ε β} {P : β → Prop} {xs : List α} {b : β}
    (heq : ∀ x ∈ xs, ∀ b, P b → f b x = g b x)
    (hstep : ∀ x ∈ xs, ∀ b b', P b → g b x = .ok b' → P b') (hstart : P b) :
    xs.foldlM f b = xs.foldlM g b := by
  induction xs generalizing b with
  | nil => rfl
  | cons x xs ih =>
    rw [forall_mem_cons] at heq hstep
    rw [foldlM_cons, foldlM_cons, heq.1 b hstart]
    cases hfirst : g b x with
    | error e => rfl
    | ok b₁ => exact ih heq.2 hstep.2 (hstep.1 b b₁ hstart hfirst)

end

namespace Store

variable {now : Moment} {id : Int}

/-! ## Rows -/

section

variable {α : Type} (name : String) (v : α) (entries : List (String × α))

lemma fst_replace :
    (entries.map fun e => if e.1 == name then (name, v) else e).map (·.1) = entries.map (·.1) := by
  rw [map_map]
  refine map_congr_left fun e _ => ?_
  rw [Function.comp_apply]
  split
  · rename_i heq
    exact (eq_of_beq heq).symm
  · rfl

lemma lookup_replace (other : String) :
    (entries.map fun e => if e.1 == name then (name, v) else e).lookup other =
      if other = name then (entries.lookup name).map fun _ => v else entries.lookup other := by
  induction entries with
  | nil => simp
  | cons e entries ih =>
    rw [map_cons, lookup_cons, lookup_cons, lookup_cons, ih]
    by_cases heq : e.1 = name <;> by_cases hother : other = name
    · subst hother
      simp [heq]
    · simp [heq, beq_false_of_ne hother, hother]
    · subst hother
      simp [beq_false_of_ne heq, beq_false_of_ne (Ne.symm heq)]
    · simp [beq_false_of_ne heq, hother]

variable {name entries}

lemma lookup_replace_self (h : name ∈ entries.map (·.1)) :
    (entries.map fun e => if e.1 == name then (name, v) else e).lookup name = some v := by
  obtain ⟨e, he, rfl⟩ := mem_map.1 h
  obtain ⟨w, hw⟩ := Option.isSome_iff_exists.1 (lookup_isSome_iff.2 ⟨e, he, beq_self_eq_true _⟩)
  rw [lookup_replace, if_pos rfl, hw]
  rfl

end

namespace Row

variable (r : Row) (column : String) (c : Cell)

@[simp] lemma id_set : (r.set column c).id = r.id := rfl

@[simp] lemma names_set : (r.set column c).cells.map (·.1) = r.cells.map (·.1) :=
  fst_replace column c r.cells

variable {r column}

lemma get_set_self (hid : column ≠ "id") (h : column ∈ r.cells.map (·.1)) :
    (r.set column c).get column = c := by
  rw [get, if_neg (by simpa using hid), set, lookup_replace_self c h]
  rfl

lemma get_set_of_ne {other : String} (h : other ≠ column) :
    (r.set column c).get other = r.get other := by
  rw [get, set, lookup_replace, if_neg h, get]

end Row

/-! ## Tables -/

namespace Table

variable {row : Row} {rows : List Row}

lemma le_foldl_max (rows : List Row) (n : Int) : n ≤ rows.foldl (fun n r => max n r.id) n ∧
      ∀ r ∈ rows, r.id ≤ rows.foldl (fun n r => max n r.id) n := by
  induction rows generalizing n with
  | nil => exact ⟨Int.le_refl n, by simp⟩
  | cons r rows ih =>
    obtain ⟨hstart, hrows⟩ := ih (max n r.id)
    refine ⟨(Int.le_max_left n r.id).trans hstart, ?_⟩
    rw [forall_mem_cons]
    exact ⟨(Int.le_max_right n r.id).trans hstart, hrows⟩

lemma last_lt_nextKey (t : Table) : t.last < t.nextKey :=
  Int.lt_add_one_of_le (le_foldl_max t.rows t.last).1

lemma lt_nextKey {t : Table} {r : Row} (h : r ∈ t.rows) : r.id < t.nextKey :=
  Int.lt_add_one_of_le ((le_foldl_max t.rows t.last).2 r h)

lemma place_append {before after : List Row} (hbefore : ∀ r ∈ before, r.id < row.id)
    (hafter : ∀ r ∈ after, row.id < r.id) :
    place row (before ++ after) = before ++ row :: after := by
  induction before with
  | nil =>
    cases after with
    | nil => rfl
    | cons r after =>
      rw [forall_mem_cons] at hafter
      exact if_pos hafter.1
  | cons r before ih =>
    rw [forall_mem_cons] at hbefore
    rw [cons_append, place, if_neg (Int.lt_asymm hbefore.1), ih hbefore.2]
    rfl

lemma place_of_lt (h : ∀ r ∈ rows, r.id < row.id) : place row rows = rows ++ [row] := by
  have hplace : place row (rows ++ []) = rows ++ [row] := place_append h (by simp)
  rwa [append_nil] at hplace

lemma place_perm (row : Row) (rows : List Row) : (place row rows).Perm (row :: rows) := by
  induction rows with
  | nil => exact .refl _
  | cons r rows ih =>
    rw [place]
    split
    · exact .refl _
    · exact (ih.cons r).trans (.swap row r rows)

lemma rising_place (h : rows.Pairwise (·.id < ·.id)) (hnew : ∀ r ∈ rows, r.id ≠ row.id) :
    (place row rows).Pairwise (·.id < ·.id) := by
  induction rows with
  | nil => exact pairwise_singleton _ row
  | cons r rows ih =>
    rw [pairwise_cons] at h
    rw [forall_mem_cons] at hnew
    rw [place]
    split
    · rename_i hlt
      refine .cons ?_ (.cons h.1 h.2)
      rw [forall_mem_cons]
      exact ⟨hlt, fun s hs => Int.lt_trans hlt (h.1 s hs)⟩
    · rename_i hle
      refine .cons (fun s hs => ?_) (ih h.2 hnew.2)
      rcases mem_cons.1 ((place_perm row rows).mem_iff.1 hs) with rfl | hs
      · exact lt_of_le_of_ne (Int.not_lt.1 hle) hnew.1
      · exact h.1 s hs

def newRow (t : Table) (now : Cell) (cells : List (String × Cell)) : Row :=
  ⟨t.nextKey, t.columns.map fun c =>
    (c.name, c.leaning.apply ((cells.lookup c.name).getD (match c.fallback with
      | .cell c => c
      | .now => now)))⟩

def mapRows (t : Table) (f : Row → Row) : Table := { t with rows := t.rows.map f }

def withRow (t : Table) (row : Row) : Table :=
  { t with rows := t.rows ++ [row], last := row.id }

lemma insert_eq_ok {t t' : Table} {now : Cell} {cells : List (String × Cell)} {id : Int}
    (h : t.insert now cells = .ok (id, t')) :
    id = t.nextKey ∧ t' = t.withRow (t.newRow now cells) := by
  unfold insert at h
  dsimp only at h
  split at h
  · cases h
  · obtain ⟨-, -, h⟩ := bind_eq_ok.1 h
    cases h
    refine ⟨rfl, ?_⟩
    rw [place_of_lt fun r hr => lt_nextKey hr]
    rfl

lemma ne_of_check {t : Table} {others : List Row} (h : t.check row others = .ok ()) :
    ∀ r ∈ others, r.id ≠ row.id := by
  unfold check at h
  split at h
  · cases h
  · split at h
    · cases h
    · rename_i hnone
      simpa using hnone

lemma replace_eq_ok {t t' : Table} {id : Int} (h : t.replace id row = .ok t') :
    (∀ r ∈ t.rows, r.id ≠ id → r.id ≠ row.id) ∧
      t' = { t with rows := place row (t.rows.filter (·.id != id)) } := by
  obtain ⟨_, hcheck, h⟩ := bind_eq_ok.1 h
  cases h
  refine ⟨fun r hr hne => ne_of_check hcheck r (mem_filter.2 ⟨hr, ?_⟩), rfl⟩
  simpa using hne

lemma eq_of_id_eq (h : rows.Pairwise (·.id < ·.id)) {r r' : Row} (hr : r ∈ rows) (hr' : r' ∈ rows)
    (heq : r.id = r'.id) : r = r' := by
  have hkeys : (rows.map (·.id)).Nodup := pairwise_map.2 (h.imp Int.ne_of_lt)
  exact inj_on_of_nodup_map hkeys hr hr' heq

end Table

/-! ## The store -/

section

variable (s : Store) (part : Part) (t : Table)

@[simp] lemma table_put_self : (s.put part t).table part = t := by
  cases part <;> rfl

lemma table_put_of_ne {other : Part} (h : other ≠ part) :
    (s.put part t).table other = s.table other := by
  cases part <;> cases other <;> first | rfl | exact absurd rfl h

end

lemma put_put (s : Store) (part : Part) (t t' : Table) :
    (s.put part t).put part t' = s.put part t' := by
  cases part <;> rfl

lemma put_table (s : Store) (part : Part) : s.put part (s.table part) = s := by
  cases part <;> rfl

lemma run_change {α : Type} (f : Store → Except Error (α × Store)) (s : Store) :
    (Work.change f).run.run s = match f s with
      | .ok (a, s') => (.ok a, s')
      | .error e => (.error (.store e), s) := by
  rw [Work.change, run_bind]
  show (match f s with
    | .ok (a, s') => (do set s'; return a : Work α)
    | .error e => throw (Fault.store e)).run.run s = _
  cases f s <;> rfl

lemma run_change_eq_ok {α : Type} {f : Store → Except Error (α × Store)} {a : α} {s s' : Store} :
    (Work.change f).run.run s = (.ok a, s') ↔ f s = .ok (a, s') := by
  rw [run_change]
  constructor
  · intro h
    split at h <;> cases h
    assumption
  · intro h
    rw [h]

variable {part : Part} {values : Fields}

lemma add_eq_ok {s s' : Store} (h : s.add part now values = .ok (id, s')) :
    ∃ cells, Cell.ofValues (values.map (·.2)) = .ok cells ∧ id = (s.table part).nextKey ∧
      s' = s.put part ((s.table part).withRow
        ((s.table part).newRow (stampCell now) ((values.map (·.1)).zip cells))) := by
  obtain ⟨cells, hcells, h⟩ := bind_eq_ok.1 h
  obtain ⟨⟨id, t⟩, hinsert, h⟩ := bind_eq_ok.1 h
  cases h
  obtain ⟨rfl, rfl⟩ := Table.insert_eq_ok hinsert
  exact ⟨cells, hcells, rfl, rfl⟩

lemma key_le_of_add {s s' : Store} (h : s.add part now values = .ok (id, s')) :
    id ≤ greatestInt := by
  obtain ⟨cells, -, h⟩ := bind_eq_ok.1 h
  obtain ⟨⟨id, t⟩, hinsert, h⟩ := bind_eq_ok.1 h
  cases h
  unfold Table.insert at hinsert
  dsimp only at hinsert
  split at hinsert
  · cases hinsert
  · rename_i hle
    obtain ⟨-, -, hinsert⟩ := bind_eq_ok.1 hinsert
    cases hinsert
    exact Int.not_lt.1 hle

def noting (s : Store) (row : Row) : Store :=
  { s with conversions := s.conversions.withRow row }

lemma run_saveConversion (now : Moment) (r : Record) (s : Store) :
    (saveConversion now r).run.run s =
      match s.add .conversions now (valuesOf r conversionColumns) with
      | .ok (id, s') => (.ok (r.set "id" (.int id)), s')
      | .error e => (.error (.store e), s) := by
  rw [saveConversion, addRecord, run_bind, run_change]
  cases s.add .conversions now (valuesOf r conversionColumns) <;> rfl

/-! ## Tables as statements keep them -/

abbrev Part.columnNames (part : Part) : Texts := part.empty.columns.map (·.name)

/-- A table as statements keep it: with the columns of its kind, its rows by rising keys, and in
    every row a cell for every column. -/
structure Part.Fits (part : Part) (t : Table) : Prop where
  name_eq : t.name = part.empty.name
  columns_eq : t.columns = part.empty.columns
  rising : t.rows.Pairwise (·.id < ·.id)
  filled : ∀ r ∈ t.rows, r.cells.map (·.1) = part.columnNames

namespace Part.Fits

variable {part : Part} {t t' : Table}

lemma empty (part : Part) : part.Fits part.empty := by
  cases part <;> exact ⟨rfl, rfl, .nil, by simp [Part.empty]⟩

lemma withRow (h : part.Fits t) (now : Cell) (cells : List (String × Cell)) :
    part.Fits (t.withRow (t.newRow now cells)) where
  name_eq := h.name_eq
  columns_eq := h.columns_eq
  rising := by
    refine pairwise_append.2 ⟨h.rising, pairwise_singleton _ _, fun r hr r' hr' => ?_⟩
    rw [mem_singleton.1 hr']
    exact Table.lt_nextKey hr
  filled r hr := by
    rcases mem_append.1 hr with hr | hr
    · exact h.filled r hr
    · rw [mem_singleton.1 hr, Table.newRow, map_map, h.columns_eq]
      rfl

lemma replace (h : part.Fits t) {id : Int} {row : Row}
    (hrow : row.cells.map (·.1) = part.columnNames)
    (ht : t.replace id row = .ok t') : part.Fits t' := by
  obtain ⟨hnew, rfl⟩ := Table.replace_eq_ok ht
  refine ⟨h.name_eq, h.columns_eq, Table.rising_place (h.rising.filter _) fun r hr => ?_, ?_⟩
  · obtain ⟨hr, hne⟩ := mem_filter.1 hr
    exact hnew r hr (by simpa using hne)
  · intro r hr
    rcases mem_cons.1 ((Table.place_perm _ _).mem_iff.1 hr) with rfl | hr
    · exact hrow
    · exact h.filled r (mem_of_mem_filter hr)

lemma erase (h : part.Fits t) (p : Row → Bool) : part.Fits (t.erase p).2 where
  name_eq := h.name_eq
  columns_eq := h.columns_eq
  rising := h.rising.filter _
  filled r hr := h.filled r (mem_of_mem_filter hr)

lemma map (h : part.Fits t) {f : Row → Row} (hid : ∀ r, (f r).id = r.id)
    (hnames : ∀ r, (f r).cells.map (·.1) = r.cells.map (·.1)) : part.Fits (t.mapRows f) where
  name_eq := h.name_eq
  columns_eq := h.columns_eq
  rising := by
    rw [Table.mapRows, pairwise_map]
    simpa only [hid] using h.rising
  filled r hr := by
    obtain ⟨r, hmem, rfl⟩ := mem_map.1 hr
    rw [hnames]
    exact h.filled r hmem

end Part.Fits

/-! ## New rows -/

def Part.leaning (part : Part) (column : String) : Leaning :=
  ((part.empty.columns.find? (·.name == column)).map (·.leaning)).getD .text

def Part.fallback (part : Part) (now : Cell) (column : String) : Cell :=
  match part.empty.columns.find? (·.name == column) with
  | some c => match c.fallback with
    | .cell c => c
    | .now => now
  | none => .null

lemma lookup_map_name {β : Type} (columns : List Column) (f : Column → β) (name : String) :
    (columns.map fun c => (c.name, f c)).lookup name = (columns.find? (·.name == name)).map f := by
  induction columns with
  | nil => rfl
  | cons c columns ih =>
    rw [map_cons, lookup_cons, find?_cons, ih, Bool.beq_comm]
    cases c.name == name <;> rfl

lemma Part.ne_id (part : Part) : ∀ c ∈ part.columnNames, c ≠ "id" := by
  cases part <;> decide

variable {t : Table} {cells : List Cell}

lemma Part.Fits.get_newRow (h : part.Fits t) {column : String}
    (hcolumn : column ∈ part.columnNames) (now : Cell)
    (cells : List (String × Cell)) : (t.newRow now cells).get column =
      (part.leaning column).apply ((cells.lookup column).getD (part.fallback now column)) := by
  rw [Row.get, if_neg (by simpa using part.ne_id column hcolumn), Table.newRow]
  rw [lookup_map_name, h.columns_eq, Part.leaning, Part.fallback]
  cases hfound : part.empty.columns.find? (·.name == column) with
  | none =>
    rw [find?_eq_none] at hfound
    obtain ⟨c, hc, rfl⟩ := mem_map.1 hcolumn
    exact absurd (beq_self_eq_true c.name) (hfound c hc)
  | some c =>
    have hname : c.name = column := by simpa using find?_some hfound
    subst hname
    rfl

lemma bound_of_ofValue {n : Nat} {v : Value} {c : Cell} (h : Cell.ofValue n v = .ok c) :
    bound v = .ok c := by
  unfold bound
  unfold Cell.ofValue at h ⊢
  cases v <;> simp_all

lemma ofValues_eq_ok {values : List Value} (h : Cell.ofValues values = .ok cells) :
    Forall₂ (fun v c => bound v = .ok c) values cells := by
  have hall := Conversion.mapM_eq_ok.1 h
  rw [show values = (values.zipIdx).map (·.1) from (zipIdx_map_fst 0 values).symm,
    forall₂_map_left_iff]
  exact hall.imp fun _ _ => bound_of_ofValue

lemma lookup_rel {α β : Type} {R : α → β → Prop} {xs : List (String × α)}
    {ys : List (String × β)} (h : Forall₂ (fun x y => x.1 = y.1 ∧ R x.2 y.2) xs ys)
    (name : String) : Option.Rel R (xs.lookup name) (ys.lookup name) := by
  induction h with
  | nil => exact .none
  | cons hxy _ ih =>
    rw [lookup_cons, lookup_cons, hxy.1]
    split
    · exact .some hxy.2
    · exact ih

lemma forall₂_zip (h : Forall₂ (fun v c => bound v = .ok c) (values.map (·.2)) cells) :
    Forall₂ (fun v c => v.1 = c.1 ∧ bound v.2 = .ok c.2) values ((values.map (·.1)).zip cells) := by
  induction values generalizing cells with
  | nil => exact .nil
  | cons e values ih =>
    rw [map_cons, forall₂_cons_left_iff] at h
    obtain ⟨c, cells, hc, hcells, rfl⟩ := h
    exact .cons ⟨rfl, hc⟩ (ih hcells)

/-- A row made from values at some moment: a column that is given holds its value, any other one
    what it falls back to. -/
structure Part.Made (part : Part) (now : Moment) (values : Fields) (row : Row) :
    Prop where
  given : ∀ name ∈ part.columnNames, ∀ v, values.lookup name = some v →
    ∃ c, bound v = .ok c ∧ row.get name = (part.leaning name).apply c
  absent : ∀ name ∈ part.columnNames, values.lookup name = none →
    row.get name = (part.leaning name).apply (part.fallback (stampCell now) name)

lemma add_made {s s' : Store} (hfits : part.Fits (s.table part))
    (h : s.add part now values = .ok (id, s')) :
    ∃ row, s' = s.put part ((s.table part).withRow row) ∧ row.id = id ∧
      id = (s.table part).nextKey ∧ part.Made now values row := by
  obtain ⟨cells, hcells, rfl, rfl⟩ := add_eq_ok h
  have hlookup (name : String) :=
    lookup_rel (R := fun v c => bound v = .ok c) (forall₂_zip (ofValues_eq_ok hcells)) name
  refine ⟨_, rfl, rfl, rfl, fun name hname v hv => ?_, fun name hname hnone => ?_⟩
  · have hcell := hlookup name
    rw [hfits.get_newRow hname]
    rw [hv] at hcell
    generalize ((values.map (·.1)).zip cells).lookup name = found at hcell ⊢
    cases hcell with
    | some hc => exact ⟨_, hc, rfl⟩
  · have hcell := hlookup name
    rw [hfits.get_newRow hname]
    rw [hnone] at hcell
    generalize ((values.map (·.1)).zip cells).lookup name = found at hcell ⊢
    cases hcell with
    | none => rfl

/-- A store all of whose tables are as statements keep them. -/
def Sound (s : Store) : Prop := ∀ part : Part, part.Fits (s.table part)

lemma Sound.put {s : Store} (h : s.Sound) (ht : part.Fits t) : (s.put part t).Sound := by
  intro other
  by_cases heq : other = part
  · rw [heq, table_put_self]
    exact ht
  · rw [table_put_of_ne _ _ _ heq]
    exact h other

lemma sound_empty : empty.Sound := by
  intro part
  have h := Part.Fits.empty part
  cases part <;> exact h

lemma Sound.add {s s' : Store} (h : s.Sound) (hadd : s.add part now values = .ok (id, s')) :
    s'.Sound := by
  obtain ⟨cells, -, -, rfl⟩ := add_eq_ok hadd
  exact h.put ((h part).withRow _ _)

end Store

end Huntbook
