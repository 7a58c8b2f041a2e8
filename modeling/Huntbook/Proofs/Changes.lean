import Huntbook.Proofs.Tables

/-!
# Change statements

What a change statement does to a table. Whatever its text is, the table stays one as statements
keep it.
-/

namespace Huntbook.Store

open List

variable {part : Part} {now : Moment} {values : List Value} {n : Nat}

/-! ## Any statement -/

namespace Change

lemma mem_of_limited {α : Type} {limit offset : Option Cell} {items kept : List α}
    (h : limited limit offset items = .ok kept) {x : α} (hx : x ∈ kept) : x ∈ items := by
  unfold limited at h
  dsimp only at h
  split at h
  · cases h
    exact hx
  · obtain ⟨n, -, h⟩ := bind_eq_ok.1 h
    have hpart (k : Int) (hx : x ∈ if n < 0 then items.drop k.toNat
        else (items.drop k.toNat).take n.toNat) : x ∈ items := by
      split at hx
      · exact mem_of_mem_drop hx
      · exact mem_of_mem_drop (mem_of_mem_take hx)
    split at h
    · obtain ⟨k, -, h⟩ := bind_eq_ok.1 h
      cases h
      exact hpart k hx
    · cases h
      exact hpart 0 hx

variable {change : Change} {scope : Scope} {t : Table}

variable {e : Row × List Bound}

lemma mem_of_matched {found : List (Row × List Bound)} (h : change.matched scope t = .ok found)
    (he : e ∈ found) : e.1 ∈ t.rows := by
  obtain ⟨besides, -, h⟩ := bind_eq_ok.1 h
  obtain ⟨options, hoptions, h⟩ := bind_eq_ok.1 h
  cases h
  obtain ⟨o, ho, hoe⟩ := mem_filterMap.1 he
  obtain ⟨r, hr, hro⟩ := Conversion.exists_of_mem_mapM hoptions ho
  have hfound (fitting : List (List Bound)) (hoe : fitting.getLast?.map (r, ·) = some e) :
      e.1 ∈ t.rows := by
    obtain ⟨beside, -, rfl⟩ := Option.map_eq_some_iff.1 hoe
    exact hr
  split at hro
  · cases hro
    exact hfound besides hoe
  · obtain ⟨fitting, -, hro⟩ := bind_eq_ok.1 hro
    cases hro
    exact hfound fitting hoe

lemma mem_of_chosen {rows : List (Row × List Bound)} (h : change.chosen scope t = .ok rows)
    (he : e ∈ rows) : e.1 ∈ t.rows := by
  obtain ⟨found, hfound, h⟩ := bind_eq_ok.1 h
  obtain ⟨keyed, hkeyed, h⟩ := bind_eq_ok.1 h
  obtain ⟨limit, -, h⟩ := bind_eq_ok.1 h
  obtain ⟨offset, -, h⟩ := bind_eq_ok.1 h
  obtain ⟨k, hk, rfl⟩ := mem_map.1 (mem_of_limited h he)
  have hk : k ∈ keyed := by
    split at hk
    · exact hk
    · exact mem_mergeSort.1 hk
  obtain ⟨f, hf, hfk⟩ := Conversion.exists_of_mem_mapM hkeyed hk
  obtain ⟨keys, -, hfk⟩ := bind_eq_ok.1 hfk
  cases hfk
  exact mem_of_matched hfound hf

lemma names_assign {beside : List Bound} {r new : Row}
    (h : change.assign scope t beside r = .ok new) : new.cells.map (·.1) = r.cells.map (·.1) := by
  let Kept (row : Row) : Prop := row.cells.map (·.1) = r.cells.map (·.1)
  refine foldlM_keeps (P := Kept) (fun set _ row row' hrow h => ?_) rfl h
  obtain ⟨cells, -, h⟩ := bind_eq_ok.1 h
  refine foldlM_keeps (P := Kept) (fun e _ row row' hrow h => ?_) hrow h
  dsimp only at h
  split at h
  · cases h
  · split at h
    · split at h
      · cases h
        exact hrow
      · cases h
    · cases h
      exact (row.names_set _ _).trans hrow

lemma run_eq_ok {tables : List Table} {now : Moment} {values : List Value} {n : Nat}
    {t' : Table} (h : change.run tables now t values = .ok (n, t')) :
    ∃ cells rows, Cell.ofValues values = .ok cells ∧ change.slots = values.length ∧
      change.chosen { tables, now, slots := cells } t = .ok rows ∧
      rows.foldlM (fun t e => do
        t.replace e.1.id (← change.assign { tables, now, slots := cells } t e.2 e.1)) t
          = .ok t' := by
  obtain ⟨-, -, h⟩ := bind_eq_ok.1 h
  split at h
  · cases h
  · rename_i hslots
    obtain ⟨cells, hcells, h⟩ := bind_eq_ok.1 h
    obtain ⟨rows, hrows, h⟩ := bind_eq_ok.1 h
    obtain ⟨t₁, ht₁, h⟩ := bind_eq_ok.1 h
    split at h
    · cases h
    · cases h
      exact ⟨cells, rows, hcells, by simpa using hslots, hrows, ht₁⟩

end Change

lemma Part.Fits.run {t t' : Table} (h : part.Fits t) {change : Change} {tables : List Table}
    (hrun : change.run tables now t values = .ok (n, t')) : part.Fits t' := by
  obtain ⟨cells, rows, -, -, hrows, hfold⟩ := Change.run_eq_ok hrun
  refine foldlM_keeps (fun e he b b' hb hstep => ?_) h hfold
  obtain ⟨new, hnew, hreplace⟩ := bind_eq_ok.1 hstep
  refine hb.replace ?_ hreplace
  rw [Change.names_assign hnew]
  exact h.filled e.1 (Change.mem_of_chosen hrows he)

variable {columns : Texts} {r : Row} {id : Value}

lemma Sound.modify {s s' : Store} (h : s.Sound)
    (hmodify : s.modify part now columns values = .ok (n, s')) : s'.Sound := by
  obtain ⟨change, -, hmodify⟩ := bind_eq_ok.1 hmodify
  obtain ⟨⟨n, t⟩, hrun, hmodify⟩ := bind_eq_ok.1 hmodify
  cases hmodify
  exact h.put ((h part).run hrun)

/-! ## Columns of the table -/

/-- Whether a key equals a value, which may be the text of a number or a double. -/
def Cell.names (c : Cell) (id : Int) : Bool :=
  ({ affinity := .number } : Comparison).compare? (.int id) c == some .eq

lemma eq_of_bound_int {n : Int} {c : Cell} (h : bound (.int n) = .ok c) : c = .int n := by
  rw [bound, Cell.ofValue] at h
  split at h <;> cases h
  rfl

lemma eq_of_bound_text {s : String} {c : Cell} (h : bound (.text s) = .ok c) : c = .text s := by
  rw [bound, Cell.ofValue] at h
  split at h <;> cases h
  rfl

lemma Part.Made.text {part : Part} {now : Moment} {values : Fields} {row : Row}
    (h : part.Made now values row) {column s : String}
    (hcolumn : column ∈ part.columnNames)
    (hv : values.lookup column = some (.text s)) (hleaning : part.leaning column = .text) :
    row.get column = .text s := by
  obtain ⟨c, hc, hget⟩ := h.given column hcolumn _ hv
  rw [hget, hleaning, eq_of_bound_text hc]
  rfl

lemma bound_int {n : Int} (h : leastInt ≤ n ∧ n ≤ greatestInt) :
    bound (.int n) = .ok (.int n) := by
  rw [bound, Cell.ofValue, if_pos (by simpa using h)]

lemma Cell.names_int_iff {n id : Int} : (Cell.int n).names id ↔ id = n := by
  have hless : (Cell.int n).names id ↔ ¬id < n ∧ ¬n < id := by
    simp [names, Comparison.compare?, isNull, Affinity.apply, Sorting.compare, Sorting.key, less]
  rw [hless]
  omega

def Part.assigned (part : Part) (entries : List (String × Cell)) (r : Row) : Row :=
  entries.foldl (fun r e => r.set e.1 ((part.leaning e.1).apply e.2)) r

def Part.Named (part : Part) (columns : Texts) : Prop :=
  columns ≠ [] ∧ ∀ c ∈ columns, c ∈ part.columnNames

instance (part : Part) (columns : Texts) : Decidable (part.Named columns) :=
  inferInstanceAs (Decidable (_ ∧ _))

lemma Part.column?_empty (part : Part) : ∀ c ∈ part.columnNames,
      part.empty.column? c = some (c, part.leaning c) ∧ c ≠ "id" := by
  cases part <;> decide +kernel

lemma Part.Fits.column? {t : Table} (h : part.Fits t) {c : String}
    (hc : c ∈ part.columnNames) : t.column? c = some (c, part.leaning c) := by
  rw [← (part.column?_empty c hc).1, Table.column?, Table.column?, h.columns_eq]

namespace Change

section

variable (scope : Scope) (t : Table) (columns : Texts)

lemma toLower_id : "id".toLower = "id" := by decide +kernel

lemma get?_id (r : Row) : (Bound.ofRow t t.name r).get? "id" = some (.number, .int r.id) := by
  simp [Bound.get?, Bound.ofRow, Bound.ofTable, findIdx?_cons, toLower_id]

lemma column_id (r : Row) :
    (scope.inside [Bound.ofRow t t.name r]).column ["id"] .plain = .ok (.number, .int r.id) := by
  simp only [Scope.column, Scope.inside, Scope.lookFrom, Scope.among, toLower_id,
    filterMap_cons, get?_id, filterMap_nil]
  rfl

lemma operands_id (n : Nat) (r : Row) :
    Expr.operands (n + 2) (scope.inside [Bound.ofRow t t.name r]) (.column ["id"] .plain)
      = .ok [⟨.number, none, .int r.id⟩] := by
  simp only [Expr.operands, Expr.affinity, Expr.eval, Expr.sortingName, column_id]
  rfl

lemma operands_slot (n k : Nat) : Expr.operands (n + 2) scope (.slot k)
      = .ok [⟨.none, none, scope.slots.getD (k - 1) .null⟩] := by
  rfl

lemma operands_clock (n : Nat) : Expr.operands (n + 2) scope (.clock .stamp)
      = .ok [⟨.none, none, .text (Instant.ofMoment scope.now).stampText⟩] := by
  rfl

lemma eval_key (n k : Nat) (r : Row) :
    ∃ c, Expr.eval (n + 4) (scope.inside [Bound.ofRow t t.name r])
        (.binary .eq (.column ["id"] .plain) (.slot k)) = .ok c ∧
      (c.truth? == some true) = (scope.slots.getD (k - 1) .null).names r.id := by
  rw [Expr.eval, Expr.evalBinary, operands_id, operands_slot]
  refine ⟨_, rfl, ?_⟩
  simp only [Cell.names, Scope.inside]
  generalize scope.slots.getD (k - 1) .null = c
  -- Of the comparison, only whether it comes out equal matters.
  show ((Cell.ofTruth? (bothTrue ((({ affinity := .number } : Comparison).compare? (.int r.id) c).map
    (· == .eq)) (some true))).truth? == some true) = _
  rcases ({ affinity := .number } : Comparison).compare? (.int r.id) c with _ | (_ | _ | _) <;> rfl

lemma matched_plain : (plain columns).matched scope t =
    .ok ((t.rows.filter fun r => (scope.slots.getD columns.length .null).names r.id).map (·, [])) := by
  have hbeside : Query.joined deepest scope (plain columns).sources = .ok [[]] := rfl
  rw [matched, hbeside]
  show ((t.rows.mapM fun r => do
    let fitting ← [[]].filterM fun beside => do
      return (← Expr.eval deepest (scope.inside (Bound.ofRow t t.name r :: beside))
        (.binary .eq (.column ["id"] .plain) (.slot (columns.length + 1)))).truth? == some true
    return fitting.getLast?.map (r, ·)) >>= fun found => pure (found.filterMap id)) = _
  generalize t.rows = rows
  have hrow (r : Row) : (do
      let fitting ← [[]].filterM fun beside => do
        return (← Expr.eval deepest (scope.inside (Bound.ofRow t t.name r :: beside))
          (.binary .eq (.column ["id"] .plain) (.slot (columns.length + 1)))).truth? == some true
      return fitting.getLast?.map (r, ·) : Except Error (Option (Row × List Bound))) =
      .ok (if (scope.slots.getD columns.length .null).names r.id then some (r, []) else none) := by
    obtain ⟨c, hc, hnames⟩ := eval_key scope t 996 (columns.length + 1) r
    rw [Nat.add_sub_cancel] at hnames
    rw [← hnames]
    simp only [filterM, filterAuxM, show deepest = 996 + 4 from rfl, hc, ok_bind, pure_bind]
    cases (c.truth? == some true) <;> rfl
  simp only [hrow]
  rw [show (rows.mapM fun r => (Except.ok (if (scope.slots.getD columns.length .null).names r.id
    then some (r, []) else none) : Except Error _)) = _ from mapM_pure]
  rw [pure_bind, filterMap_map]
  rw [← filterMap_eq_map, filterMap_filter]
  rfl

lemma chosen_plain : (plain columns).chosen scope t =
    .ok ((t.rows.filter fun r => (scope.slots.getD columns.length .null).names r.id).map (·, [])) := by
  rw [chosen, matched_plain, ok_bind]
  generalize (t.rows.filter fun r => (scope.slots.getD columns.length .null).names r.id) = rows
  show (((rows.map (·, [])).mapM fun e => (pure ([], e.1, e.2) : Except Error _)) >>= fun keyed =>
    pure (keyed.map (·.2))) = _
  rw [mapM_pure, pure_bind, map_map, map_map]
  rfl

end

variable {scope : Scope} {part : Part} {t : Table} (hfits : part.Fits t)

include hfits

lemma assignTo_singleton {inner : Scope} {c : String}
    (hc : c ∈ part.columnNames) {e : Expr} {o : Operand}
    (he : e.operands deepest inner = .ok [o]) (new : Row) :
    assignTo t inner new ([c], e) = .ok (new.set c ((part.leaning c).apply o.cell)) := by
  have hid : (c == "id") = false := beq_false_of_ne (part.column?_empty c hc).2
  simp only [assignTo, cellsOf, he, ok_bind, pure_bind, map_cons, map_nil,
    zip_cons_cons, zip_nil_left, foldlM_cons, foldlM_nil, hfits.column? hc,
    hid, Bool.false_eq_true, if_false]
  rfl

variable {columns : Texts}

lemma foldlM_assignTo (inner : Scope)
    (hcolumns : ∀ c ∈ columns, c ∈ part.columnNames) (k : Nat)
    (hslots : k + columns.length ≤ inner.slots.length) (r : Row) :
    ((columns.zipIdx k).map fun (c, i) => ([c], Expr.slot (i + 1))).foldlM (assignTo t inner) r
      = .ok (part.assigned (columns.zip (inner.slots.drop k)) r) := by
  induction columns generalizing k r with
  | nil => rfl
  | cons c columns ih =>
    rw [forall_mem_cons] at hcolumns
    rw [length_cons] at hslots
    have hslot : k < inner.slots.length := by omega
    rw [zipIdx_cons, map_cons, foldlM_cons,
      assignTo_singleton hfits hcolumns.1 (operands_slot inner 998 (k + 1)), ok_bind,
      ih hcolumns.2 (k + 1) (by omega), drop_eq_getElem_cons hslot, zip_cons_cons,
      Nat.add_sub_cancel, getD_eq_getElem _ _ hslot]
    rfl

lemma assign_plain (hstamp : "updated_at" ∈ part.columnNames)
    (hcolumns : ∀ c ∈ columns, c ∈ part.columnNames)
    (hslots : columns.length ≤ scope.slots.length) (r : Row) :
    (plain columns).assign scope t [] r = .ok (part.assigned (columns.zip scope.slots
      ++ [("updated_at", .text (Instant.ofMoment scope.now).stampText)]) r) := by
  rw [assign, plain, foldlM_append, Part.assigned, foldl_append]
  have hfirst := foldlM_assignTo hfits (scope.inside [Bound.ofRow t t.name r]) hcolumns 0
    (by rwa [Nat.zero_add]) r
  rw [hfirst, ok_bind, foldlM_cons, assignTo_singleton hfits hstamp (operands_clock _ 998)]
  rfl

end Change

lemma Table.sides_of_rising {before after : List Row}
    (h : (before ++ r :: after).Pairwise (·.id < ·.id)) :
    (∀ b ∈ before, b.id < r.id) ∧ ∀ a ∈ after, r.id < a.id := by
  rw [pairwise_append, pairwise_cons] at h
  exact ⟨fun b hb => h.2.2 b hb r mem_cons_self, h.2.1.1⟩

lemma Table.foldlM_replace {p : Row → Bool} {f : Row → Row} (hid : ∀ r, (f r).id = r.id)
    (before : List Row) {rows : List Row} {t t' : Table}
    (hrising : (before ++ rows).Pairwise (·.id < ·.id))
    (hrows : t.rows = before.map (fun r => if p r then f r else r) ++ rows)
    (h : (rows.filter p).foldlM (fun t r => t.replace r.id (f r)) t = .ok t') :
    t' = { t with rows := (before ++ rows).map fun r => if p r then f r else r } := by
  -- The rows before have been replaced already.
  induction rows generalizing before t with
  | nil =>
    cases h
    rw [append_nil] at hrows ⊢
    rw [← hrows]
  | cons r rows ih =>
    have hassoc : before ++ r :: rows = (before ++ [r]) ++ rows := by simp
    by_cases hp : p r = true
    · rw [filter_cons_of_pos hp, foldlM_cons] at h
      obtain ⟨t₁, hreplace, h⟩ := bind_eq_ok.1 h
      obtain ⟨-, rfl⟩ := replace_eq_ok hreplace
      obtain ⟨hbefore, hafter⟩ := sides_of_rising hrising
      have hkept : ∀ b ∈ before.map fun r => if p r then f r else r, b.id < r.id := by
        intro b hb
        obtain ⟨a, ha, rfl⟩ := mem_map.1 hb
        have hlt := hbefore a ha
        split
        · rwa [hid]
        · exact hlt
      have hplaced : place (f r) (t.rows.filter (·.id != r.id)) =
          (before ++ [r]).map (fun r => if p r then f r else r) ++ rows := by
        rw [hrows, filter_append, filter_cons_of_neg (by simp),
          filter_eq_self.2 fun b hb => by simpa using Int.ne_of_lt (hkept b hb),
          filter_eq_self.2 fun b hb => by simpa using Int.ne_of_gt (hafter b hb),
          place_append (fun b hb => by rw [hid]; exact hkept b hb)
            (fun b hb => by rw [hid]; exact hafter b hb)]
        simp [hp]
      rw [hassoc] at hrising ⊢
      exact @ih (before ++ [r]) { t with rows := place (f r) (t.rows.filter (·.id != r.id)) } hrising
        hplaced h
    · rw [filter_cons_of_neg hp] at h
      rw [hassoc] at hrising ⊢
      refine ih (before ++ [r]) hrising ?_ h
      rw [hrows, map_append]
      simp [hp]

lemma Part.id_assigned (part : Part) (entries : List (String × Cell)) (r : Row) :
    (part.assigned entries r).id = r.id := by
  induction entries generalizing r with
  | nil => rfl
  | cons e entries ih => exact ih _

lemma Part.names_assigned (part : Part) (entries : List (String × Cell)) (r : Row) :
    (part.assigned entries r).cells.map (·.1) = r.cells.map (·.1) := by
  induction entries generalizing r with
  | nil => rfl
  | cons e entries ih => exact (ih _).trans (r.names_set _ _)

lemma Part.get_assigned (part : Part) {entries : List (String × Cell)}
    {column : String} (hid : column ≠ "id") (hcolumn : column ∈ r.cells.map (·.1)) :
    (part.assigned entries r).get column =
      ((entries.reverse.lookup column).map (part.leaning column).apply).getD (r.get column) := by
  induction entries using reverseRecOn with
  | nil => rfl
  | append_singleton entries e ih =>
    have hset : part.assigned (entries ++ [e]) r =
        (part.assigned entries r).set e.1 ((part.leaning e.1).apply e.2) := foldl_append
    rw [hset, reverse_append, reverse_singleton, singleton_append, lookup_cons]
    by_cases heq : column = e.1
    · subst heq
      rw [Row.get_set_self _ hid (by rwa [part.names_assigned]), beq_self_eq_true]
      rfl
    · rw [Row.get_set_of_ne _ heq, ih, beq_false_of_ne heq]

lemma forall₂_concat {α β : Type} {R : α → β → Prop} {xs : List α} {x : α} {zs : List β}
    (h : Forall₂ R (xs ++ [x]) zs) : ∃ ys y, Forall₂ R xs ys ∧ R x y ∧ zs = ys ++ [y] := by
  induction xs generalizing zs with
  | nil =>
    obtain ⟨y, ys, hxy, hnil, rfl⟩ := forall₂_cons_left_iff.1 h
    cases hnil
    exact ⟨[], y, .nil, hxy, rfl⟩
  | cons x' xs ih =>
    obtain ⟨y', zs, hxy', hrest, rfl⟩ := forall₂_cons_left_iff.1 h
    obtain ⟨ys, y, hys, hxy, rfl⟩ := ih hrest
    exact ⟨y' :: ys, y, .cons hxy' hys, hxy, rfl⟩

def changeStamp (now : Moment) : Cell := .text (Instant.ofMoment now).stampText

lemma modify_eq_ok {s s' : Store} (hfits : part.Fits (s.table part))
    (hstamp : "updated_at" ∈ part.columnNames) (hcolumns : part.Named columns)
    (h : s.modify part now columns (values ++ [id]) = .ok (n, s')) :
    ∃ cells key, Forall₂ (fun v c => bound v = .ok c) values cells ∧ bound id = .ok key ∧
      cells.length = columns.length ∧ s' = s.put part ((s.table part).mapRows fun r =>
        if key.names r.id then
          part.assigned (columns.zip cells ++ [("updated_at", changeStamp now)]) r else r) := by
  obtain ⟨change, hchange, h⟩ := bind_eq_ok.1 h
  obtain ⟨⟨n, t⟩, hrun, h⟩ := bind_eq_ok.1 h
  cases h
  have hplain : change = .plain columns := by
    rw [Change.ofColumns, if_pos] at hchange
    · exact (Except.ok.inj hchange).symm
    · simpa [Part.Named, hfits.columns_eq] using hcolumns
  rw [hplain] at hrun
  obtain ⟨slots, rows, hslots, hcount, hrows, hfold⟩ := Change.run_eq_ok hrun
  -- The last of the cells is that of the key.
  obtain ⟨cells, key, hcells, hkey, rfl⟩ := forall₂_concat (ofValues_eq_ok hslots)
  have hlength : cells.length = columns.length := by
    have hvalues := hcells.length_eq
    simp only [Change.plain, length_append, length_singleton] at hcount
    omega
  refine ⟨cells, key, hcells, hkey, hlength, congrArg (s.put part) ?_⟩
  rw [Change.chosen_plain] at hrows
  cases hrows
  let renewed (r : Row) : Row :=
    part.assigned (columns.zip cells ++ [("updated_at", changeStamp now)]) r
  have hzip : columns.zip (cells ++ [key]) = columns.zip cells := by
    have hboth : (columns ++ []).zip (cells ++ [key]) = _ := zip_append hlength.symm
    simpa using hboth
  have hlast : (cells ++ [key]).getD columns.length .null = key := by
    simp [← hlength]
  rw [hlast] at hfold
  -- The columns of every table on the way are those of the first, so each row gets the same cells.
  rw [foldlM_map, foldlM_congr (g := fun t r => t.replace r.id (renewed r))
    (P := part.Fits) _ _ hfits] at hfold
  · exact Table.foldlM_replace (part.id_assigned _) [] hfits.rising rfl hfold
  · intro r _ t ht
    rw [Change.assign_plain ht hstamp hcolumns.2 (by simp [hlength]), ok_bind]
    rw [hzip]
    rfl
  · intro r hr t t' ht h
    refine ht.replace ?_ h
    rw [part.names_assigned]
    exact hfits.filled r (mem_of_mem_filter hr)

/-- A row with columns changed: those that are given hold what was given for them last, the stamp is
    new, and the others are kept. -/
structure Part.Remade (part : Part) (now : Moment) (values : Fields) (r new : Row) :
    Prop where
  given : ∀ name ∈ part.columnNames, name ≠ "updated_at" → ∀ v,
    values.reverse.lookup name = some v →
      ∃ c, bound v = .ok c ∧ new.get name = (part.leaning name).apply c
  kept : ∀ name ∈ part.columnNames, name ≠ "updated_at" →
    values.reverse.lookup name = none → new.get name = r.get name
  stamp : new.get "updated_at" = (part.leaning "updated_at").apply (changeStamp now)

lemma modify_made {s s' : Store} (hfits : part.Fits (s.table part))
    (hstamp : "updated_at" ∈ part.columnNames) (values : Fields)
    (hcolumns : part.Named (values.map (·.1)))
    (h : s.modify part now (values.map (·.1)) (values.map (·.2) ++ [id]) = .ok (n, s')) :
    ∃ (key : Cell) (renew : Row → Row), bound id = .ok key ∧
      s' = s.put part ((s.table part).mapRows fun r => if key.names r.id then renew r else r) ∧
      (∀ r, (renew r).id = r.id) ∧
      ∀ r ∈ (s.table part).rows, part.Remade now values r (renew r) := by
  obtain ⟨cells, key, hcells, hkey, -, rfl⟩ := modify_eq_ok hfits hstamp hcolumns h
  have hlookup (name : String) := lookup_rel (R := fun v c => bound v = .ok c)
    (forall₂_reverse_iff.2 (forall₂_zip hcells)) name
  refine ⟨key, _, hkey, rfl, part.id_assigned _, fun r hr => ?_⟩
  -- The stamp stands after the given columns, so a column apart from it is looked up in these.
  have hget {name : String} (hname : name ∈ part.columnNames) :
      (part.assigned (((values.map (·.1)).zip cells) ++ [("updated_at", changeStamp now)]) r).get
        name = (((("updated_at", changeStamp now) ::
          ((values.map (·.1)).zip cells).reverse).lookup name).map
            (part.leaning name).apply).getD (r.get name) := by
    rw [part.get_assigned (part.ne_id name hname) (by rwa [hfits.filled r hr]),
      reverse_append, reverse_singleton, singleton_append]
  constructor
  · intro name hname hne v hv
    have hcell := hlookup name
    rw [hget hname, lookup_cons, beq_false_of_ne hne]
    rw [hv] at hcell
    generalize ((values.map (·.1)).zip cells).reverse.lookup name = found at hcell ⊢
    cases hcell with
    | some hbound => exact ⟨_, hbound, rfl⟩
  · intro name hname hne hnone
    have hcell := hlookup name
    rw [hget hname, lookup_cons, beq_false_of_ne hne]
    rw [hnone] at hcell
    generalize ((values.map (·.1)).zip cells).reverse.lookup name = found at hcell ⊢
    cases hcell
    rfl
  · rw [hget hstamp, lookup_cons, beq_self_eq_true]
    rfl

end Huntbook.Store
