import Huntbook.Proofs.Confinement
import Huntbook.Proofs.Clock

/-!
# Field names that are replaced at once

All field names of a profile are replaced by a list of others, or nothing is changed. They are kept
in the order of the list, in rows of their own, and read by their names.

* `Store.importMappings_eq`: what replacing the field names of a profile does.
-/

namespace Huntbook

open List

lemma exists_of_mem_forall₂ {α β : Type} {R : α → β → Prop} {xs : List α} {ys : List β}
    (h : Forall₂ R xs ys) {x : α} (hx : x ∈ xs) : ∃ y, R x y := by
  obtain ⟨i, hi, rfl⟩ := mem_iff_getElem.1 hx
  exact ⟨_, h.get hi (h.length_eq ▸ hi)⟩

/-! ## The last entry of a key -/

namespace Value

variable {t : Option String} {v : Value}

lemma ofText?_same : (ofText? t).same v ↔ v = ofText? t := by
  cases t with
  | none => cases v <;> simp [ofText?, same]
  | some s => exact text_same

lemma same_ofText? : v.same (ofText? t) ↔ v = ofText? t := by
  cases t with
  | none => cases v <;> simp [ofText?, same, number?]
  | some s => exact same_text

lemma find?_put_ofText? (t : Option String) (v key : Value) (entries : Entries) :
    find? (put (ofText? t) v entries) key =
      if key.same (ofText? t) then some v else find? entries key := by
  induction entries with
  | nil => rw [put, find?_cons]
  | cons e entries ih =>
    rw [put]
    split
    · rename_i he
      rw [find?_cons, find?_cons, ofText?_same.1 he]
      split <;> rfl
    · rw [find?_cons, find?_cons, ih]
      by_cases hkey : key.same (ofText? t)
      · have hother : ¬key.same e.1 := by
          rwa [same_ofText?.1 hkey]
        simp [hkey, hother]
      · rw [if_neg hkey, if_neg hkey]

lemma find?_ofEntries {entries : Entries} (h : ∀ e ∈ entries, ∃ t, e.1 = ofText? t)
    (key : Value) : find? (ofEntries entries) key =
      (entries.filter fun e => key.same e.1).getLast?.map (·.2) := by
  have hfold (acc : Entries) :
      find? (entries.foldl (fun acc e => put e.1 e.2 acc) acc) key =
        ((entries.filter fun e => key.same e.1).getLast?.map (·.2)).or (find? acc key) := by
    induction entries generalizing acc with
    | nil => rfl
    | cons e entries ih =>
      rw [forall_mem_cons] at h
      obtain ⟨t, ht⟩ := h.1
      rw [foldl_cons, ih h.2, ht, find?_put_ofText?, ← ht, filter_cons]
      cases hlast : (entries.filter fun e => key.same e.1).getLast? <;> split <;>
        simp [hlast, getLast?_cons]
  rw [ofEntries, hfold]
  exact Option.or_none

end Value

namespace Store

lemma less_ofText {a b : Cell} {t u : WithBot String} (ha : a.toValue = Value.ofText? t)
    (hb : b.toValue = Value.ofText? u) : a.less b = decide (t < u) := by
  cases a <;> cases t <;> cases ha <;> cases b <;> cases u <;> cases hb <;> simp [Cell.less]

/-- Rows that are the same in a column keep their order. -/
lemma filter_rising {column : String} {rows : List Row}
    (h : ∀ r ∈ rows, ∃ t, r.value column = .ofText? t) (key : Value) :
    (rising column rows).filter (fun r => key.same (r.value column)) =
      rows.filter fun r => key.same (r.value column) := by
  let text (r : Row) : WithBot String := (r.value column).text?
  have htext (r : Row) (hr : r ∈ rows) : r.value column = Value.ofText? (text r) := by
    obtain ⟨t, ht⟩ := h r hr
    simp only [text, ht]
    cases t <;> rfl
  have hsorted : rising column rows = rows.mergeSort fun a b => decide (text a ≤ text b) := by
    have hmap := map_mergeSort (f := id) (l := rows)
      (r := fun a b => !(b.get column).less (a.get column))
      (s := fun a b => decide (text a ≤ text b)) fun a ha b hb => by
        rw [less_ofText (htext b hb) (htext a ha), ← decide_not, decide_eq_decide]
        exact not_lt
    rwa [map_id, map_id] at hmap
  have hsublist :
      (rows.filter fun r => key.same (r.value column)).Sublist (rising column rows) := by
    rw [hsorted]
    refine sublist_mergeSort (fun a b c => ?_) (fun a b => ?_) ?_ filter_sublist
    · simpa using le_trans
    · simpa using le_total _ _
    · refine pairwise_of_forall_mem_list fun a ha b hb => decide_eq_true (le_of_eq ?_)
      obtain ⟨ha, hkey⟩ := mem_filter.1 ha
      obtain ⟨hb, hkey'⟩ := mem_filter.1 hb
      rw [htext a ha, Value.same_ofText?, ← htext a ha] at hkey
      rw [htext b hb, Value.same_ofText?, ← htext b hb] at hkey'
      exact congrArg Value.text? (hkey.symm.trans hkey')
  have hfilter := hsublist.filter fun r => key.same (r.value column)
  rw [filter_filter] at hfilter
  simp only [Bool.and_self] at hfilter
  exact (hfilter.eq_of_length ((mergeSort_perm rows _).filter _).length_eq.symm).symm

/-! ## Field names that are replaced -/

/-- A field name to import. What it says of its own key, of its profile and of its age is not kept. -/
structure Mapping where
  (id profile : Value)
  (field target : Option String)
  status : String
  (category notes : Option String)
  (created updated : Value)
  known : status ∈ Layout.statuses

namespace Mapping

def record (m : Mapping) : Record where
  layout := .mapping
  values :=
    [("id", m.id), ("profile_id", m.profile), ("sigma_field", .ofText? m.field),
     ("target_field", .ofText? m.target), ("status", .text m.status),
     ("category", .ofText? m.category), ("notes", .ofText? m.notes), ("created_at", m.created),
     ("updated_at", m.updated)]

/-- What a profile keeps of a field name. -/
def kept (p : Int) (m : Mapping) : Fields :=
  [("profile_id", .int p), ("sigma_field", .ofText? m.field), ("target_field", .ofText? m.target),
   ("status", .text m.status), ("category", .ofText? m.category), ("notes", .ofText? m.notes)]

variable {m : Mapping} {p : Int} {now : Moment} {row : Row}

lemma value_of_made (h : Part.mappings.Made now (m.kept p) row) :
    ∀ e ∈ m.kept p, row.value e.1 = e.2 := by
  have htext {column : String} {t : Option String}
      (hcolumn : column ∈ Part.mappings.empty.columns.map (·.name))
      (hv : (m.kept p).lookup column = some (.ofText? t))
      (hleaning : Part.mappings.leaning column = .text) : row.value column = .ofText? t := by
    cases t with
    | none =>
      obtain ⟨c, hc, hget⟩ := h.given column hcolumn _ hv
      cases hc
      rw [Row.value, hget, hleaning]
      rfl
    | some s =>
      rw [Row.value, h.text hcolumn hv hleaning]
      rfl
  obtain ⟨c, hc, hprofile⟩ := h.given "profile_id" (by decide) _ rfl
  obtain rfl := eq_of_bound_int hc
  simp only [kept, forall_mem_singleton, forall_mem_cons]
  refine ⟨?_, htext (by decide) rfl rfl, htext (by decide) rfl rfl,
    htext (t := some m.status) (by decide) rfl rfl, htext (by decide) rfl rfl,
    htext (by decide) rfl rfl⟩
  rw [Row.value, hprofile]
  rfl

def ofRow (now : Moment) (row : Row) : Record where
  layout := .mapping
  values :=
    [("id", .int row.id), ("profile_id", row.value "profile_id"),
     ("sigma_field", row.value "sigma_field"), ("target_field", row.value "target_field"),
     ("status", row.value "status"), ("category", row.value "category"),
     ("notes", row.value "notes"), ("created_at", .moment now), ("updated_at", .moment now)]

lemma ofRow_of_made (hnow : now.Ticks) (h : Part.mappings.Made now (m.kept p) row) :
    Record.ofRow .mapping row = .ok (ofRow now row) := by
  have hstatus : Record.readField (row.value "status") (.choice "MappingStatus" Layout.statuses) =
      .ok (row.value "status") := by
    have hvalue := value_of_made h ("status", .text m.status) (by simp [kept])
    rw [hvalue]
    have hknown := m.known
    simp only [Layout.statuses, mem_cons, not_mem_nil, or_false] at hknown
    rcases hknown with hs | hs | hs <;> rw [hs] <;> rfl
  have hstamp {column : String} (hcolumn : column ∈ ["created_at", "updated_at"]) :
      Record.readField (row.value column) .stamp = .ok (.moment now) := by
    have hget : row.get column = stampCell now := by
      rw [← toNumber_stampCell hnow]
      simp only [mem_cons, not_mem_nil, or_false] at hcolumn
      rcases hcolumn with rfl | rfl <;> exact h.absent _ (by decide) rfl
    rw [Row.value, hget]
    exact hnow.readStamp_stamp
  refine bind_eq_ok.2 ⟨_, Conversion.mapM_eq_ok.2 ?_, rfl⟩
  simp only [Layout.mapping, forall₂_cons, forall₂_nil_left_iff, and_true]
  simp only [hstatus, hstamp, mem_cons, true_or, or_true]
  and_intros <;> rfl

lemma exists_rows_of_foldlM {given : List Mapping} {s s' : Store} (hsound : s.Sound)
    (h : (given.map record).foldlM (fun s r => do
      return (← s.add .mappings now (valuesOf (r.set "profile_id" (.int p)) mappingColumns)).2) s =
        .ok s') :
    s'.Sound ∧ (∀ part, part ≠ .mappings → s'.table part = s.table part) ∧ ∃ rows,
      s'.mappings.rows = s.mappings.rows ++ rows ∧ Forall₂ (fun row m =>
        Part.mappings.Made now (m.kept p) row ∧ s.mappings.last < row.id) rows given := by
  induction given generalizing s with
  | nil =>
    cases h
    exact ⟨hsound, fun _ _ => rfl, [], (append_nil _).symm, .nil⟩
  | cons m given ih =>
    obtain ⟨s₁, hstep, h⟩ := bind_eq_ok.1 h
    obtain ⟨⟨id, s₂⟩, hadd, heq⟩ := bind_eq_ok.1 hstep
    obtain rfl : s₂ = s₁ := Except.ok.inj heq
    have hlast := Table.last_lt_nextKey s.mappings
    obtain ⟨row, hs₁, hid, hkey, hmade⟩ := add_made (hsound .mappings) hadd
    obtain ⟨hsound', hother, rows, hrows, hall⟩ := ih (hsound.add hadd) h
    obtain rfl := hs₁
    refine ⟨hsound', fun part hpart => (hother part hpart).trans (table_put_of_ne _ _ _ hpart),
      row :: rows, hrows.trans (append_assoc ..), .cons ⟨hmade, ?_⟩ (hall.imp ?_)⟩
    · rw [hid, hkey]
      exact hlast
    · rintro row' m' ⟨hmade', hlt⟩
      refine ⟨hmade', lt_trans ?_ hlt⟩
      show s.mappings.last < row.id
      rw [hid, hkey]
      exact hlast

lemma isForeign_of_made (h : Part.mappings.Made now (m.kept p) row) : row.isForeign p = false := by
  obtain ⟨c, hc, hget⟩ := h.given "profile_id" (by decide) _ rfl
  obtain rfl := eq_of_bound_int hc
  exact Row.isForeign_of_get hget

lemma names_of_made (h : Part.mappings.Made now (m.kept p) row) :
    row.value "sigma_field" = .ofText? m.field ∧ row.value "target_field" = .ofText? m.target := by
  have hvalues := value_of_made h
  simp only [kept, forall_mem_cons] at hvalues
  exact ⟨hvalues.2.1, hvalues.2.2.1⟩

lemma fieldTable_of_made {given : List Mapping} {s : Store} (hnow : now.Ticks)
    (hkey : bound (.int p) = .ok (.int p)) (h : Forall₂ (fun row m =>
      Part.mappings.Made now (m.kept p) row) (s.mappingRows (.int p)) given) :
    ∃ table, s.fieldTable (.int p) = .ok table ∧ ∀ key, Value.find? table key =
      (given.filter fun m => key.same (.ofText? m.field)).getLast?.map fun m => .ofText? m.target := by
  let names (row : Row) : Value × Value := (row.value "sigma_field", row.value "target_field")
  have hmade : ∀ row ∈ s.mappingRows (.int p), ∃ m, Part.mappings.Made now (kept p m) row := by
    exact fun row hrow => exists_of_mem_forall₂ h hrow
  have hnames : (s.mappingRows (.int p)).map names =
      given.map fun m => (.ofText? m.field, .ofText? m.target) := by
    rw [← forall₂_eq_eq_eq, forall₂_map_left_iff, forall₂_map_right_iff]
    exact h.imp fun row m hmade => Prod.ext (names_of_made hmade).1 (names_of_made hmade).2
  have htext : ∀ row ∈ s.mappingRows (.int p), ∃ t, row.value "sigma_field" = .ofText? t := by
    intro row hrow
    obtain ⟨m, hm⟩ := hmade row hrow
    exact ⟨m.field, (names_of_made hm).1⟩
  have hread : (rising "sigma_field" (s.mappingRows (.int p))).mapM (Record.ofRow .mapping) =
      .ok ((rising "sigma_field" (s.mappingRows (.int p))).map (ofRow now)) := by
    refine Conversion.mapM_eq_ok.2 (forall₂_map_right_iff.2 (forall₂_same.2 ?_))
    intro row hrow
    obtain ⟨m, hm⟩ := hmade row (mem_mergeSort.1 hrow)
    exact ofRow_of_made hnow hm
  refine ⟨Value.ofEntries ((rising "sigma_field" (s.mappingRows (.int p))).map names), ?_, ?_⟩
  · rw [fieldTable, mappingRecords, hkey]
    show (List.mapM (Record.ofRow .mapping) _ >>= _) = _
    rw [hread, ok_bind, map_map]
    rfl
  · intro key
    rw [Value.find?_ofEntries, filter_map]
    · show (((rising "sigma_field" _).filter fun row => key.same (row.value "sigma_field")).map
        names).getLast?.map _ = _
      have hfilter := congrArg (List.filter fun e => key.same e.1) hnames
      rw [filter_map, filter_map] at hfilter
      rw [filter_rising htext]
      refine (congrArg (fun es => Option.map Prod.snd es.getLast?) hfilter).trans ?_
      rw [getLast?_map, Option.map_map]
      rfl
    · intro e he
      obtain ⟨row, hrow, rfl⟩ := mem_map.1 he
      exact htext row (mem_mergeSort.1 hrow)

end Mapping

/-- Replacing the field names of a profile either fails and changes nothing, or keeps the given ones
    in order, in new rows after all others, and nothing else changes. A field is then read as its
    last name in the list. -/
theorem importMappings_eq {s : Store} (hsound : s.Sound) {now : Moment} (hnow : now.Ticks) (p : Int)
    (given : List Mapping) :
    (∃ fault, (importMappings now (.int p) (given.map (·.record))).run.run s = (.error fault, s)) ∨
    ∃ s' rows table,
      (importMappings now (.int p) (given.map (·.record))).run.run s = (.ok given.length, s') ∧
      s'.mappingRows (.int p) = rows ∧
      Forall₂ (fun row m => ∀ e ∈ m.kept p, row.value e.1 = e.2) rows given ∧
      (∀ row ∈ rows, s.mappings.last < row.id) ∧ s'.mappings.rows.Pairwise (·.id < ·.id) ∧
      s'.foreign p = s.foreign p ∧ (∀ part, part ≠ .mappings → s'.table part = s.table part) ∧
      s'.fieldTable (.int p) = .ok table ∧ ∀ key, Value.find? table key =
        (given.filter fun m => key.same (.ofText? m.field)).getLast?.map fun m => .ofText? m.target := by
  have hrun : (importMappings now (.int p) (given.map (·.record))).run.run s = _ := run_change _ s
  split at hrun
  · rename_i n s' himport
    obtain ⟨key, hkey, himport⟩ := bind_eq_ok.1 himport
    obtain rfl := eq_of_bound_int hkey
    obtain ⟨s₁, hfold, himport⟩ := bind_eq_ok.1 himport
    cases himport
    obtain ⟨hsound', hother, rows, hrows, hmade⟩ := Mapping.exists_rows_of_foldlM
      (hsound.put ((hsound .mappings).erase _)) hfold
    have hforeign : ∀ row ∈ rows, row.isForeign p = false := by
      intro row hrow
      obtain ⟨m, hm⟩ := exists_of_mem_forall₂ hmade hrow
      exact Mapping.isForeign_of_made hm.1
    have hrows : s'.mappings.rows = s.foreign p ++ rows := hrows
    have hown : s'.mappingRows (.int p) = rows := by
      show s'.mappings.rows.filter (fun r => (r.get "profile_id").equals (.int p)) = rows
      rw [hrows, filter_append, foreign, filter_filter, filter_eq_nil_iff.2,
        filter_eq_self.2, nil_append]
      · exact fun row hrow => by simpa [Row.isForeign] using hforeign row hrow
      · simp [Row.isForeign]
    obtain ⟨table, htable, hfind⟩ := Mapping.fieldTable_of_made hnow hkey
      (by rw [hown]; exact hmade.imp fun row m h => h.1)
    refine .inr ⟨s', rows, table, by rw [hrun, length_map], hown,
      hmade.imp fun row m h => Mapping.value_of_made h.1, ?_, (hsound' .mappings).rising, ?_, ?_,
      htable, hfind⟩
    · intro row hrow
      obtain ⟨m, hm⟩ := exists_of_mem_forall₂ hmade hrow
      exact hm.2
    · have hnone : rows.filter (Row.isForeign p) = [] :=
        filter_eq_nil_iff.2 (by simpa using hforeign)
      rw [foreign, hrows, filter_append, hnone, append_nil, foreign, filter_filter]
      simp
    · exact fun part hpart => (hother part hpart).trans (table_put_of_ne _ _ _ hpart)
  · exact .inl ⟨_, hrun⟩

/-- A name for a field. -/
def named (target : String) : Mapping where
  id := .null
  profile := .null
  field := some "a"
  target := some target
  status := "ok"
  category := none
  notes := none
  created := .null
  updated := .null
  known := by decide

theorem importMappings_named : ∃ s' table,
    (importMappings (firstMinute 1) (.int 1) ([named "b", named "c"].map (·.record))).run.run empty =
      (.ok 2, s') ∧ s'.fieldTable (.int 1) = .ok table ∧
      Value.find? table (.text "a") = some (.text "c") := by
  have hrun : (importMappings (firstMinute 1) (.int 1)
      ([named "b", named "c"].map (·.record))).run.run empty = (.ok 2, _) := rfl
  have hticks : (firstMinute 1).Ticks := ⟨by decide, rfl, rfl, by decide⟩
  rcases importMappings_eq sound_empty hticks 1 [named "b", named "c"] with
    ⟨fault, hfault⟩ | ⟨s', rows, table, hok, -, -, -, -, -, -, htable, hfind⟩
  · rw [hrun] at hfault
    cases hfault
  · exact ⟨s', table, hok, htable, by rw [hfind]; simp [named, Value.ofText?, Value.text_same]⟩

end Store
end Huntbook
