import Huntbook.Form.Conversion
import Huntbook.Proofs.Activation

/-!
# Updates of profiles and of field names

An update gives new values to some columns of the row with a key. The row gets these values and the
stamp of the moment, and all else stays as it is.

* `Store.updateRecord_updates`: what an update does, and what it gives back.
-/

namespace Huntbook.Store

open List

def Part.updatable : Part → Texts
  | .profiles => Form.profileUpdate.fields.map (·.1)
  | .mappings => Form.mappingUpdate.fields.map (·.1)
  | _ => []

lemma Part.mem_columns_of_updatable (part : Part) : ∀ column ∈ part.updatable,
    column ∈ part.columnNames ∧ column ≠ "updated_at" ∧
      "updated_at" ∈ part.columnNames ∧ part.leaning "updated_at" = .number := by
  cases part <;> decide

def Leaning.own? : Leaning → Value → Option Value
  | _, .null => some .null
  | .text, .text s => some (.text s)
  | .number, .int n => some (.int n)
  | .number, .bool b => some (.int (if b then 1 else 0))
  | _, _ => none

lemma Leaning.toValue_apply {leaning : Leaning} {v w : Value} {c : Cell}
    (hown : leaning.own? v = some w) (hc : bound v = .ok c) : (leaning.apply c).toValue = w := by
  cases v <;> cases leaning <;> cases hown
  case null.text | null.number | bool.number =>
    cases hc
    rfl
  case int.number =>
    rw [eq_of_bound_int hc]
    rfl
  case text.text =>
    rw [eq_of_bound_text hc]
    rfl

structure Part.Updated (part : Part) (now : Moment) (updates : Fields)
    (r new : Row) : Prop where
  id_eq : new.id = r.id
  given : ∀ e ∈ updates, ∃ c, bound e.2 = .ok c ∧ new.get e.1 = (part.leaning e.1).apply c ∧
    ∀ v, (part.leaning e.1).own? e.2 = some v → new.value e.1 = v
  stamp : new.get "updated_at" = stampCell now
  kept : ∀ column ∈ part.columnNames, column ≠ "updated_at" →
    column ∉ updates.map (·.1) → new.get column = r.get column

lemma lookup_eq_some_of_mem {updates : Fields} (h : (updates.map (·.1)).Nodup)
    {e : String × Value} (he : e ∈ updates) : updates.lookup e.1 = some e.2 := by
  induction updates with
  | nil => cases he
  | cons d updates ih =>
    rw [map_cons, nodup_cons] at h
    rcases mem_cons.1 he with rfl | he
    · rw [lookup_cons, beq_self_eq_true]
    · have hne : e.1 ≠ d.1 := fun heq => h.1 (heq ▸ mem_map_of_mem he)
      rw [lookup_cons, beq_false_of_ne hne]
      exact ih h.2 he

lemma Part.Remade.updated {part : Part} {now : Moment} (hnow : now.Ticks)
    {updates : Fields} (hcolumns : ∀ e ∈ updates, e.1 ∈ part.updatable)
    (hne : updates ≠ []) (hnodup : (updates.map (·.1)).Nodup) {r new : Row}
    (hid : new.id = r.id) (h : part.Remade now updates r new) : part.Updated now updates r new := by
  have hmem (e : String × Value) (he : e ∈ updates) :=
    part.mem_columns_of_updatable e.1 (hcolumns e he)
  obtain ⟨e, he⟩ := exists_mem_of_ne_nil updates hne
  obtain ⟨-, -, -, hnumber⟩ := hmem e he
  refine ⟨hid, fun e he => ?_, ?_, fun column hcolumn hstamp hother => ?_⟩
  · have hlast : updates.reverse.lookup e.1 = some e.2 :=
      lookup_eq_some_of_mem (by rwa [map_reverse, nodup_reverse]) (mem_reverse.2 he)
    obtain ⟨c, hc, hget⟩ := h.given e.1 (hmem e he).1 (hmem e he).2.1 e.2 hlast
    refine ⟨c, hc, hget, fun v hown => ?_⟩
    rw [Row.value, hget]
    exact Leaning.toValue_apply hown hc
  · rw [h.stamp, hnumber, changeStamp_eq hnow, Leaning.apply_stampCell hnow]
  · refine h.kept column hcolumn hstamp (lookup_eq_none_iff.2 fun e he => ?_)
    have hne : column ≠ e.1 := fun heq => hother (heq ▸ mem_map_of_mem (mem_reverse.1 he))
    exact bne_iff_ne.2 hne

variable {s s' : Store} {now : Moment} {part : Part} {id : Int} {updates : Fields}
  {found : Option Record}

/-- An update that is carried out changes only the row with the key, which holds what was given, as
    columns keep it, and the stamp of the moment. It gives back that row as it is read now. -/
theorem updateRecord_updates (hsound : s.Sound) (hnow : now.Ticks) (hne : updates ≠ [])
    (hcolumns : ∀ e ∈ updates, e.1 ∈ part.updatable) (hnodup : (updates.map (·.1)).Nodup)
    (h : (updateRecord part now (.int id) (.map (updates.map fun e => (.text e.1, e.2)))).run.run s =
      (.ok found, s')) :
    ∃ renew : Row → Row,
      s' = s.put part ((s.table part).mapRows fun r => if r.id = id then renew r else r) ∧
      (∀ r ∈ (s.table part).rows, part.Updated now updates r (renew r)) ∧
      (found = none ↔ ∀ r ∈ (s.table part).rows, r.id ≠ id) ∧
      ∀ r ∈ (s.table part).rows, r.id = id →
        ∃ record, found = some record ∧ Record.ofRow part.layout (renew r) = .ok record := by
  obtain ⟨n, s₁, hchange, hask⟩ := run_bind_eq_ok.1 h
  rw [Call.run_ask] at hask
  obtain ⟨hfound, rfl⟩ := Prod.mk.inj hask
  rw [run_change] at hchange
  split at hchange
  · rename_i m s₂ hmodify
    obtain ⟨-, rfl⟩ := Prod.mk.inj hchange
    rw [map_map, map_map] at hmodify
    have hmem (e : String × Value) (he : e ∈ updates) :=
      part.mem_columns_of_updatable e.1 (hcolumns e he)
    obtain ⟨e, he⟩ := exists_mem_of_ne_nil updates hne
    have hnamed : part.Named (updates.map (·.1)) := by
      refine ⟨by simpa using hne, fun c hc => ?_⟩
      obtain ⟨e, he, rfl⟩ := mem_map.1 hc
      exact (hmem e he).1
    have hsound' := hsound.modify hmodify
    obtain ⟨key, renew, hkey, rfl, hid, hremade⟩ :=
      modify_made (hsound part) (hmem e he).2.2.1 updates hnamed hmodify
    obtain rfl := eq_of_bound_int hkey
    simp only [Cell.names_int_iff] at hfound hsound' ⊢
    refine ⟨renew, rfl, fun r hr => (hremade r hr).updated hnow hcolumns hne hnodup (hid r), ?_⟩
    have hread {r : Row} (hr : r ∈ (s.table part).rows) (heq : r.id = id) :
        ∃ record, found = some record ∧ Record.ofRow part.layout (renew r) = .ok record := by
      subst heq
      have hmem : renew r ∈ ((s.put part ((s.table part).mapRows fun r' =>
          if r'.id = r.id then renew r' else r')).table part).rows := by
        rw [table_put_self]
        exact mem_map.2 ⟨r, hr, if_pos rfl⟩
      have hrow := found?_of_mem (hsound' part).rising hmem (by rwa [hid])
      rw [hid] at hrow
      obtain ⟨record, hrecord, hsome⟩ := Conversion.map_eq_ok.1 (hrow.symm.trans hfound)
      exact ⟨record, hsome.symm, hrecord⟩
    refine ⟨⟨?_, fun hnone => ?_⟩, fun r hr => hread hr⟩
    · rintro rfl r hr heq
      obtain ⟨record, hsome, -⟩ := hread hr heq
      cases hsome
    · have habsent : ∀ r ∈ ((s.put part ((s.table part).mapRows fun r =>
          if r.id = id then renew r else r)).table part).rows, r.id ≠ id := by
        rw [table_put_self]
        refine forall_mem_map.2 fun r hr => ?_
        rw [if_neg (hnone r hr)]
        exact hnone r hr
      exact Except.ok.inj (hfound.symm.trans (found?_of_not_mem hkey habsent))
  · cases hchange

/-- A store with one profile. -/
def oneProfile : Store := empty.afterAll [(firstMinute 0, .createProfile [("name", .text "a")])]

theorem updateRecord_updates_name : ∃ (record : Record) (s' : Store) (renew : Row → Row),
    (updateProfile (firstMinute 1) (.int 1) (.map [(.text "name", .text "b")])).run.run oneProfile =
      (.ok (some record), s') ∧ ∀ r ∈ oneProfile.profiles.rows,
        Part.profiles.Updated (firstMinute 1) [("name", .text "b")] r (renew r) := by
  obtain ⟨record, s', hrun⟩ : ∃ record s', (updateProfile (firstMinute 1) (.int 1)
      (.map [(.text "name", .text "b")])).run.run oneProfile = (.ok (some record), s') := by
    with_unfolding_all exact ⟨_, _, rfl⟩
  have hsound : oneProfile.Sound := sound_empty.afterAll _
  have hticks : (firstMinute 1).Ticks := ⟨by decide, rfl, rfl, by decide⟩
  obtain ⟨renew, -, hupdated, -⟩ := @updateRecord_updates _ _ _ .profiles 1 [("name", .text "b")] _
    hsound hticks (cons_ne_nil _ _) (by decide) (by decide) hrun
  exact ⟨record, s', renew, hrun, hupdated⟩

/-- A number given as a name is kept as a text. -/
theorem update_turns_number : ∃ (record : Record) (s' : Store),
    (updateProfile (firstMinute 1) (.int 1) (.map [(.text "name", .int 5)])).run.run oneProfile =
      (.ok (some record), s') ∧ record.get "name" = .text "5" := by
  with_unfolding_all exact ⟨_, _, rfl, rfl⟩

end Huntbook.Store
