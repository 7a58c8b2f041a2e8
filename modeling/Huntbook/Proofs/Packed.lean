import Huntbook.Proofs.Pages

/-!
# Documents in columns

Some columns keep a document as its JSON text. Every document in which no number is too long, and for
whose depth there is room, is unpacked as it was packed, also if its record was saved and found again.

* `unpack_pack_saved`: packing a document, saving the record, finding it and unpacking.
-/

namespace Huntbook

open List

lemma Record.get_set_self {r : Record} {field : String} {v : Value}
    (h : field ∈ r.values.map (·.1)) : (r.set field v).get field = v := by
  rw [get, set, Store.lookup_replace_self v h]
  rfl

namespace Store

/-! ## Documents in records -/

def Part.documents : Part → Texts
  | .profiles => ["macros"]
  | .sensors => ["enabled_event_ids", "disabled_event_ids", "rules_json"]
  | .audits => ["categories_json"]
  | _ => []

/-- A record is saved as a new one, or in place of the one with its key if it has one; profiles are
    always new. -/
def saveRecord (part : Part) (now : Moment) (r : Record) : Work Record :=
  match part with
  | .profiles => createProfile now r
  | part => saveConfig part now r

def Part.savedColumns : Part → Texts
  | .profiles => profileColumns
  | part => configColumns part

variable {part : Part}

lemma Part.mem_of_documents {field : String} (h : field ∈ part.documents) :
    part ∈ [Part.profiles, .sensors, .audits] := by
  revert field
  cases part <;> decide

lemma Part.stamps (hpart : part ∈ [Part.profiles, .sensors, .audits]) (now : Cell) : ∀ column,
    column = "created_at" ∨ column = "updated_at" →
    column ∈ part.columnNames ∧ part.leaning column = .number ∧
      part.fallback now column = now ∧ column ∉ part.savedColumns ∧
      (column, Role.stamp) ∈ part.layout.fields := by
  simp only [mem_cons, not_mem_nil, or_false] at hpart
  rintro column (rfl | rfl) <;> rcases hpart with rfl | rfl | rfl <;>
    exact ⟨by decide, by decide, rfl, by decide,
      by simp [Part.layout, Layout.profile, Layout.sensor, Layout.audit]⟩

lemma Part.named_savedColumns (hpart : part ∈ [Part.profiles, .sensors, .audits]) :
    part.Named part.savedColumns := by
  revert part
  decide

section

variable {part : Part} {field : String} (hfield : field ∈ part.documents)

include hfield

lemma Part.columns_of_documents : field ∈ part.savedColumns ∧ field ≠ "id" ∧
    field ≠ "updated_at" ∧ field ∈ part.columnNames ∧ part.leaning field = .text := by
  revert field
  cases part <;> decide

lemma Part.lookup_documents : field ∈ part.layout.fields.map (·.1) ∧ ∃ default label empty,
    part.layout.fields.lookup field = some (.packed default label empty) := by
  cases part <;> simp only [documents, mem_cons, not_mem_nil, or_false] at hfield
  · subst hfield
    exact ⟨by decide, _, _, _, rfl⟩
  · rcases hfield with rfl | rfl | rfl <;> exact ⟨by decide, _, _, _, rfl⟩
  · subst hfield
    exact ⟨by decide, _, _, _, rfl⟩

section

variable {r : Record} (hlayout : r.layout = part.layout)

include hlayout

lemma unpack_of_get {text : String} {v : Value} {room : Nat} (hread : Json.read text room = .ok v)
    (hget : r.get field = .text text) : r.unpack field room = .ok v := by
  obtain ⟨-, _, _, empty, hrole⟩ := Part.lookup_documents hfield
  rw [Record.unpack, hlayout, hrole, hget]
  exact Record.unpacked_of_read empty hread

lemma lookup_valuesOf : (valuesOf r part.savedColumns).lookup field = some (r.get field) ∧
      (valuesOf r part.savedColumns).reverse.lookup field = some (r.get field) := by
  obtain ⟨-, _, _, _, hrole⟩ := Part.lookup_documents hfield
  have hcolumn := (Part.columns_of_documents hfield).1
  rw [valuesOf, ← map_reverse, lookup_map_self, lookup_map_self, if_pos hcolumn,
    if_pos (mem_reverse.2 hcolumn), hlayout, hrole]
  exact ⟨rfl, rfl⟩

end

section

variable {text : String} {v : Value} {room : Nat} (hread : Json.read text room = .ok v)

include hread

lemma unpack_of_row {row : Row} {record : Record}
    (hrecord : Record.ofRow part.layout row = .ok record)
    (hget : row.get field = .text text) : record.unpack field room = .ok v := by
  obtain ⟨-, _, _, empty, hrole⟩ := Part.lookup_documents hfield
  rw [Record.unpack_ofRow hrecord hrole, Row.value, hget]
  exact Record.unpacked_of_read empty hread

lemma unpack_found {s : Store} (hsound : s.Sound) {row : Row} (hrow : row ∈ (s.table part).rows)
    (hid : bound (.int row.id) = .ok (.int row.id)) {c : Cell} (hc : bound (.text text) = .ok c)
    (hcell : row.get field = (part.leaning field).apply c)
    (hcreated : Role.stamp.Admits (row.value "created_at"))
    (hupdated : Role.stamp.Admits (row.value "updated_at")) :
    ∃ record, s.found? part (.int row.id) = .ok (some record) ∧ record.unpack field room = .ok v := by
  have hlegible := Part.legible_of_stamps (Part.mem_of_documents hfield) hcreated hupdated
  obtain ⟨record, hrecord⟩ := Record.ofRow_succeeds_iff.2 hlegible
  refine ⟨record, ?_, unpack_of_row hfield hread hrecord ?_⟩
  · rw [found?_of_mem (hsound part).rising hrow hid, hrecord]
    rfl
  · rw [hcell, (Part.columns_of_documents hfield).2.2.2.2, eq_of_bound_text hc]
    rfl

variable {s s' : Store} {now : Moment} {r saved : Record} (hsound : s.Sound) (hnow : now.Ticks)
  (hlayout : r.layout = part.layout) (hget : r.get field = .text text)

include hsound hnow hlayout hget

lemma unpack_added (hid : "id" ∈ r.values.map (·.1)) (hlast : 0 ≤ (s.table part).last)
    (h : (addRecord part now part.savedColumns r).run.run s = (.ok saved, s')) :
    ∃ record, s'.found? part (saved.get "id") = .ok (some record) ∧ record.unpack field room = .ok v := by
  obtain ⟨id, s₁, hchange, hreturn⟩ := run_bind_eq_ok.1 h
  cases hreturn
  have hadd := run_change_eq_ok.1 hchange
  obtain ⟨row, hs', rfl, hnext, hmade⟩ := add_made (hsound part) hadd
  have hbound : bound (.int row.id) = .ok (.int row.id) := by
    have hlt := Table.last_lt_nextKey (s.table part)
    have hleast : leastInt ≤ 0 := by decide
    exact bound_int ⟨by omega, key_le_of_add hadd⟩
  have hrow : row ∈ (s'.table part).rows := by
    simp [hs', table_put_self, Table.withRow]
  have hcolumn := (Part.columns_of_documents hfield).2.2.2.1
  obtain ⟨c, hc, hcell⟩ := hmade.given field hcolumn _ (lookup_valuesOf hfield hlayout).1
  have hstamp {column : String} (hstamp : column = "created_at" ∨ column = "updated_at") :
      Role.stamp.Admits (row.value column) := by
    refine truthy_admits_stamp hnow ?_
    obtain ⟨hmem, hnumber, hfallback, hother, -⟩ :=
      Part.stamps (Part.mem_of_documents hfield) (stampCell now) column hstamp
    rw [hmade.absent column hmem, hnumber, hfallback, Leaning.apply_stampCell hnow]
    rw [valuesOf, lookup_map_self, if_neg hother]
  rw [Record.get_set_self hid]
  exact unpack_found hfield hread (hsound.add hadd) hrow hbound (hget ▸ hc) hcell
    (hstamp (.inl rfl)) (hstamp (.inr rfl))

lemma unpack_changed {n : Int} {m : Nat} {old : Record}
    (hfound : s.found? part (.int n) = .ok (some old))
    (h : s.modify part now ((valuesOf r part.savedColumns).map (·.1))
      ((valuesOf r part.savedColumns).map (·.2) ++ [.int n]) = .ok (m, s')) :
    ∃ record, s'.found? part (.int n) = .ok (some record) ∧ record.unpack field room = .ok v := by
  have hpart := Part.mem_of_documents hfield
  have hstamps := Part.stamps hpart (stampCell now)
  obtain ⟨hupdated, hnumber, -⟩ := hstamps _ (.inr rfl)
  obtain ⟨hcreated, -, -, hother, hrole⟩ := hstamps _ (.inl rfl)
  obtain ⟨-, -, hstamp, hcolumn, -⟩ := Part.columns_of_documents hfield
  obtain ⟨key, renew, hkey, hs', hsame, hremade⟩ := modify_made (hsound part) hupdated _
    (by rw [Call.names_valuesOf]; exact Part.named_savedColumns hpart) h
  obtain rfl := eq_of_bound_int hkey
  obtain ⟨row, hrow, rfl⟩ : ∃ r ∈ (s.table part).rows, r.id = n := by
    by_contra hnone
    push Not at hnone
    rw [found?_of_not_mem hkey hnone] at hfound
    cases hfound
  have hrow' : renew row ∈ (s'.table part).rows := by
    rw [hs', table_put_self]
    exact mem_map.2 ⟨row, hrow, if_pos (Cell.names_int_iff.2 rfl)⟩
  obtain ⟨c, hc, hcell⟩ := (hremade row hrow).given field hcolumn hstamp _
    (lookup_valuesOf hfield hlayout).2
  rw [found?_of_mem (hsound part).rising hrow hkey] at hfound
  obtain ⟨record, hrecord, -⟩ := Conversion.map_eq_ok.1 hfound
  rw [← hsame row] at hkey ⊢
  refine unpack_found hfield hread (hsound.modify h) hrow' hkey (hget ▸ hc) hcell ?_ ?_
  · have hlegible := Record.ofRow_succeeds_iff.1 ⟨record, hrecord⟩ _ hrole
    rwa [Row.value, ← (hremade row hrow).kept _ hcreated (by decide)] at hlegible
    rw [valuesOf, ← map_reverse, lookup_map_self, if_neg (by simpa using hother)]
  · refine truthy_admits_stamp hnow ?_
    rw [(hremade row hrow).stamp, hnumber, changeStamp_eq hnow, Leaning.apply_stampCell hnow]

end

/-- A document that is packed into a field of a record is unpacked as it was, also if the record has
    been saved and found again in the meantime. -/
theorem unpack_pack_saved {half? : Char → Option Nat} {room room' : Nat} {v : Value}
    (hwritten : v.Document half? room) (hread : v.Document half? room') {r : Record}
    (hlayout : r.layout = part.layout)
    (hnames : r.values.map (·.1) = part.layout.fields.map (·.1)) :
    ∃ r', r.pack field v room half? = .ok r' ∧ r'.unpack field room' = .ok v ∧
      ∀ (s s' : Store) (now : Moment) (saved : Record), s.Sound → 0 ≤ (s.table part).last →
        now.Ticks → (r.get "id" = .null ∨ ∃ n old, r.get "id" = .int n ∧
          s.found? part (.int n) = .ok (some old)) →
        (saveRecord part now r').run.run s = (.ok saved, s') →
        ∃ record, s'.found? part (saved.get "id") = .ok (some record) ∧
          record.unpack field room' = .ok v := by
  obtain ⟨text, hwrite⟩ : Succeeds (Json.write v room half?) := Json.succeeds_textOf hwritten
  replace hread := Json.read_of_write hread hwrite
  have hpack : r.pack field v room half? = .ok (r.set field (.text text)) := by
    rw [Record.pack, hwrite]
    rfl
  have hget : (r.set field (.text text)).get field = .text text :=
    Record.get_set_self (hnames ▸ (Part.lookup_documents hfield).1)
  have hlayout : (r.set field (.text text)).layout = part.layout := hlayout
  refine ⟨_, hpack, unpack_of_get hfield hlayout hread hget, ?_⟩
  intro s s' now saved hsound hlast hnow hid hsave
  have hadded (h : (addRecord part now part.savedColumns (r.set field (.text text))).run.run s =
      (.ok saved, s')) : ∃ record, s'.found? part (saved.get "id") = .ok (some record) ∧
        record.unpack field room' = .ok v := by
    refine unpack_added hfield hread hsound hnow hlayout hget ?_ hlast h
    rw [Record.set, fst_replace, hnames]
    revert hfield
    cases part <;> simp [Part.documents, Part.layout, Layout.profile, Layout.sensor, Layout.audit]
  by_cases hprofiles : part = .profiles
  · subst hprofiles
    exact hadded hsave
  · have hconfig : saveRecord part now = saveConfig part now ∧
        part.savedColumns = configColumns part := by
      cases part <;> first | exact ⟨rfl, rfl⟩ | exact absurd rfl hprofiles
    rw [hconfig.1, saveConfig] at hsave
    split at hsave
    · rename_i htruthy
      have hkey : (r.set field (.text text)).get "id" = r.get "id" := by
        rw [Record.get, Record.set, lookup_replace,
          if_neg (Part.columns_of_documents hfield).2.1.symm]
        rfl
      obtain ⟨m, s₁, hchange, hreturn⟩ := run_bind_eq_ok.1 hsave
      cases hreturn
      rw [run_change] at hchange
      split at hchange
      · rename_i m' s₂ hmodify
        obtain ⟨-, rfl⟩ := Prod.mk.inj hchange
        rcases hid with hnull | ⟨n, old, hn, hfound⟩
        · rw [hkey, hnull] at htruthy
          cases htruthy
        · rw [hkey, hn, ← hconfig.2] at hmodify
          rw [hkey, hn]
          exact unpack_changed hfield hread hsound hnow hlayout hget hfound hmodify
      · cases hchange
    · rw [← hconfig.2] at hsave
      exact hadded hsave

end

def ruleless : Record := ⟨.sensor,
  [("id", .null), ("name", .text "a"), ("version", .text ""), ("schema_version", .text ""),
   ("enabled_event_ids", .text ""), ("disabled_event_ids", .text ""), ("rules_json", .text ""),
   ("raw_xml", .null), ("is_active", .bool true), ("created_at", .null), ("updated_at", .null)]⟩

/-- Rules with the last of all characters, which here stands for no half of a pair. -/
def farRules : Value :=
  .list [.record [("é", .int 1)], .text (String.ofList [Char.ofNat 0x10FFFF])]

theorem unpack_pack_saved_ruleless : ∃ r' saved s' record,
    ruleless.pack "rules_json" farRules 2 (fun _ => none) = .ok r' ∧
      (saveRecord .sensors (firstMinute 0) r').run.run empty = (.ok saved, s') ∧
      s'.found? .sensors (saved.get "id") = .ok (some record) ∧
      record.unpack "rules_json" 3 = .ok farRules := by
  have hdocument (n : Nat) : farRules.Document (fun _ => none) (n + 2) := by
    refine .list (forall_mem_cons.2 ⟨.record (by decide) (fun _ _ _ _ => rfl) ?_,
      forall_mem_singleton.2 (.text fun _ _ => rfl)⟩)
    exact forall_mem_singleton.2 (.int (by decide))
  have hfield : "rules_json" ∈ Part.sensors.documents := by decide
  obtain ⟨r', hpack, -, hsaved⟩ := unpack_pack_saved hfield (hdocument 0) (hdocument 1)
    (rfl : ruleless.layout = _) rfl
  obtain ⟨r, saved, s', hpacked, hrun⟩ : ∃ r saved s',
      ruleless.pack "rules_json" farRules 2 (fun _ => none) = .ok r ∧
        (saveRecord .sensors (firstMinute 0) r).run.run empty = (.ok saved, s') := by
    with_unfolding_all exact ⟨_, _, _, rfl, rfl⟩
  cases hpack.symm.trans hpacked
  obtain ⟨record, hfound, hunpack⟩ := hsaved empty s' (firstMinute 0) saved sound_empty (by decide)
    ⟨by decide, rfl, rfl, by decide⟩ (.inl rfl) hrun
  exact ⟨r', saved, s', record, hpack, hrun, hfound, hunpack⟩

end Store

namespace Json

lemma not_succeeds_valueFrom (n room : Nat) (rest : Chars) :
    ¬Succeeds (valueFrom n room (replicate (room + 1) '[' ++ rest)) := by
  induction room generalizing n with
  | zero => cases n <;> simp [valueFrom, Succeeds]
  | succ room ih =>
    rcases n with _ | _ | n
    · simp [valueFrom, Succeeds]
    · simp [valueFrom, itemsFrom, replicate_succ, skip, isSpace, Succeeds]
    · have hstep : valueFrom (n + 2) (room + 1) (replicate (room + 1 + 1) '[' ++ rest) =
          itemsFrom (n + 1) room [] (replicate (room + 1) '[' ++ rest) := by
        rw [valueFrom.eq_def]
        simp [replicate_succ, skip, isSpace]
      rw [hstep, itemsFrom]
      rintro ⟨a, h⟩
      obtain ⟨b, hb, -⟩ := bind_eq_ok.1 h
      exact ih n ⟨b, hb⟩

/-- Lists inside each other, as many as are given around one. -/
def nested : Nat → Value
  | 0 => .list []
  | n + 1 => .list [nested n]

lemma not_succeeds_read {text : String} {room : Nat} {rest : Chars}
    (h : text.toList = replicate (room + 1) '[' ++ rest) : ¬Succeeds (read text room) := by
  have hskip : skip text.toList = text.toList := by
    simp [h, skip, replicate_succ, isSpace]
  rw [read, Succeeds.mapError_iff, readList, hskip, h]
  rintro ⟨v, hv⟩
  obtain ⟨b, hb, -⟩ := bind_eq_ok.1 hv
  exact not_succeeds_valueFrom _ _ _ ⟨b, hb⟩

variable {half? : Char → Option Nat}

lemma not_succeeds_write_nested (n : Nat) : ¬Succeeds (write (nested n) n half?) := by
  induction n with
  | zero =>
    rintro ⟨_, h⟩
    cases h
  | succ n ih =>
    rintro ⟨_, h⟩
    obtain ⟨_, texts, hroom, htexts, -⟩ := textOf_list_eq_ok.1 h
    cases hroom
    exact ih (Succeeds.mapM_iff.1 ⟨texts, htexts⟩ _ mem_cons_self)

lemma write_nested {n room : Nat} (hn : n < room) : ∃ text, write (nested n) room half? = .ok text ∧
    text.toList = replicate (n + 1) '[' ++ replicate (n + 1) ']' := by
  obtain ⟨room, rfl⟩ := Nat.exists_eq_add_one.2 hn.pos
  induction n generalizing room with
  | zero => exact ⟨"[]", textOf_list_eq_ok.2 ⟨_, [], rfl, rfl, rfl⟩, rfl⟩
  | succ n ih =>
    obtain ⟨room, rfl⟩ := Nat.exists_eq_add_one.2 (Nat.lt_of_succ_lt_succ hn).pos
    obtain ⟨text, hwrite, htext⟩ := ih room (by omega)
    refine ⟨bracketed "[" "]" none [text],
      textOf_list_eq_ok.2 ⟨_, [text], rfl, Conversion.mapM_eq_ok.2 (.cons hwrite .nil), rfl⟩, ?_⟩
    rw [toList_bracketed]
    rw [replicate_succ (n := n + 1), replicate_succ' (n := n + 1) (a := ']')]
    simp [htext]

end Json

namespace Record

/-- A number can be too long to be written. Lists inside each other need room to be written, and as
    much to be read again. -/
theorem pack_limits : ¬Succeeds (Store.ruleless.pack "rules_json" (.int (10 ^ 4300))) ∧
    ∀ (room : Nat) (half? : Char → Option Nat),
      ¬Succeeds (Store.ruleless.pack "rules_json" (Json.nested room) room half?) ∧
      ∀ more > room, ∃ r, Store.ruleless.pack "rules_json" (Json.nested room) more half? = .ok r ∧
        ¬Succeeds (r.unpack "rules_json" room) := by
  refine ⟨?_, fun room half? => ⟨fun h => ?_, fun more hmore => ?_⟩⟩
  · have hlong : Decimal.isLongWhole (10 ^ 4300) = true := by decide +kernel
    rw [pack, Json.write, Json.textOf, Decimal.wholeText, hlong]
    rintro ⟨r, h⟩
    cases h
  · rw [pack, Succeeds.bind_pure_iff] at h
    exact Json.not_succeeds_write_nested room h
  · obtain ⟨text, hwrite, htext⟩ := Json.write_nested hmore
    refine ⟨Store.ruleless.set "rules_json" (.text text), ?_, ?_⟩
    · rw [pack, hwrite]
      rfl
    · have hne : text ≠ "" := by
        rintro rfl
        cases htext
      show ¬Succeeds (unpacked (.text text) (.list []) room)
      rw [unpacked_text hne, Succeeds.mapError_iff]
      exact Json.not_succeeds_read htext

end Record

end Huntbook
