import Huntbook.Proofs.Pages

/-!
# Coverage by the activated configuration

After a configuration of sensors has been activated it is the only active one, so coverage is told
from the events it enables. An active configuration of auditing is read as well, and one whose
categories are not as expected makes the question fail, as does a number that is missing and too long
to be written.

* `coverage_activated`: what is told of coverage.
-/

namespace Huntbook.Store

open List

section

variable {s s' : Store} {part : Part}

lemma active?_of_only {row : Row} (hrow : row ∈ (s.table part).rows)
    (hmarked : row.marked "is_active")
    (honly : ∀ r ∈ (s.table part).rows, r.marked "is_active" → r = row) :
    s.active? part = some <$> Record.ofRow part.layout row := by
  have hmem (r : Row) :
      r ∈ falling "updated_at" ((s.table part).rows.filter (Row.marked "is_active")) ↔
        r ∈ (s.table part).rows ∧ r.marked "is_active" := by
    rw [falling, mem_mergeSort, mem_filter]
  rw [active?_eq]
  cases hrows : falling "updated_at" ((s.table part).rows.filter (Row.marked "is_active")) with
  | nil =>
    have hsome := (hmem row).2 ⟨hrow, hmarked⟩
    rw [hrows] at hsome
    cases hsome
  | cons first rest =>
    obtain ⟨hfirst, hone⟩ := (hmem first).1 (hrows ▸ mem_cons_self)
    rw [honly first hfirst hone]
    rfl

lemma active?_activated {kind : ConfigKind} (hsound : s.Sound) {c : Row}
    (hc : c ∈ (s.table kind.part).rows)
    (h : (activate kind.part (.int c.id)).run.run s = (.ok true, s')) :
    (∀ other, other ≠ kind.part → s'.table other = s.table other) ∧ s'.active? kind.part =
      some <$> Record.ofRow kind.part.layout (c.set "is_active" (.int 1)) := by
  have hfits := hsound kind.part
  obtain ⟨key, hkey, h⟩ := bind_eq_ok.1 (run_change_eq_ok.1 h)
  obtain rfl := eq_of_bound_int hkey
  obtain ⟨-, rfl⟩ := Prod.mk.inj (Except.ok.inj h)
  refine ⟨fun other hother => table_put_of_ne _ _ _ hother, ?_⟩
  have hwhole : (Cell.int c.id).whole? = some c.id := rfl
  have hmarked {r : Row} (hr : r ∈ (s.table kind.part).rows) :=
    @marked_activated _ _ kind.flag?_part _ hfits (.int c.id) r hr
  have hset : c.set "is_active" (.int (if (Cell.int c.id).whole? == some c.id then 1 else 0)) =
      c.set "is_active" (.int 1) := by
    rw [hwhole, beq_self_eq_true, if_pos rfl]
  refine active?_of_only ?_ ?_ ?_
  · rw [table_put_self, ← hset]
    exact mem_map_of_mem hc
  · rw [← hset, hmarked hc]
    exact beq_self_eq_true _
  · rw [table_put_self]
    refine forall_mem_map.2 fun r hr hone => ?_
    rw [hmarked hr, hwhole] at hone
    rw [← Table.eq_of_id_eq hfits.rising hc hr (Option.some.inj (eq_of_beq hone)), hset]

end

/-! ## What is told -/

lemma missing_ints (ids needed : List Int) : missing (.list (ids.map .int)) (needed.map .int) =
      .ok ((needed.filter (· ∉ ids)).map .int) := by
  have hamong (x : Int) : isAmong (.list (ids.map .int)) (.int x) = .ok (decide (x ∈ ids)) := by
    have hsame (y : Int) : Value.same (.int x) (.int y) = (x == y) := by
      rw [Value.same]
      rfl
    have hany : (ids.map Value.int).any (Value.same (.int x)) = ids.any (x == ·) := by
      rw [any_map]
      exact congrArg (any ids) (funext hsame)
    rw [isAmong, hany, any_beq, contains_eq_mem]
  have hkept : (needed.map Value.int).mapM (fun x => do
      return if ← isAmong (.list (ids.map .int)) x then [] else [x] : Value → Try _) =
        .ok (needed.map fun x => if x ∈ ids then [] else [.int x]) := by
    induction needed with
    | nil => rfl
    | cons x needed ih =>
      rw [map_cons, mapM_cons, ih, hamong]
      by_cases hx : x ∈ ids <;> simp [hx, ok_bind]
  rw [missing, hkept]
  refine congrArg Except.ok ?_
  clear hkept
  induction needed with
  | nil => rfl
  | cons x needed ih => by_cases hx : x ∈ ids <;> simp [hx, ih]

def audited? (s : Store) : Try (Option (List Value)) := do
  match ← s.active? .audits with
  | none => return none
  | some r => return some (← r.auditedNames)

variable {s : Store} {ids : List Int} {audit : Option (List Value)}

lemma audited?_congr {t : Store} (h : t.table .audits = s.table .audits) :
    t.audited? = s.audited? := by
  rw [audited?, audited?, active?, active?, h]

/-- What is told if the missing numbers can be written. -/
def told (ids needed : List Int) (audit : Try (Option (List Value))) :
    Try Coverage := do
  let _ ← ((needed.filter (· ∉ ids)).map .int).mapM Value.written
  return ⟨some (.list (ids.map .int), (needed.filter (· ∉ ids)).map .int), ← audit, !needed.isEmpty⟩

lemma coverage_eq {record : Record} (needed : List Int)
    (hactive : s.active? .sensors = .ok (some record))
    (hids : record.unpack "enabled_event_ids" = .ok (.list (ids.map .int))) :
    s.coverage (.list (needed.map .int)) = told ids needed s.audited? := by
  have htruthy : (Value.list (needed.map .int)).truthy = !needed.isEmpty := by
    rw [Value.truthy, isEmpty_map]
  rw [coverage, hactive, told, audited?, htruthy]
  simp only [ok_bind, hids, Value.iterate, missing_ints]
  cases ((needed.filter (· ∉ ids)).map .int).mapM Value.written with
  | error e => rfl
  | ok texts =>
    cases s.active? .audits with
    | error e => rfl
    | ok found =>
      cases found with
      | none => rfl
      | some r =>
        simp only [ok_bind]
        cases r.auditedNames <;> rfl

lemma told_eq_ok {needed : List Int} {audited : Try (Option (List Value))}
    {report : Coverage} : told ids needed audited = .ok report ↔
      (∀ x ∈ needed, x ∉ ids → Decimal.isLongWhole x = false) ∧ ∃ audit, audited = .ok audit ∧
        ⟨some (.list (ids.map .int), (needed.filter (· ∉ ids)).map .int), audit, !needed.isEmpty⟩ =
          report := by
  have hwritten (x : Int) : Succeeds (Value.written (.int x)) ↔ Decimal.isLongWhole x = false := by
    cases h : Decimal.isLongWhole x <;> simp [Value.written, Value.wholes, h, Succeeds]
  have hall : Succeeds (((needed.filter (· ∉ ids)).map .int).mapM Value.written) ↔
      ∀ x ∈ needed, x ∉ ids → Decimal.isLongWhole x = false := by
    simp [Succeeds.mapM_iff, hwritten]
  rw [← hall, told]
  simp [bind_eq_ok, Succeeds, pure, Except.pure]

lemma audited?_isSome_iff (h : s.audited? = .ok audit) :
    audit.isSome ↔ ∃ r ∈ s.audits.rows, r.marked "is_active" := by
  have hnone : s.active? .audits = .ok none ↔ ¬∃ r ∈ s.audits.rows, r.marked "is_active" := by
    rw [active?_eq_none_iff]
    push Not
    rfl
  obtain ⟨found, hfound, h⟩ := bind_eq_ok.1 h
  cases found with
  | none =>
    cases h
    exact iff_of_false Bool.false_ne_true (hnone.1 hfound)
  | some r =>
    obtain ⟨names, -, h⟩ := bind_eq_ok.1 h
    cases h
    refine iff_of_true rfl (not_not.1 fun hempty => ?_)
    rw [hnone.2 hempty] at hfound
    cases hfound

def Activated (s s' : Store) (ids : List Int) : Prop :=
  ∃ c ∈ s.sensors.rows, (activate .sensors (.int c.id)).run.run s = (.ok true, s') ∧
    ∃ record, Record.ofRow .sensor c = .ok record ∧
      record.unpack "enabled_event_ids" = .ok (.list (ids.map .int))

lemma Activated.coverage_eq {s' : Store} (hsound : s.Sound)
    (h : Activated s s' ids) (needed : List Int) :
    s'.coverage (.list (needed.map .int)) = told ids needed s.audited? := by
  obtain ⟨c, hc, hrun, record, hrecord, hids⟩ := h
  obtain ⟨hothers, hactive⟩ := @active?_activated _ _ .sensor hsound c hc hrun
  have hvalue {column : String} (hne : column ≠ "is_active") :
      (c.set "is_active" (.int 1)).value column = c.value column := by
    rw [Row.value, Row.get_set_of_ne _ hne, Row.value]
  have hstamp {column : String} (hne : column ≠ "is_active")
      (hmem : (column, Role.stamp) ∈ Layout.sensor.fields) :
      Role.stamp.Admits ((c.set "is_active" (.int 1)).value column) := by
    rw [hvalue hne]
    exact Record.ofRow_succeeds_iff.1 ⟨record, hrecord⟩ _ hmem
  obtain ⟨new, hnew⟩ := Record.ofRow_succeeds_iff.2
    (Part.legible_of_stamps (by decide : Part.sensors ∈ _)
      (hstamp (by decide) (by simp [Layout.sensor])) (hstamp (by decide) (by simp [Layout.sensor])))
  have hrole : Layout.sensor.fields.lookup "enabled_event_ids" =
    some (.packed (.text "") "enabled_event_ids" (.list [])) := rfl
  rw [← audited?_congr (hothers .audits (by decide))]
  refine Store.coverage_eq needed (hactive.trans (congrArg (some <$> ·) hnew)) ?_
  rw [Record.unpack_ofRow hnew hrole, hvalue (by decide), ← Record.unpack_ofRow hrecord hrole, hids]

lemma covers_iff {needed : List Int} :
    Coverage.covers ⟨some (.list (ids.map .int), (needed.filter (· ∉ ids)).map .int), audit,
      !needed.isEmpty⟩ ↔ (∀ x ∈ needed, x ∈ ids) ∨ needed = [] ∧ audit.isSome := by
  simp [Coverage.covers, Coverage.sensorCovers, and_comm]

/-- After a configuration of sensors has been activated, coverage is told from its events, if an
    active configuration of auditing can be read and the missing numbers can be written. With more
    events enabled no more is missing. -/
theorem coverage_activated {s s' : Store} {ids : List Int} (hsound : s.Sound)
    (h : Activated s s' ids) (needed : List Int) :
    (Succeeds (s'.coverage (.list (needed.map .int))) ↔
      Succeeds s.audited? ∧ ∀ x ∈ needed, x ∉ ids → Decimal.isLongWhole x = false) ∧
    (∀ report, s'.coverage (.list (needed.map .int)) = .ok report →
      (report.covers ↔ (∀ x ∈ needed, x ∈ ids) ∨
        needed = [] ∧ ∃ r ∈ s.audits.rows, r.marked "is_active") ∧
      ∃ covered audit advice, report.toValue = .record [("sysmon_coverage", .record
          [("available", .bool true), ("enabled_ids", .list (ids.map .int)),
           ("missing_ids", .list ((needed.filter (· ∉ ids)).map .int)), ("covered", covered)]),
        ("audit_coverage", audit), ("overall_covered", .bool report.covers),
        ("recommendations", advice)]) ∧
    ∀ t t' ids' report, t.Sound → Activated t t' ids' → t.audits = s.audits → ids ⊆ ids' →
      s'.coverage (.list (needed.map .int)) = .ok report → report.covers →
      ∃ report', t'.coverage (.list (needed.map .int)) = .ok report' ∧ report'.covers := by
  have heq := h.coverage_eq hsound needed
  refine ⟨?_, fun report hreport => ?_, ?_⟩
  · simp only [heq, Succeeds, told_eq_ok]
    constructor
    · rintro ⟨report, hshort, audit, haudit, -⟩
      exact ⟨⟨audit, haudit⟩, hshort⟩
    · rintro ⟨⟨audit, haudit⟩, hshort⟩
      exact ⟨_, hshort, audit, haudit, rfl⟩
  · rw [heq] at hreport
    obtain ⟨-, audit, haudit, rfl⟩ := told_eq_ok.1 hreport
    refine ⟨?_, _, _, _, rfl⟩
    rw [covers_iff, audited?_isSome_iff haudit]
  · intro t t' ids' report htsound ht haudits hsub hreport hcovers
    rw [heq] at hreport
    obtain ⟨-, audit, haudit, rfl⟩ := told_eq_ok.1 hreport
    rw [covers_iff] at hcovers
    replace hcovers := hcovers.imp_left fun hall x hx => hsub (hall x hx)
    rw [ht.coverage_eq htsound, audited?_congr haudits]
    refine ⟨_, told_eq_ok.2 ⟨fun x hx hmissing => ?_, audit, haudit, rfl⟩, covers_iff.2 hcovers⟩
    rcases hcovers with hall | ⟨rfl, -⟩
    · exact absurd (hall x hx) hmissing
    · cases hx

def twoConfigs (categories : String) : Store :=
  empty.afterAll [(firstMinute 0, .saveConfig .sensor [("name", .text "a"),
      ("enabled_event_ids", .text "[1, 3]"), ("is_active", .bool false)]),
    (firstMinute 1, .saveConfig .audit [("name", .text "b"), ("categories_json", .text categories),
      ("is_active", .bool true)])]

theorem coverage_twoConfigs : ∃ s', (twoConfigs "[]").Sound ∧
    Activated (twoConfigs "[]") s' [1, 3] ∧ ∃ report,
      s'.coverage (.list ([3, 1, 3].map .int)) = .ok report ∧ report.covers := by
  have hsound : (twoConfigs "[]").Sound := sound_empty.afterAll _
  obtain ⟨s', hactivated⟩ : ∃ s', Activated (twoConfigs "[]") s' [1, 3] := by
    with_unfolding_all exact ⟨_, _, mem_cons_self, rfl, _, rfl, rfl⟩
  obtain ⟨hsucceeds, hreport, -⟩ := coverage_activated hsound hactivated [3, 1, 3]
  obtain ⟨report, heq⟩ := hsucceeds.2 ⟨by with_unfolding_all exact ⟨_, rfl⟩, by decide⟩
  exact ⟨s', hsound, hactivated, report, heq, (hreport report heq).1.2 (.inl (by decide))⟩

/-- Categories that are no mappings: nothing is told, though all events are enabled. -/
theorem not_succeeds_coverage_twoConfigs : ∃ s', Activated (twoConfigs "[1]") s' [1, 3] ∧
    ¬Succeeds (s'.coverage (.list [.int 1])) := by
  have hsound : (twoConfigs "[1]").Sound := sound_empty.afterAll _
  obtain ⟨s', hactivated⟩ : ∃ s', Activated (twoConfigs "[1]") s' [1, 3] := by
    with_unfolding_all exact ⟨_, _, mem_cons_self, rfl, _, rfl, rfl⟩
  obtain ⟨fault, hfault⟩ : ∃ fault, (twoConfigs "[1]").audited? = .error fault := by
    with_unfolding_all exact ⟨_, rfl⟩
  refine ⟨s', hactivated, ?_⟩
  rintro ⟨report, hreport⟩
  have heq := hactivated.coverage_eq hsound [1]
  rw [hfault] at heq
  cases hreport.symm.trans heq

end Huntbook.Store
