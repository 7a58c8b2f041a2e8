import Huntbook.Proofs.Clock
import Huntbook.Proofs.Flags

/-!
# The configuration that was activated last

A configuration is activated when it is saved as active or chosen as the active one. Which of the
active ones counts is read off the stamps of the last changes, and choosing one leaves no stamp.

* `Store.active?_watch`: the active configuration that counts was activated last.
-/

namespace Huntbook.Store

open List

variable {limit : Nat} {w : Watch} {r : Row} {t : Moment} {column : String}

/-! ## Calls and what they activate -/

/-- A call about the configurations of a kind. -/
inductive ConfigCall
  | save (values : Fields)
  | activate (id : Value)
  | delete (id : Value)

def ConfigCall.call (kind : ConfigKind) : ConfigCall → Call
  | .save values => .saveConfig kind values
  | .activate id => .activate kind id
  | .delete id => .deleteConfig kind id

def Table.hasKey (t : Table) (id : Int) : Bool := t.rows.any (·.id == id)

/-- Whether a call that is carried out is about the configuration with a key, and to make it active:
    saved as active under that key or a new one, or chosen as the active one. -/
def ConfigCall.picks (kind : ConfigKind) (s : Store) (id : Int) : ConfigCall → Bool
  | .save values =>
    let r : Record := ⟨kind.part.layout, values⟩
    (r.get "is_active").truthy &&
      if (r.get "id").truthy then (bound (r.get "id")).toOption.any (·.names id)
      else !(s.table kind.part).hasKey id
  | .activate key => (bound key).toOption.any (·.whole? == some id)
  | .delete _ => false

/-- Whether a call activates the configuration with a key: it succeeds, it picks that one, and there
    is such a row then. -/
def ConfigCall.activates (kind : ConfigKind) (now : Moment) (s : Store) (c : ConfigCall)
    (id : Int) : Bool :=
  match ((c.call kind).work now).run.run s with
  | (.ok _, s') => c.picks kind s id && (s'.table kind.part).hasKey id
  | _ => false

structure Watch where
  store : Store
  activated : Int → Option Moment

def Watch.after (kind : ConfigKind) (w : Watch) (e : Moment × ConfigCall) : Watch where
  store := (e.2.call kind).after e.1 w.store
  activated id := if e.2.activates kind e.1 w.store id then some e.1 else w.activated id

/-- What is seen after a run of calls from a store where nothing is activated yet. -/
def watch (kind : ConfigKind) (s : Store) (run : List (Moment × ConfigCall)) : Watch :=
  run.foldl (Watch.after kind) ⟨s, fun _ => none⟩

/-! ## What a call does to the rows -/

structure Row.Follows (r' r : Row) : Prop where
  id : r'.id = r.id
  created : r'.get "created_at" = r.get "created_at"
  updated : r'.get "updated_at" = r.get "updated_at"

/-- What became of the rows: each one was kept without being activated, saved, or chosen as the only
    active one. -/
def Watch.Moves (kind : ConfigKind) (now : Moment) (w w' : Watch) : Prop :=
  ∀ r' ∈ (w'.store.table kind.part).rows,
    (∃ r ∈ (w.store.table kind.part).rows, r'.Follows r ∧
      (r'.marked "is_active" → r.marked "is_active" ∧ w'.activated r.id = w.activated r.id)) ∨
    (r'.get "updated_at" = stampCell now ∧
      (r'.get "created_at" = stampCell now ∨ ∃ r ∈ (w.store.table kind.part).rows,
        r'.get "created_at" = r.get "created_at") ∧
      (r'.marked "is_active" → w'.activated r'.id = some now)) ∨
    (∃ r ∈ (w.store.table kind.part).rows, r'.Follows r ∧ w'.activated r'.id = some now ∧
      ∀ r'' ∈ (w'.store.table kind.part).rows, r''.marked "is_active" → r''.id = r'.id)

/-- What holds of rows that were changed and activated before a point in time. -/
structure Watch.Kept (kind : ConfigKind) (limit : Nat) (w : Watch) : Prop where
  sound : w.store.Sound
  created : ∀ r ∈ (w.store.table kind.part).rows, ∃ t : Moment,
    t.Ticks ∧ r.get "created_at" = stampCell t
  updated : ∀ r ∈ (w.store.table kind.part).rows, ∃ t : Moment,
    t.Ticks ∧ r.get "updated_at" = stampCell t ∧ t.toSeconds < limit ∧
      (r.marked "is_active" → ∃ m, w.activated r.id = some m ∧ t.toSeconds ≤ m.toSeconds)
  before : ∀ id m, w.activated id = some m → m.Ticks ∧ m.toSeconds < limit
  later : ∀ r ∈ (w.store.table kind.part).rows, ∀ r' ∈ (w.store.table kind.part).rows,
    r.marked "is_active" → r'.marked "is_active" → ∀ m m', w.activated r.id = some m →
      w.activated r'.id = some m' → m.toSeconds < m'.toSeconds →
      r'.get "updated_at" = stampCell m'

variable {kind : ConfigKind}

variable {e : Moment × ConfigCall}

lemma Watch.after_before (h : ∀ id m, w.activated id = some m → m.Ticks ∧ m.toSeconds < limit)
    (hnow : e.1.Ticks) (hlimit : limit ≤ e.1.toSeconds) :
    ∀ id m, (w.after kind e).activated id = some m → m.Ticks ∧ m.toSeconds < e.1.toSeconds + 1 := by
  intro id m hm
  unfold after at hm
  dsimp only at hm
  split at hm
  · cases hm
    exact ⟨hnow, by omega⟩
  · obtain ⟨hticks, hlt⟩ := h id m hm
    exact ⟨hticks, by omega⟩

lemma Watch.Kept.after (h : w.Kept kind limit) (hnow : e.1.Ticks)
    (hlimit : limit ≤ e.1.toSeconds) (hmoves : w.Moves kind e.1 (w.after kind e)) :
    (w.after kind e).Kept kind (e.1.toSeconds + 1) where
  sound := Call.sound_after _ _ h.sound
  before := Watch.after_before h.before hnow hlimit
  created r' hr' := by
    rcases hmoves r' hr' with ⟨r, hr, hfollows, -⟩ | ⟨-, hnew | ⟨r, hr, heq⟩, -⟩ |
      ⟨r, hr, hfollows, -⟩
    · rw [hfollows.created]
      exact h.created r hr
    · exact ⟨_, hnow, hnew⟩
    · rw [heq]
      exact h.created r hr
    · rw [hfollows.created]
      exact h.created r hr
  updated r' hr' := by
    rcases hmoves r' hr' with ⟨r, hr, hfollows, hmark⟩ | ⟨hstamp, -, hmark⟩ |
      ⟨r, hr, hfollows, hchosen, -⟩
    · obtain ⟨t, ht, hstamp, hlt, hactive⟩ := h.updated r hr
      refine ⟨t, ht, hfollows.updated.trans hstamp, by omega, fun hmarked => ?_⟩
      obtain ⟨hmarked, hsame⟩ := hmark hmarked
      obtain ⟨m, hat, hle⟩ := hactive hmarked
      exact ⟨m, by rw [hfollows.id, hsame, hat], hle⟩
    · exact ⟨_, hnow, hstamp, by omega, fun hmarked => ⟨_, hmark hmarked, le_rfl⟩⟩
    · obtain ⟨t, ht, hstamp, hlt, -⟩ := h.updated r hr
      exact ⟨t, ht, hfollows.updated.trans hstamp, by omega, fun _ => ⟨_, hchosen, by omega⟩⟩
  later r₁ hr₁ r₂ hr₂ hmarked₁ hmarked₂ m₁ m₂ hm₁ hm₂ hlt := by
    rcases hmoves r₂ hr₂ with ⟨o₂, ho₂, hfollows₂, hmark₂⟩ | ⟨hstamp, -, hmark₂⟩ |
      ⟨-, -, -, -, honly⟩
    · obtain ⟨hmarked, hsame₂⟩ := hmark₂ hmarked₂
      rw [hfollows₂.id, hsame₂] at hm₂
      have hbound := (h.before _ _ hm₂).2
      rcases hmoves r₁ hr₁ with ⟨o₁, ho₁, hfollows₁, hmark₁⟩ | ⟨-, -, hmark₁⟩ |
        ⟨-, -, -, hchosen, -⟩
      · obtain ⟨hmarked₁, hsame₁⟩ := hmark₁ hmarked₁
        rw [hfollows₁.id, hsame₁] at hm₁
        rw [hfollows₂.updated]
        exact h.later o₁ ho₁ o₂ ho₂ hmarked₁ hmarked m₁ m₂ hm₁ hm₂ hlt
      · -- What is activated now is not activated before what is kept.
        cases (hmark₁ hmarked₁).symm.trans hm₁
        omega
      · cases hchosen.symm.trans hm₁
        omega
    · cases (hmark₂ hmarked₂).symm.trans hm₂
      exact hstamp
    · rw [honly r₁ hr₁ hmarked₁, hm₂] at hm₁
      cases hm₁
      omega

/-! ## What each call does -/

lemma Table.hasKey_of_mem {t : Table} (h : r ∈ t.rows) : t.hasKey r.id :=
  any_eq_true.2 ⟨r, h, beq_self_eq_true _⟩

lemma Row.Follows.refl (r : Row) : r.Follows r :=
  ⟨rfl, rfl, rfl⟩

lemma ConfigKind.columns (kind : ConfigKind) :
    ("created_at" ∈ kind.part.columnNames ∧
      "updated_at" ∈ kind.part.columnNames) ∧
    kind.part.leaning "created_at" = .number ∧ kind.part.leaning "updated_at" = .number ∧
    kind.part.leaning "is_active" = .number ∧ ∀ now,
      kind.part.fallback now "created_at" = now ∧ kind.part.fallback now "updated_at" = now := by
  cases kind <;> exact ⟨by decide, by decide, by decide, by decide, fun _ => ⟨rfl, rfl⟩⟩

lemma ConfigKind.lookup_stamps (kind : ConfigKind) (values : Fields) :
    (valuesOf ⟨kind.part.layout, values⟩ (configColumns kind.part)).lookup "created_at" = none ∧
    (valuesOf ⟨kind.part.layout, values⟩ (configColumns kind.part)).lookup "updated_at" = none ∧
    (valuesOf ⟨kind.part.layout, values⟩ (configColumns kind.part)).reverse.lookup "created_at"
      = none := by
  cases kind <;> exact ⟨rfl, rfl, rfl⟩

lemma Leaning.apply_stampCell (h : t.Ticks) :
    Leaning.number.apply (stampCell t) = stampCell t := by
  rw [apply, toNumber_stampCell h]

lemma changeStamp_eq (h : t.Ticks) : changeStamp t = stampCell t := by
  rw [changeStamp, Instant.stampText_ofMoment h, stampCell]

section

variable {kind : ConfigKind} {now : Moment} {w : Watch}

lemma ConfigCall.activates_cases (kind : ConfigKind) (now : Moment) (s : Store) (c : ConfigCall) :
    (∃ s', (c.call kind).Does now s s' ∧ (c.call kind).after now s = s' ∧
      ∀ id, c.activates kind now s id = (c.picks kind s id && (s'.table kind.part).hasKey id)) ∨
    (c.call kind).after now s = s ∧ ∀ id, c.activates kind now s id = false := by
  have hback (s : Store) : (c.call kind).readBack s = .ok () := by
    cases c <;> rfl
  rcases (c.call kind).runs now s with ⟨s', hdoes, hrun⟩ | ⟨-, e, hrun⟩
  · rw [hback] at hrun
    refine .inl ⟨s', hdoes, by rw [Call.after, hrun], fun id => ?_⟩
    simp only [activates, hrun]
  · refine .inr ⟨by rw [Call.after, hrun], fun id => ?_⟩
    simp only [activates, hrun]

lemma Watch.after_cases (kind : ConfigKind) (w : Watch) (now : Moment) (c : ConfigCall) :
    ((c.call kind).Does now w.store (w.after kind (now, c)).store ∧
      ∀ id, (w.after kind (now, c)).activated id = if c.picks kind w.store id &&
          ((w.after kind (now, c)).store.table kind.part).hasKey id then some now
        else w.activated id) ∨ w.after kind (now, c) = w := by
  rcases c.activates_cases kind now w.store with ⟨s', hdoes, hafter, hpicks⟩ | ⟨hafter, hnone⟩
  · refine .inl ⟨?_, fun id => ?_⟩
    · simpa only [after, hafter] using hdoes
    · simp only [after, hafter, hpicks]
  · refine .inr ?_
    simp [after, hafter, hnone]

section

variable {w' : Watch} {c : ConfigCall} (hsound : w.store.Sound)
  (hactivated : ∀ id, w'.activated id =
    if c.picks kind w.store id && (w'.store.table kind.part).hasKey id then some now
    else w.activated id)

include hactivated

lemma activated_of_picks {r : Row} (hr : r ∈ (w'.store.table kind.part).rows)
    (h : c.picks kind w.store r.id) : w'.activated r.id = some now := by
  rw [hactivated, h, Table.hasKey_of_mem hr]
  rfl

lemma activated_of_not_picks {id : Int} (h : c.picks kind w.store id = false) :
    w'.activated id = w.activated id := by
  rw [hactivated, h]
  rfl

variable {id : Value} {given : Fields}

lemma moves_delete (hc : c = .delete id)
    (hdrop : (Statement.drop kind.part id).run now w.store = .ok w'.store) :
    w.Moves kind now w' := by
  subst hc
  obtain ⟨found, hdrop⟩ := snd_eq_ok.1 hdrop
  obtain ⟨key, -, hstore⟩ := drop_eq_ok hdrop
  intro r hr
  have hmem : r ∈ (w.store.table kind.part).rows := by
    rw [hstore, table_put_self] at hr
    exact mem_of_mem_filter hr
  exact .inl ⟨r, hmem, .refl r, fun hmarked => ⟨hmarked, activated_of_not_picks hactivated rfl⟩⟩

include hsound

lemma moves_activate (hc : c = .activate id)
    (hrun : (Statement.activate kind.part id).run now w.store = .ok w'.store) :
    w.Moves kind now w' := by
  subst hc
  obtain ⟨key, hkey, hrun⟩ := bind_eq_ok.1 hrun
  have hstore := (Except.ok.inj hrun).symm
  have hpicks (n : Int) : (ConfigCall.activate id).picks kind w.store n
      = (key.whole? == some n) := by
    rw [ConfigCall.picks, hkey]
    rfl
  have hmarked (r : Row) (hr : r ∈ (w.store.table kind.part).rows) :=
    @marked_activated _ _ kind.flag?_part _ (hsound kind.part) key r hr
  have hrows : (w'.store.table kind.part).rows = (w.store.table kind.part).rows.map fun r =>
      r.set "is_active" (.int (if key.whole? == some r.id then 1 else 0)) := by
    rw [hstore, table_put_self]
    rfl
  intro r' hr'
  obtain ⟨r, hr, rfl⟩ := mem_map.1 (hrows ▸ hr')
  have hfollows : (r.set "is_active" (.int (if key.whole? == some r.id then 1 else 0))).Follows r :=
    ⟨rfl, Row.get_set_of_ne _ (by decide), Row.get_set_of_ne _ (by decide)⟩
  by_cases hchosen : key.whole? == some r.id
  · refine .inr (.inr ⟨r, hr, hfollows, activated_of_picks hactivated hr' ?_, ?_⟩)
    · rwa [hfollows.id, hpicks]
    · intro r'' hr'' hmarked''
      obtain ⟨o, ho, rfl⟩ := mem_map.1 (hrows ▸ hr'')
      rw [hmarked o ho] at hmarked''
      exact Option.some.inj ((eq_of_beq hmarked'').symm.trans (eq_of_beq hchosen))
  · refine .inl ⟨r, hr, hfollows, fun hmarked' => ?_⟩
    rw [hmarked r hr] at hmarked'
    exact absurd hmarked' hchosen

lemma moves_insert (hnow : now.Ticks) {v : Value}
    (hgiven : given.lookup "is_active" = some (flag v))
    (hnone : given.lookup "created_at" = none ∧ given.lookup "updated_at" = none)
    (hpicks : ∀ n, c.picks kind w.store n = (v.truthy && !(w.store.table kind.part).hasKey n))
    (hrun : (Statement.add kind.part given).run now w.store = .ok w'.store) :
    w.Moves kind now w' := by
  obtain ⟨n, hadd⟩ := snd_eq_ok.1 hrun
  obtain ⟨row, hstore, hrow, hnew, hmade⟩ := add_made (hsound kind.part) hadd
  obtain ⟨⟨hcreated, hupdated⟩, hleanc, hleanu, hleana, hfallback⟩ := kind.columns
  intro r hr
  have hmem := hr
  rw [hstore, table_put_self] at hmem
  rcases mem_append.1 hmem with hold | hlast
  · refine .inl ⟨r, hold, .refl r, fun hmarked => ⟨hmarked, ?_⟩⟩
    refine activated_of_not_picks hactivated ?_
    rw [hpicks, Table.hasKey_of_mem hold, Bool.not_true, Bool.and_false]
  · cases mem_singleton.1 hlast
    refine .inr (.inl ⟨?_, .inl ?_, fun hmarked => activated_of_picks hactivated hr ?_⟩)
    · rw [hmade.absent _ hupdated hnone.2, hleanu, (hfallback _).2, Leaning.apply_stampCell hnow]
    · rw [hmade.absent _ hcreated hnone.1, hleanc, (hfallback _).1, Leaning.apply_stampCell hnow]
    · obtain ⟨cell, hcell, hget⟩ := hmade.given "is_active" (Part.flag_column kind.flag?_part).1 _
        hgiven
      rw [Row.marked, hget, hleana] at hmarked
      have htruthy := (isOne_flag_iff _).1 ((isOne_iff hcell).2 hmarked)
      have hfresh : (w.store.table kind.part).hasKey row.id = false := by
        refine Bool.eq_false_iff.2 fun hkey => ?_
        obtain ⟨o, ho, heq⟩ := any_eq_true.1 hkey
        have hlt := Table.lt_nextKey ho
        rw [← hnew, ← hrow, eq_of_beq heq] at hlt
        exact Int.lt_irrefl _ hlt
      rw [hpicks, htruthy, hfresh]
      rfl

lemma moves_overwrite (hnow : now.Ticks) {v : Value} (hnamed : kind.part.Named (given.map (·.1)))
    (hgiven : given.reverse.lookup "is_active" = some (flag v))
    (hnone : given.reverse.lookup "created_at" = none) (hpicks : ∀ n, c.picks kind w.store n =
      (v.truthy && (bound id).toOption.any (·.names n)))
    (hrun : (Statement.modify kind.part (given.map (·.1)) (given.map (·.2) ++ [id])).run now
      w.store = .ok w'.store) : w.Moves kind now w' := by
  obtain ⟨⟨hcreated, hupdated⟩, -, hleanu, hleana, -⟩ := kind.columns
  obtain ⟨n, hmodify⟩ := snd_eq_ok.1 hrun
  obtain ⟨key, renew, hkey, hstore, hsame, hremade⟩ :=
    modify_made (hsound kind.part) hupdated given hnamed hmodify
  rw [hkey] at hpicks
  replace hpicks (n : Int) : c.picks kind w.store n = (v.truthy && key.names n) := hpicks n
  intro r' hr'
  have hmem := hr'
  rw [hstore, table_put_self] at hmem
  obtain ⟨r, hr, heq⟩ := mem_map.1 hmem
  by_cases hnames : key.names r.id
  · rw [if_pos hnames] at heq
    subst heq
    refine .inr (.inl ⟨?_, .inr ⟨r, hr, ?_⟩, fun hmarked => activated_of_picks hactivated hr' ?_⟩)
    · rw [(hremade r hr).stamp, hleanu, changeStamp_eq hnow, Leaning.apply_stampCell hnow]
    · exact (hremade r hr).kept _ hcreated (by decide) hnone
    · obtain ⟨hflag, -, hne, -⟩ := Part.flag_column kind.flag?_part
      obtain ⟨cell, hcell, hget⟩ := (hremade r hr).given _ hflag hne _ hgiven
      rw [Row.marked, hget, hleana] at hmarked
      have htruthy := (isOne_flag_iff _).1 ((isOne_iff hcell).2 hmarked)
      rw [hpicks, htruthy, hsame, hnames]
      rfl
  · rw [if_neg hnames] at heq
    subst heq
    refine .inl ⟨r, hr, .refl r, fun hmarked => ⟨hmarked, activated_of_not_picks hactivated ?_⟩⟩
    rw [hpicks, Bool.eq_false_iff.2 hnames, Bool.and_false]

end

lemma Watch.moves_after (hsound : w.store.Sound) (hnow : now.Ticks) (c : ConfigCall) :
    w.Moves kind now (w.after kind (now, c)) := by
  rcases w.after_cases kind now c with ⟨⟨st, hst, hrun⟩, hactivated⟩ | heq
  · cases c with
    | save values =>
      obtain ⟨hgiven, hlast⟩ := kind.lookup_flag values
      obtain ⟨hcreated, hupdated, hkept⟩ := kind.lookup_stamps values
      have hst := Option.some.inj (hst.symm.trans (Call.statement?_saveConfig kind values))
      by_cases hid : ((⟨kind.part.layout, values⟩ : Record).get "id").truthy
      · rw [if_pos hid] at hst
        rw [hst] at hrun
        refine moves_overwrite hsound hactivated hnow ?_ hlast hkept (fun n => ?_) hrun
        · rw [Call.names_valuesOf]
          exact kind.named
        · simp only [ConfigCall.picks, if_pos hid]
      · rw [if_neg hid] at hst
        rw [hst] at hrun
        refine moves_insert hsound hactivated hnow hgiven ⟨hcreated, hupdated⟩ (fun n => ?_) hrun
        simp only [ConfigCall.picks, if_neg hid]
    | activate id =>
      cases hst
      exact moves_activate hsound hactivated rfl hrun
    | delete id =>
      cases hst
      exact moves_delete hactivated rfl hrun
  · rw [heq]
    exact fun r hr => .inl ⟨r, hr, .refl r, fun hmarked => ⟨hmarked, rfl⟩⟩

end

/-! ## Runs -/

/-- A call that saves under a whole number, if under any key. -/
def ConfigCall.Whole (kind : ConfigKind) : ConfigCall → Prop
  | .save values =>
    let id := (⟨kind.part.layout, values⟩ : Record).get "id"
    id = .null ∨ ∃ n, id = .int n
  | _ => True

lemma ConfigCall.activates_unique {now : Moment} {s : Store} (hsound : s.Sound) {c : ConfigCall}
    (hwhole : c.Whole kind) {id id' : Int} (h : c.activates kind now s id)
    (h' : c.activates kind now s id') : id = id' := by
  rcases c.activates_cases kind now s with ⟨s', ⟨st, hst, hrun⟩, -, hpicks⟩ | ⟨-, hnone⟩
  · rw [hpicks, Bool.and_eq_true] at h h'
    cases c with
    | save values =>
      have hst := Option.some.inj (hst.symm.trans (Call.statement?_saveConfig kind values))
      rw [picks, Bool.and_eq_true] at h h'
      by_cases hid : ((⟨kind.part.layout, values⟩ : Record).get "id").truthy
      · rw [if_pos hid] at h h'
        rcases hwhole with hnull | ⟨n, hn⟩
        · rw [hnull] at hid
          cases hid
        · rw [hn] at h h'
          cases hbound : bound (.int n) with
          | error e => simp [hbound, Except.toOption] at h
          | ok key =>
            rw [hbound, eq_of_bound_int hbound] at h h'
            exact (Cell.names_int_iff.1 h.1.2).trans (Cell.names_int_iff.1 h'.1.2).symm
      · rw [if_neg hid] at h h' hst
        rw [hst] at hrun
        obtain ⟨n, hadd⟩ := snd_eq_ok.1 hrun
        obtain ⟨row, hstore, -⟩ := add_made (hsound kind.part) hadd
        have hnew {id : Int} (hold : !(s.table kind.part).hasKey id)
            (hkey : (s'.table kind.part).hasKey id) : row.id = id := by
          rw [hstore, table_put_self] at hkey
          obtain ⟨r, hr, heq⟩ := any_eq_true.1 hkey
          rcases mem_append.1 hr with hr | hr
          · rw [← eq_of_beq heq, Table.hasKey_of_mem hr] at hold
            cases hold
          · rw [← mem_singleton.1 hr]
            exact eq_of_beq heq
        exact (hnew h.1.2 h.2).symm.trans (hnew h'.1.2 h'.2)
    | activate key =>
      obtain ⟨c, hc, hwhole⟩ := (Option.any_eq_true _ _).1 h.1
      obtain ⟨c', hc', hwhole'⟩ := (Option.any_eq_true _ _).1 h'.1
      cases hc.symm.trans hc'
      exact Option.some.inj ((eq_of_beq hwhole).symm.trans (eq_of_beq hwhole'))
    | delete key => cases h.1
  · rw [hnone] at h
    cases h

section

variable {kind : ConfigKind} {s : Store}

lemma watch_concat (run : List (Moment × ConfigCall)) (e : Moment × ConfigCall) :
    watch kind s (run ++ [e]) = (watch kind s run).after kind e :=
  foldl_concat ..

lemma Watch.Kept.mono {w : Watch} {limit limit' : Nat} (h : w.Kept kind limit)
    (hle : limit ≤ limit') : w.Kept kind limit' where
  sound := h.sound
  created := h.created
  updated r hr := by
    obtain ⟨t, ht, hstamp, hlt, hactive⟩ := h.updated r hr
    exact ⟨t, ht, hstamp, by omega, hactive⟩
  before id m hm := by
    obtain ⟨hticks, hlt⟩ := h.before id m hm
    exact ⟨hticks, by omega⟩
  later := h.later

variable (hsound : s.Sound) (hempty : (s.table kind.part).rows = [])

include hsound hempty

lemma kept_watch (run : List (Moment × ConfigCall)) (hticks : ∀ e ∈ run, e.1.Ticks)
    (hclock : run.Pairwise fun e e' => e.1.toSeconds < e'.1.toSeconds) (limit : Nat)
    (hlimit : ∀ e ∈ run, e.1.toSeconds < limit) : (watch kind s run).Kept kind limit := by
  induction run using reverseRecOn generalizing limit with
  | nil =>
    have hnone {r : Row} : r ∉ (s.table kind.part).rows := by simp [hempty]
    exact ⟨hsound, fun r hr => absurd hr hnone, fun r hr => absurd hr hnone, nofun,
      fun r hr => absurd hr hnone⟩
  | append_singleton run e ih =>
    obtain ⟨hrun, -, hlast⟩ := pairwise_append.1 hclock
    have he : e ∈ run ++ [e] := mem_append_right _ (mem_singleton_self e)
    have hkept := ih (fun e' he' => hticks e' (mem_append_left _ he')) hrun e.1.toSeconds
      fun e' he' => hlast e' he' e (mem_singleton_self e)
    rw [watch_concat]
    exact (hkept.after (hticks e he) le_rfl (Watch.moves_after hkept.sound (hticks e he) e.2)).mono
      (hlimit e he)

lemma activated_injective (run : List (Moment × ConfigCall)) (hticks : ∀ e ∈ run, e.1.Ticks)
    (hclock : run.Pairwise fun e e' => e.1.toSeconds < e'.1.toSeconds)
    (hwhole : ∀ e ∈ run, e.2.Whole kind) {id id' : Int} {m m' : Moment}
    (hm : (watch kind s run).activated id = some m)
    (hm' : (watch kind s run).activated id' = some m') (heq : m.toSeconds = m'.toSeconds) :
    id = id' := by
  induction run using reverseRecOn generalizing m m' with
  | nil => cases hm
  | append_singleton run e ih =>
    obtain ⟨hrun, -, hlast⟩ := pairwise_append.1 hclock
    have hticks' (e') (he' : e' ∈ run) := hticks e' (mem_append_left _ he')
    have hkept := kept_watch hsound hempty run hticks' hrun e.1.toSeconds
      fun e' he' => hlast e' he' e (mem_singleton_self e)
    rw [watch_concat, Watch.after] at hm hm'
    dsimp only at hm hm'
    split at hm <;> split at hm'
    · exact ConfigCall.activates_unique hkept.sound
        (hwhole e (mem_append_right _ (mem_singleton_self e))) ‹_› ‹_›
    · -- What was activated before is from an earlier moment.
      cases hm
      have hlt := (hkept.before _ _ hm').2
      omega
    · cases hm'
      have hlt := (hkept.before _ _ hm).2
      omega
    · exact ih hticks' hrun (fun e' he' => hwhole e' (mem_append_left _ he')) hm hm' heq

end

/-! ## The active configuration -/

variable {rows : List Row} {stamp : Row → Moment}

lemma pairwise_falling
    (hstamp : ∀ r ∈ rows, (stamp r).Ticks ∧ r.get column = stampCell (stamp r)) :
    (falling column rows).Pairwise fun r r' => (stamp r').toSeconds ≤ (stamp r).toSeconds := by
  have hsorted : falling column rows =
      rows.mergeSort fun a b => decide ((stamp b).toSeconds ≤ (stamp a).toSeconds) := by
    have hmap := map_mergeSort (f := id) (l := rows)
      (r := fun a b => !(a.get column).less (b.get column))
      (s := fun a b => decide ((stamp b).toSeconds ≤ (stamp a).toSeconds)) fun a ha b hb => by
        obtain ⟨ha, hcella⟩ := hstamp a ha
        obtain ⟨hb, hcellb⟩ := hstamp b hb
        rw [hcella, hcellb, Bool.eq_iff_iff, Bool.not_eq_true', ← Bool.not_eq_true,
          less_stampCell ha hb, id, id, decide_eq_true_iff, not_lt]
    rwa [map_id, map_id] at hmap
  rw [hsorted]
  refine (pairwise_mergeSort (fun a b c hab hbc => ?_) (fun a b => ?_) rows).imp
    of_decide_eq_true
  · exact decide_eq_true ((of_decide_eq_true hbc).trans (of_decide_eq_true hab))
  · simp [Nat.le_total]

lemma head_falling (hstamp : ∀ r ∈ rows, (stamp r).Ticks ∧ r.get column = stampCell (stamp r))
    (h : (falling column rows).head? = some r) :
    r ∈ rows ∧ ∀ r' ∈ rows, (stamp r').toSeconds ≤ (stamp r).toSeconds := by
  obtain ⟨rest, hrest⟩ := head?_eq_some_iff.1 h
  have hpairwise := pairwise_falling hstamp
  rw [hrest] at hpairwise
  have hmem (r' : Row) : r' ∈ rows ↔ r' ∈ r :: rest := by
    rw [← hrest, falling, mem_mergeSort]
  refine ⟨(hmem r).2 mem_cons_self, fun r' hr' => ?_⟩
  rcases mem_cons.1 ((hmem r').1 hr') with rfl | hr'
  · exact le_rfl
  · exact rel_of_pairwise_cons hpairwise hr'

lemma truthy_admits_stamp (ht : t.Ticks) (h : r.get column = stampCell t) :
    Role.stamp.Admits (r.value column) := by
  intro _
  rw [Row.value, h]
  exact ⟨_, t, rfl, ht.ofIso_textWith⟩

lemma Part.legible_of_stamps {part : Part} (hpart : part ∈ [Part.profiles, .sensors, .audits])
    (hcreated : Role.stamp.Admits (r.value "created_at"))
    (hupdated : Role.stamp.Admits (r.value "updated_at")) : part.layout.Legible r := by
  simp only [mem_cons, not_mem_nil, or_false] at hpart
  intro f hf
  rcases hpart with rfl | rfl | rfl <;>
  · simp only [Part.layout, Layout.profile, Layout.sensor, Layout.audit, mem_cons, not_mem_nil,
      or_false] at hf
    rcases hf with rfl | rfl | rfl | rfl | rfl | rfl | rfl | rfl | rfl | rfl | rfl <;>
      first | exact hcreated | exact hupdated | trivial

lemma Watch.Kept.legible (h : w.Kept kind limit) (hr : r ∈ (w.store.table kind.part).rows) :
    kind.part.layout.Legible r := by
  obtain ⟨t, ht, hcreated⟩ := h.created r hr
  obtain ⟨u, hu, hupdated, -⟩ := h.updated r hr
  refine Part.legible_of_stamps ?_ (truthy_admits_stamp ht hcreated) (truthy_admits_stamp hu hupdated)
  cases kind <;> decide

lemma Watch.Kept.active? (h : w.Kept kind limit) :
    let active := (w.store.table kind.part).rows.filter (·.marked "is_active")
    active = [] ∧ w.store.active? kind.part = .ok none ∨
      ∃ r ∈ active, ∃ config m, Record.ofRow kind.part.layout r = .ok config ∧
        w.store.active? kind.part = .ok (some config) ∧ w.activated r.id = some m ∧
        ∀ r' ∈ active, ∃ m', w.activated r'.id = some m' ∧ m'.toSeconds ≤ m.toSeconds := by
  intro active
  have hmem {r : Row} (hr : r ∈ active) :
      r ∈ (w.store.table kind.part).rows ∧ r.marked "is_active" := mem_filter.1 hr
  have hstamps : ∀ r, r ∈ active → ∃ t : Moment, (t.Ticks ∧ r.get "updated_at" = stampCell t) ∧
      ∃ m, w.activated r.id = some m ∧ t.toSeconds ≤ m.toSeconds := by
    intro r hr
    obtain ⟨t, ht, hstamp, -, hactive⟩ := h.updated r (hmem hr).1
    exact ⟨t, ⟨ht, hstamp⟩, hactive (hmem hr).2⟩
  choose! stamp hstamp hactivated using hstamps
  have hread : w.store.active? kind.part =
      ((falling "updated_at" active).head?).mapM (Record.ofRow kind.part.layout) := rfl
  cases hhead : (falling "updated_at" active).head? with
  | none =>
    have hnone : w.store.active? kind.part = .ok none := by
      rw [hread, hhead]
      rfl
    exact .inl ⟨filter_eq_nil_iff.2 (active?_eq_none_iff.1 hnone), hnone⟩
  | some r =>
    obtain ⟨hr, hlatest⟩ := head_falling hstamp hhead
    obtain ⟨m, hm, hle⟩ := hactivated r hr
    obtain ⟨config, hconfig⟩ := Record.ofRow_succeeds_iff.2 (h.legible (hmem hr).1)
    refine .inr ⟨r, hr, config, m, hconfig, ?_, hm, fun r' hr' => ?_⟩
    · rw [hread, hhead]
      show some <$> Record.ofRow kind.part.layout r = _
      rw [hconfig]
      rfl
    · obtain ⟨m', hm', -⟩ := hactivated r' hr'
      refine ⟨m', hm', Nat.le_of_not_lt fun hlt => ?_⟩
      -- One that was activated later has the stamp of that, which is later than the latest.
      have hsaved := h.later r (hmem hr).1 r' (hmem hr').1 (hmem hr).2 (hmem hr').2 m m' hm hm' hlt
      have hless : (r.get "updated_at").less (r'.get "updated_at") := by
        rw [(hstamp r hr).2, hsaved, less_stampCell (hstamp r hr).1 (h.before _ _ hm').1]
        omega
      rw [(hstamp r hr).2, (hstamp r' hr').2,
        less_stampCell (hstamp r hr).1 (hstamp r' hr').1] at hless
      exact absurd (hlatest r' hr') (by omega)

/-- In a run from a store without configurations of a kind, with a clock that goes on between any two
    calls, no configuration counts as the active one if and only if none is active, and otherwise
    the one that was activated last does. It is later than all others if keys are whole numbers. -/
theorem active?_watch (kind : ConfigKind) (s : Store) (hsound : s.Sound)
    (hempty : (s.table kind.part).rows = []) (run : List (Moment × ConfigCall))
    (hticks : ∀ e ∈ run, e.1.Ticks)
    (hclock : run.Pairwise fun e e' => e.1.toSeconds < e'.1.toSeconds) :
    let w := watch kind s run
    let active := (w.store.table kind.part).rows.filter (·.marked "is_active")
    (w.store.active? kind.part = .ok none ↔ active = []) ∧
      (active ≠ [] → ∃ r ∈ active, ∃ config m, Record.ofRow kind.part.layout r = .ok config ∧
        w.store.active? kind.part = .ok (some config) ∧ w.activated r.id = some m ∧
        ∀ r' ∈ active, r'.id ≠ r.id → ∃ m', w.activated r'.id = some m' ∧
          m'.toSeconds ≤ m.toSeconds ∧
          ((∀ e ∈ run, e.2.Whole kind) → m'.toSeconds < m.toSeconds)) := by
  intro w active
  obtain ⟨limit, hlimit⟩ : ∃ limit, ∀ e ∈ run, e.1.toSeconds < limit := by
    refine ⟨(run.map (·.1.toSeconds)).sum + 1, fun e he => Nat.lt_succ_of_le ?_⟩
    exact le_sum_of_mem (mem_map_of_mem he)
  have hkept := kept_watch hsound hempty run hticks hclock limit hlimit
  rcases hkept.active? with ⟨hnone, hread⟩ | ⟨r, hr, config, m, hconfig, hread, hm, hlast⟩
  · exact ⟨iff_of_true hread hnone, fun hsome => absurd hnone hsome⟩
  · refine ⟨iff_of_false ?_ (ne_nil_of_mem hr), fun _ =>
      ⟨r, hr, config, m, hconfig, hread, hm, fun r' hr' hne => ?_⟩⟩
    · rw [hread]
      nofun
    · obtain ⟨m', hm', hle⟩ := hlast r' hr'
      refine ⟨m', hm', hle, fun hwhole => Nat.lt_of_le_of_ne hle fun heq => hne ?_⟩
      exact activated_injective hsound hempty run hticks hclock hwhole hm' hm heq

/-- Of two configurations the first is chosen, and then the second is saved as active again. -/
theorem active?_watch_saved_after_chosen :
    (watch .sensor empty
      [(firstMinute 1, .save [("name", .text "a"), ("is_active", .bool true)]),
       (firstMinute 2, .save [("name", .text "b"), ("is_active", .bool true)]),
       (firstMinute 3, .activate (.int 1)),
       (firstMinute 4, .save [("id", .int 2), ("name", .text "b"), ("is_active", .bool true)])]
      ).store.active? .sensors ≠ .ok none := by
  refine mt (active?_watch .sensor empty sound_empty rfl _ ?_ ?_).1.1 ?_
  · intro e he
    fin_cases he <;> exact ⟨by decide, rfl, rfl, by decide⟩
  · decide +kernel
  · decide +kernel

end Huntbook.Store
