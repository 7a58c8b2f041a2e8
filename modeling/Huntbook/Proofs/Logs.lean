import Huntbook.Proofs.Serving
import Mathlib.Data.List.Nodup
import Mathlib.Data.List.Pairwise

/-!
# Events and the logs that record them

The events that a rule asks for are dealt out to the logs. An event of a known source goes to one
log, once; an event of no known source goes to no log, but for the one that stands in on Windows
where nothing else is known.

* `requirements_dealt`: it holds of what every rule requires.
-/

namespace Huntbook

open List

/-! ## Collecting -/

lemma pairwise_collect {α : Type} {R : α → α → Prop} (skips : List α → α → Bool)
    (hskips : ∀ kept v, skips kept v = false → ∀ a ∈ kept, R a v) (items kept : List α)
    (h : kept.Pairwise R) :
    (items.foldl (fun kept v => if skips kept v then kept else kept ++ [v]) kept).Pairwise R := by
  induction items generalizing kept with
  | nil => exact h
  | cons v items ih =>
    rw [foldl_cons]
    apply ih
    split
    · exact h
    · rename_i hv
      refine pairwise_append.2 ⟨h, pairwise_singleton _ _, ?_⟩
      intro a ha b hb
      rw [mem_singleton.1 hb]
      exact hskips kept v (Bool.eq_false_iff.2 hv) a ha

lemma Value.pairwise_distinct (items : List Value) :
    (distinct items).Pairwise fun a b => b.same a = false :=
  pairwise_collect (fun kept v => kept.any v.same)
    (fun _ _ h a ha => Bool.eq_false_iff.2 (any_eq_false.1 h a ha)) items [] .nil

namespace Conversion

variable {keys : Texts}

lemma nodup_addKeys (h : keys.Nodup) (more : Texts) : (addKeys keys more).Nodup := by
  refine pairwise_collect (fun kept s => s.isEmpty || kept.contains s) ?_ more keys h
  intro kept s hs a ha heq
  simp [← heq, ha] at hs

lemma mem_addKeys {more : Texts} {s : String} (hs : s.isEmpty = false)
    (h : s ∈ keys ∨ s ∈ more) : s ∈ addKeys keys more := by
  induction more generalizing keys with
  | nil => exact h.resolve_right not_mem_nil
  | cons k more ih =>
    apply ih
    grind

lemma nodup_of_sourceKeys {service category : Value}
    (h : sourceKeys service category = .ok keys) : keys.Nodup := by
  unfold sourceKeys at h
  split at h
  · split at h
    · cases h
      exact nodup_nil
    · obtain ⟨key, -, rfl⟩ := map_eq_ok.1 h
      exact nodup_singleton key
  · split at h
    · split at h
      · cases h
        cases hfind : categoryLogs.find? fun c => category.same (.text c.1) with
        | none => exact nodup_nil
        | some c =>
          have hall : ∀ c ∈ categoryLogs, c.2.Nodup := by decide
          exact hall c (mem_of_find?_eq_some hfind)
      · cases h
    · cases h
      exact nodup_nil

/-! ## Codes and sources -/

lemma IsCode.same_comm {a b : Value} (ha : IsCode a) (hb : IsCode b) : a.same b = b.same a := by
  rcases ha with ⟨m, rfl⟩ | ⟨m, rfl⟩ <;> rcases hb with ⟨n, rfl⟩ | ⟨n, rfl⟩ <;>
    simp [Value.same, Value.number?, Value.sameNumber, Bool.beq_comm]

lemma IsCode.same_self {a : Value} (ha : IsCode a) : a.same a := by
  rcases ha with ⟨m, rfl⟩ | ⟨m, rfl⟩ <;> simp [Value.same, Value.number?, Value.sameNumber]

variable {codes : List Value}

lemma pairwise_eventsOf (h : ∀ c ∈ codes, IsCode c) :
    (eventsOf codes).Pairwise fun a b => a.id.same b.id = false := by
  rw [eventsOf, pairwise_map]
  refine (Value.pairwise_distinct codes).imp_of_mem ?_
  intro a b ha hb hab
  rwa [id_ofCode, id_ofCode,
    (h a (Value.mem_of_mem_distinct ha)).same_comm (h b (Value.mem_of_mem_distinct hb))]

lemma isSome_logInfo? (code : Value) :
    (Event.ofCode code).source ≠ "Unknown" ↔ (logInfo? (Event.ofCode code).logKey).isSome := by
  have hnamed : ∀ s ∈ namedEvents, s.1 ≠ "Unknown" ∧ (logInfo? (Text.lower s.1)).isSome := by
    decide +kernel
  unfold Event.ofCode
  dsimp only
  split
  · rename_i name source hfind
    obtain ⟨s, hs, hfind⟩ := exists_of_findSome?_eq_some hfind
    obtain ⟨e, -, he⟩ := Option.map_eq_some_iff.1 hfind
    cases he
    exact iff_of_true (hnamed s hs).1 (hnamed s hs).2
  · have hnone : logInfo? (Text.lower "Unknown") = none := by decide +kernel
    simp [Event.logKey, hnone]

lemma key_of_name {k l : String} {i j : LogInfo} (hi : logInfo? k = some i)
    (hj : logInfo? l = some j) (h : i.name = j.name) : k = l := by
  have hall : ∀ a ∈ knownLogs, ∀ b ∈ knownLogs, a.2.name = b.2.name → a.1 = b.1 := by
    decide +kernel
  obtain ⟨a, ha, rfl⟩ := Option.map_eq_some_iff.1 hi
  obtain ⟨b, hb, rfl⟩ := Option.map_eq_some_iff.1 hj
  have hak : a.1 = k := by simpa using find?_some ha
  have hbl : b.1 = l := by simpa using find?_some hb
  rw [← hak, ← hbl]
  exact hall a (mem_of_find?_eq_some ha) b (mem_of_find?_eq_some hb) h

/-! ## Dealing -/

structure Dealt (windows : Prop) (events : List Event) (logs : List (RequiredLog Event)) :
    Prop where
  ids : events.Pairwise fun a b => a.id.same b.id = false
  names : (logs.map (·.info.name)).Nodup
  once : ∀ e ∈ events, e.source ≠ "Unknown" → ∃ log ∈ logs,
    log.events.countP (fun x => e.id.same x.id) = 1 ∧
      ∀ other ∈ logs, (∃ x ∈ other.events, e.id.same x.id) → other = log
  order : ∀ log ∈ logs, log.events.Sublist events
  unknown : ∀ log ∈ logs, ∀ e ∈ log.events, e.source = "Unknown" →
    windows ∧ logs = [log] ∧ logInfo? "sysmon" = some log.info

def logsFor (keys : Texts) (events : List Event) : List (RequiredLog Event) :=
  keys.filterMap fun key => (logInfo? key).map (⟨·, events.filter (·.logKey == key)⟩)

lemma mem_logsFor {events : List Event} {log : RequiredLog Event} :
    log ∈ logsFor keys events ↔ ∃ key ∈ keys, logInfo? key = some log.info ∧
      log.events = events.filter (·.logKey == key) := by
  obtain ⟨info, es⟩ := log
  simp only [logsFor, mem_filterMap, Option.map_eq_some_iff, RequiredLog.mk.injEq]
  grind

lemma nodup_names_logsFor (h : keys.Nodup) (events : List Event) :
    ((logsFor keys events).map (·.info.name)).Nodup := by
  rw [List.Nodup, pairwise_map, logsFor, pairwise_filterMap]
  refine h.imp ?_
  intro k l hkl a ha b hb hname
  obtain ⟨i, hi, rfl⟩ := Option.map_eq_some_iff.1 ha
  obtain ⟨j, hj, rfl⟩ := Option.map_eq_some_iff.1 hb
  exact hkl (key_of_name hi hj hname)

section

variable {events : List Event} (hids : events.Pairwise fun a b => a.id.same b.id = false)
  (hcodes : ∀ e ∈ events, IsCode e.id) {e : Event} (he : e ∈ events)

include hids hcodes he

lemma exists_split_at : ∃ before after, events = before ++ e :: after ∧
    ∀ x ∈ before ++ after, e.id.same x.id = false := by
  obtain ⟨before, after, rfl⟩ := append_of_mem he
  obtain ⟨-, hafter, hbefore⟩ := pairwise_append.1 hids
  refine ⟨before, after, rfl, ?_⟩
  intro x hx
  rcases mem_append.1 hx with hx | hx
  · rw [(hcodes e he).same_comm (hcodes x (mem_append_left _ hx))]
    exact hbefore x hx e mem_cons_self
  · exact rel_of_pairwise_cons hafter hx

lemma eq_of_same_id {x : Event} (hx : x ∈ events) (h : e.id.same x.id) : x = e := by
  obtain ⟨before, after, hevents, hothers⟩ := exists_split_at hids hcodes he
  grind

lemma countP_same_id {q : Event → Bool} (hq : q e) :
    (events.filter q).countP (fun x => e.id.same x.id) = 1 := by
  have hself : e.id.same e.id := (hcodes e he).same_self
  obtain ⟨before, after, rfl, hothers⟩ := exists_split_at hids hcodes he
  have hnone (l : List Event) (hl : l ⊆ before ++ after) :
      l.countP (fun x => e.id.same x.id && q x) = 0 :=
    countP_eq_zero.2 fun x hx => by simp [hothers x (hl hx)]
  rw [countP_filter, countP_append, countP_cons, hnone before (by simp), hnone after (by simp)]
  simp [hself, hq]

end

lemma isSome_logInfo?_iff {e : Event} (he : e ∈ eventsOf codes) :
    (logInfo? e.logKey).isSome ↔ e.source ≠ "Unknown" := by
  obtain ⟨code, -, rfl⟩ := mem_map.1 he
  exact (isSome_logInfo? code).symm

section

variable {codes : List Value} (hcodes : ∀ c ∈ codes, IsCode c) (windows : Prop)

include hcodes

lemma dealt_logsFor {keys : Texts} (hkeys : keys.Nodup)
    (hmem : ∀ e ∈ eventsOf codes, e.source ≠ "Unknown" → e.logKey ∈ keys) :
    Dealt windows (eventsOf codes) (logsFor keys (eventsOf codes)) where
  ids := pairwise_eventsOf hcodes
  names := nodup_names_logsFor hkeys _
  once := by
    intro e he hsource
    have hids := pairwise_eventsOf hcodes
    have hisCode := isCode_of_mem_eventsOf hcodes
    obtain ⟨info, hinfo⟩ := Option.isSome_iff_exists.1 ((isSome_logInfo?_iff he).2 hsource)
    refine ⟨⟨info, (eventsOf codes).filter (·.logKey == e.logKey)⟩,
      mem_logsFor.2 ⟨e.logKey, hmem e he hsource, hinfo, rfl⟩,
      countP_same_id hids hisCode he (beq_self_eq_true e.logKey), ?_⟩
    rintro ⟨info', events'⟩ hother ⟨x, hx, hsame⟩
    obtain ⟨key, -, hinfo', rfl⟩ := mem_logsFor.1 hother
    obtain ⟨hx, hkey⟩ := mem_filter.1 hx
    -- The event that the other log shares is this one, so both logs have its key.
    obtain rfl := eq_of_same_id hids hisCode he hx hsame
    obtain rfl := eq_of_beq hkey
    rw [hinfo, Option.some.injEq] at hinfo'
    rw [hinfo']
  order := by
    intro log hlog
    obtain ⟨key, -, -, hevents⟩ := mem_logsFor.1 hlog
    rw [hevents]
    exact filter_sublist
  unknown := by
    intro log hlog e he hsource
    obtain ⟨key, -, hinfo, hevents⟩ := mem_logsFor.1 hlog
    rw [hevents] at he
    obtain ⟨hmem, hkey⟩ := mem_filter.1 he
    rw [← eq_of_beq hkey] at hinfo
    exact absurd hsource ((isSome_logInfo?_iff hmem).1 (Option.isSome_of_mem hinfo))

lemma dealt_singleton {info : LogInfo} (hinfo : logInfo? "sysmon" = some info)
    (hwindows : windows) (h : ∀ e ∈ eventsOf codes, e.source = "Unknown") :
    Dealt windows (eventsOf codes) [⟨info, eventsOf codes⟩] where
  ids := pairwise_eventsOf hcodes
  names := nodup_singleton _
  once e he hsource := absurd (h e he) hsource
  order log hlog := by rw [mem_singleton.1 hlog]
  unknown log hlog _ _ _ := by
    obtain rfl := mem_singleton.1 hlog
    exact ⟨hwindows, rfl, hinfo⟩

lemma dealt_of_requiredLogs {isWindows : Bool} {service category : Value}
    {logs : List (RequiredLog Event)} (hwindows : isWindows → windows)
    (h : requiredLogs (fun e => .ok e.logKey) isWindows service category (eventsOf codes) =
      .ok logs) : Dealt windows (eventsOf codes) logs := by
  obtain ⟨start, hstart, h⟩ := bind_eq_ok.1 h
  obtain ⟨keyed, hkeyed, h⟩ := bind_eq_ok.1 h
  obtain rfl : (eventsOf codes).map (fun e => (e.logKey, e)) = keyed :=
    Except.ok.inj (mapM_pure.symm.trans hkeyed)
  simp only [map_map, filter_map, Function.comp_def, map_id'] at h
  have hmem : ∀ e ∈ eventsOf codes, e.source ≠ "Unknown" →
      e.logKey ∈ addKeys start ((eventsOf codes).map Event.logKey) := by
    intro e he hsource
    refine mem_addKeys (Bool.eq_false_iff.2 ?_) (.inr (mem_map_of_mem he))
    intro hempty
    have hinfo := (isSome_logInfo?_iff he).2 hsource
    rw [String.isEmpty_iff.1 hempty] at hinfo
    exact absurd hinfo (by decide)
  have hdealt := dealt_logsFor hcodes windows (nodup_addKeys (nodup_of_sourceKeys hstart) _) hmem
  split at h
  · rename_i hnone
    obtain ⟨hempty, hisWindows⟩ := Bool.and_eq_true_iff.1 hnone
    cases h
    refine dealt_singleton hcodes windows rfl (hwindows hisWindows) ?_
    intro e he
    by_contra hsource
    obtain ⟨log, hlog, -⟩ := hdealt.once e he hsource
    exact ne_nil_of_mem hlog (isEmpty_iff.1 hempty)
  · cases h
    exact hdealt

end

/-- The events of the requirements are dealt out to their logs. -/
def Requirements.AreDealt (needs : Requirements) : Prop :=
  Dealt (∃ product, needs.product = some product ∧ Text.lower product = "windows")
    needs.events needs.logs

lemma text_of_isWindows {v : Value} (h : isWindows v = .ok true) :
    ∃ p, v = .text p ∧ Text.lower p = "windows" := by
  cases v with
  | text p =>
    have hlower : (Text.lower p == "windows") = true := Except.ok.inj h
    exact ⟨p, rfl, eq_of_beq hlower⟩
  | _ => cases h

lemma product_of_isWindows {source product named service category : Value}
    {names : Option String × Option String × Option String}
    (hproduct : source.getOr "product" (.text "") = .ok product)
    (hwindows : isWindows product = .ok true)
    (hnamed : source.getOr "product" (.text "unknown") = .ok named)
    (hnames : sourceNames named service category = .ok names) :
    ∃ p, names.1 = some p ∧ Text.lower p = "windows" := by
  cases source with
  | map entries =>
    obtain rfl := Except.ok.inj hproduct
    obtain rfl := Except.ok.inj hnamed
    obtain ⟨p, hp, hlower⟩ := text_of_isWindows hwindows
    cases hfind : Value.find? entries (.text "product") with
    | none =>
      obtain rfl := Value.text.inj ((congrArg (Option.getD · _) hfind).symm.trans hp)
      exact absurd hlower (by decide)
    | some v =>
      rw [hfind, Option.getD_some] at hp hnames
      subst hp
      unfold sourceNames at hnames
      split at hnames
      · rename_i hname _ _
        obtain rfl := Except.ok.inj hname
        cases hnames
        exact ⟨p, rfl, hlower⟩
      · cases hnames
  | _ => cases hproduct

lemma areDealt_of_requirements {rule : Value} {codes : Try (List Value)}
    {needs : Requirements} (hcodes : ∀ cs, codes = .ok cs → ∀ c ∈ cs, IsCode c)
    (h : requirements rule codes = .ok needs) : needs.AreDealt := by
  simp only [requirements, bind_eq_ok] at h
  obtain ⟨source, -, product, hproduct, windows, hwindows, service, -, category, -, given, hgiven,
    own, hown, logs, hlogs, named, hnamed, _, -, _, -, names, hnames, h⟩ := h
  cases h
  refine dealt_of_requiredLogs ?_ _ ?_ hlogs
  · intro c hc
    rcases mem_append.1 hc with hc | hc
    · exact hcodes given hgiven c hc
    · exact isCode_of_ruleCodes hown c hc
  · rintro rfl
    exact product_of_isWindows hproduct hwindows hnamed hnames

lemma isCode_of_codesOf {code : Value} (h : codesOf code = .ok codes) :
    ∀ c ∈ codes, IsCode c := by
  intro c hc
  cases code with
  | int n =>
    cases h
    split at hc
    · cases hc
    · exact .inl ⟨n, mem_singleton.1 hc⟩
  | bool b =>
    cases h
    split at hc
    · exact .inr ⟨b, mem_singleton.1 hc⟩
    · cases hc
  | text s =>
    obtain ⟨digits, -, hn⟩ := exists_of_mem_mapM h hc
    obtain ⟨n, -, rfl⟩ := map_eq_ok.1 hn
    exact .inl ⟨n, rfl⟩
  | _ =>
    cases h
    cases hc

/-- The requirements of a rule for any code of a feed, and those that a conversion tells, deal out
    their events. -/
theorem requirements_dealt (rule : Value) :
    (∀ code needs, requirements rule (codesOf code) = .ok needs → needs.AreDealt) ∧
      ∀ options result, convert rule options = .ok result → result.requirements.AreDealt := by
  constructor
  · intro code needs h
    exact areDealt_of_requirements (fun _ => isCode_of_codesOf) h
  · intro options result h
    obtain ⟨feed, _, _, _, _, _, needs, -, -, -, -, -, -, hneeds, rfl⟩ := convert_eq_ok.1 h
    refine areDealt_of_requirements ?_ hneeds
    intro codes hcodes c hc
    obtain rfl := Except.ok.inj hcodes
    obtain ⟨n, -, rfl⟩ := mem_map.1 hc
    exact .inl ⟨n, rfl⟩

/-- A rule that asks for events of two sources and for one of none. -/
def threeCodes : Value :=
  .record [("logsource", .record [("product", .text "windows")]),
    ("detection", .record
      [("selection", .record [("EventID", .list [.int 4688, .int 1, .int 77])])])]

theorem requirements_dealt_threeCodes : ∃ needs,
    requirements threeCodes (codesOf (.text "1")) = .ok needs ∧ needs.AreDealt ∧
      needs.logs.map (fun l => (l.info.name, l.events.map (·.source))) =
        [("Windows Sysmon", ["Sysmon"]), ("Windows Security", ["Security"])] := by
  have hlogs : (requirements threeCodes (codesOf (.text "1"))).map
      (fun needs => needs.logs.map fun l => (l.info.name, l.events.map (·.source))) =
        .ok [("Windows Sysmon", ["Sysmon"]), ("Windows Security", ["Security"])] := by
    cbv
  obtain ⟨needs, hneeds, hlogs⟩ := map_eq_ok.1 hlogs
  exact ⟨needs, hneeds, (requirements_dealt threeCodes).1 _ needs hneeds, hlogs⟩

end Conversion
end Huntbook
