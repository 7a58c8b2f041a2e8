import Huntbook.Proofs.Serving

/-!
# The settings of a search

Where a search looks is said by the request, else by the profile that it names, else by the rule.
The type of sources of a profile is passed over, though, the common model is only asked for with a
profile, and a profile with the id zero is not looked up.

* `settings_resolved_iff`: when the settings of a search follow it.
-/

namespace Huntbook.Web.Conversions

open Serving Conversion

/-- The setting of a profile, or what the rule implies. Empty settings and stars do not count. -/
def settingOr (setting? : Option Value) (implied : Value) : Value :=
  match setting? with
  | some setting => if setting.truthy && !setting.same (.text "*") then setting else implied
  | none => implied

/-- A setting by the general rule: the one of the request, else the one of its profile, else the one
    that the rule implies. -/
def resolved (override : Value) (setting? : Option Value) (implied : Value) : Value :=
  if override.truthy then override else settingOr setting? implied

/-- Whether a search is for the common model, by the same rule. -/
def modelResolved (override : Value) (profile? : Option Record) : Bool :=
  if override.isNull then profile?.any fun profile => (profile.get "cim_enabled").truthy
  else override.truthy

/-- The profile that a request refers to. -/
def profileOf (s : Store) (i : Input) : Try (Option Record) :=
  if (i.field "profile_id").isNull then .ok none else s.found? .profiles (i.field "profile_id")

lemma resolved_none_eq_iff {override implied : Value} {setting? : Option Value} :
    resolved override none implied = resolved override setting? implied ↔
      override.truthy ∨ settingOr setting? implied = implied := by
  by_cases htruthy : override.truthy
  · simp [resolved, htruthy]
  · rw [resolved, resolved, if_neg htruthy, if_neg htruthy, or_iff_right htruthy]
    exact eq_comm

lemma options_eq_ok {i : Input} {s : Store} {chosen : Options} {profile? : Option Record}
    (hprofile : profileOf s i = .ok profile?) (h : options s i = .ok chosen) (feed : Feed) :
    (scopeOf chosen feed).index = resolved (i.field "index_override")
      (if (i.field "profile_id").truthy then profile?.map (·.get "index_name") else none)
      (.text feed.index) ∧ (scopeOf chosen feed).sourcetype =
      resolved (i.field "sourcetype_override") none (.text feed.sourcetype) ∧
    chosen.useModel = ((i.field "profile_id").truthy && profile?.isSome &&
      modelResolved (i.field "cim_override") profile?) := by
  rw [options] at h
  split at h
  · rename_i hid
    rw [Bool.not_eq_true'] at hid
    cases h
    simp [hid, scopeOf, resolved, settingOr]
  · rename_i hid
    rw [Bool.not_eq_true', Bool.not_eq_false] at hid
    have hnull : (i.field "profile_id").isNull = false := by
      cases hv : i.field "profile_id" <;> simp_all [Value.truthy, Value.isNull]
    rw [profileOf, hnull, if_neg Bool.false_ne_true] at hprofile
    simp only [hprofile, bind_eq_ok] at h
    obtain ⟨_, heq, h⟩ := h
    cases heq
    cases profile? with
    | none =>
      cases h
      simp [hid, scopeOf, resolved, settingOr]
    | some profile =>
      obtain ⟨entries, -, h⟩ := bind_eq_ok.1 h
      cases h
      refine ⟨?_, by simp [scopeOf, resolved, settingOr], by simp [hid, modelResolved]⟩
      by_cases hoverride : (i.field "index_override").truthy
      · simp [scopeOf, resolved, hoverride]
      · have hnone : Value.null.truthy = false := rfl
        cases hstar : (profile.get "index_name").same (.text "*") <;>
          simp [scopeOf, resolved, settingOr, hid, hoverride, hstar, hnone]

/-- A rule is converted with the settings that are chosen. The index follows the general rule unless
    it is left to a profile with the id zero, the type of sources unless it is left to a profile, and
    the model unless it is asked for without a profile. -/
theorem settings_resolved_iff {i : Input} {s : Server} {chosen : Options} {profile? : Option Record}
    (hprofile : profileOf s.store i = .ok profile?) (hchosen : options s.store i = .ok chosen) :
    (∀ reply s', (toSearch i).run.run s = (.ok reply, s') → ∃ rule result feed clause,
      Rule.acceptAny (i.field "sigma_yaml") = .ok rule ∧ convert rule chosen = .ok result ∧
      reply.field? "spl" = some (.text result.search) ∧
      (LogSource.ofRule rule >>= LogSource.feed) = .ok feed ∧
      result.search = searchText (scopeOf chosen feed) clause chosen.timeRange) ∧
    (∀ feed, (scopeOf chosen feed).index = resolved (i.field "index_override")
        (profile?.map (·.get "index_name")) (.text feed.index) ↔
      (i.field "profile_id").truthy ∨ (i.field "index_override").truthy ∨
        settingOr (profile?.map (·.get "index_name")) (.text feed.index) = .text feed.index) ∧
    (∀ feed, (scopeOf chosen feed).sourcetype = resolved (i.field "sourcetype_override")
        (profile?.map (·.get "sourcetype")) (.text feed.sourcetype) ↔
      (i.field "sourcetype_override").truthy ∨
        settingOr (profile?.map (·.get "sourcetype")) (.text feed.sourcetype) =
          .text feed.sourcetype) ∧
    (chosen.useModel = modelResolved (i.field "cim_override") profile? ↔
      (i.field "profile_id").truthy ∧ profile?.isSome ∨
        modelResolved (i.field "cim_override") profile? = false) := by
  have hused := options_eq_ok hprofile hchosen
  refine ⟨fun reply s' h => ?_, fun feed => ?_, fun feed => ?_, ?_⟩
  · obtain ⟨name, result, requirements, gaps, checks, id, hsearched, -, rfl⟩ :=
      run_toSearch_eq_ok.1 h
    obtain ⟨rule, chosen', hrule, hchosen', hresult, -⟩ := hsearched.converted
    obtain rfl := Except.ok.inj (hchosen.symm.trans hchosen')
    obtain ⟨feed, entries, condition, blocks, clause, survey, needs, hfeed, -, -, -, -, -, -, heq⟩ :=
      convert_eq_ok.1 hresult
    exact ⟨rule, result, feed, clause, hrule, hresult, by cbv, hfeed, congrArg Result.search heq⟩
  · rw [(hused feed).1]
    by_cases hid : (i.field "profile_id").truthy
    · simp [hid]
    · rw [if_neg hid, resolved_none_eq_iff, or_iff_right hid]
  · rw [(hused feed).2.1, resolved_none_eq_iff]
  · rw [(hused ⟨"", "", []⟩).2.2]
    cases modelResolved (i.field "cim_override") profile? <;> simp

/-- A request to convert a rule. -/
def asking (fields : Fields) : Input where
  now := newYear
  arguments := []
  body := .record fields
  given := []
  raw := ""

theorem settings_resolved_main : ∃ chosen,
    options bareServer.store (asking [("index_override", .text "main")]) = .ok chosen ∧
      ∀ feed, (scopeOf chosen feed).index = .text "main" := by
  have hindex : (asking [("index_override", .text "main")]).field "index_override" = .text "main" := by
    cbv
  have hchosen : options bareServer.store (asking [("index_override", .text "main")]) =
      .ok { Options.default with index := .text "main" } := by cbv
  have hprofile : profileOf bareServer.store (asking [("index_override", .text "main")]) = .ok none := by
    cbv
  obtain ⟨-, hiff, -⟩ := settings_resolved_iff hprofile hchosen
  rw [hindex] at hiff
  exact ⟨_, hchosen, fun feed => (hiff feed).2 (.inr (.inl rfl))⟩

/-- A store with a profile for a type of sources. -/
def oneProfile : Store :=
  ((Store.createProfile newYear ⟨.profile, [("name", .text "a"), ("index_name", .text "*"),
    ("sourcetype", .text "b"), ("cim_enabled", .bool false)]⟩).run.run .empty).2

/-- The type of sources of a profile is not used, and the model is not asked for without a profile. -/
theorem settings_ignored :
    (∃ chosen profile, options oneProfile (asking [("profile_id", .int 1)]) = .ok chosen ∧
      profileOf oneProfile (asking [("profile_id", .int 1)]) = .ok (some profile) ∧
      profile.get "sourcetype" = .text "b" ∧
      (scopeOf chosen ⟨"*", "*", []⟩).sourcetype = .text "*") ∧
    ∃ chosen, options .empty (asking [("cim_override", .bool true)]) = .ok chosen ∧
      chosen.useModel = false ∧ modelResolved (.bool true) none = true := by
  obtain ⟨chosen, hchosen, hscope⟩ :=
    exists_ok_of_any (x := options oneProfile (asking [("profile_id", .int 1)]))
      (p := fun chosen => (scopeOf chosen ⟨"*", "*", []⟩).sourcetype.agree (.text "*"))
      (by decide +kernel)
  obtain ⟨profile?, hprofile, hsource⟩ :=
    exists_ok_of_any (x := profileOf oneProfile (asking [("profile_id", .int 1)]))
      (p := fun profile? => profile?.any fun p => (p.get "sourcetype").agree (.text "b"))
      (by decide +kernel)
  obtain ⟨profile, rfl, hsource⟩ := (Option.any_eq_true ..).1 hsource
  exact ⟨⟨chosen, profile, hchosen, hprofile, Value.eq_of_agree hsource, Value.eq_of_agree hscope⟩,
    .default, by cbv, rfl, rfl⟩

end Huntbook.Web.Conversions
