import Huntbook.Proofs.Coherence
import Huntbook.Proofs.Logs

/-!
# Statistics of playbooks

Two endpoints count playbooks by their tactics, each in a loop of its own.

* `Web.Playbooks.statistics_agree`: both tell of the same groups of playbooks.
-/

namespace Huntbook

open List

namespace Value

lemma distinct_append (items : List Value) (v : Value) : distinct (items ++ [v]) =
    if (distinct items).any v.same then distinct items else distinct items ++ [v] := by
  rw [distinct, foldl_append]
  rfl

/-- Every item is kept, or another one that is the same. -/
lemma mem_or_same_distinct {items : List Value} {v : Value} (h : v ∈ items) :
    v ∈ distinct items ∨ ∃ w ∈ distinct items, v.same w := by
  induction items using reverseRecOn with
  | nil => cases h
  | append_singleton items w ih =>
    rw [distinct_append]
    rcases mem_append.1 h with h | h
    · split
      · exact ih h
      · rcases ih h with h | ⟨u, hu, hsame⟩
        · exact .inl (mem_append_left _ h)
        · exact .inr ⟨u, mem_append_left _ hu, hsame⟩
    · obtain rfl := mem_singleton.1 h
      split
      · rename_i hany
        exact .inr (any_eq_true.1 hany)
      · exact .inl (by simp)

end Value

namespace Playbook

/-! ## Groups -/

def gather (part : Summary → Value) (s : Summary) :
    List (Value × List Summary) → List (Value × List Summary)
  | [] => [(part s, [s])]
  | g :: groups =>
    if (part s).same g.1 then (g.1, g.2 ++ [s]) :: groups else g :: gather part s groups

/-- Playbooks by a part of what is listed of them. -/
def groupsOf (part : Summary → Value) (found : List Summary) : List (Value × List Summary) :=
  found.foldl (fun groups s => gather part s groups) []

/-- Each playbook is in one group, with others of the same kind. -/
structure Groups (part : Summary → Value) (found : List Summary) (groups : List (Value × List Summary)) :
    Prop where
  perm : (groups.flatMap (·.2)).Perm found
  kind : ∀ g ∈ groups, ∀ s ∈ g.2, part s = g.1 ∨ (part s).same g.1
  apart : groups.Pairwise fun g g' => ¬g'.1.same g.1

variable {part : Summary → Value} {found : List Summary} {groups : List (Value × List Summary)}

lemma groupsOf_append (part : Summary → Value) (found : List Summary) (s : Summary) :
    groupsOf part (found ++ [s]) = gather part s (groupsOf part found) := by
  rw [groupsOf, foldl_append]
  rfl

lemma gather_cases (part : Summary → Value) (s : Summary) (groups : List (Value × List Summary)) :
    (∃ before g after, groups = before ++ g :: after ∧ (part s).same g.1 ∧
      gather part s groups = before ++ (g.1, g.2 ++ [s]) :: after) ∨
    (∀ g ∈ groups, ¬(part s).same g.1) ∧ gather part s groups = groups ++ [(part s, [s])] := by
  induction groups with
  | nil => exact .inr ⟨nofun, rfl⟩
  | cons g groups ih =>
    rw [gather]
    split
    · exact .inl ⟨[], g, groups, rfl, ‹_›, rfl⟩
    · rcases ih with ⟨before, k, after, rfl, hsame, hgather⟩ | ⟨hnone, hgather⟩
      · exact .inl ⟨g :: before, k, after, rfl, hsame, by rw [hgather]; rfl⟩
      · exact .inr ⟨forall_mem_cons.2 ⟨‹_›, hnone⟩, by rw [hgather]; rfl⟩

lemma groups_groupsOf (part : Summary → Value) (found : List Summary) :
    Groups part found (groupsOf part found) := by
  induction found using reverseRecOn with
  | nil => exact ⟨.nil, nofun, .nil⟩
  | append_singleton found s ih =>
    obtain ⟨hperm, hkind, hapart⟩ := ih
    rw [groupsOf_append]
    rcases gather_cases part s (groupsOf part found) with
      ⟨before, g, after, heq, hsame, hgather⟩ | ⟨hnone, hgather⟩
    all_goals rw [hgather]
    · rw [heq] at hperm hkind hapart
      refine ⟨?_, ?_, ?_⟩
      · refine .trans ?_ (hperm.append_right [s])
        simp only [flatMap_append, flatMap_cons, append_assoc]
        exact ((perm_append_comm).append_left _).append_left _
      · simp only [forall_mem_append, forall_mem_cons] at hkind ⊢
        exact ⟨hkind.1, ⟨hkind.2.1, .inr hsame, nofun⟩, hkind.2.2⟩
      · simpa [pairwise_append, pairwise_cons] using hapart
    · refine ⟨?_, ?_, ?_⟩
      · simpa using hperm.append_right [s]
      · exact forall_mem_append.2 ⟨hkind, by simp⟩
      · exact pairwise_append.2 ⟨hapart, pairwise_singleton _ _, by simpa using hnone⟩

lemma counts_eq (part : Summary → Value) (found : List Summary) :
    counts part found = (groupsOf part found).map fun g => (g.1, .int g.2.length) := by
  induction found using reverseRecOn with
  | nil => rfl
  | append_singleton found s ih =>
    rw [counts, foldl_append, ← counts, groupsOf_append, ih]
    generalize groupsOf part found = groups
    induction groups with
    | nil => rfl
    | cons g groups ih =>
      by_cases hsame : (part s).same g.1
      · simp [gather, Value.find?, Value.put, hsame]
      · simp_all [gather, Value.find?, Value.put]

/-- The techniques of playbooks, each of them once. -/
def techniquesOf (found : List Summary) : List Value :=
  Value.distinct ((found.map (·.technique)).filter Value.truthy)

lemma techniquesOf_append (found : List Summary) (s : Summary) : techniquesOf (found ++ [s]) =
    if s.technique.truthy then addOnce s.technique (techniquesOf found) else techniquesOf found := by
  cases h : s.technique.truthy <;> simp [h, techniquesOf, Value.distinct_append, addOnce]

lemma countIn_map (s : Summary) (groups : List (Value × List Summary)) :
    Coverage.countIn s.tactic s.technique (groups.map fun g => ⟨g.1, techniquesOf g.2, g.2.length⟩) =
      (gather Summary.tactic s groups).map fun g => ⟨g.1, techniquesOf g.2, g.2.length⟩ := by
  induction groups with
  | nil => cases h : s.technique.truthy <;> simp [Coverage.countIn, gather, techniquesOf, h, Value.distinct]
  | cons g groups ih =>
    rw [map_cons, Coverage.countIn, gather]
    split
    · simp [techniquesOf_append]
    · rw [ih, map_cons]

lemma coverage_eq {c : Coverage} (h : coverage found = .ok c) :
    c.techniques = techniquesOf found ∧ c.tactics = (groupsOf Summary.tactic found).map fun g =>
      ⟨g.1, techniquesOf g.2, g.2.length⟩ := by
  induction found using reverseRecOn generalizing c with
  | nil =>
    cases h
    exact ⟨rfl, rfl⟩
  | append_singleton found s ih =>
    rw [coverage, foldlM_append] at h
    obtain ⟨c₀, hc₀, h⟩ := bind_eq_ok.1 h
    obtain ⟨htechniques, htactics⟩ := ih hc₀
    rw [groupsOf_append, techniquesOf_append, ← countIn_map, ← htactics, ← htechniques]
    simp only [foldlM_cons, foldlM_nil, bind_pure, Coverage.add] at h
    split at h
    · cases h
    · split at h <;> cases h
      exact ⟨rfl, rfl⟩

/-- A technique of some playbooks is one of more playbooks too, or the same as one of them. -/
lemma mem_techniquesOf_of_subset {found others : List Summary} (h : found ⊆ others) {a : Value}
    (ha : a ∈ techniquesOf found) : a ∈ techniquesOf others ∨ ∃ b ∈ techniquesOf others, a.same b :=
  Value.mem_or_same_distinct (filter_subset _ (map_subset _ h) (Value.mem_of_mem_distinct ha))

lemma Groups.sum_length (h : Groups part found groups) :
    (groups.map (·.2.length)).sum = found.length := by
  rw [← h.perm.length_eq, length_flatMap]

lemma Groups.subset (h : Groups part found groups) {g : Value × List Summary} (hg : g ∈ groups) :
    g.2 ⊆ found :=
  fun _ hs => h.perm.subset (mem_flatMap.2 ⟨g, hg, hs⟩)

/-- Each technique of the whole is one of a group. -/
lemma Groups.exists_technique (h : Groups part found groups) {a : Value}
    (ha : a ∈ techniquesOf found) :
    ∃ g ∈ groups, a ∈ techniquesOf g.2 ∨ ∃ b ∈ techniquesOf g.2, a.same b := by
  obtain ⟨hmem, htruthy⟩ := mem_filter.1 (Value.mem_of_mem_distinct ha)
  obtain ⟨s, hs, rfl⟩ := mem_map.1 hmem
  obtain ⟨g, hg, hsg⟩ := mem_flatMap.1 (h.perm.symm.subset hs)
  exact ⟨g, hg, Value.mem_or_same_distinct (mem_filter.2 ⟨mem_map_of_mem hsg, htruthy⟩)⟩

lemma tallies_eq {t : Entries × Entries} (h : tallies found = .ok t) :
    t = (counts Summary.tactic found, counts Summary.severity found) := by
  obtain ⟨_, _, h⟩ := bind_eq_ok.1 h
  cases h
  rfl

end Playbook

namespace Web.Playbooks

open Playbook Serving

lemma always_eq_ok {α : Type} {w : Serving α} {s : Server} {a : α}
    (h : ((always w).run.run s).1 = .ok a) : ∃ s', w.run.run s = (.ok a, s') := by
  rw [always, attempt, run_tryCatch] at h
  rcases hw : w.run.run s with ⟨e | b, s'⟩ <;> rw [hw] at h
  · cases e <;> cases h
  · cases h
    exact ⟨s', rfl⟩

/-- Where both endpoints answer, they tell of the same groups of playbooks: each playbook is counted
    once by its tactic and once by its severity, and the techniques that are covered are those of the
    groups, each one once. -/
theorem statistics_agree {s : Server} {v w : Value} (hstats : (stats.run.run s).1 = .ok v)
    (hgaps : (gaps.run.run s).1 = .ok w) : ∃ found byTactic bySeverity,
    summaries s.tree s.shelf.folder = .ok found ∧
    Groups Summary.tactic found byTactic ∧ Groups Summary.severity found bySeverity ∧
    (byTactic.map (·.2.length)).sum = found.length ∧ (bySeverity.map (·.2.length)).sum = found.length ∧
    v.field? "total_playbooks" = some (.int found.length) ∧
    v.field? "by_tactic" = some (.map (byTactic.map fun g => (g.1, .int g.2.length))) ∧
    v.field? "by_severity" = some (.map (bySeverity.map fun g => (g.1, .int g.2.length))) ∧
    w.field? "tactic_coverage" = some (.map (byTactic.map fun g => (g.1, .record
      [("techniques", .list ((techniquesOf g.2).mergeSort fun a b => a.plain ≤ b.plain)),
       ("playbooks", .int g.2.length)]))) ∧
    w.field? "total_techniques" = some (.int techniqueCount) ∧
    w.field? "covered_techniques" = some (.int (techniquesOf found).length) ∧
    (w.field? "gaps").bind (·.field? "uncovered_count") =
      some (.int (techniqueCount - (techniquesOf found).length)) ∧
    (techniquesOf found).Pairwise (fun a b => b.same a = false) ∧
    (∀ a ∈ techniquesOf found, ∃ g ∈ byTactic, a ∈ techniquesOf g.2 ∨ ∃ b ∈ techniquesOf g.2, a.same b) ∧
    ∀ g ∈ byTactic, ∀ a ∈ techniquesOf g.2,
      a ∈ techniquesOf found ∨ ∃ b ∈ techniquesOf found, a.same b := by
  obtain ⟨s₁, hstats⟩ := always_eq_ok hstats
  obtain ⟨s₂, hgaps⟩ := always_eq_ok hgaps
  obtain ⟨found, hfound, hstats⟩ := ask_bind_eq_ok.1 hstats
  obtain ⟨found', hfound', hgaps⟩ := ask_bind_eq_ok.1 hgaps
  obtain rfl : found = found' := Except.ok.inj (hfound.symm.trans hfound')
  obtain ⟨t, ht, hstats⟩ := orFault_bind_eq_ok.1 hstats
  obtain ⟨c, hc, hgaps⟩ := orFault_bind_eq_ok.1 hgaps
  obtain ⟨advised, s₃, -, hgaps⟩ := run_bind_eq_ok.1 hgaps
  obtain rfl := tallies_eq ht
  obtain ⟨htechniques, htactics⟩ := coverage_eq hc
  have htactic := groups_groupsOf Summary.tactic found
  have hseverity := groups_groupsOf Summary.severity found
  cases hstats
  cases hgaps
  simp only [Value.field?_record, lookup_cons, String.reduceBEq, Option.bind_some, counts_eq,
    Coverage.tacticsValue, Coverage.uncovered, htechniques, htactics, map_map]
  exact ⟨found, _, _, hfound, htactic, hseverity, htactic.sum_length, hseverity.sum_length, rfl, rfl, rfl,
    rfl, trivial, rfl, rfl, Value.pairwise_distinct _, fun a ha => htactic.exists_technique ha,
    fun g hg a ha => mem_techniquesOf_of_subset (htactic.subset hg) ha⟩

/-- A folder with a playbook. -/
def bookOf (id technique tactic severity : String) : String × Folder.Item :=
  (id, .folder [("playbook.yaml", .file ("id: " ++ id ++ "\nseverity: " ++ severity ++
    "\nmitre:\n technique: " ++ technique ++ "\n tactic: " ++ tactic).toUTF8)])

/-- Three playbooks: two of one tactic, two of one severity, and two tactics that share a technique. -/
def threeBooks : Server where
  __ := bareServer
  tree :=
    { root := "/"
      full := isFull_top
      items := [("playbooks", .folder [("techniques", .folder
        [bookOf "a" "T1" "x" "high", bookOf "b" "T2" "x" "low", bookOf "c" "T1" "y" "high"])])] }
  shelf := ⟨books, none, []⟩

theorem statistics_agree_threeBooks : ∃ v w byTactic bySeverity,
    (stats.run.run threeBooks).1 = .ok v ∧ (gaps.run.run threeBooks).1 = .ok w ∧
    v.field? "total_playbooks" = some (.int 3) ∧
    v.field? "by_tactic" = some (.map (byTactic.map fun g => (g.1, .int g.2.length))) ∧
    ((byTactic : List (Value × List Summary)).map (·.2.length)).sum = 3 ∧
    v.field? "by_severity" = some (.map (bySeverity.map fun g => (g.1, .int g.2.length))) ∧
    ((bySeverity : List (Value × List Summary)).map (·.2.length)).sum = 3 ∧
    w.field? "covered_techniques" = some (.int 2) := by
  obtain ⟨v, hv⟩ : Succeeds (stats.run.run threeBooks).1 := .of_isSome (by decide +kernel)
  obtain ⟨w, hw⟩ : Succeeds (gaps.run.run threeBooks).1 := .of_isSome (by decide +kernel)
  obtain ⟨found, byTactic, bySeverity, hfound, -, -, htactic, hseverity, htotal, hbyTactic, hbySeverity, -,
    -, hcovered, -⟩ := statistics_agree hv hw
  have hcounts : ((summaries threeBooks.tree threeBooks.shelf.folder).toOption.map fun found =>
      (found.length, (techniquesOf found).length)) = some (3, 2) := by decide +kernel
  rw [hfound] at hcounts
  obtain ⟨hlength, htechniques⟩ := Prod.mk.inj (Option.some.inj hcounts)
  rw [hlength] at htactic hseverity htotal
  rw [htechniques] at hcovered
  exact ⟨v, w, byTactic, bySeverity, hv, hw, htotal, hbyTactic, htactic, hbySeverity, hseverity, hcovered⟩
end Web.Playbooks

end Huntbook
