import Huntbook.Proofs.Places

/-!
# Paths that lead out of a library

A rule is read by a path that starts in the folder of the library. Nothing keeps the path there: it
may be a full path, or go back further than it has come.

* `Library.content_same_iff`: the paths for which only the library counts.
-/

namespace Huntbook

namespace Folder

/-- The same is seen at a place and below it. -/
def Tree.SameBelow (r : Texts) (t t' : Tree) : Prop :=
  t'.root = t.root ∧ ∀ q, r <+: q → t'.look q = t.look q

/-- One of two places is on the way to the other one. -/
def Near (r q : Texts) : Prop :=
  q <+: r ∨ r <+: q
  deriving Decidable

namespace Path

/-- The places that a path comes by, if folders are there. -/
def Visits (root : String) (p : Path) (q : Texts) : Prop :=
  ∃ m rest, p.names root = m ++ rest ∧ Short m ∧ q = walk [] m

def Crosses (root : String) (p : Path) (q : Texts) : Prop :=
  ∃ m n rest, p.names root = m ++ n :: rest ∧ Short m ∧ q = walk [] m

/-- A path can tell something if a name of it is found to be too long, or if there can be a file
    where it leads. -/
def Tells (root : String) (p : Path) (r : Texts) : Prop :=
  p.Usable root ∧ (Short (p.names root) →
    ¬p.spot root <+: r ∧ ∀ q, p.Crosses root q → ¬p.spot root <+: q)

end Path

namespace Tree

variable {t : Tree}

lemma look_empty {root : String} (h : Path.IsFull root) (r : Texts) :
    Tree.look ⟨root, [], h⟩ r = if r = [] then some none else none := by
  cases r <;> rfl

lemma exists_folder (h : ∀ q data, t.look q ≠ some (some data)) (q : Texts) :
    ∃ t' : Tree, t'.root = t.root ∧ ∀ r, t'.look r = if r <+: q then some none else t.look r := by
  induction q using List.reverseRecOn with
  | nil =>
    refine ⟨t, rfl, fun r => ?_⟩
    split
    · rename_i hr
      rw [List.prefix_nil.1 hr]
      rfl
    · rfl
  | append_singleton ms n ih =>
    obtain ⟨t₁, hroot, hlook⟩ := ih
    have hms : t₁.look ms = some none := by rw [hlook, if_pos (List.prefix_refl _)]
    rcases hq : t₁.look (ms ++ [n]) with _ | _ | data
    · have hsets := sets_set (i := .folder []) (fun _ _ => rfl) hms (n := n) (by simp [hq])
      refine ⟨_, hsets.root.trans hroot, fun r => ?_⟩
      rw [hsets.look, hlook]
      by_cases hr : r = ms ++ [n] <;> simp [hr, List.prefix_concat_iff, Item.face]
    · refine ⟨t₁, hroot, fun r => ?_⟩
      by_cases hr : r = ms ++ [n]
      · simp [hr, hq]
      · rw [hlook]
        simp [hr, List.prefix_concat_iff]
    · rw [hlook] at hq
      split at hq
      · cases hq
      · exact absurd hq (h _ _)

lemma exists_leads (h : ∀ q data, t.look q ≠ some (some data)) (here ns : Texts) :
    ∃ t' : Tree, t'.root = t.root ∧ t'.Leads here ns ∧ (∀ q data, t'.look q ≠ some (some data)) ∧
      (∀ q, t.look q = some none → t'.look q = some none) ∧
      ∀ q, t'.look q ≠ none → t.look q ≠ none ∨
        ∃ m n rest, ns = m ++ n :: rest ∧ q <+: walk here m := by
  induction ns generalizing t here with
  | nil => exact ⟨t, rfl, fun m n rest heq => absurd heq (by simp), h, fun _ hq => hq, fun _ => .inl⟩
  | cons n ns ih =>
    obtain ⟨t₁, hroot₁, hlook₁⟩ := exists_folder h here
    have hfiles₁ : ∀ q data, t₁.look q ≠ some (some data) := by
      intro q data
      rw [hlook₁]
      split
      · nofun
      · exact h q data
    obtain ⟨t₂, hroot₂, hleads, hfiles₂, hkeep, hnew⟩ :=
      ih hfiles₁ (if n = ".." then here.dropLast else here ++ [n])
    refine ⟨t₂, hroot₂.trans hroot₁, ?_, hfiles₂, fun q hq => hkeep q ?_, fun q hq => ?_⟩
    · exact leads_cons.2 ⟨hkeep _ (by rw [hlook₁, if_pos (List.prefix_refl _)]), fun _ => hleads⟩
    · rw [hlook₁, hq, ite_self]
    · rcases hnew q hq with hq | ⟨m, k, rest, rfl, hm⟩
      · rw [hlook₁] at hq
        split at hq
        · rename_i hhere
          exact .inr ⟨[], n, ns, rfl, hhere⟩
        · exact .inl hq
      · exact .inr ⟨n :: m, k, rest, rfl, hm⟩

lemma exists_telling {root : String} {p : Path} {r : Texts} (hroot : Path.IsFull root)
    (h : p.Tells root r) : ∃ t : Tree, t.root = root ∧ t.look r = some none ∧
      t.Leads [] (p.names root) ∧
      (Path.Short (p.names root) → t.look (p.spot root) = some (some "".toUTF8)) := by
  have hnone : ∀ q data, Tree.look ⟨root, [], hroot⟩ q ≠ some (some data) := by
    intro q data
    rw [look_empty]
    split <;> simp
  obtain ⟨t₁, hroot₁, hlook₁⟩ := exists_folder hnone r
  have hr : t₁.look r = some none := by rw [hlook₁, if_pos (List.prefix_refl r)]
  obtain ⟨t₂, hroot₂, hleads, -, hkeep, hnew⟩ := exists_leads (t := t₁) (fun q data => by
    rw [hlook₁]
    split
    · simp
    · exact hnone q data) [] (p.names root)
  by_cases hshort : Path.Short (p.names root)
  · obtain ⟨hfar, hcrosses⟩ := h.2 hshort
    have hspot : t₂.look (p.spot root) ≠ some none := by
      intro hfolder
      rcases hnew _ (hfolder ▸ Option.some_ne_none _) with hspot | ⟨m, n, rest, heq, hm⟩
      · rw [hlook₁, if_neg hfar, look_empty] at hspot
        split at hspot
        · rename_i hnil
          exact hfar (hnil ▸ List.nil_prefix)
        · exact hspot rfl
      · refine hcrosses _ ⟨m, n, rest, heq, fun k hk => hshort k ?_, rfl⟩ hm
        exact heq ▸ List.mem_append_left _ hk
    have hsets := sets_of_leads (i := .file "".toUTF8) (fun _ _ => rfl) hleads hshort hspot
    exact ⟨_, hsets.root.trans (hroot₂.trans hroot₁), hsets.folder hspot (hkeep r hr),
      hleads.mono fun q hq => hsets.folder hspot hq, fun _ => (hsets.look _).trans (if_pos rfl)⟩
  · exact ⟨t₂, hroot₂.trans hroot₁, hkeep r hr, hleads, fun h => absurd h hshort⟩

lemma exists_without {q : Texts} (hne : q ≠ []) (h : t.look q ≠ none) :
    ∃ t' : Tree, t'.root = t.root ∧ ∀ r, t'.look r = if q <+: r then none else t.look r := by
  obtain ⟨ms, n, rfl⟩ := (List.eq_nil_or_concat q).resolve_left hne
  rw [List.concat_eq_append] at h ⊢
  exact ⟨{ t with items := Item.set none (ms ++ [n]) t.items }, rfl,
    look_set_none (look_of_append h)⟩

end Tree

end Folder

/-! ## Rules -/

namespace Rule.Library

open Folder

variable {root path : String} {folder : Path} {t t' : Tree} {rank : Texts → Nat}

lemma isAvailable_iff (hup : ".." ∉ folder.names t.root) (hfits : folder.Fits t.root) :
    isAvailable ⟨t, folder, rank⟩ ↔ t.look (folder.spot t.root) = some none := by
  have hglance := Tree.glance_of_straight hfits.toUsable hup hfits.names
  rw [isAvailable, Tree.isFolder_eq, hglance]
  rcases t.look (folder.spot t.root) with _ | _ | data <;> simp [Except.map]

lemma content_of_not_available (h : ¬isAvailable ⟨t, folder, rank⟩) :
    content ⟨t, folder, rank⟩ path = .ok .null := by
  rw [content, eq_false_of_ne_true h]
  rfl

lemma content_of_no_file {face : Option (Option ByteArray)}
    (h : t.glance (folder.join path) = .ok face) (hface : ∀ data, face ≠ some (some data)) :
    content ⟨t, folder, rank⟩ path = .ok .null := by
  unfold content
  dsimp only
  rw [Tree.isFile_eq, h]
  split
  · rfl
  · rcases face with _ | _ | data
    · rfl
    · rfl
    · exact absurd rfl (hface data)

lemma content_congr (havailable : isAvailable ⟨t', folder, rank⟩ = isAvailable ⟨t, folder, rank⟩)
    (h : t'.glance (folder.join path) = t.glance (folder.join path)) :
    content ⟨t', folder, rank⟩ path = content ⟨t, folder, rank⟩ path := by
  unfold content
  dsimp only
  rw [havailable, Tree.isFile_eq, Tree.isFile_eq, h]
  rcases hfound : t.glance (folder.join path) with e | _ | _ | data
  · rfl
  · rfl
  · rfl
  · rw [Tree.readText, Tree.readText, Tree.readData_of_glance hfound,
      Tree.readData_of_glance (h.trans hfound)]
    rfl

lemma content_of_not_tells (husable : (folder.join path).Usable t.root)
    (hfolder : t.look (folder.spot t.root) = some none)
    (h : ¬(folder.join path).Tells t.root (folder.spot t.root)) :
    content ⟨t, folder, rank⟩ path = .ok .null := by
  rcases Tree.glance_cases husable with ⟨hleads, -, hglance⟩ | ⟨-, hlong, -⟩ | ⟨-, hglance⟩
  · have hspot : t.look ((folder.join path).spot t.root) = some none := by
      by_contra hspot
      refine h ⟨husable, fun _ => ⟨fun hpre => ?_, ?_⟩⟩
      · exact hspot (Tree.folder_of_prefix hfolder hpre)
      · rintro q ⟨m, n, rest, heq, hm, rfl⟩ hpre
        exact hspot (Tree.folder_of_prefix (hleads m n rest heq hm) hpre)
    exact content_of_no_file hglance (by simp [hspot])
  · exact absurd ⟨husable, fun hshort => absurd hshort hlong⟩ h
  · exact content_of_no_file hglance (by simp)

lemma content_eq (hup : ".." ∉ folder.names t.root) (hfits : folder.Fits t.root)
    (hsame : t.SameBelow (folder.spot t.root) t')
    (h : (folder.join path).Tells t.root (folder.spot t.root) →
      ∀ q, (folder.join path).Visits t.root q → Near (folder.spot t.root) q) :
    content ⟨t', folder, rank⟩ path = content ⟨t, folder, rank⟩ path := by
  obtain ⟨hroot, hlook⟩ := hsame
  have hiff := @isAvailable_iff folder t rank hup hfits
  have hiff' := @isAvailable_iff folder t' rank (hroot ▸ hup) (hroot ▸ hfits)
  rw [hroot, hlook _ (List.prefix_refl _), ← hiff] at hiff'
  have havailable := Bool.eq_iff_iff.2 hiff'
  by_cases hfolder : isAvailable ⟨t, folder, rank⟩
  · rw [hiff] at hfolder
    have hfolder' := (hlook _ (List.prefix_refl _)).trans hfolder
    by_cases husable : (folder.join path).Usable t.root
    · by_cases htells : (folder.join path).Tells t.root (folder.spot t.root)
      · refine content_congr havailable (Tree.glance_congr hroot fun m rest heq hm => ?_)
        rcases h htells _ ⟨m, rest, heq, hm, rfl⟩ with hq | hq
        · rw [Tree.folder_of_prefix hfolder hq, Tree.folder_of_prefix hfolder' hq]
        · exact hlook _ hq
      · rw [content_of_not_tells husable hfolder htells]
        exact content_of_not_tells (hroot ▸ husable) (hroot ▸ hfolder') (hroot ▸ htells)
    · exact content_congr havailable (Tree.glance_of_not_usable husable hroot)
  · rw [content_of_not_available hfolder, content_of_not_available (havailable ▸ hfolder)]

lemma content_of_missing (husable : (folder.join path).Usable t.root) {q : Texts}
    (hq : (folder.join path).Visits t.root q) (hnone : t.look q = none) :
    content ⟨t, folder, rank⟩ path = .ok .null := by
  obtain ⟨m, rest, heq, hm, rfl⟩ := hq
  rcases Tree.glance_cases husable with ⟨hleads, -, hglance⟩ | ⟨hleads, hlong, -⟩ | ⟨-, hglance⟩
  · cases rest with
    | nil =>
      rw [List.append_nil] at heq
      rw [Path.spot, heq, hnone] at hglance
      exact content_of_no_file hglance (by simp)
    | cons n rest => cases hnone.symm.trans (hleads m n rest heq hm)
  · cases rest with
    | nil => exact absurd (heq ▸ (List.append_nil m).symm ▸ hm) hlong
    | cons n rest => cases hnone.symm.trans (hleads m n rest heq hm)
  · exact content_of_no_file hglance (by simp)

lemma content_ne_null (havailable : isAvailable ⟨t, folder, rank⟩)
    (husable : (folder.join path).Usable t.root)
    (hleads : t.Leads [] ((folder.join path).names t.root))
    (hfile : Path.Short ((folder.join path).names t.root) →
      t.look ((folder.join path).spot t.root) = some (some "".toUTF8)) :
    content ⟨t, folder, rank⟩ path ≠ .ok .null := by
  intro h
  unfold content at h
  dsimp only at h
  rw [havailable, Tree.isFile_eq] at h
  rcases Tree.glance_cases husable with ⟨-, hshort, hglance⟩ | ⟨-, -, hglance⟩ | ⟨hnot, -⟩
  · rw [hfile hshort] at hglance
    rw [hglance, Tree.readText, Tree.readData_of_glance hglance] at h
    cases h
  · rw [hglance] at h
    cases h
  · exact hnot hleads

lemma exists_content_ne (hroot : Path.IsFull root) (hup : ".." ∉ folder.names root)
    (hfits : folder.Fits root) (htells : (folder.join path).Tells root (folder.spot root))
    {q : Texts} (hq : (folder.join path).Visits root q) (hfar : ¬Near (folder.spot root) q) :
    ∃ t t' : Tree, t.root = root ∧ t.SameBelow (folder.spot root) t' ∧
      content ⟨t', folder, rank⟩ path ≠ content ⟨t, folder, rank⟩ path := by
  obtain ⟨t, rfl, hfolder, hleads, hfile⟩ := Tree.exists_telling hroot htells
  have hthere : t.look q ≠ none := by
    obtain ⟨m, rest, heq, hm, rfl⟩ := hq
    cases rest with
    | nil =>
      rw [List.append_nil] at heq
      rw [← heq, ← Path.spot, hfile (heq ▸ hm)]
      simp
    | cons n rest =>
      rw [hleads m n rest heq hm]
      simp
  have hbelow : q ≠ [] := by
    rintro rfl
    exact hfar (.inl List.nil_prefix)
  obtain ⟨t', hroot', hlook'⟩ := Tree.exists_without hbelow hthere
  refine ⟨t, t', rfl, ⟨hroot', fun r hr => ?_⟩, ?_⟩
  · rw [hlook', if_neg fun hpre => hfar (List.prefix_or_prefix_of_prefix hpre hr)]
  · have hgone : t'.look q = none := by rw [hlook', if_pos (List.prefix_refl _)]
    rw [content_of_missing (hroot' ▸ htells.1) (hroot' ▸ hq) hgone]
    exact (content_ne_null ((isAvailable_iff hup hfits).2 hfolder) htells.1 hleads hfile).symm

/-- What a library gives for a path depends on nothing but the library if and only if the path
    cannot tell anything or comes by no place apart from the library. -/
theorem content_same_iff (hroot : Path.IsFull root) (hup : ".." ∉ folder.names root)
    (hfits : folder.Fits root) (path : String) :
    (∀ t t' : Tree, t.root = root → t.SameBelow (folder.spot root) t' →
      content ⟨t', folder, rank⟩ path = content ⟨t, folder, rank⟩ path) ↔
    ((folder.join path).Tells root (folder.spot root) →
      ∀ q, (folder.join path).Visits root q → Near (folder.spot root) q) := by
  constructor
  · intro h htells q hq
    by_contra hfar
    obtain ⟨t, t', ht, hsame, hne⟩ := exists_content_ne hroot hup hfits htells hq hfar
    exact hne (h t t' ht hsame)
  · rintro h t t' rfl hsame
    exact content_eq hup hfits hsame h

/-- A folder of rules. -/
def ruleFolder : Path := ⟨.base, ["sigma-rules"]⟩

/-- A path that leaves the rules and comes back to them. -/
theorem content_same_iff_detour : ruleFolder.Fits "/" ∧ ∀ t t' : Tree, t.root = "/" →
    t.SameBelow ["sigma-rules"] t' →
      content { tree := t', folder := ruleFolder } "a/../../sigma-rules/b.yml" =
        content { tree := t, folder := ruleFolder } "a/../../sigma-rules/b.yml" := by
  have hfits : ruleFolder.Fits "/" := ⟨⟨by decide, by decide, by decide⟩, by decide⟩
  refine ⟨hfits, (content_same_iff (by decide) (by decide) hfits _).2 ?_⟩
  rintro - q ⟨m, rest, heq, -, rfl⟩
  have hnear : ∀ m ∈ ["sigma-rules", "a", "..", "..", "sigma-rules", "b.yml"].inits,
      Near ["sigma-rules"] (walk [] m) := by decide
  exact hnear m ((List.mem_inits _ _).2 ⟨rest, heq.symm⟩)

/-- Files of which one is beside the rules. -/
def besideRules (items : Items) : Tree where
  root := "/"
  items := ("sigma-rules", .folder []) :: items
  full := Web.isFull_top

/-- A file beside the rules is read by a path that goes back. -/
theorem content_beside_ne : (besideRules []).SameBelow (ruleFolder.spot "/")
      (besideRules [("secret.yml", .file "title: x\n".toUTF8)]) ∧
    content { tree := besideRules [("secret.yml", .file "title: x\n".toUTF8)], folder := ruleFolder }
      "../secret.yml" ≠ content { tree := besideRules [], folder := ruleFolder } "../secret.yml" := by
  refine ⟨⟨rfl, ?_⟩, fun h => ?_⟩
  · rintro q ⟨rest, rfl⟩
    rfl
  · have htruthy := congrArg (fun r => r.toOption.any Value.truthy) h
    exact absurd htruthy (by decide +kernel)

end Rule.Library

end Huntbook
