import Huntbook.Proofs.Editing

/-!
# Playbooks with the same id

A playbook has its id in its document, but where a new one goes is told by its technique and tactic,
and an update may change the id. So nothing keeps two playbooks from having the same id.

* `unique_along_iff`: the runs that keep ids unique, and what deleting does in them.
-/

namespace Huntbook

open List

lemma Text.exists_splitList_append {sep : Char} (as : Chars) {bs : Chars} (h : sep ∉ bs) :
    ∃ init tail, splitList sep (as ++ bs) = init ++ [tail ++ bs] := by
  induction as with
  | nil => exact ⟨[], [], (splitList_eq_splitOn _ _).trans (splitOn_eq_singleton h)⟩
  | cons c as ih =>
    obtain ⟨init, tail, heq⟩ := ih
    rw [cons_append, splitList, heq]
    split
    · exact ⟨[] :: init, tail, rfl⟩
    · cases init with
      | nil => exact ⟨[], c :: tail, rfl⟩
      | cons piece init => exact ⟨(c :: piece) :: init, tail, rfl⟩

namespace Playbook

open Folder

variable {t t' : Tree} {folder place : Path} {id v : Value} {n : String}

/-! ## What the id of a folder depends on -/

structure Carries (folder : Path) (t : Tree) (id : Value) (n : String) : Prop where
  name : IsName n
  id : hasId t folder id n

/-- No two folders have playbooks with the same id. -/
def Unique (folder : Path) (t : Tree) : Prop :=
  ∀ id m n, Carries folder t id m → Carries folder t id n → m = n

lemma readData_straight {p : Path} {data : ByteArray} (hup : ".." ∉ p.names t.root) :
    t.readData p = .ok data ↔ p.Fits t.root ∧ (t.look (p.spot t.root)).join = some data := by
  rw [Tree.readData_eq_ok_iff]
  constructor
  · intro h
    have husable : p.Usable t.root := by
      by_contra hnot
      obtain ⟨e, -, he⟩ := Tree.lookUp_of_not_usable hnot
      rw [Tree.glance, Tree.item?, he t rfl] at h
      cases e <;> cases h
    rcases Tree.glance_cases husable with ⟨-, hshort, heq⟩ | ⟨-, -, heq⟩ | ⟨-, heq⟩
    · rw [Except.ok.inj (heq.symm.trans h)]
      exact ⟨⟨husable, hshort⟩, rfl⟩
    · cases heq.symm.trans h
    · cases heq.symm.trans h
  · rintro ⟨hfits, hlook⟩
    rw [Tree.glance_of_straight hfits.toUsable hup hfits.names, Option.join_eq_some_iff.1 hlook]

lemma readData_document (hfolder : ∀ n ∈ folder.parts, IsName n) (hn : IsName n) (t : Tree)
    (data : ByteArray) : t.readData ((folder.join n).join documentName) = .ok data ↔
      ((folder.join n).join documentName).Fits t.root ∧
        (t.look (folder.spot t.root ++ [n, documentName])).join = some data := by
  obtain ⟨hstart, hparts⟩ := Path.partsOf_of_isName hn
  have hup : ".." ∉ ((folder.join n).join documentName).names t.root := by
    rw [Path.names_join (by decide), Path.names_join hstart, hparts, append_assoc]
    intro hmem
    rcases mem_append.1 hmem with hmem | hmem
    · exact (isName_of_mem_names hfolder _ hmem).2 (by simp)
    · rcases mem_cons.1 hmem with rfl | hmem
      · exact hn.2 (by simp)
      · exact absurd hmem (by decide)
  rw [readData_straight hup, Path.spot_join_of_isName (by decide), Path.spot_join_of_isName hn,
    append_assoc]
  rfl

lemma carries_congr (hfolder : ∀ n ∈ folder.parts, IsName n) (hroot : t'.root = t.root)
    (h : (t'.look (folder.spot t.root ++ [n, documentName])).join =
      (t.look (folder.spot t.root ++ [n, documentName])).join) (id : Value) :
    Carries folder t' id n ↔ Carries folder t id n := by
  have hid (hn : IsName n) : hasId t' folder id n = hasId t folder id n := by
    have hread (data : ByteArray) : t'.readData ((folder.join n).join documentName) = .ok data ↔
        t.readData ((folder.join n).join documentName) = .ok data := by
      rw [readData_document hfolder hn, readData_document hfolder hn, hroot, h]
    unfold hasId readDocument Tree.readText
    cases hdata : t.readData ((folder.join n).join documentName) with
    | ok data => rw [(hread data).2 hdata]
    | error e =>
      cases hdata' : t'.readData ((folder.join n).join documentName) with
      | ok data => cases hdata.symm.trans ((hread data).1 hdata')
      | error e => rfl
  exact ⟨fun h => ⟨h.name, hid h.name ▸ h.id⟩, fun h => ⟨h.name, (hid h.name).symm ▸ h.id⟩⟩

lemma Carries.look (hfolder : ∀ n ∈ folder.parts, IsName n) (h : Carries folder t id n) :
    (t.look (folder.spot t.root ++ [n, documentName])).join ≠ none := by
  have hid := h.id
  unfold hasId readDocument Tree.readText at hid
  cases hdata : t.readData ((folder.join n).join documentName) with
  | ok data => exact ((readData_document hfolder h.name t data).1 hdata).2 ▸ nofun
  | error e =>
    rw [hdata] at hid
    cases hid

lemma carries_of_find? (hnames : WellNamed t folder) (h : find? t folder id = .ok (some n)) :
    Carries folder t id n := by
  obtain ⟨found, -, hfound⟩ := bind_eq_ok.1 h
  exact ⟨isName_of_find? hnames h, find?_some (Except.ok.inj hfound)⟩

/-! ## Calls -/

lemma exists_queryFile_eq (platform : String) : ∃ ending ∈ [".spl", ".kql", ".yml", ".txt"],
    queryFile platform = Text.lower platform ++ ending := by
  refine ⟨"." ++ (queryEndings.lookup (Text.lower platform)).getD "txt", ?_, String.append_assoc⟩
  have hall : ∀ e ∈ queryEndings, "." ++ e.2 ∈ [".spl", ".kql", ".yml", ".txt"] := by decide
  cases hfound : queryEndings.lookup (Text.lower platform) with
  | none => decide
  | some ending =>
    obtain ⟨before, after, heq, -⟩ := lookup_eq_some_iff.1 hfound
    exact hall (Text.lower platform, ending) (by simp [heq])

lemma partsOf_queryFile (platform : String) : ∃ parts last,
    Path.partsOf (queryFile platform) = parts ++ [last] ∧ last ∉ ["..", documentName] := by
  obtain ⟨ending, hending, hfile⟩ := exists_queryFile_eq platform
  have hends : ∀ ending ∈ [".spl", ".kql", ".yml", ".txt"], '/' ∉ ending.toList ∧
      ∀ name ∈ ["", ".", "..", documentName], ¬ending.toList <:+ name.toList := by decide
  obtain ⟨hslash, hnames⟩ := hends ending hending
  obtain ⟨pieces, piece, hpieces⟩ :=
    Text.exists_splitList_append (Text.lower platform).toList hslash
  obtain ⟨last, hlast⟩ : ∃ last, last = String.ofList (piece ++ ending.toList) := ⟨_, rfl⟩
  have hno : last ∉ ["", ".", "..", documentName] := by
    intro hname
    refine hnames _ hname ?_
    rw [hlast, String.toList_ofList]
    exact suffix_append _ _
  simp only [mem_cons, not_or] at hno
  refine ⟨(pieces.map String.ofList).filter fun p => p != "" && p != ".", last, ?_, by simp [hno]⟩
  rw [Path.partsOf, Text.split, hfile, String.toList_append, hpieces, map_append,
    filter_append, map_singleton, ← hlast]
  exact congrArg _ (by simp [hno])

lemma exists_spot_queryFile (platform : String) (p : Path) (root : String) :
    ∃ init last, (p.join (queryFile platform)).spot root = init ++ [last] ∧ last ≠ documentName := by
  obtain ⟨parts, last, hparts, hlast⟩ := partsOf_queryFile platform
  simp only [mem_cons, not_or] at hlast
  obtain ⟨way, hway⟩ : ∃ way, (p.join (queryFile platform)).names root =
      way ++ Path.partsOf (queryFile platform) := by
    cases hstart : Text.startsWith (queryFile platform) "/" with
    | false => exact ⟨_, Path.names_join hstart root p⟩
    | true => exact ⟨[], by simp [Path.join, hstart, Path.ofText, Path.names]⟩
  refine ⟨walk [] (way ++ parts), last, ?_, hlast.2.1⟩
  rw [Path.spot, hway, hparts, ← append_assoc, walk_append]
  exact walk_of_not_mem _ (by simpa using Ne.symm hlast.1)

/-- A change of playbooks that can be asked for. -/
inductive Call
  | create (playbook : Value)
  | update (now : Moment) (id changes : Value)
  | delete (id : Value)

namespace Call

def after (folder : Path) (t : Tree) : Call → Tree
  | .create playbook => ((Playbook.create folder playbook).run.run t).2
  | .update now id changes => ((Playbook.update folder now id changes).run.run t).2
  | .delete id => ((Playbook.delete folder id).run.run t).2

/-- A call that gives a folder an id that another one has. -/
def Doubles (folder : Path) (t : Tree) (c : Call) : Prop :=
  (∀ id, c ≠ .delete id) ∧ ∃ id m n, m ≠ n ∧ Carries folder t id n ∧ ¬Carries folder t id m ∧
    Carries folder (c.after folder t) id m

end Call

def Spares (folder : Path) (t t' : Tree) : Prop :=
  ∃ m, ∀ n, n ≠ m → ∀ id, Carries folder t' id n ↔ Carries folder t id n

lemma spares_of_evolves (hfolder : ∀ n ∈ folder.parts, IsName n)
    (hev : t.Evolves (Edits t.root place v) t') : Spares folder t t' := by
  refine ⟨(place.spot t.root).getLastD "", fun n hne id => ?_⟩
  have hdata (data : ByteArray) :
      ¬Edits t.root place v (folder.spot t.root ++ [n, documentName]) (some data) := by
    intro hedit
    generalize hq : folder.spot t.root ++ [n, documentName] = q at hedit
    cases hedit with
    | query hquery data =>
      obtain ⟨init, last, hspot, hlast⟩ := exists_spot_queryFile _ (place.join "queries") t.root
      rw [hspot] at hq
      refine hlast ?_
      simpa using congrArg getLast? hq.symm
    | document data =>
      rw [Path.spot_join_of_isName (by decide)] at hq
      have hlast := congrArg dropLast hq
      rw [dropLast_concat, dropLast_append_cons] at hlast
      refine hne ?_
      rw [← hlast]
      simp
  exact carries_congr hfolder hev.root (hev.join_look hdata) id

lemma isName_of_mem_edits (hfolder : ∀ n ∈ folder.parts, IsName n) {name : String}
    {q : Texts} {face : Option ByteArray} (h : Edits t.root (folder.join name) v q face) :
    ∀ n ∈ q, IsName n := by
  have hjoin {p : Path} (s : String) (hp : ∀ n ∈ p.parts, n ≠ ".." → IsName n) :
      ∀ n ∈ (p.join s).parts, n ≠ ".." → IsName n := by
    intro n hn
    unfold Path.join at hn
    split at hn
    · exact Path.isName_of_mem_partsOf hn
    · exact (mem_append.1 hn).elim (hp n) Path.isName_of_mem_partsOf
  have hspot {p : Path} (hp : ∀ n ∈ p.parts, n ≠ ".." → IsName n) {m : Texts}
      (hm : m <+: p.names t.root) : ∀ n ∈ walk [] m, IsName n := by
    intro n hn
    obtain ⟨hmem, hup⟩ := (mem_of_mem_walk hn).resolve_left not_mem_nil
    exact Path.forall_mem_names (P := fun n => n ≠ ".." → IsName n)
      (fun n => Path.isName_of_mem_partsOf) hp n (hm.mem hmem) hup
  have hplace := hjoin name fun n hn _ => hfolder n hn
  cases h with
  | way hm => exact hspot hplace hm
  | queries => exact hspot (hjoin _ hplace) prefix_rfl
  | query hquery data => exact hspot (hjoin _ (hjoin _ hplace)) prefix_rfl
  | document data => exact hspot (hjoin _ hplace) prefix_rfl

lemma carries_of_delete (hnames : WellNamed t folder) (hfolder : ∀ n ∈ folder.parts, IsName n)
    (h : (delete folder id).run.run t = (.ok (), t')) : WellNamed t' folder ∧
      ∃ name, Carries folder t id name ∧
        ∀ id n, Carries folder t' id n ↔ Carries folder t id n ∧ n ≠ name := by
  rcases run_delete t folder id with ⟨e, hrun⟩ | ⟨name, t₁, hfind, hremove, hrun⟩ <;>
    cases hrun.symm.trans h
  have hname := carries_of_find? hnames hfind
  have hspot := Path.spot_join_of_isName hname.name t.root folder
  have hne : (folder.join name).spot t.root ≠ [] := by simp [hspot]
  obtain ⟨hroot, hlook⟩ := Tree.remove_eq_ok hremove hne
  have hbelow (n : String) : (folder.join name).spot t.root <+: folder.spot t.root ++ [n, documentName] ↔
      name = n := by
    rw [hspot, prefix_append_right_inj]
    simp
  refine ⟨hnames.remove hne hremove, name, hname, fun id' n => ?_⟩
  by_cases hn : n = name
  · refine iff_of_false (fun hcarries => hcarries.look hfolder ?_) fun h => h.2 hn
    rw [hroot, hlook, if_pos ((hbelow n).2 hn.symm)]
    rfl
  · refine (carries_congr hfolder hroot ?_ id').trans (and_iff_left hn).symm
    rw [hlook, if_neg fun h => hn ((hbelow n).1 h).symm]

namespace Call

lemma spares_after (hnames : WellNamed t folder) (hfolder : ∀ n ∈ folder.parts, IsName n)
    (c : Call) : WellNamed (c.after folder t) folder ∧ Spares folder t (c.after folder t) := by
  have hsame : WellNamed t folder ∧ Spares folder t t := ⟨hnames, "", fun _ _ _ => Iff.rfl⟩
  have hedits {t' : Tree} {name : String} {v : Value}
      (hev : t.Evolves (Edits t.root (folder.join name) v) t') :
      WellNamed t' folder ∧ Spares folder t t' :=
    ⟨hnames.evolves (fun _ _ => isName_of_mem_edits hfolder) hev, spares_of_evolves hfolder hev⟩
  cases c with
  | create v =>
    rcases evolves_create t folder v with h | ⟨place, ⟨name, -, rfl, -⟩, hev⟩
    · rwa [after, h]
    · exact hedits hev
  | update now id changes =>
    rcases evolves_update t folder now id changes with h | ⟨name, -, hev⟩
    · rwa [after, h]
    · exact hedits hev
  | delete id =>
    rcases run_delete t folder id with ⟨e, hrun⟩ | ⟨_, t', -, -, hrun⟩ <;> rw [after, hrun]
    · exact hsame
    · obtain ⟨hnames, name, -, hcarries⟩ := carries_of_delete hnames hfolder hrun
      exact ⟨hnames, name, fun n hn id => (hcarries id n).trans (and_iff_left hn)⟩

lemma carries_of_after_delete (hnames : WellNamed t folder)
    (hfolder : ∀ n ∈ folder.parts, IsName n) {id' : Value}
    (h : Carries folder ((Call.delete id).after folder t) id' n) : Carries folder t id' n := by
  rcases run_delete t folder id with ⟨e, hrun⟩ | ⟨_, t', -, -, hrun⟩ <;> rw [after, hrun] at h
  · exact h
  · obtain ⟨-, name, -, hcarries⟩ := carries_of_delete hnames hfolder hrun
    exact ((hcarries id' n).1 h).1

lemma unique_after_iff (hnames : WellNamed t folder) (hfolder : ∀ n ∈ folder.parts, IsName n)
    (hunique : Unique folder t) (c : Call) :
    Unique folder (c.after folder t) ↔ ¬c.Doubles folder t := by
  obtain ⟨-, x, hspares⟩ := c.spares_after hnames hfolder
  constructor
  · rintro h ⟨-, id, m, n, hne, hn, hm, hafter⟩
    have hx : m = x := by
      by_contra hmx
      exact hm ((hspares m hmx id).1 hafter)
    exact hne (h id m n hafter ((hspares n (hx ▸ hne.symm) id).2 hn))
  · intro hnot
    -- One of two folders with the same id had it before.
    have hold {id : Value} {m n : String} (hm : Carries folder (c.after folder t) id m)
        (hn : Carries folder t id n) : m = n := by
      by_contra hne
      refine hnot ⟨?_, id, m, n, hne, hn, fun hm' => hne (hunique id m n hm' hn), hm⟩
      rintro id' rfl
      exact hne (hunique id m n (carries_of_after_delete hnames hfolder hm) hn)
    intro id m n hm hn
    by_cases hmx : m = x
    · by_cases hnx : n = x
      · rw [hmx, hnx]
      · exact hold hm ((hspares n hnx id).1 hn)
    · exact (hold hn ((hspares m hmx id).1 hm)).symm

end Call

/-- The files after calls, one after the other. -/
def afterAll (folder : Path) (t : Tree) (calls : List Call) : Tree :=
  calls.foldl (Call.after folder) t

lemma not_found_of_delete (hnames : WellNamed t folder) (hfolder : ∀ n ∈ folder.parts, IsName n)
    (hunique : Unique folder t) (h : (delete folder id).run.run t = (.ok (), t')) :
    (∀ name, find? t' folder id ≠ .ok (some name)) ∧
      ∀ s, Shelf.ofFolder t' folder = .ok s → ∀ r, s.load t' id ≠ .ok r := by
  obtain ⟨hnames', gone, hgone, hcarries⟩ := carries_of_delete hnames hfolder h
  have hfind (name : String) : find? t' folder id ≠ .ok (some name) := by
    intro hfound
    obtain ⟨hbefore, hne⟩ := (hcarries id name).1 (carries_of_find? hnames' hfound)
    exact hne (hunique id name gone hbefore hgone)
  refine ⟨hfind, fun s hs r hload => ?_⟩
  obtain ⟨hfolder', hloaded⟩ := Shelf.ofFolder_eq_ok hs
  rcases (Shelf.load_eq_ok hload).2 with ⟨hkept, -⟩ | ⟨name, hfound, -⟩
  · rw [hloaded] at hkept
    cases hkept
  · exact hfind name (hfolder' ▸ hfound)

/-- Starting with an empty folder, ids stay unique if and only if no call gives a folder an id that
    another one has. Where they are unique, a playbook that has been deleted is not found again. -/
theorem unique_along_iff (hfolder : ∀ n ∈ folder.parts, IsName n)
    (hempty : ∀ n, t.look (folder.spot t.root ++ [n]) = none) (calls : List Call) :
    ((∀ done rest, calls = done ++ rest → Unique folder (afterAll folder t done)) ↔
      ∀ done c rest, calls = done ++ c :: rest → ¬c.Doubles folder (afterAll folder t done)) ∧
    ∀ done id rest t', calls = done ++ .delete id :: rest → Unique folder (afterAll folder t done) →
      (delete folder id).run.run (afterAll folder t done) = (.ok (), t') →
      (∀ name, find? t' folder id ≠ .ok (some name)) ∧
        ∀ s, Shelf.ofFolder t' folder = .ok s → ∀ r, s.load t' id ≠ .ok r := by
  have hnames : WellNamed t folder := fun n hn => absurd (hempty n) hn
  have hstep (t : Tree) (c : Call) (ht : WellNamed t folder) : WellNamed (c.after folder t) folder :=
    (c.spares_after ht hfolder).1
  have hnone (id : Value) (n : String) : ¬Carries folder t id n := by
    have hbelow : t.look (folder.spot t.root ++ [n] ++ documentName :: []) = none := by
      by_contra hlook
      cases (hempty n).symm.trans (Tree.look_of_append hlook)
    rw [append_assoc] at hbelow
    exact fun h => h.look hfolder (congrArg Option.join hbelow)
  refine ⟨Store.forall_foldl_iff hstep (fun t c ht hunique => c.unique_after_iff ht hfolder hunique)
    hnames (fun id m n hm => absurd hm (hnone id m)) calls, fun done id rest t' _ hunique h => ?_⟩
  exact not_found_of_delete (List.foldlRecOn done (Call.after folder) hnames fun t ht c _ => hstep t c ht) hfolder
    hunique h

theorem unique_along_iff_sketch :
    ((∀ done rest, [Call.create (sketch "x" "T1" []), .delete (.text "x")] = done ++ rest →
        Unique books (afterAll books emptyShelf done)) ↔
      ∀ done c rest, [Call.create (sketch "x" "T1" []), .delete (.text "x")] = done ++ c :: rest →
        ¬c.Doubles books (afterAll books emptyShelf done)) :=
  (unique_along_iff (t := emptyShelf) (by decide) (fun n => rfl) _).1

/-- Two playbooks with the same id: after one of them has been deleted, the other one is found. -/
theorem unique_along_not : ¬Unique books (afterAll books emptyShelf
      [.create (sketch "x" "T1" []), .create (sketch "x" "T2" [])]) ∧
    ∃ name, find? (afterAll books emptyShelf
      [.create (sketch "x" "T1" []), .create (sketch "x" "T2" []), .delete (.text "x")]) books
      (.text "x") = .ok (some name) := by
  refine ⟨fun h => ?_, ?_⟩
  · have heq := h (.text "x") "t1-a" "t2-a" ⟨by decide, by decide +kernel⟩
      ⟨by decide, by decide +kernel⟩
    exact absurd heq (by decide)
  · obtain ⟨found, hfound, hname⟩ := exists_ok_of_any (x := find? (afterAll books emptyShelf
      [.create (sketch "x" "T1" []), .create (sketch "x" "T2" []), .delete (.text "x")]) books
      (.text "x")) (p := Option.isSome) (by decide +kernel)
    obtain ⟨name, rfl⟩ := Option.isSome_iff_exists.1 hname
    exact ⟨name, hfound⟩

end Playbook

end Huntbook
