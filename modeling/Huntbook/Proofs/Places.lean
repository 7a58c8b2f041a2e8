import Huntbook.Proofs.Endpoints

/-!
# Places

A path enters a folder by each of its names and leaves one by each `..`, so its names say where it
leads. Whether it leads there depends on what is seen on the way, that is, where there are folders
and what the files hold.
-/

namespace Huntbook

open List

lemma Text.mem_of_mem_splitList {sep : Char} {cs piece : Chars}
    (h : piece ∈ splitList sep cs) : ∀ c ∈ piece, c ∈ cs ∧ c ≠ sep := by
  induction cs generalizing piece with
  | nil => simp_all [splitList]
  | cons c cs ih =>
    rw [splitList] at h
    split at h
    · rcases mem_cons.1 h with rfl | h
      · exact forall_mem_nil _
      · exact fun d hd => (ih h d hd).imp_left (mem_cons_of_mem c)
    · split at h <;> grind

namespace Folder

/-! ## Items -/

namespace Item

def face : Item → Option ByteArray
  | .file data => some data
  | .folder _ => none

def within (f : Items → Items) : Item → Item
  | .folder items => .folder (f items)
  | .file data => .file data

lemma find?_cons (name : String) (e : String × Item) (items : Items) :
    find? name (e :: items) = if e.1 = name then some e.2 else find? name items := by
  split <;> simp_all [find?]

lemma find?_map (name other : String) (f : Item → Item) (items : Items) :
    find? other (items.map fun e => if e.1 == name then (name, f e.2) else e) =
      if other = name then (find? other items).map f else find? other items := by
  induction items with
  | nil => simp [find?]
  | cons e items ih =>
    rw [map_cons, find?_cons, find?_cons, ih]
    by_cases he : e.1 = name <;> grind

lemma find?_put (name other : String) (item : Item) (items : Items) :
    find? other (put name item items) = if other = name then some item else find? other items := by
  induction items with
  | nil => grind [put, find?_cons]
  | cons e items ih => grind [put, find?_cons]

lemma find?_filter (name other : String) (items : Items) :
    find? other (items.filter fun e => e.1 != name) =
      if other = name then none else find? other items := by
  induction items with
  | nil => simp [find?]
  | cons e items ih => grind [find?_cons]

lemma set_cons (item : Option Item) (n m : String) (ns : Texts)
    (items : Items) : set item (n :: m :: ns) items = items.map fun e =>
      if e.1 == n then (n, within (set item (m :: ns)) e.2) else e := by
  rw [set]
  · refine map_congr_left fun e _ => ?_
    split
    · rcases e with ⟨_, _ | _⟩ <;> rfl
    · rfl
  · simp

lemma at?_append (ms ns : Texts) (i : Item) :
    at? (ms ++ ns) i = (at? ms i).bind (at? ns) := by
  induction ms generalizing i with
  | nil => rfl
  | cons m ms ih =>
    cases i with
    | file data => rfl
    | folder items =>
      rw [cons_append, at?, at?, Option.bind_assoc]
      exact Option.bind_congr fun j _ => ih j

lemma face_at?_set {item : Option Item} {ms : Texts} {items inner : Items}
    (n : String) (h : at? ms (.folder items) = some (.folder inner)) (q : Texts) :
    (at? q (.folder (set item (ms ++ [n]) items))).map face =
      if ms ++ [n] <+: q then (item.bind (at? (q.drop (ms.length + 1)))).map face
      else (at? q (.folder items)).map face := by
  induction ms generalizing items q with
  | nil =>
    cases q with
    | nil => simp [at?, face]
    | cons m q =>
      have hfind : find? m (set item [n] items) = if m = n then item else find? m items := by
        cases item with
        | none => exact find?_filter n m items
        | some i => exact find?_put n m i items
      rw [nil_append, at?, at?, hfind]
      by_cases hm : m = n
      · simp [hm]
      · simp [hm, Ne.symm hm]
  | cons m ms ih =>
    obtain ⟨m', rest, hrest⟩ := exists_cons_of_ne_nil (concat_ne_nil n ms)
    obtain ⟨found, hfound, hat⟩ := Option.bind_eq_some_iff.1 h
    obtain ⟨inner', rfl⟩ : ∃ inner', found = .folder inner' := by
      cases found with
      | folder inner' => exact ⟨inner', rfl⟩
      | file data => cases ms <;> cases hat
    rw [cons_append, hrest, set_cons, ← hrest]
    cases q with
    | nil => simp [at?, face]
    | cons x q =>
      rw [at?, at?, find?_map]
      by_cases hx : x = m
      · subst hx
        simpa [within, hfound, cons_prefix_cons] using ih hat q
      · simp [hx, Ne.symm hx]

end Item

/-! ## Paths -/

def walk (here ns : Texts) : Texts :=
  ns.foldl (fun here n => if n = ".." then here.dropLast else here ++ [n]) here

lemma walk_cons (here : Texts) (n : String) (ns : Texts) :
    walk here (n :: ns) = walk (if n = ".." then here.dropLast else here ++ [n]) ns := rfl

lemma walk_append (here ns ms : Texts) : walk here (ns ++ ms) = walk (walk here ns) ms :=
  foldl_append

lemma walk_of_not_mem {ns : Texts} (here : Texts) (h : ".." ∉ ns) :
    walk here ns = here ++ ns := by
  induction ns generalizing here with
  | nil => exact (append_nil here).symm
  | cons n ns ih =>
    rw [mem_cons, not_or] at h
    rw [walk_cons, if_neg (Ne.symm h.1), ih _ h.2, append_assoc]
    rfl

lemma mem_of_mem_walk {here ns : Texts} {n : String} (h : n ∈ walk here ns) :
    n ∈ here ∨ n ∈ ns ∧ n ≠ ".." := by
  induction ns generalizing here with
  | nil => exact .inl h
  | cons m ns ih =>
    rw [walk_cons] at h
    rcases ih h with hhere | ⟨hns, hne⟩
    · split at hhere
      · exact .inl (mem_of_mem_dropLast hhere)
      · rename_i hm
        rcases mem_append.1 hhere with hhere | hhere
        · exact .inl hhere
        · rw [mem_singleton.1 hhere]
          exact .inr ⟨mem_cons_self, hm⟩
    · exact .inr ⟨mem_cons_of_mem m hns, hne⟩

/-- A name that a file can have. -/
def IsName (n : String) : Prop :=
  '/' ∉ n.toList ∧ n ∉ ["", ".", ".."]
  deriving Decidable

namespace Path

/-- The place that a path leads to. -/
def spot (root : String) (p : Path) : Texts := walk [] (p.names root)

structure Usable (root : String) (p : Path) : Prop where
  encodable : p.parts.any Text.holdsHalf = false
  whole : (p.parts.any fun n => n.toList.contains (Char.ofNat 0)) = false
  short : (p.text root).utf8ByteSize < Tree.pathLimit

def Short (ns : Texts) : Prop :=
  ∀ n ∈ ns, n.utf8ByteSize ≤ 255
  deriving Decidable

/-- A path that can be followed where the folders on its way are there. -/
structure Fits (root : String) (p : Path) : Prop extends p.Usable root where
  names : Short (p.names root)

lemma forall_mem_names {root : String} {p : Path} {P : String → Prop}
    (hroot : ∀ n ∈ partsOf root, P n) (hparts : ∀ n ∈ p.parts, P n) : ∀ n ∈ p.names root, P n := by
  cases p with
  | mk origin parts =>
    cases origin with
    | top => exact hparts
    | _ => exact forall_mem_append.2 ⟨hroot, hparts⟩

lemma isName_of_mem_partsOf {s n : String} (h : n ∈ partsOf s) (hup : n ≠ "..") : IsName n := by
  obtain ⟨hsplit, hne⟩ := mem_filter.1 h
  obtain ⟨piece, hpiece, rfl⟩ := mem_map.1 hsplit
  refine ⟨?_, by simp_all⟩
  rw [String.toList_ofList]
  exact fun hslash => (Text.mem_of_mem_splitList hpiece '/' hslash).2 rfl

lemma names_join {s : String} (h : Text.startsWith s "/" = false) (root : String) (p : Path) :
    (p.join s).names root = p.names root ++ partsOf s := by
  rw [join, h]
  cases p with
  | mk origin parts => cases origin <;> simp [names]

lemma partsOf_of_isName {n : String} (h : IsName n) :
    Text.startsWith n "/" = false ∧ partsOf n = [n] := by
  obtain ⟨hslash, hdots⟩ := h
  simp only [mem_cons, not_or] at hdots
  refine ⟨?_, ?_⟩
  · cases hn : n.toList with
    | nil => simp [Text.startsWith, hn]
    | cons c cs =>
      rw [hn, mem_cons, not_or] at hslash
      simp [Text.startsWith, hn, isPrefixOf, hslash.1]
  · rw [partsOf, Text.split, Text.splitList_eq_splitOn, splitOn_eq_singleton hslash]
    simp [hdots]

lemma spot_join_of_isName {n : String} (h : IsName n) (root : String) (p : Path) :
    (p.join n).spot root = p.spot root ++ [n] := by
  obtain ⟨hstart, hparts⟩ := partsOf_of_isName h
  have hup : n ≠ ".." := fun hn => h.2 (by simp [hn])
  rw [spot, names_join hstart, hparts, walk_append]
  exact walk_of_not_mem _ (by simpa using hup.symm)

end Path

/-! ## What is seen -/

namespace Tree

variable {t t' : Tree} {p : Path} {q ms ns : Texts} {n : String} {face : Option ByteArray}
  {names : Texts}

/-- What is seen at a place. -/
def look (t : Tree) (q : Texts) : Option (Option ByteArray) := (t.at? q).map Item.face

lemma look_eq_folder_iff : t.look q = some none ↔ ∃ items, t.at? q = some (.folder items) := by
  rw [look]
  rcases t.at? q with _ | _ | items <;> simp [Item.face]

lemma look_of_append (h : t.look (ms ++ n :: ns) ≠ none) : t.look ms = some none := by
  rw [look_eq_folder_iff]
  rw [look, at?, Item.at?_append] at h
  rw [at?]
  generalize Item.at? ms (.folder t.items) = found at h ⊢
  rcases found with _ | data | items
  · exact absurd rfl h
  · exact absurd rfl h
  · exact ⟨items, rfl⟩

lemma folder_of_prefix (h : t.look q = some none) (hms : ms <+: q) : t.look ms = some none := by
  obtain ⟨rest, rfl⟩ := hms
  cases rest with
  | nil => rwa [append_nil] at h
  | cons n ns => exact look_of_append (h ▸ Option.some_ne_none _)

/-! ## Where paths lead -/

def Leads (t : Tree) (here ns : Texts) : Prop :=
  ∀ m n rest, ns = m ++ n :: rest → Path.Short m → t.look (walk here m) = some none

variable {here : Texts} {i : Item}

lemma leads_cons : t.Leads here (n :: ns) ↔ t.look here = some none ∧ (n.utf8ByteSize ≤ 255 →
      t.Leads (if n = ".." then here.dropLast else here ++ [n]) ns) := by
  constructor
  · intro h
    refine ⟨h [] n ns rfl nofun, fun hn m k rest heq hm => ?_⟩
    exact h (n :: m) k rest (heq ▸ rfl) (forall_mem_cons.2 ⟨hn, hm⟩)
  · rintro ⟨hhere, h⟩ m k rest heq hm
    cases m with
    | nil => exact hhere
    | cons l m =>
      cases heq
      obtain ⟨hl, hm⟩ := forall_mem_cons.1 hm
      exact h hl m k rest rfl hm

lemma follow_cases (t : Tree) (here ns : Texts) : t.Leads here ns ∧ Path.Short ns ∧
        t.follow here ns = .ok ⟨walk here ns, t.at? (walk here ns)⟩ ∨
      t.Leads here ns ∧ ¬Path.Short ns ∧ t.follow here ns = .error .nameTooLong ∨
      ¬t.Leads here ns ∧ (t.follow here ns = .error .missing ∨
        t.follow here ns = .error .notFolder) := by
  induction ns generalizing here with
  | nil => exact .inl ⟨fun m n rest heq => absurd heq (by simp), nofun, rfl⟩
  | cons n ns ih =>
    have hshort : Path.Short (n :: ns) ↔ n.utf8ByteSize ≤ 255 ∧ Path.Short ns :=
      forall_mem_cons
    rw [leads_cons, look_eq_folder_iff, hshort, walk_cons, follow]
    rcases t.at? here with _ | data | items
    · simp
    · simp
    · by_cases hn : n.utf8ByteSize ≤ 255
      · simpa [Nat.not_lt.2 hn, hn, ← apply_ite (t.follow · ns)] using
          ih (if n = ".." then here.dropLast else here ++ [n])
      · simp [Nat.lt_of_not_le hn, hn]

lemma lookUp_of_usable (h : p.Usable t.root) : t.lookUp p = t.follow [] (p.names t.root) := by
  obtain ⟨h₁, h₂, h₃⟩ := h
  rw [lookUp, h₁, h₂, if_neg nofun, if_neg nofun, if_neg (Nat.not_le.2 h₃)]

lemma lookUp_of_not_usable (h : ¬p.Usable t.root) :
    ∃ e, e ≠ .missing ∧ ∀ t' : Tree, t'.root = t.root → t'.lookUp p = .error e := by
  by_cases h₁ : p.parts.any Text.holdsHalf
  · exact ⟨.unencodable, nofun, fun t' _ => if_pos h₁⟩
  · by_cases h₂ : p.parts.any fun n => n.toList.contains (Char.ofNat 0)
    · exact ⟨.nullByte, nofun, fun t' _ => by rw [lookUp, if_neg h₁, if_pos h₂]⟩
    · refine ⟨.nameTooLong, nofun, fun t' hroot => ?_⟩
      have h₃ : pathLimit ≤ (p.text t'.root).utf8ByteSize := by
        by_contra h₃
        exact h ⟨by simpa using h₁, by simpa using h₂, hroot ▸ Nat.not_le.1 h₃⟩
      rw [lookUp, if_neg h₁, if_neg h₂, if_pos h₃]

lemma lookUp_eq_ok_iff {spot : Spot} : t.lookUp p = .ok spot ↔ p.Fits t.root ∧
    t.Leads [] (p.names t.root) ∧ spot = ⟨p.spot t.root, t.at? (p.spot t.root)⟩ := by
  by_cases h : p.Usable t.root
  · rw [lookUp_of_usable h]
    have hfits : p.Fits t.root ↔ Path.Short (p.names t.root) := ⟨(·.names), fun hn => ⟨h, hn⟩⟩
    rw [hfits, Path.spot]
    rcases t.follow_cases [] (p.names t.root) with
      ⟨hl, hs, heq⟩ | ⟨-, hs, heq⟩ | ⟨hl, heq | heq⟩ <;> rw [heq]
    · simp [hl, hs, eq_comm]
    · simp [hs]
    · simp [hl]
    · simp [hl]
  · obtain ⟨e, -, he⟩ := lookUp_of_not_usable h
    rw [he t rfl]
    exact ⟨nofun, fun hfits => absurd hfits.1.toUsable h⟩

lemma Leads.ne_missing {e : Trouble} (hleads : t.Leads [] (p.names t.root))
    (h : t.lookUp p = .error e) : e ≠ .missing := by
  by_cases hp : p.Usable t.root
  · rw [lookUp_of_usable hp] at h
    rcases t.follow_cases [] (p.names t.root) with ⟨-, -, heq⟩ | ⟨-, -, heq⟩ | ⟨hnot, -⟩
    · cases heq.symm.trans h
    · cases heq.symm.trans h
      nofun
    · exact absurd hleads hnot
  · obtain ⟨e', hne, he⟩ := lookUp_of_not_usable hp
    cases (he t rfl).symm.trans h
    exact hne

lemma Leads.mono (h : t.Leads here ns)
    (hkeeps : ∀ q, t.look q = some none → t'.look q = some none) : t'.Leads here ns :=
  fun m n rest heq hm => hkeeps _ (h m n rest heq hm)

lemma Leads.around (h : t.Leads [] ns) (hns : Path.Short ns) (hspot : walk [] ns = ms ++ [n]) :
    t.look ms = some none := by
  rcases eq_nil_or_concat ns with rfl | ⟨init, k, rfl⟩
  · simp [walk] at hspot
  · rw [concat_eq_append] at h hspot hns
    have hinit : t.look (walk [] init) = some none :=
      h init k [] rfl (forall_mem_append.1 hns).1
    rw [walk_append, walk_cons] at hspot
    split at hspot
    · exact folder_of_prefix hinit
        ((prefix_append ms [n]).trans (hspot ▸ dropLast_prefix _))
    · rwa [(append_inj' hspot rfl).1] at hinit

lemma look_of_isFolder (h : t.isFolder p = .ok true) {m : Texts}
    (hm : m <+: p.names t.root) : t.look (walk [] m) = some none := by
  unfold isFolder item? at h
  rcases hfound : t.lookUp p with e | spot <;> rw [hfound] at h
  · cases e <;> cases h
  · obtain ⟨hfits, hleads, rfl⟩ := lookUp_eq_ok_iff.1 hfound
    obtain ⟨_ | ⟨n, rest⟩, heq⟩ := hm
    · rw [← heq.symm.trans (append_nil m), ← Path.spot, look]
      rcases hitem : t.at? (p.spot t.root) with _ | _ | items <;> rw [hitem] at h
      · cases h
      · cases h
      · rfl
    · exact hleads m n rest heq.symm fun k hk => hfits.names k (heq ▸ mem_append_left _ hk)

def glance (t : Tree) (p : Path) : Try (Option (Option ByteArray)) :=
  (t.item? p).map (Option.map Item.face)

lemma glance_of_not_usable (h : ¬p.Usable t.root) (hroot : t'.root = t.root) :
    t'.glance p = t.glance p := by
  obtain ⟨e, -, he⟩ := lookUp_of_not_usable h
  rw [glance, glance, item?, item?, he t' hroot, he t rfl, fault, fault, hroot]

lemma glance_cases (h : p.Usable t.root) :
    t.Leads [] (p.names t.root) ∧ Path.Short (p.names t.root) ∧
        t.glance p = .ok (t.look (p.spot t.root)) ∨
      t.Leads [] (p.names t.root) ∧ ¬Path.Short (p.names t.root) ∧
        t.glance p = .error (t.fault p .nameTooLong) ∨
      ¬t.Leads [] (p.names t.root) ∧ t.glance p = .ok none := by
  rw [glance, item?, lookUp_of_usable h]
  rcases t.follow_cases [] (p.names t.root) with
    ⟨hl, hs, heq⟩ | ⟨hl, hs, heq⟩ | ⟨hl, heq | heq⟩ <;> rw [heq]
  · exact .inl ⟨hl, hs, rfl⟩
  · exact .inr (.inl ⟨hl, hs, rfl⟩)
  · exact .inr (.inr ⟨hl, rfl⟩)
  · exact .inr (.inr ⟨hl, rfl⟩)

lemma leads_of_look (hns : ".." ∉ ns) (h : t.look ns ≠ none) : t.Leads [] ns := by
  rintro m n rest rfl -
  rw [walk_of_not_mem [] fun hm => hns (mem_append_left _ hm)]
  exact look_of_append h

lemma glance_of_straight (h : p.Usable t.root) (hup : ".." ∉ p.names t.root)
    (hshort : Path.Short (p.names t.root)) : t.glance p = .ok (t.look (p.spot t.root)) := by
  rcases glance_cases h with ⟨-, -, heq⟩ | ⟨-, hlong, -⟩ | ⟨hleads, heq⟩
  · exact heq
  · exact absurd hshort hlong
  · have hnone : t.look (p.spot t.root) = none := by
      by_contra hlook
      rw [Path.spot, walk_of_not_mem [] hup] at hlook
      exact hleads (leads_of_look hup hlook)
    rw [heq, hnone]

lemma glance_congr (hroot : t'.root = t.root) (h : ∀ m rest, p.names t.root = m ++ rest →
    Path.Short m → t'.look (walk [] m) = t.look (walk [] m)) : t'.glance p = t.glance p := by
  by_cases hp : p.Usable t.root
  · have hp' : p.Usable t'.root := hroot ▸ hp
    have hleads : t'.Leads [] (p.names t.root) ↔ t.Leads [] (p.names t.root) :=
      forall₅_congr fun m n rest heq hm => by rw [h m _ heq hm]
    rcases glance_cases hp with ⟨hl, hs, heq⟩ | ⟨hl, hs, heq⟩ | ⟨hl, heq⟩ <;>
    rcases glance_cases hp' with ⟨hl', hs', heq'⟩ | ⟨hl', hs', heq'⟩ | ⟨hl', heq'⟩ <;>
    simp_all [fault]
    exact h _ [] (append_nil _).symm hs
  · exact glance_of_not_usable hp hroot

lemma exists?_eq (t : Tree) (p : Path) : t.exists? p = (t.glance p).map Option.isSome := by
  rw [exists?, glance]
  rcases t.item? p with e | _ | i <;> rfl

lemma isFolder_eq (t : Tree) (p : Path) :
    t.isFolder p = (t.glance p).map fun face => face.any Option.isNone := by
  rw [isFolder, glance]
  rcases t.item? p with e | _ | _ | i <;> rfl

lemma isFile_eq (t : Tree) (p : Path) :
    t.isFile p = (t.glance p).map fun face => face.any Option.isSome := by
  rw [isFile, glance]
  rcases t.item? p with e | _ | _ | i <;> rfl

lemma readData_eq_ok_iff {data : ByteArray} :
    t.readData p = .ok data ↔ t.glance p = .ok (some (some data)) := by
  rw [readData, glance, item?]
  rcases t.lookUp p with e | ⟨names, _ | _ | items⟩
  · cases e <;> simp [Except.map]
  · simp [Except.map]
  · simp [Except.map, Item.face]
  · simp [Except.map, Item.face]

lemma readData_of_glance (h : t.glance p = .ok (some face)) :
    t.readData p = face.elim (.error (t.fault p .isFolder)) .ok := by
  rw [glance, item?] at h
  rw [readData]
  generalize t.lookUp p = found at h ⊢
  rcases found with e | ⟨names, _ | _ | items⟩
  · cases e <;> cases h
  · cases h
  · cases h
    rfl
  · cases h
    rfl

lemma listing_eq_ok (h : t.listing p = .ok names) :
    ∃ spot items, t.lookUp p = .ok ⟨spot, some (.folder items)⟩ ∧ names = items.map (·.1) := by
  unfold listing at h
  split at h <;> cases h
  rename_i hspot
  exact ⟨_, _, hspot, rfl⟩

lemma exists?_of_listing (h : t.listing p = .ok names) : t.exists? p = .ok true := by
  obtain ⟨spot, items, hspot, -⟩ := listing_eq_ok h
  simp [exists?, item?, hspot, Except.map]

lemma look_of_mem_listing (h : t.listing p = .ok names) (hn : n ∈ names) :
    t.look (p.spot t.root ++ [n]) ≠ none := by
  obtain ⟨spot, items, hspot, rfl⟩ := listing_eq_ok h
  obtain ⟨-, -, heq⟩ := lookUp_eq_ok_iff.1 hspot
  simp only [Spot.mk.injEq] at heq
  obtain ⟨e, he, rfl⟩ := mem_map.1 hn
  have hfound : (Item.find? e.1 items).isSome := by
    rw [Item.find?, Option.isSome_map, find?_isSome]
    exact ⟨e, he, beq_self_eq_true _⟩
  obtain ⟨i, hi⟩ := Option.isSome_iff_exists.1 hfound
  rw [look, at?, Item.at?_append, ← at?, ← heq.2]
  simp [Item.at?, hi]

/-! ## Changes -/

structure Sets (t : Tree) (q : Texts) (face : Option ByteArray) (t' : Tree) : Prop where
  root : t'.root = t.root
  look : ∀ r, t'.look r = if r = q then some face else t.look r

lemma Sets.folder (h : t.Sets q face t') (hq : t.look q ≠ some none) {r : Texts}
    (hr : t.look r = some none) : t'.look r = some none := by
  have hne : r ≠ q := by
    rintro rfl
    exact hq hr
  rw [h.look, if_neg hne, hr]

lemma sets_set (hi : ∀ n ns, i.at? (n :: ns) = none) (h : t.look ms = some none)
    (hnew : t.look (ms ++ [n]) ≠ some none) :
    t.Sets (ms ++ [n]) i.face { t with items := Item.set (some i) (ms ++ [n]) t.items } := by
  refine ⟨rfl, fun r => ?_⟩
  obtain ⟨inner, hinner⟩ := look_eq_folder_iff.1 h
  show Option.map Item.face (Item.at? r _) = _
  rw [Item.face_at?_set n hinner]
  by_cases hr : r = ms ++ [n]
  · simp [hr, Item.at?]
  · split
    · rename_i hprefix
      obtain ⟨rest, rfl⟩ := hprefix
      cases rest with
      | nil => simp at hr
      | cons k rest =>
        have hbefore : t.look (ms ++ [n] ++ k :: rest) = none := by
          by_contra hsome
          exact hnew (look_of_append hsome)
        rw [hbefore]
        simp [hi]
    · rfl

lemma look_set_none (h : t.look ms = some none) (r : Texts) :
    Tree.look { t with items := Item.set none (ms ++ [n]) t.items } r =
      if ms ++ [n] <+: r then none else t.look r := by
  obtain ⟨inner, hinner⟩ := look_eq_folder_iff.1 h
  show Option.map Item.face (Item.at? r _) = _
  rw [Item.face_at?_set n hinner]
  rfl

lemma Leads.exists_around (h : t.Leads [] ns) (hns : Path.Short ns) (hne : walk [] ns ≠ []) :
    ∃ ms n, walk [] ns = ms ++ [n] ∧ t.look ms = some none := by
  obtain ⟨ms, n, hspot⟩ := (eq_nil_or_concat _).resolve_left hne
  rw [concat_eq_append] at hspot
  exact ⟨ms, n, hspot, h.around hns hspot⟩

lemma sets_of_leads (hi : ∀ n ns, i.at? (n :: ns) = none) (h : t.Leads [] ns)
    (hns : Path.Short ns) (hnew : t.look (walk [] ns) ≠ some none) :
    t.Sets (walk [] ns) i.face { t with items := Item.set (some i) (walk [] ns) t.items } := by
  have hne : walk [] ns ≠ [] := by
    intro hnil
    rw [hnil] at hnew
    exact hnew rfl
  obtain ⟨ms, n, hspot, hms⟩ := h.exists_around hns hne
  rw [hspot] at hnew ⊢
  exact sets_set hi hms hnew

lemma writeText_sets {s : String} (h : t.writeText p s = .ok t') :
    t.look (p.spot t.root) ≠ some none ∧ t.Sets (p.spot t.root) (some s.toUTF8) t' := by
  unfold writeText at h
  split at h
  · cases h
  · cases h
  · rename_i names item hfolder hspot
    obtain ⟨hfits, hleads, heq⟩ := lookUp_eq_ok_iff.1 hspot
    cases heq
    have hnew : t.look (p.spot t.root) ≠ some none := by
      intro hlook
      obtain ⟨items, hitems⟩ := look_eq_folder_iff.1 hlook
      exact hfolder items hitems
    cases h
    exact ⟨hnew, sets_of_leads (i := .file s.toUTF8) (fun _ _ => rfl) hleads hfits.names hnew⟩

lemma Sets.lookUp (h : t.Sets (p.spot t.root) face t') (hfits : p.Fits t.root)
    (hleads : t.Leads [] (p.names t.root)) (hnew : t.look (p.spot t.root) ≠ some none) :
    ∃ item, t'.lookUp p = .ok ⟨p.spot t.root, some item⟩ ∧ item.face = face := by
  have hface := (h.look _).trans (if_pos rfl)
  obtain ⟨item, hitem, hface⟩ := Option.map_eq_some_iff.1 hface
  refine ⟨item, lookUp_eq_ok_iff.2 ⟨h.root ▸ hfits, ?_, ?_⟩, hface⟩
  · rw [h.root]
    exact hleads.mono fun q hq => h.folder hnew hq
  · rw [h.root, hitem]

lemma addFolder_sets (h : t.addFolder p = .ok t') :
    t'.exists? p = .ok true ∧ t.look (p.spot t.root) = none ∧ t.Sets (p.spot t.root) none t' := by
  unfold addFolder at h
  split at h
  · cases h
  · cases h
  · rename_i names hspot
    obtain ⟨hfits, hleads, heq⟩ := lookUp_eq_ok_iff.1 hspot
    simp only [Spot.mk.injEq] at heq
    obtain ⟨rfl, hnone⟩ := heq
    have hlook : t.look (p.spot t.root) = none := by rw [look, ← hnone, Option.map_none]
    have hnew : t.look (p.spot t.root) ≠ some none := by simp [hlook]
    have hsets : t.Sets (p.spot t.root) none t' := by
      cases h
      exact sets_of_leads (i := .folder []) (fun _ _ => rfl) hleads hfits.names hnew
    obtain ⟨item, hitem, -⟩ := hsets.lookUp hfits hleads hnew
    refine ⟨?_, hlook, hsets⟩
    rw [exists?, item?, hitem]
    rfl

lemma ensureSubfolder_eq_ok (h : t.ensureSubfolder p = .ok t') : t'.exists? p = .ok true ∧
    (t' = t ∨ t.look (p.spot t.root) = none ∧ t.Sets (p.spot t.root) none t') := by
  replace h : t.ensureOne p = .ok t' := Web.Route.mapError_eq_ok.1 h
  unfold ensureOne at h
  split at h
  · cases h
  · split at h
    · rename_i hspot
      cases h
      exact ⟨by simp [exists?, item?, hspot, Except.map], .inl rfl⟩
    · cases h
  · rename_i hadd
    cases h
    exact (addFolder_sets hadd).imp_right .inr

lemma remove_eq_ok (h : t.remove p = .ok t') (hne : p.spot t.root ≠ []) :
    t'.root = t.root ∧ ∀ r, t'.look r = if p.spot t.root <+: r then none else t.look r := by
  unfold remove at h
  split at h
  · cases h
  · cases h
  · rename_i hspot
    obtain ⟨hfits, hleads, heq⟩ := lookUp_eq_ok_iff.1 hspot
    simp only [Spot.mk.injEq] at heq
    obtain ⟨rfl, -⟩ := heq
    cases h
    refine ⟨rfl, fun r => ?_⟩
    obtain ⟨ms, n, hconcat, hms⟩ := hleads.exists_around hfits.names hne
    rw [Path.spot, hconcat, look_set_none hms]

def Step (S : Texts → Option ByteArray → Prop) (t t' : Tree) : Prop :=
  ∃ q face, S q face ∧ t.look q ≠ some none ∧ (face = none → t.look q = none) ∧ t.Sets q face t'

def Evolves (S : Texts → Option ByteArray → Prop) : Tree → Tree → Prop :=
  Relation.ReflTransGen (Step S)

namespace Evolves

variable {S : Texts → Option ByteArray → Prop}

lemma root (h : t.Evolves S t') : t'.root = t.root := by
  induction h with
  | refl => rfl
  | tail _ hstep ih =>
    obtain ⟨q, face, -, -, -, hsets⟩ := hstep
    rw [hsets.root, ih]

lemma folder (h : t.Evolves S t') (hq : t.look q = some none) : t'.look q = some none := by
  induction h with
  | refl => exact hq
  | tail _ hstep ih =>
    obtain ⟨r, face, -, hr, -, hsets⟩ := hstep
    exact hsets.folder hr ih

lemma of_look_ne (h : t.Evolves S t') (hq : t'.look q ≠ t.look q) : ∃ face, S q face := by
  induction h with
  | refl => exact absurd rfl hq
  | tail _ hstep ih =>
    obtain ⟨r, face, hS, -, -, hsets⟩ := hstep
    rw [hsets.look] at hq
    split at hq
    · rename_i hr
      exact ⟨face, hr ▸ hS⟩
    · exact ih hq

lemma join_look (h : t.Evolves S t') (hq : ∀ data, ¬S q (some data)) :
    (t'.look q).join = (t.look q).join := by
  induction h with
  | refl => rfl
  | tail _ hstep ih =>
    obtain ⟨r, face, hS, -, hnew, hsets⟩ := hstep
    rw [hsets.look, ← ih]
    split
    · rename_i hr
      subst hr
      cases face with
      | none => rw [hnew rfl]; rfl
      | some data => exact absurd hS (hq data)
    · rfl

end Evolves

end Tree

/-! ## Work -/

namespace Path

lemma names_parent (root : String) (p : Path) : p.parent.names root <+: p.names root := by
  have hparts : p.parts.dropLast <+: p.parts := dropLast_prefix _
  cases p with
  | mk origin parts =>
    cases origin with
    | top => exact hparts
    | _ => exact prefix_append_right_inj _ |>.2 hparts

end Path

namespace Work

variable {S : Texts → Option ByteArray → Prop} {t : Tree} {p : Path} {I : Tree → Prop}

lemma run_ask {α : Type} (f : Tree → Try α) (t : Tree) :
    (Work.ask f).run.run t = (f t, t) := by
  have hget : (get : Work Tree).run.run t = (.ok t, t) := rfl
  rw [Work.ask, run_bind, hget]
  dsimp only
  cases f t <;> rfl

lemma run_change (f : Tree → Try Tree) (t : Tree) :
    (Work.change f).run.run t = match f t with
      | .ok t' => (.ok (), t')
      | .error e => (.error e, t) := by
  show (match f t with | .ok t => set t | .error e => throw e : Work Unit).run.run t = _
  cases f t <;> rfl

lemma keeps_ask {α : Type} (f : Tree → Try α) : Keeps I (Work.ask f) := by
  intro t ht
  rwa [run_ask]

lemma keeps_ask_bind {α β : Type} {f : Tree → Try α} {g : α → Work β}
    (h : ∀ t a, I t → f t = .ok a → Keeps I (g a)) : Keeps I (Work.ask f >>= g) := by
  intro t ht
  rw [run_bind, run_ask]
  cases ha : f t with
  | ok a => exact h t a ht ha t ht
  | error e => exact ht

lemma keeps_change {f : Tree → Try Tree} (h : ∀ t t', I t → f t = .ok t' → I t') :
    Keeps I (Work.change f) := by
  intro t ht
  rw [run_change]
  cases hf : f t with
  | ok t' => exact h t t' ht hf
  | error e => exact ht

lemma keeps_writeText {s : String} (h : S (p.spot t.root) (some s.toUTF8)) :
    Keeps (t.Evolves S) (Work.change (·.writeText p s)) := by
  refine keeps_change fun t₁ t' hev hwrite => ?_
  obtain ⟨hnew, hsets⟩ := Tree.writeText_sets hwrite
  rw [hev.root] at hnew hsets
  exact hev.tail ⟨_, _, h, hnew, nofun, hsets⟩

lemma keeps_fill {s : String} (h : S (p.spot t.root) (some s.toUTF8)) :
    Keeps (t.Evolves S) (Work.fill p s) := by
  unfold Work.fill
  split
  · exact .bind .throw fun _ => keeps_writeText h
  · exact keeps_writeText h

lemma keeps_ensureSubfolder (h : S (p.spot t.root) none) :
    Keeps (t.Evolves S) (Work.change (·.ensureSubfolder p)) := by
  refine keeps_change fun t₁ t' hev hensure => ?_
  rcases (Tree.ensureSubfolder_eq_ok hensure).2 with rfl | ⟨hnone, hsets⟩
  · exact hev
  · rw [hev.root] at hnone hsets
    exact hev.tail ⟨_, _, h, by rw [hnone]; exact nofun, fun _ => hnone, hsets⟩

lemma keeps_ensureFolder (h : ∀ m, m <+: p.names t.root → S (walk [] m) none) :
    Keeps (t.Evolves S) (Work.ensureFolder p) := by
  rw [Work.ensureFolder]
  generalize p.parts.length + 1 = n
  induction n generalizing p with
  | zero => exact keeps_ensureSubfolder (h _ (prefix_refl _))
  | succ n ih =>
    have hparent := ih (p := p.parent) fun m hm => h m (hm.trans (p.names_parent t.root))
    have hlast := keeps_ensureSubfolder (t := t) (h _ (prefix_refl _))
    refine .bind .get fun t₁ => ?_
    split
    · exact hparent.bind fun _ => hlast
    · exact hlast

lemma run_ensureFolder_of_ne (h : t.ensureOne p ≠ .error .missing) :
    (Work.ensureFolder p).run.run t = (Work.change (·.ensureSubfolder p)).run.run t := by
  have hneeds : t.needsParent p = false := by
    rw [Tree.needsParent]
    split <;> simp_all
  rw [Work.ensureFolder, Work.ensureFrom, run_bind]
  show (if t.needsParent p then _ else Work.change _ : Work Unit).run.run t = _
  rw [hneeds, if_neg Bool.false_ne_true]

lemma run_ensureFolder_of_listing {names : Texts} (h : t.listing p = .ok names) :
    (Work.ensureFolder p).run.run t = (.ok (), t) := by
  obtain ⟨spot, items, hspot, -⟩ := Tree.listing_eq_ok h
  have hone : t.ensureOne p = .ok t := by simp [Tree.ensureOne, Tree.addFolder, hspot]
  rw [run_ensureFolder_of_ne (by simp [hone]), run_change, Tree.ensureSubfolder, hone]
  rfl

lemma run_ensureFolder_of_error {e : Trouble} (h : t.lookUp p = .error e) (he : e ≠ .missing) :
    (Work.ensureFolder p).run.run t = (.error (t.fault p e), t) := by
  have hone : t.ensureOne p = .error e := by
    rw [Tree.ensureOne, Tree.addFolder, h]
    cases e <;> simp_all
  rw [run_ensureFolder_of_ne (by simp [hone, he]), run_change, Tree.ensureSubfolder, hone]
  rfl

lemma run_ensureFolder_of_look (hleads : t.Leads [] (p.names t.root))
    (hfree : t.exists? p = .ok false) (hlook : t.look (p.spot t.root) ≠ none) :
    ∃ f, (Work.ensureFolder p).run.run t = (.error f, t) := by
  rcases hfound : t.lookUp p with e | spot
  · exact ⟨_, run_ensureFolder_of_error hfound (hleads.ne_missing hfound)⟩
  · obtain ⟨-, -, rfl⟩ := Tree.lookUp_eq_ok_iff.1 hfound
    rw [Tree.exists?, Tree.item?, hfound] at hfree
    have hnone : (t.at? (p.spot t.root)).isSome = false := Except.ok.inj hfree
    simp_all [Tree.look]

end Work

end Folder

lemma Web.isFull_top : Folder.Path.IsFull "/" := by decide

end Huntbook
