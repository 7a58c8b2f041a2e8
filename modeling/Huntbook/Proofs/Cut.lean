import Huntbook.Proofs.Template

/-!
# Templates cut in two

Some characters belong to no escape but their own (`isStop`). After such a character a template
can be cut: what comes before it is read in the same way whatever follows, and what follows is read
as a template on its own.
-/

namespace Huntbook.Text.Template

variable {c : Char}

lemma isKept_of_isStop (h : isStop c) : isKept c := by
  simp only [isStop, Bool.and_eq_true] at h
  exact h.1.1.1.1.1.1.1

lemma not_isStop_of_isOctal (h : isOctal c) : isStop c = false := by
  simp [isStop, isKept, Char.isAlphanum, isDigit_of_isOctal h]

lemma tokens_append_cons (hc : c ≠ '\\') (u : Chars) :
    ∃ ts t, t.char = c ∧ ∀ v, tokens (u ++ c :: v) = ts ++ some t :: tokens v := by
  fun_induction tokens u with
  | case1 => exact ⟨[], ⟨false, c⟩, rfl, tokens_cons hc⟩
  | case2 => exact ⟨[], ⟨true, c⟩, rfl, fun v => by simp [tokens]⟩
  | case3 d u ih =>
    obtain ⟨ts, t, ht, h⟩ := ih
    exact ⟨some ⟨true, d⟩ :: ts, t, ht, fun v => by simp [tokens, h]⟩
  | case4 d u hend hnext ih =>
    obtain ⟨ts, t, ht, h⟩ := ih
    have hd : d ≠ '\\' := by
      rintro rfl
      cases u with
      | nil => exact hend rfl rfl
      | cons e u => exact hnext e u rfl rfl
    exact ⟨some ⟨false, d⟩ :: ts, t, ht, fun v => by rw [List.cons_append, tokens_cons hd, h]; rfl⟩

lemma eq_append_of_not_mem {α : Type} {x : α} {xs ys vs : List α} (us : List α)
    (h : xs ++ x :: ys = us ++ vs) (hx : x ∉ us) : ∃ zs, xs = us ++ zs ∧ vs = zs ++ x :: ys := by
  rcases List.append_eq_append_iff.1 h with ⟨w, hw, hv⟩ | ⟨w, hw, hv⟩
  · cases w with
    | nil => exact ⟨[], by simpa using hw.symm, by simpa using hv.symm⟩
    | cons y w =>
      obtain ⟨rfl, -⟩ := List.cons.inj hv
      exact absurd (by simp [hw]) hx
  · exact ⟨w, hw, hv⟩

section

variable {t : Token} {ts us : List (Option Token)} {piece : Piece} {used : Nat} {ps : List Piece}

lemma nextIs_append (p : Char → Bool) (ts us us' : List (Option Token)) :
    nextIs p (ts ++ some t :: us) = nextIs p (ts ++ some t :: us') := by
  cases ts <;> (unfold nextIs; split <;> simp_all)

lemma Takes.append {c : Char} (ht : isStop t.char) (h : Takes c (ts ++ some t :: us) piece used) :
    used ≤ ts.length ∧ ∀ us', Takes c (ts ++ some t :: us') piece used := by
  have hne : ∀ {d}, isStop d = false → t ≠ ⟨false, d⟩ := by
    rintro d hd rfl
    simp [hd] at ht
  have hdigit : ∀ {d}, isOctal d → t ≠ ⟨false, d⟩ := fun hd => hne (not_isStop_of_isOctal hd)
  generalize he : ts ++ some t :: us = rs at h
  cases h with
  | @whole name rest hname hplain hwhole =>
    have hmem : some t ∉ name := fun hmem => by
      refine hwhole.not_mem ht (List.mem_flatMap.2 ⟨some t, hmem, ?_⟩)
      simp only [Option.map_some, Option.getD_some, Token.chars]
      split <;> simp
    have hnot : some t ∉ some ⟨false, '<'⟩ :: (name ++ [some ⟨false, '>'⟩]) := by
      simpa using ⟨hne (by decide), hmem, hne (by decide)⟩
    have hcut : ts ++ some t :: us =
        (some ⟨false, '<'⟩ :: (name ++ [some ⟨false, '>'⟩])) ++ rest := by simpa using he
    obtain ⟨more, rfl, -⟩ := eq_append_of_not_mem _ hcut hnot
    refine ⟨by simp, fun us' => ?_⟩
    have := @Takes.whole name (more ++ some t :: us') hname hplain hwhole
    simpa using this
  | zero hnext =>
    subst he
    exact ⟨Nat.zero_le _, fun us' => .zero ((nextIs_append isOctal ts us' us).trans hnext)⟩
  | @zeroDigit a rest ha hnext =>
    obtain ⟨more, rfl, rfl⟩ := eq_append_of_not_mem [some (Token.mk false a)] he
      (by simpa using hdigit ha)
    refine ⟨by simp, fun us' => .zeroDigit ha ((nextIs_append isOctal more us' us).trans hnext)⟩
  | @zeroDigits a b rest ha hb =>
    obtain ⟨more, rfl, -⟩ := eq_append_of_not_mem
      [some (Token.mk false a), some (Token.mk false b)] he (by simpa using ⟨hdigit ha, hdigit hb⟩)
    exact ⟨by simp, fun us' => .zeroDigits ha hb⟩
  | @code c a b rest hzero hc ha hb hrange =>
    obtain ⟨more, rfl, -⟩ := eq_append_of_not_mem
      [some (Token.mk false a), some (Token.mk false b)] he (by simpa using ⟨hdigit ha, hdigit hb⟩)
    exact ⟨by simp, fun us' => .code hzero hc ha hb hrange⟩
  | control hc => exact ⟨Nat.zero_le _, fun _ => .control hc⟩
  | kept hc => exact ⟨Nat.zero_le _, fun _ => .kept hc⟩

lemma piecesFrom_position {skip position : Nat} {ts : List (Option Token)}
    (h : piecesFrom skip position ts = .ok ps) (position' : Nat) :
    piecesFrom skip position' ts = .ok ps := by
  induction ts generalizing skip position position' ps with
  | nil => simpa [piecesFrom] using h
  | cons t ts ih =>
    cases t with
    | none => simp [piecesFrom] at h
    | some t =>
      cases skip with
      | succ skip => exact ih (by simpa [piecesFrom] using h) _
      | zero =>
        obtain ⟨hend, ⟨he, rest, hr, rfl⟩ | ⟨he, piece, used, rest, ht, hr, rfl⟩⟩ :=
          piecesFrom_cons_eq_ok.1 h
        · exact piecesFrom_cons_eq_ok.2 ⟨hend, .inl ⟨he, rest, ih hr _, rfl⟩⟩
        · exact piecesFrom_cons_eq_ok.2 ⟨hend, .inr ⟨he, piece, used, rest, ht, ih hr _, rfl⟩⟩

lemma head?_ne_of_piecesFrom {skip position : Nat} (h : piecesFrom skip position us = .ok ps) :
    us.head? ≠ some none := by
  rintro he
  obtain ⟨rest, rfl⟩ := List.head?_eq_some_iff.1 he
  simp [piecesFrom] at h

lemma piecesFrom_append {skip position : Nat} (ht : isStop t.char) (hskip : skip ≤ ts.length)
    (h : piecesFrom skip position (ts ++ some t :: us) = .ok ps) :
    ∃ a b, ps = a ++ b ∧ piecesFrom 0 0 us = .ok b ∧ ∀ us' b', piecesFrom 0 0 us' = .ok b' →
        piecesFrom skip position (ts ++ some t :: us') = .ok (a ++ b') := by
  induction ts generalizing skip position ps with
  | nil =>
    obtain rfl : skip = 0 := by simpa using hskip
    have hkept := isKept_of_isStop ht
    obtain ⟨hend, ⟨he, rest, hr, rfl⟩ | ⟨he, piece, used, rest, htakes, hr, rfl⟩⟩ :=
      piecesFrom_cons_eq_ok.1 h
    · refine ⟨[.char t.char], rest, rfl, piecesFrom_position hr 0, fun us' b' hb => ?_⟩
      exact piecesFrom_cons_eq_ok.2
        ⟨head?_ne_of_piecesFrom hb, .inl ⟨he, b', piecesFrom_position hb _, rfl⟩⟩
    · have hself := (escape_of_isKept hkept 0 us).symm.trans (escape_eq_ok.2 htakes)
      obtain ⟨rfl, rfl⟩ := Prod.mk.inj (Except.ok.inj hself)
      refine ⟨_, rest, rfl, piecesFrom_position hr 0, fun us' b' hb => ?_⟩
      exact piecesFrom_cons_eq_ok.2 ⟨head?_ne_of_piecesFrom hb,
        .inr ⟨he, _, 0, b', .kept hkept, piecesFrom_position hb _, rfl⟩⟩
  | cons u ts ih =>
    have hhead : ∀ us', (ts ++ some t :: us).head? ≠ some none →
        (ts ++ some t :: us').head? ≠ some none := by
      cases ts <;> simp
    cases u with
    | none => simp [piecesFrom] at h
    | some u =>
      cases skip with
      | succ skip => exact ih (Nat.le_of_succ_le_succ hskip) h
      | zero =>
        obtain ⟨hend, ⟨he, rest, hr, rfl⟩ | ⟨he, piece, used, rest, htakes, hr, rfl⟩⟩ :=
          piecesFrom_cons_eq_ok.1 h
        · obtain ⟨a, b, rfl, hb, hjoin⟩ := ih (Nat.zero_le _) hr
          refine ⟨.char u.char :: a, b, rfl, hb, fun us' b' hb' => ?_⟩
          exact piecesFrom_cons_eq_ok.2
            ⟨hhead us' hend, .inl ⟨he, _, hjoin us' b' hb', rfl⟩⟩
        · obtain ⟨hle, hexchange⟩ := htakes.append ht
          obtain ⟨a, b, rfl, hb, hjoin⟩ := ih hle hr
          refine ⟨keptPieces u.char piece ++ a, b, by simp, hb, fun us' b' hb' => ?_⟩
          exact piecesFrom_cons_eq_ok.2 ⟨hhead us' hend,
            .inr ⟨he, piece, used, _, hexchange us', hjoin us' b' hb', by simp⟩⟩

end

lemma parse_append_cons (hc : isStop c) {u v : Chars} {ps : List Piece}
    (h : parse (u ++ c :: v) = .ok ps) : ∃ a b, ps = a ++ b ∧ parse v = .ok b ∧
      ∀ v' b', parse v' = .ok b' → parse (u ++ c :: v') = .ok (a ++ b') := by
  have hne : c ≠ '\\' := by
    rintro rfl
    exact absurd hc (by decide)
  obtain ⟨ts, t, ht, htokens⟩ := tokens_append_cons hne u
  rw [parse, htokens] at h
  obtain ⟨a, b, rfl, hb, hjoin⟩ := piecesFrom_append (ht ▸ hc) (Nat.zero_le _) h
  refine ⟨a, b, rfl, hb, fun v' b' hb' => ?_⟩
  rw [parse, htokens]
  exact hjoin _ _ hb'

/-! ## Templates from left to right -/

section

variable {c : Char} {cs : Chars} {ps : List Piece}

lemma parse_plain (hc : c ≠ '\\') (h : parse cs = .ok ps) :
    parse (c :: cs) = .ok (.char c :: ps) := by
  rw [parse, tokens_cons hc]
  exact piecesFrom_cons_eq_ok.2
    ⟨head?_ne_of_piecesFrom h, .inl ⟨rfl, _, piecesFrom_position h _, rfl⟩⟩

lemma Takes.parse_cons {piece : Piece} {used : Nat} (ht : Takes c (tokens cs) piece used)
    (h : piecesFrom used 0 (tokens cs) = .ok ps) :
    parse ('\\' :: c :: cs) = .ok (keptPieces c piece ++ ps) := by
  rw [parse, tokens]
  exact piecesFrom_cons_eq_ok.2 ⟨head?_ne_of_piecesFrom h,
    .inr ⟨rfl, piece, used, ps, ht, piecesFrom_position h _, rfl⟩⟩

end

/-! ## Templates without parts -/

def Spells (template out : Chars) : Prop := parse template = .ok (out.map .char)

section

variable {c : Char} {cs out : Chars}

lemma spells_nil : Spells [] [] := rfl

lemma Spells.plain (hc : c ≠ '\\') (h : Spells cs out) : Spells (c :: cs) (c :: out) :=
  parse_plain hc h

lemma Spells.kept (hc : isKept c) (h : Spells cs out) :
    Spells ('\\' :: c :: cs) ('\\' :: c :: out) := by
  rw [Spells, (Takes.kept hc).parse_cons h, keptPieces, if_pos hc]
  rfl

lemma Spells.control {e : Char} (hc : control? c = some e) (h : Spells cs out) :
    Spells ('\\' :: c :: cs) (e :: out) := by
  rw [Spells, (Takes.control hc).parse_cons h, keptPieces, if_neg (by simp [isKept, hc])]
  rfl

lemma Spells.append_plain {w : Chars} (hw : '\\' ∉ w) (h : Spells cs out) :
    Spells (w ++ cs) (w ++ out) := by
  induction w with
  | nil => exact h
  | cons c w ih =>
    obtain ⟨hc, hw⟩ := not_or.1 (mt List.mem_cons.2 hw)
    exact (ih hw).plain (Ne.symm hc)

lemma Spells.parse_append {v : Chars} {ps : List Piece} (hc : isStop c)
    (h : Spells (cs ++ [c]) out) (hv : parse v = .ok ps) :
    parse (cs ++ c :: v) = .ok (out.map .char ++ ps) := by
  obtain ⟨a, b, hab, hb, hjoin⟩ := parse_append_cons hc h
  obtain rfl : [] = b := Except.ok.inj hb
  rw [hab, List.append_nil]
  exact hjoin v ps hv

end

end Huntbook.Text.Template
