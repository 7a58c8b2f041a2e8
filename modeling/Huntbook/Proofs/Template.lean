import Huntbook.Text.Template
import Huntbook.Proofs.Weight

/-!
# What replacement templates stand for

A template is read escape by escape. An escape of a character that is neither a backslash nor an
ASCII letter or digit stands for itself; every other one that can be read stands for something
lighter.
-/

namespace Huntbook

open List

lemma bind_eq_ok {ε α β : Type} {x : Except ε α} {f : α → Except ε β} {b : β} :
    (x >>= f) = .ok b ↔ ∃ a, x = .ok a ∧ f a = .ok b := by
  cases x <;> simp [bind, Except.bind]

lemma ok_bind {ε α β : Type} (a : α) (f : α → Except ε β) : (Except.ok a >>= f) = f a := rfl

namespace Decimal

lemma dropBase_ten (cs : Chars) : dropBase 10 cs = cs := by
  unfold dropBase
  split <;> simp

lemma digitValue?_of_digitsFrom {base n digits : Nat} {after : Bool} {cs : Chars} {v : Nat}
    (h : digitsFrom base n digits after cs = .ok v) :
    ∀ c ∈ cs, c = '_' ∨ (digitValue? c).isSome := by
  fun_induction digitsFrom base n digits after cs with
  | case1 | case2 | case3 => simp
  | case4 n digits c cs hc ih =>
    intro d hd
    rcases mem_cons.1 hd with rfl | hd
    · exact .inl (by simpa using hc)
    · exact ih h d hd
  | case5 => simp at h
  | case6 n digits after c cs hc d hd ih =>
    intro e he
    rcases mem_cons.1 he with rfl | he
    · obtain ⟨hd, -⟩ := Option.filter_eq_some_iff.1 hd
      exact .inr (by simp [hd])
    · exact ih h e he
  | case7 => simp at h

end Decimal

variable {c : Char} {cs : Chars}

lemma Text.mem_strip {p : Char → Bool} (hc : c ∈ cs) (hp : p c = false) : c ∈ strip p cs := by
  have keep : ∀ {cs : Chars}, c ∈ cs → c ∈ cs.dropWhile p := fun {cs} hc => by
    rw [← takeWhile_append_dropWhile (p := p) (l := cs), mem_append] at hc
    exact hc.resolve_left fun h => by simp [mem_takeWhile_imp h] at hp
  rw [strip, dropEndWhile, mem_reverse]
  exact keep (mem_reverse.2 (keep hc))

namespace Text.Template

def isKept (c : Char) : Bool := (control? c).isNone && !c.isAlphanum

/-- Whether `c` belongs to no escape but its own, which stands for itself: it neither opens nor
    closes the name of a part, nor can it stand in one. -/
def isStop (c : Char) : Bool :=
  isKept c && c != '<' && c != '>' && !isBlank c && c != '+' && c != '-' && c != '_' &&
    (Decimal.digitValue? c).isNone

end Text.Template

lemma Decimal.readInt?_of_mem (hblank : Text.isBlank c = false) (hplus : c ≠ '+')
    (hminus : c ≠ '-') (hline : c ≠ '_') (hdigit : digitValue? c = none)
    (h : c ∈ cs) : readInt? (String.ofList cs) = none := by
  have hs : c ∈ Text.strip Text.isBlank cs := Text.mem_strip h hblank
  have error_of : ∀ {cs : Chars}, c ∈ cs →
      ∃ e, digitsFrom 10 0 0 false (dropBase 10 cs) = .error e := fun {cs} hcs => by
    rw [dropBase_ten]
    cases hd : digitsFrom 10 0 0 false cs with
    | error e => exact ⟨e, rfl⟩
    | ok v => exact absurd (digitValue?_of_digitsFrom hd _ hcs) (by simp [hline, hdigit])
  rw [readInt?, String.toList_ofList, readBase]
  split
  · rename_i cs' he
    obtain ⟨e, he⟩ := error_of (show c ∈ cs' by simpa [he, hminus] using hs)
    rw [he]
    rfl
  · rename_i cs' he
    obtain ⟨e, he⟩ := error_of (show c ∈ cs' by simpa [he, hplus] using hs)
    rw [he]
    rfl
  · obtain ⟨e, he⟩ := error_of hs
    rw [he]
    rfl

namespace Text.Template

variable {piece : Piece} {used : Nat} {ps : List Piece}

def Token.isLiteral (t : Token) : Bool := !t.escaped || isKept t.char

/-- All escapes of a template stand for themselves: none is of a backslash, of an ASCII letter or
    digit, or cut off by the end. -/
def IsLiteral (template : Chars) : Prop := ∀ t ∈ tokens template, t.any Token.isLiteral

instance (template : Chars) : Decidable (IsLiteral template) :=
  inferInstanceAs (Decidable (∀ t ∈ tokens template, t.any Token.isLiteral))

def textOf (ts : List (Option Token)) : Chars :=
  ts.flatMap fun t => (t.map Token.chars).getD ['\\']

@[simp] lemma textOf_cons (t : Option Token) (ts : List (Option Token)) :
    textOf (t :: ts) = (t.map Token.chars).getD ['\\'] ++ textOf ts := by
  simp [textOf]

lemma textOf_append (ts us : List (Option Token)) : textOf (ts ++ us) = textOf ts ++ textOf us :=
  flatMap_append

@[simp] lemma textOf_tokens (cs : Chars) : textOf (tokens cs) = cs := by
  fun_induction tokens cs with
  | case1 => rfl
  | case2 => rfl
  | case3 c cs ih => simp [Token.chars, ih]
  | case4 c cs h₁ h₂ ih => simp [Token.chars, ih]

variable {t : Token} {template name : Chars} {p : Char → Bool} {a e : Char}

lemma char_ne_of_mem_tokens {cs : Chars} (h : some t ∈ tokens cs)
    (ht : t.escaped = false) : t.char ≠ '\\' := by
  fun_induction tokens cs with
  | case1 => simp at h
  | case2 => simp at h
  | case3 c cs ih =>
    rcases mem_cons.1 h with h | h
    · obtain rfl := Option.some.inj h
      simp at ht
    · exact ih h
  | case4 c cs h₁ h₂ ih =>
    rcases mem_cons.1 h with h | h
    · obtain rfl := Option.some.inj h
      rintro rfl
      cases cs with
      | nil => exact h₁ rfl rfl
      | cons d ds => exact h₂ d ds rfl rfl
    · exact ih h

/-! ## Literal templates -/

variable {c : Char} {ts : List (Option Token)} {position : Nat}

lemma escape_of_isKept (hc : isKept c) (position : Nat) (ts : List (Option Token)) :
    escape c position ts = .ok (.char c, 0) := by
  simp only [isKept, Bool.and_eq_true, Option.isNone_iff_eq_none, Bool.not_eq_true'] at hc
  obtain ⟨hcontrol, halnum⟩ := hc
  have hne : ∀ d : Char, d.isAlphanum = true → (c == d) = false := fun d hd =>
    beq_false_of_ne fun e => by simp [e, hd] at halnum
  simp only [Char.isAlphanum, Bool.or_eq_false_iff] at halnum
  simp [escape, hne 'g' (by decide), hne '0' (by decide), halnum.1, halnum.2, hcontrol]

lemma piecesFrom_of_isLiteral (h : ∀ t ∈ ts, t.any Token.isLiteral) (position : Nat) :
    piecesFrom 0 position ts = .ok ((textOf ts).map .char) := by
  induction ts generalizing position with
  | nil => rfl
  | cons t ts ih =>
    have hts : ∀ t ∈ ts, t.any Token.isLiteral := fun t ht => h t (mem_cons_of_mem _ ht)
    have hhead : (ts.head? == some none) = false := by
      cases ts with
      | nil => rfl
      | cons u us =>
        have := hts u mem_cons_self
        cases u with
        | none => simp at this
        | some u => rfl
    cases t with
    | none => simpa using h none mem_cons_self
    | some t =>
      have ht : t.isLiteral := by simpa using h (some t) mem_cons_self
      rw [piecesFrom]
      cases he : t.escaped with
      | true =>
        have hk : isKept t.char := by simpa [Token.isLiteral, he] using ht
        have hkept : ((control? t.char).isNone && !t.char.isAlphanum) = true := hk
        simp [hhead, escape_of_isKept hk, ih hts, hkept, he, Token.chars, bind, Except.bind, pure,
          Except.pure]
      | false => simp [hhead, ih hts, he, Token.chars, bind, Except.bind, pure, Except.pure]

lemma parse_of_isLiteral (h : IsLiteral template) :
    parse template = .ok (template.map .char) := by
  rw [parse, piecesFrom_of_isLiteral h, textOf_tokens]

@[simp] lemma expand_map_char (cs found : Chars) : expand (cs.map .char) found = cs := by
  simp [expand, flatMap_map]

/-! ## Reading a template -/

inductive Escape (found : Chars) : Chars → Chars → Prop
  | control {c e : Char} : control? c = some e → Escape found ['\\', c] [e]
  | code {ds : Chars} (e : Char) : ds ≠ [] → (∀ d ∈ ds, d.isDigit) →
      Escape found ('\\' :: ds) [e]
  | whole {name : Chars} : '(' ∉ name → Escape found ('\\' :: 'g' :: '<' :: name ++ ['>']) found

inductive Reading (found : Chars) : Chars → Chars → Prop
  | nil : Reading found [] []
  | plain {c : Char} {cs out : Chars} : c ≠ '\\' → Reading found cs out →
      Reading found (c :: cs) (c :: out)
  | kept {c : Char} {cs out : Chars} : isKept c → Reading found cs out →
      Reading found ('\\' :: c :: cs) ('\\' :: c :: out)
  | escape {u v cs out : Chars} : Escape found u v → Reading found cs out →
      Reading found (u ++ cs) (v ++ out)

lemma nextIs_eq_some (h : nextIs p ts = some a) : p a ∧ ∃ rest, ts = some ⟨false, a⟩ :: rest := by
  unfold nextIs at h
  split at h
  · rename_i c rest
    split at h
    · rename_i hc
      obtain rfl := Option.some.inj h
      exact ⟨hc, rest, rfl⟩
    · simp at h
  · simp at h

lemma isDigit_of_isOctal (h : isOctal c) : c.isDigit := by
  simp only [isOctal, Bool.and_eq_true, decide_eq_true_eq] at h
  simp only [Char.isDigit, Bool.and_eq_true, decide_eq_true_eq]
  exact ⟨h.1, UInt32.le_trans h.2 (by decide)⟩

def NamesWhole (name : Chars) : Prop :=
  isName name = false ∧ Decimal.readInt? (String.ofList name) = some 0

lemma part_eq_ok : part name position = .ok piece ↔ piece = .whole ∧ NamesWhole name := by
  unfold part NamesWhole
  split
  · simp_all
  · rename_i hname
    split
    · rename_i hread
      simp [hread, hname, eq_comm]
    · rename_i n hn hread
      refine iff_of_false (by simp) fun h => hn ?_
      simpa [hread] using h.2.2
    · rename_i hread _
      exact iff_of_false (by simp) fun h => hread h.2.2

lemma NamesWhole.not_mem (h : NamesWhole name) (hc : isStop c) : c ∉ name := fun hmem => by
  simp only [isStop, Bool.and_eq_true, bne_iff_ne, Bool.not_eq_true', Option.isNone_iff_eq_none]
    at hc
  obtain ⟨⟨⟨⟨⟨-, hblank⟩, hplus⟩, hminus⟩, hline⟩, hdigit⟩ := hc
  simpa [Decimal.readInt?_of_mem hblank hplus hminus hline hdigit hmem] using h.2

lemma textOf_eq_of_isSome (h : ∀ t ∈ ts, t.isSome) :
    textOf ts = ts.flatMap fun t => (t.map Token.chars).getD [] := by
  refine flatMap_congr fun t ht => ?_
  obtain ⟨u, rfl⟩ := Option.isSome_iff_exists.1 (h t ht)
  rfl

lemma named_eq_ok : named ts position = .ok (piece, used) ↔ piece = .whole ∧ ∃ name rest,
      ts = some ⟨false, '<'⟩ :: (name ++ some ⟨false, '>'⟩ :: rest) ∧ name ≠ [] ∧
      (∀ t ∈ name, t ≠ some ⟨false, '>'⟩ ∧ t.isSome) ∧ NamesWhole (textOf name) ∧
      used = name.length + 2 := by
  generalize hp : (fun t : Option Token => t != some ⟨false, '>'⟩ && t.isSome) = p
  have hp' : ∀ t, p t ↔ t ≠ some ⟨false, '>'⟩ ∧ t.isSome := fun t => by simp [← hp]
  constructor
  · intro h
    unfold named at h
    split at h
    · rename_i rest
      rw [hp] at h
      have hrest : rest.takeWhile p ++ rest.dropWhile p = rest := takeWhile_append_dropWhile
      have hdrop : rest.drop (rest.takeWhile p).length = rest.dropWhile p := by
        have := @drop_left _ (rest.takeWhile p) (rest.dropWhile p)
        rwa [hrest] at this
      simp only [hdrop] at h
      split at h
      · rename_i t more hmore
        -- The name ends at the first plain `>`, which is the token after it.
        have ht : t = ⟨false, '>'⟩ := by
          have hhead : p (some t) = false := by
            simpa [hmore] using head?_dropWhile_not p rest
          simpa [← hp] using hhead
        split at h
        · simp at h
        · rename_i hne
          have hsome : ∀ t ∈ rest.takeWhile p, t ≠ some ⟨false, '>'⟩ ∧ t.isSome := fun t ht =>
            (hp' t).1 (mem_takeWhile_imp ht)
          rw [← textOf_eq_of_isSome fun t ht => (hsome t ht).2] at h
          cases hpart : part (textOf (rest.takeWhile p)) (position + 1) with
          | error e => simp [hpart, Except.map] at h
          | ok q =>
            simp only [hpart, Except.map, Except.ok.injEq, Prod.mk.injEq] at h
            obtain ⟨rfl, rfl⟩ := h
            obtain ⟨rfl, hwhole⟩ := part_eq_ok.1 hpart
            refine ⟨rfl, _, more, ?_, by simpa using hne, hsome, hwhole, rfl⟩
            rw [← ht, ← hmore, hrest]
      · simp at h
      · split at h <;> simp at h
    · simp at h
  · rintro ⟨rfl, name, rest, rfl, hne, hname, hwhole, rfl⟩
    have htake : (name ++ some ⟨false, '>'⟩ :: rest).takeWhile p = name := by
      rw [takeWhile_append_of_pos fun t ht => (hp' t).2 (hname t ht),
        takeWhile_cons_of_neg (by simp [← hp]), append_nil]
    have hpart : part (textOf name) (position + 1) = .ok .whole := part_eq_ok.2 ⟨rfl, hwhole⟩
    rw [textOf_eq_of_isSome fun t ht => (hname t ht).2] at hpart
    simp [named, hp, htake, hne, hpart, Except.map]
/-- The escapes that can be read: the character after the backslash, the tokens that follow, what
    the escape stands for, and how many of the tokens belong to it. -/
inductive Takes : Char → List (Option Token) → Piece → Nat → Prop
  | whole {name rest : List (Option Token)} : name ≠ [] →
      (∀ t ∈ name, t ≠ some ⟨false, '>'⟩ ∧ t.isSome) → NamesWhole (textOf name) →
      Takes 'g' (some ⟨false, '<'⟩ :: (name ++ some ⟨false, '>'⟩ :: rest)) .whole (name.length + 2)
  | zero {ts : List (Option Token)} : nextIs isOctal ts = none →
      Takes '0' ts (.char (Char.ofNat 0)) 0
  | zeroDigit {a : Char} {ts : List (Option Token)} : isOctal a → nextIs isOctal ts = none →
      Takes '0' (some ⟨false, a⟩ :: ts) (.char (Char.ofNat (digitsValue 8 [a]))) 1
  | zeroDigits {a b : Char} {ts : List (Option Token)} : isOctal a → isOctal b →
      Takes '0' (some ⟨false, a⟩ :: some ⟨false, b⟩ :: ts)
        (.char (Char.ofNat (digitsValue 8 [a, b]))) 2
  | code {c a b : Char} {ts : List (Option Token)} : c ≠ '0' → isOctal c → isOctal a → isOctal b →
      digitsValue 8 [c, a, b] ≤ 255 →
      Takes c (some ⟨false, a⟩ :: some ⟨false, b⟩ :: ts)
        (.char (Char.ofNat (digitsValue 8 [c, a, b]))) 2
  | control {c e : Char} {ts : List (Option Token)} : control? c = some e → Takes c ts (.char e) 0
  | kept {c : Char} {ts : List (Option Token)} : isKept c → Takes c ts (.char c) 0

lemma nextIs_plain (ha : p a) (ts : List (Option Token)) :
    nextIs p (some ⟨false, a⟩ :: ts) = some a := by
  simp [nextIs, ha]

lemma control?_not_digit (h : control? c = some e) : c ≠ 'g' ∧ c ≠ '0' ∧ c.isDigit = false := by
  unfold control? at h
  split at h <;> first | decide | simp at h

lemma escape_eq_ok : escape c position ts = .ok (piece, used) ↔ Takes c ts piece used := by
  constructor
  · intro h
    unfold escape at h
    split at h
    · rename_i hg
      obtain rfl : c = 'g' := by simpa using hg
      obtain ⟨rfl, name, rest, rfl, hne, hname, hwhole, rfl⟩ := named_eq_ok.1 h
      exact .whole hne hname hwhole
    split at h
    · -- A code that starts with a zero, with up to two digits more.
      rename_i hg hzero
      obtain rfl : c = '0' := by simpa using hzero
      split at h
      · rename_i a b ha hb
        obtain ⟨rfl, rfl⟩ := Prod.mk.inj (Except.ok.inj h)
        obtain ⟨hao, rest, rfl⟩ := nextIs_eq_some ha
        obtain ⟨hbo, rest, rfl⟩ := nextIs_eq_some hb
        exact .zeroDigits hao hbo
      · rename_i a ha hb
        obtain ⟨rfl, rfl⟩ := Prod.mk.inj (Except.ok.inj h)
        obtain ⟨hao, rest, rfl⟩ := nextIs_eq_some ha
        exact .zeroDigit hao hb
      · rename_i ha
        obtain ⟨rfl, rfl⟩ := Prod.mk.inj (Except.ok.inj h)
        exact .zero ha
    split at h
    · -- A code of three digits.
      rename_i hg hzero hdigit
      split at h
      · simp at h
      · rename_i a ha
        split at h
        · rename_i b hb
          split at h
          · rename_i hoctal
            split at h
            · simp at h
            · rename_i hrange
              obtain ⟨rfl, rfl⟩ := Prod.mk.inj (Except.ok.inj h)
              obtain ⟨-, rest, rfl⟩ := nextIs_eq_some ha
              obtain ⟨hbo, rest, rfl⟩ := nextIs_eq_some hb
              simp only [Bool.and_eq_true] at hoctal
              exact .code (by simpa using hzero) hoctal.1 hoctal.2 hbo (Nat.le_of_not_lt hrange)
          · simp at h
        · simp at h
    split at h
    · rename_i e he
      obtain ⟨rfl, rfl⟩ := Prod.mk.inj (Except.ok.inj h)
      exact .control he
    · split at h
      · simp at h
      · obtain ⟨rfl, rfl⟩ := Prod.mk.inj (Except.ok.inj h)
        exact .kept (by simp_all [isKept, Char.isAlphanum])
  · intro h
    cases h with
    | whole hne hname hwhole => exact named_eq_ok.2 ⟨rfl, _, _, rfl, hne, hname, hwhole, rfl⟩
    | zero hts => simp [escape, hts]
    | zeroDigit ha hts => simp [escape, nextIs_plain ha, hts]
    | zeroDigits ha hb => simp [escape, nextIs_plain ha, nextIs_plain hb]
    | code hzero hc ha hb hrange =>
      have hdigit := isDigit_of_isOctal hc
      have hg : c ≠ 'g' := by
        rintro rfl
        simp at hdigit
      simp [escape, nextIs_plain (isDigit_of_isOctal ha), nextIs_plain hb, hg, hzero, hdigit, hc, ha,
        Nat.not_lt.2 hrange]
    | control he =>
      obtain ⟨hg, hzero, hdigit⟩ := control?_not_digit he
      simp [escape, hg, hzero, hdigit, he]
    | kept hc => exact escape_of_isKept hc position ts

lemma Takes.kept_or_escape (found : Chars) (h : Takes c ts piece used) :
    (isKept c ∧ piece = .char c ∧ used = 0) ∨ (isKept c = false ∧
        Escape found ('\\' :: c :: textOf (ts.take used)) (expand [piece] found)) := by
  have digit : ∀ {d : Char}, d.isDigit → isKept d = false := fun {d} hd => by
    simp [isKept, Char.isAlphanum, hd]
  cases h with
  | @whole name rest hne hname hwhole =>
    refine .inr ⟨by decide, ?_⟩
    have htext : textOf ((some ⟨false, '<'⟩ :: (name ++ some ⟨false, '>'⟩ :: rest)).take
        (name.length + 2)) = '<' :: textOf name ++ ['>'] := by
      simp [take_append, take_of_length_le, textOf, Token.chars]
    rw [htext]
    simpa [expand] using Escape.whole (hwhole.not_mem (by decide : isStop '('))
  | zero => exact .inr ⟨by decide, .code _ (by simp) (by simp [textOf])⟩
  | zeroDigit ha =>
    exact .inr ⟨by decide, .code _ (by simp) (by simp [textOf, Token.chars, isDigit_of_isOctal ha])⟩
  | zeroDigits ha hb =>
    exact .inr ⟨by decide, .code _ (by simp)
      (by simp [textOf, Token.chars, isDigit_of_isOctal ha, isDigit_of_isOctal hb])⟩
  | code hzero hc ha hb =>
    exact .inr ⟨digit (isDigit_of_isOctal hc), .code _ (by simp) (by simp [textOf, Token.chars,
      isDigit_of_isOctal hc, isDigit_of_isOctal ha, isDigit_of_isOctal hb])⟩
  | control he => exact .inr ⟨by simp [isKept, he], .control he⟩
  | kept hc => exact .inl ⟨hc, rfl, rfl⟩

def keptPieces (c : Char) (piece : Piece) : List Piece :=
  if isKept c then [.char '\\', piece] else [piece]

lemma piecesFrom_cons_eq_ok :
    piecesFrom 0 position (some t :: ts) = .ok ps ↔ ts.head? ≠ some none ∧
      ((t.escaped = false ∧ ∃ rest, piecesFrom 0 (position + 1) ts = .ok rest ∧
          ps = .char t.char :: rest) ∨
        (t.escaped = true ∧ ∃ piece used rest, Takes t.char ts piece used ∧
          piecesFrom used (position + 2) ts = .ok rest ∧ ps = keptPieces t.char piece ++ rest)) := by
  rw [piecesFrom]
  by_cases hend : ts.head? = some none
  · simp [hend, throw, throwThe, MonadExceptOf.throw, bind, Except.bind]
  rw [if_neg (by simpa using hend)]
  cases he : t.escaped with
  | false =>
    simp only [Bool.false_eq_true, if_false, bind_eq_ok]
    constructor
    · rintro ⟨rest, hr, hps⟩
      exact ⟨hend, .inl ⟨trivial, rest, hr, (Except.ok.inj hps).symm⟩⟩
    · rintro ⟨-, ⟨-, rest, hr, rfl⟩ | ⟨h, -⟩⟩
      · exact ⟨rest, hr, rfl⟩
      · exact h.elim
  | true =>
    have hkept : ((control? t.char).isNone && !t.char.isAlphanum) = isKept t.char := rfl
    have hpure : ∀ piece rest, (pure (if isKept t.char then .char '\\' :: piece :: rest
        else piece :: rest) : Except Error _) = .ok (keptPieces t.char piece ++ rest) := fun _ _ => by
      rw [keptPieces]
      split <;> rfl
    simp only [if_true, bind_eq_ok, hkept, hpure, Prod.exists, escape_eq_ok, Except.ok.injEq]
    constructor
    · rintro ⟨piece, used, ht, rest, hr, hps⟩
      exact ⟨hend, .inr ⟨trivial, piece, used, rest, ht, hr, hps.symm⟩⟩
    · rintro ⟨-, ⟨h, -⟩ | ⟨-, piece, used, rest, ht, hr, rfl⟩⟩
      · exact absurd h.symm Bool.false_ne_true
      · exact ⟨piece, used, ht, rest, hr, rfl⟩

/-- What holds of the empty template, and of a character or an escape before a template of which it
    holds, holds of every template that can be parsed. -/
lemma parse_induction {motive : Chars → List Piece → Prop} (nil : motive [] [])
    (plain : ∀ {c cs ps}, c ≠ '\\' → motive cs ps → motive (c :: cs) (.char c :: ps))
    (escape : ∀ {c ts piece used ps}, Takes c ts piece used → motive (textOf (ts.drop used)) ps →
      motive ('\\' :: c :: textOf ts) (keptPieces c piece ++ ps))
    (h : parse template = .ok ps) : motive template ps := by
  have hpieces {skip position : Nat} {ts : List (Option Token)} {ps : List Piece}
      (hts : ∀ t, some t ∈ ts → t.escaped = false → t.char ≠ '\\')
      (h : piecesFrom skip position ts = .ok ps) : motive (textOf (ts.drop skip)) ps := by
    induction ts generalizing skip position ps with
    | nil =>
      obtain rfl : [] = ps := by simpa [piecesFrom] using h
      rwa [drop_nil]
    | cons t ts ih =>
      have hrest : ∀ t, some t ∈ ts → t.escaped = false → t.char ≠ '\\' := fun t ht =>
        hts t (mem_cons_of_mem _ ht)
      cases t with
      | none => simp [piecesFrom] at h
      | some t =>
        cases skip with
        | succ skip => exact ih hrest (by simpa [piecesFrom] using h)
        | zero =>
          obtain ⟨-, ⟨he, rest, hr, rfl⟩ | ⟨he, piece, used, rest, ht, hr, rfl⟩⟩ :=
            piecesFrom_cons_eq_ok.1 h
          · simpa [Token.chars, he] using plain (hts t mem_cons_self he) (ih hrest hr)
          · simpa [Token.chars, he] using escape ht (ih hrest hr)
  simpa using hpieces (fun t ht => char_ne_of_mem_tokens ht) h

lemma reading_of_parse (found : Chars) (h : parse template = .ok ps) :
    Reading found template (expand ps found) := by
  refine parse_induction (motive := fun cs ps => Reading found cs (expand ps found)) .nil
    (fun hc hread => ?_) (fun ht hread => ?_) h
  · simpa [expand] using Reading.plain hc hread
  · rcases ht.kept_or_escape found with ⟨hk, rfl, rfl⟩ | ⟨hk, hesc⟩
    · simpa [expand, keptPieces, hk] using Reading.kept hk hread
    · have := Reading.escape hesc hread
      rw [cons_append, cons_append, ← textOf_append, take_append_drop] at this
      simpa [expand, keptPieces, hk] using this

/-! ## What is read -/

lemma control?_eq_some (h : control? c = some e) :
    c ≠ '(' ∧ c ≠ ')' ∧ weight [e] < weight ['\\', c] := by
  simp only [weight_lt_iff]
  unfold control? at h
  split at h <;> first | (obtain rfl := Option.some.inj h; decide) | simp at h

variable {found u v cs out : Chars}

lemma Escape.ne_nil (h : Escape found u v) : u ≠ [] := by
  cases h <;> simp

lemma Escape.head (h : Escape found u v) : u.head? = some '\\' := by
  cases h <;> rfl

lemma Escape.getLast_ne (h : Escape found u v) : u.getLast? ≠ some ')' := by
  cases h with
  | @control c e hc => simpa using (control?_eq_some hc).2.1
  | @code ds e hne hd =>
    rw [getLast?_cons, getLast?_eq_some_getLast hne]
    intro hlast
    have := hd _ (getLast_mem hne)
    simp only [Option.getD_some, Option.some.injEq] at hlast
    simp [hlast, Char.isDigit] at this
  | @whole name => simp [getLast?_cons]

lemma Escape.weight_lt (hf : '\\' ∉ found) (h : Escape found u v) : weight v < weight u := by
  cases h with
  | control hc => exact (control?_eq_some hc).2.2
  | @code ds e hne hd =>
    have hno : ∀ c : Char, c.isDigit = false → ds.count c = 0 := fun c hc =>
      count_eq_zero.2 fun hmem => by simp [hd c hmem] at hc
    have hlen : 0 < ds.length := length_pos_iff.2 hne
    rw [weight_lt_iff]
    simp only [count_cons, count_nil, hno '(' (by decide), hno '\\' (by decide),
      length_cons, length_nil]
    by_cases hparen : e = '('
    · simp [hparen]
    · by_cases hslash : e = '\\'
      · simp [hslash, hlen]
      · simp [hparen, hslash]
  | @whole name hname =>
    rw [weight_lt_iff]
    have hparen : ('\\' :: 'g' :: '<' :: name ++ ['>']).count '(' = 0 := by
      simpa [count_eq_zero] using hname
    rw [hparen, count_eq_zero.2 hf]
    rcases Nat.eq_zero_or_pos (found.count '(') with h | h
    · exact .inr ⟨h.symm, .inl (by simp)⟩
    · exact .inl h

lemma tokens_cons (hc : c ≠ '\\') (cs : Chars) :
    tokens (c :: cs) = some ⟨false, c⟩ :: tokens cs := by
  rw [tokens]
  · rintro rfl
    exact absurd rfl hc
  · rintro d ds rfl
    exact absurd rfl hc

lemma isLiteral_of_noBackslash {cs : Chars} (h : '\\' ∉ cs) : IsLiteral cs := by
  induction cs with
  | nil => simp [IsLiteral, tokens]
  | cons c cs ih =>
    obtain ⟨hc, hcs⟩ := not_or.1 (mt mem_cons.2 h)
    rw [IsLiteral, tokens_cons (Ne.symm hc)]
    exact forall_mem_cons.2 ⟨rfl, ih hcs⟩

lemma Reading.eq_or_lt (hf : '\\' ∉ found) (h : Reading found cs out) :
    (out = cs ∧ IsLiteral cs) ∨ weight out < weight cs := by
  induction h with
  | nil => exact .inl ⟨rfl, by simp [IsLiteral, tokens]⟩
  | @plain c cs out hc _ ih =>
    rcases ih with ⟨rfl, hlit⟩ | hlt
    · refine .inl ⟨rfl, ?_⟩
      rw [IsLiteral, tokens_cons hc]
      exact forall_mem_cons.2 ⟨rfl, hlit⟩
    · rw [weight_cons c out, weight_cons c cs]
      exact .inr (add_lt_add_right hlt _)
  | @kept c cs out hk _ ih =>
    rcases ih with ⟨rfl, hlit⟩ | hlt
    · refine .inl ⟨rfl, ?_⟩
      exact forall_mem_cons.2 ⟨by simpa [Token.isLiteral] using hk, hlit⟩
    · have hsplit : ∀ xs, weight ('\\' :: c :: xs) = weight ['\\', c] + weight xs := fun xs =>
        weight_append ['\\', c] xs
      rw [hsplit out, hsplit cs]
      exact .inr (add_lt_add_right hlt _)
  | escape hesc _ ih =>
    rw [weight_append, weight_append]
    refine .inr (add_lt_add_of_lt_of_le (hesc.weight_lt hf) ?_)
    rcases ih with ⟨rfl, -⟩ | hlt
    · exact le_rfl
    · exact hlt.le

lemma Reading.eq_nil (h : Reading found [] out) : out = [] := by
  generalize he : ([] : Chars) = t at h
  cases h with
  | nil => rfl
  | plain => simp at he
  | kept => simp at he
  | escape hesc => exact absurd (append_eq_nil_iff.1 he.symm).1 hesc.ne_nil

lemma Reading.cons {c : Char} (hc : c ≠ '\\') (h : Reading found (c :: cs) out) :
    ∃ rest, out = c :: rest ∧ Reading found cs rest := by
  generalize he : c :: cs = t at h
  cases h with
  | nil => simp at he
  | @plain d ds out hd hr =>
    obtain ⟨rfl, rfl⟩ := cons.inj he
    exact ⟨out, rfl, hr⟩
  | kept => exact absurd (cons.inj he).1 hc
  | @escape u v ds out hesc hr =>
    have := hesc.head
    obtain ⟨d, u, rfl⟩ := exists_cons_of_ne_nil hesc.ne_nil
    obtain ⟨rfl, -⟩ := cons.inj he
    exact absurd (by simpa using this) hc

lemma Reading.getLast (h : Reading found cs out) (hlast : cs.getLast? = some ')') :
    out.getLast? = some ')' := by
  induction h with
  | nil => simp at hlast
  | @plain c cs out hc hr ih =>
    cases cs with
    | nil =>
      obtain rfl := hr.eq_nil
      exact hlast
    | cons d ds =>
      have := ih (by simpa [getLast?_cons_cons] using hlast)
      rw [getLast?_cons, this]
      rfl
  | @kept c cs out hk hr ih =>
    cases cs with
    | nil =>
      obtain rfl := hr.eq_nil
      exact hlast
    | cons d ds =>
      have := ih (by simpa [getLast?_cons_cons] using hlast)
      simp [getLast?_cons, this]
  | @escape u v cs out hesc hr ih =>
    cases cs with
    | nil => exact absurd (by simpa using hlast) hesc.getLast_ne
    | cons d ds =>
      have := ih (by rwa [getLast?_append_of_ne_nil _ (by simp)] at hlast)
      simp [getLast?_append, this]

end Text.Template

end Huntbook
