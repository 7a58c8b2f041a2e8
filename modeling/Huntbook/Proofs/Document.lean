import Huntbook.Proofs.Convertible
import Huntbook.Web.Server

/-!
# Documents

A document is a value made of records and lists, texts, whole numbers and truth values. What is
written of it is read back as it was.
-/

namespace Huntbook

open List

/-! ## Records -/

lemma Value.field?_record (fields : Fields) (name : String) :
    (Value.record fields).field? name = fields.lookup name := by
  show (List.find? _ (fields.map _)).map _ = _
  induction fields with
  | nil => rfl
  | cons f fields ih =>
    obtain ⟨n, v⟩ := f
    rw [map_cons, find?_cons, lookup_cons]
    rw [show (Value.text name).same (.text n) = (name == n) by rw [Value.same]]
    cases name == n with
    | true => rfl
    | false => exact ih

lemma Value.find?_cons (e : Value × Value) (entries : Entries) (key : Value) :
    find? (e :: entries) key = if key.same e.1 then some e.2 else find? entries key := by
  split <;> simp_all [find?]

lemma Value.put_record {fields : Fields} {name : String} (v : Value)
    (h : name ∉ fields.map (·.1)) : put (.text name) v (fields.map fun f => (.text f.1, f.2)) =
      (fields ++ [(name, v)]).map fun f => (.text f.1, f.2) := by
  induction fields with
  | nil => rfl
  | cons f fields ih =>
    rw [map_cons, mem_cons, not_or] at h
    have hne : (name == f.1) = false := beq_false_of_ne h.1
    rw [map_cons, Value.put, Value.same, hne, ih h.2]
    rfl

/-! ## Digits -/

def widened (base width n : Nat) : Chars :=
  List.replicate (width - (Nat.toDigits base n).length) '0' ++ Nat.toDigits base n

lemma widened_one {base n : Nat} (h : n < base) : widened base 1 n = [Nat.digitChar n] := by
  simp [widened, Nat.toDigits_of_lt_base h]

lemma widened_succ {base width : Nat} (n : Nat) (hbase : 1 < base) (hwidth : 0 < width) :
    widened base (width + 1) n = widened base width (n / base) ++ [Nat.digitChar (n % base)] := by
  rcases Nat.lt_or_ge n base with hn | hn
  · have hzero : Nat.toDigits base 0 = ['0'] := Nat.toDigits_of_lt_base (by omega)
    rw [widened, widened, Nat.toDigits_of_lt_base hn, Nat.div_eq_of_lt hn, hzero,
      Nat.mod_eq_of_lt hn]
    obtain ⟨width, rfl⟩ := Nat.exists_eq_succ_of_ne_zero hwidth.ne'
    simp [replicate_succ']
  · rw [widened, widened, Nat.toDigits_of_base_le hbase hn]
    simp

lemma digitChar_lt (d : Nat) : (Nat.digitChar d).toNat < 128 := by
  rcases Nat.lt_or_ge d 16 with h | h
  · revert d
    decide
  · unfold Nat.digitChar
    iterate 16 rw [if_neg (by omega)]
    decide

namespace Text

def Ascii (cs : Chars) : Prop := ∀ c ∈ cs, c.toNat < 128

instance : DecidablePred Ascii := fun cs => inferInstanceAs (Decidable (∀ c ∈ cs, c.toNat < 128))

lemma ascii_append {as bs : Chars} : Ascii (as ++ bs) ↔ Ascii as ∧ Ascii bs :=
  forall_mem_append

/-- No character of a text stands for half of a pair. -/
def Intact (half? : Char → Option Nat) (s : String) : Prop := ∀ c ∈ s.toList, half? c = none

lemma intact_iff {s : String} : Intact half? s ↔ holdsHalf s = false := by
  simp [Intact, holdsHalf]

lemma holdsHalf_of_ascii {s : String} (h : Ascii s.toList) : holdsHalf s = false := by
  rw [holdsHalf, any_eq_false]
  intro c hc
  have hlt := h c hc
  simp only [half?]
  split
  · simp
    omega
  · simp

lemma ascii_of_digits {cs : Chars} (h : ∀ c ∈ cs, c.isDigit) : Ascii cs := by
  intro c hc
  have hdigit := h c hc
  simp only [Char.isDigit, Bool.and_eq_true, decide_eq_true_eq] at hdigit
  have hle : c.val.toNat ≤ 57 := hdigit.2
  show c.val.toNat < 128
  omega

lemma ascii_digits (n : Nat) : Ascii (Nat.toDigits 10 n) :=
  ascii_of_digits fun _ hc => Nat.isDigit_of_mem_toDigits (by decide) (by decide) hc

lemma toList_hex_four {n : Nat} (h : n < 65536) : (hex 4 n).toList =
    [Nat.digitChar (n / 16 / 16 / 16), Nat.digitChar (n / 16 / 16 % 16),
      Nat.digitChar (n / 16 % 16), Nat.digitChar (n % 16)] := by
  rw [hex, String.toList_ofList]
  change widened 16 4 n = _
  rw [widened_succ _ (by decide) (by decide), widened_succ _ (by decide) (by decide),
    widened_succ _ (by decide) (by decide), widened_one (by omega)]
  rfl

end Text

namespace Json

lemma hexValue?_digitChar {d : Nat} (h : d < 16) : hexValue? (Nat.digitChar d) = some d := by
  decide +revert

lemma hex4?_hex {n : Nat} (h : n < 65536) (rest : Chars) :
    hex4? ((Text.hex 4 n).toList ++ rest) = some (n, rest) := by
  rw [Text.toList_hex_four h]
  simp only [cons_append, nil_append, hex4?]
  rw [hexValue?_digitChar (by omega), hexValue?_digitChar (by omega),
    hexValue?_digitChar (by omega), hexValue?_digitChar (by omega)]
  simp only [Option.bind_eq_bind, Option.bind_some, Option.some.injEq, Option.pure_def,
    Prod.mk.injEq, and_true]
  omega

/-! ## Strings -/

section

variable {half? : Char → Option Nat} {start acc rest : Chars} {n : Nat} {c : Char}

lemma stringFrom_char (hquote : c ≠ '"') (hback : c ≠ '\\') (hc : ¬c.toNat ≤ 0x1f) :
    stringFrom start (n + 1) acc (c :: rest) = stringFrom start n (c :: acc) rest := by
  rw [stringFrom.eq_def]
  split <;> simp_all

lemma stringFrom_escape {e : Char} (hu : c ≠ 'u') (he : escaped? c = some e) :
    stringFrom start (n + 1) acc ('\\' :: c :: rest) = stringFrom start n (e :: acc) rest := by
  rw [stringFrom, he]
  simp_all

lemma toList_unitEscape (n : Nat) :
    (unitEscape n).toList = '\\' :: 'u' :: (Text.hex 4 n).toList := by
  rw [unitEscape, String.toList_append]
  rfl

lemma stringFrom_unit {u : Nat} (hu : u < 65536) (hhigh : Text.isHighHalf u = false)
    (hrest : rest ≠ []) : stringFrom start (n + 1) acc ((unitEscape u).toList ++ rest) =
      stringFrom start n (Text.ofUnit u :: acc) rest := by
  have hread := hex4?_hex hu rest
  have hdrop : (((Text.hex 4 u).toList ++ rest).drop 4).isEmpty = false := by
    rw [Text.toList_hex_four hu]
    simpa using hrest
  rw [toList_unitEscape, cons_append, cons_append, stringFrom, hdrop, hread]
  simp [hhigh]

lemma stringFrom_pair {high low : Nat} (hhigh : Text.isHighHalf high) (hlow : Text.isLowHalf low)
    (hrest : rest ≠ []) :
    stringFrom start (n + 1) acc ((unitEscape high).toList ++ ((unitEscape low).toList ++ rest)) =
      stringFrom start n
        (Char.ofNat (0x10000 + (high - 0xD800) * 0x400 + (low - 0xDC00)) :: acc) rest := by
  have hlow' : low < 65536 := by
    simp only [Text.isLowHalf, Bool.and_eq_true, decide_eq_true_eq] at hlow
    omega
  have hhigh' : high < 65536 := by
    simp only [Text.isHighHalf, Bool.and_eq_true, decide_eq_true_eq] at hhigh
    omega
  have hafter : (unitEscape low).toList ++ rest =
      '\\' :: 'u' :: ((Text.hex 4 low).toList ++ rest) := by
    rw [toList_unitEscape, cons_append, cons_append]
  have hdrop : (((Text.hex 4 high).toList ++ ((unitEscape low).toList ++ rest)).drop 4).isEmpty =
      false := by
    rw [Text.toList_hex_four hhigh', hafter]
    rfl
  have hsix : (((unitEscape low).toList ++ rest).drop 6).isEmpty = false := by
    rw [hafter, Text.toList_hex_four hlow']
    simpa using hrest
  have hread := hex4?_hex hlow' rest
  have hfirst := hex4?_hex hhigh' ((unitEscape low).toList ++ rest)
  rw [toList_unitEscape high, cons_append, cons_append, stringFrom, hdrop, hfirst]
  simp only [hhigh, hsix, Bool.not_false, Bool.and_true, Bool.false_eq_true, if_false]
  rw [hafter]
  simp [hread, hlow]

lemma toNat_valid (c : Char) : c.toNat < 0xD800 ∨ 0xDFFF < c.toNat ∧ c.toNat < 0x110000 :=
  c.valid

lemma isHalf_toNat (c : Char) :
    Text.isHighHalf c.toNat = false ∧ Text.isLowHalf c.toNat = false := by
  have hvalid := toNat_valid c
  simp only [Text.isHighHalf, Text.isLowHalf, Bool.and_eq_false_iff, decide_eq_false_iff_not]
  omega

lemma ofUnit_toNat (c : Char) : Text.ofUnit c.toNat = c := by
  rw [Text.ofUnit, (isHalf_toNat c).1, (isHalf_toNat c).2]
  exact Char.ofNat_toNat c

lemma stringFrom_escapeLittle (hc : c.toNat < 127) (hrest : rest ≠ []) :
    stringFrom start (n + 1) acc ((escapeLittle c).toList ++ rest) =
      stringFrom start n (c :: acc) rest := by
  unfold escapeLittle
  simp only [beq_iff_eq]
  split_ifs with hquote hback hn hr ht hf hb hcontrol
  iterate 7
    · subst_vars
      exact stringFrom_escape (by decide) rfl
  · rw [stringFrom_unit (by omega) (isHalf_toNat c).1 hrest, ofUnit_toNat]
  · rw [Char.toString, String.toList_singleton]
    exact stringFrom_char hquote hback (by omega)

lemma stringFrom_escapeChar (hhalf : half? c = none) (hrest : rest ≠ []) :
    stringFrom start (n + 1) acc ((escapeChar half? c).toList ++ rest) =
      stringFrom start n (c :: acc) rest := by
  have hvalid := toNat_valid c
  rw [escapeChar, hhalf, Option.getD_none]
  split_ifs with hsmall hplane
  · exact stringFrom_escapeLittle hsmall hrest
  · rw [stringFrom_unit hplane (isHalf_toNat c).1 hrest, ofUnit_toNat]
  · have hcode : 0x10000 + (0xD800 + (c.toNat - 0x10000) / 0x400 - 0xD800) * 0x400 +
        (0xDC00 + (c.toNat - 0x10000) % 0x400 - 0xDC00) = c.toNat := by
      omega
    rw [String.toList_append, append_assoc, stringFrom_pair ?_ ?_ hrest, hcode, Char.ofNat_toNat]
    · simp only [Text.isHighHalf, Bool.and_eq_true, decide_eq_true_eq]
      omega
    · simp only [Text.isLowHalf, Bool.and_eq_true, decide_eq_true_eq]
      omega

lemma stringFrom_escaped {cs : Chars} (hhalf : ∀ c ∈ cs, half? c = none)
    (hn : cs.length < n) :
    stringFrom start n acc ((cs.flatMap fun c => (escapeChar half? c).toList) ++ '"' :: rest) =
      .ok (acc.reverse ++ cs, rest) := by
  induction cs generalizing n acc with
  | nil =>
    obtain ⟨n, rfl⟩ := Nat.exists_eq_add_one.2 hn
    simp [stringFrom]
  | cons c cs ih =>
    obtain ⟨n, rfl⟩ := Nat.exists_eq_add_one.2 hn.pos
    rw [forall_mem_cons] at hhalf
    rw [flatMap_cons, append_assoc, stringFrom_escapeChar hhalf.1 (by simp),
      ih hhalf.2 (by simpa using hn)]
    simp

lemma escapeChar_ne_nil (c : Char) : (escapeChar half? c).toList ≠ [] := by
  have hunit (n : Nat) : (unitEscape n).toList ≠ [] := by
    rw [toList_unitEscape]
    exact cons_ne_nil _ _
  unfold escapeChar
  dsimp only
  split_ifs
  · unfold escapeLittle
    split_ifs
    iterate 7 · decide
    · exact hunit _
    · rw [Char.toString, String.toList_singleton]
      exact cons_ne_nil _ _
  · exact hunit _
  · rw [String.toList_append]
    exact append_ne_nil_of_left_ne_nil (hunit _) _

lemma length_le_escaped (cs : Chars) :
    cs.length ≤ (cs.flatMap fun c => (escapeChar half? c).toList).length := by
  induction cs with
  | nil => exact Nat.le_refl 0
  | cons c cs ih =>
    have hpos := length_pos_iff.2 (@escapeChar_ne_nil half? c)
    rw [flatMap_cons, length_append, length_cons]
    omega

lemma string_stringText {s : String} (hhalf : Text.Intact half? s) (rest : Chars) :
    ∃ body, (stringText (escapeChar half?) s).toList ++ rest = '"' :: body ∧
      string body = .ok (s, rest) := by
  have hbody : (stringText (escapeChar half?) s).toList ++ rest =
      '"' :: ((s.toList.flatMap fun c => (escapeChar half? c).toList) ++ '"' :: rest) := by
    simp [stringText, String.toList_join, flatMap_map]
  refine ⟨_, hbody, ?_⟩
  rw [string, stringFrom_escaped hhalf]
  · show Except.ok (String.ofList s.toList, rest) = _
    rw [String.ofList_toList]
  · have hlength := @length_le_escaped half? s.toList
    rw [length_append, length_cons]
    omega

end

/-! ## Numbers -/

def Stops (rest : Chars) : Prop := ∀ c ∈ rest.head?, c = ',' ∨ c = ']' ∨ c = '\x7d'

lemma head?_toDigits {n : Nat} (h : 0 < n) : (Nat.toDigits 10 n).head? ≠ some '0' := by
  induction n using Nat.strongRecOn with
  | ind n ih =>
    rw [Nat.toDigits_eq_if (by decide)]
    split
    · interval_cases n <;> decide
    · have hne : Nat.toDigits 10 (n / 10) ≠ [] := Nat.toDigits_ne_nil
      rw [head?_append_of_ne_nil _ hne]
      exact ih (n / 10) (by omega) (by omega)

lemma natOf_toDigits (n : Nat) : Decimal.natOf (Nat.toDigits 10 n) = n := by
  have h := @Nat.ofDigitChars_ten_toDigits n
  rw [Nat.ofDigitChars] at h
  rw [Decimal.natOf]
  simpa [Nat.mul_comm] using h

lemma toList_toString (n : Int) :
    (toString n).toList = (if n < 0 then ['-'] else []) ++ Nat.toDigits 10 n.natAbs := by
  rw [Int.toString_eq_repr, Int.repr_eq_if]
  split
  · rename_i h
    rw [if_neg (Int.not_lt.2 h)]
    have habs : n.toNat = n.natAbs := by omega
    rw [habs]
    simp [Nat.repr]
  · rw [if_pos (by omega)]
    have habs : (-n).toNat = n.natAbs := by omega
    rw [habs]
    simp [Nat.repr, String.toList_append]

section

variable {rest : Chars} (hrest : Stops rest)
include hrest

lemma wholeOf_toDigits (n : Nat) : wholeOf (Nat.toDigits 10 n ++ rest) = Nat.toDigits 10 n := by
  have hdigits : (Nat.toDigits 10 n ++ rest).takeWhile Char.isDigit = Nat.toDigits 10 n := by
    rw [takeWhile_append_of_pos fun c hc => Nat.isDigit_of_mem_toDigits (by decide) (by decide) hc]
    cases rest with
    | nil => simp
    | cons c rest =>
      have hc : c.isDigit = false := by
        rcases hrest c rfl with rfl | rfl | rfl <;> decide
      rw [takeWhile_cons_of_neg (by simp [hc]), append_nil]
  rcases Nat.eq_zero_or_pos n with rfl | hn
  · rfl
  · have hhead := head?_toDigits hn
    unfold wholeOf
    split
    · rename_i cs heq
      rw [← head?_append_of_ne_nil _ Nat.toDigits_ne_nil, heq] at hhead
      exact absurd rfl hhead
    · exact hdigits

lemma exponent?_of_stops : Decimal.exponent? rest = none := by
  cases rest with
  | nil => rfl
  | cons c rest => rcases hrest c rfl with rfl | rfl | rfl <;> rfl

lemma fractionOf_of_stops : fractionOf rest = [] := by
  cases rest with
  | nil => rfl
  | cons c rest => rcases hrest c rfl with rfl | rfl | rfl <;> rfl

omit hrest in
lemma signOf_toString (n : Int) (rest : Chars) : signOf ((toString n).toList ++ rest) =
      (decide (n < 0), Nat.toDigits 10 n.natAbs ++ rest) := by
  rw [toList_toString]
  by_cases hn : n < 0
  · simp [hn, signOf]
  · rw [if_neg hn, nil_append, decide_eq_false hn]
    unfold signOf
    split
    · rename_i cs heq
      have hmem : '-' ∈ Nat.toDigits 10 n.natAbs := by
        refine mem_of_mem_head? ?_
        rw [← head?_append_of_ne_nil _ Nat.toDigits_ne_nil, heq]
        rfl
      exact absurd (Nat.isDigit_of_mem_toDigits (by decide) (by decide) hmem) (by decide)
    · rfl

lemma number?_toString {n : Int}
    (hlong : Decimal.isLong 10 (Nat.toDigits 10 n.natAbs).length = false) :
    number? ((toString n).toList ++ rest) = some (.ok (.int n, rest)) := by
  have hne : (Nat.toDigits 10 n.natAbs).isEmpty = false := by
    simp
  have hvalue :
      (if decide (n < 0) = true then -((n.natAbs : Nat) : Int) else (n.natAbs : Int)) = n := by
    by_cases hn : n < 0
    · simp only [hn, decide_true, if_true]
      omega
    · simp only [hn, decide_false, Bool.false_eq_true, if_false]
      omega
  unfold number?
  rw [signOf_toString]
  dsimp only
  rw [wholeOf_toDigits hrest, hne, drop_left, fractionOf_of_stops hrest]
  simp only [Bool.false_eq_true, if_false, isEmpty_nil, if_true, exponent?_of_stops hrest,
    Bool.not_true, hlong, natOf_toDigits, hvalue]

end

lemma word?_toString (n : Int) (rest : Chars) :
    word? ((toString n).toList ++ rest) = none := by
  have hdigit : ∃ d cs, Nat.toDigits 10 n.natAbs ++ rest = d :: cs ∧ d.isDigit := by
    cases hcs : Nat.toDigits 10 n.natAbs with
    | nil => exact absurd hcs Nat.toDigits_ne_nil
    | cons d cs =>
      refine ⟨d, cs ++ rest, rfl, ?_⟩
      exact Nat.isDigit_of_mem_toDigits (b := 10) (n := n.natAbs) (by decide) (by decide)
        (hcs ▸ mem_cons_self)
  obtain ⟨d, cs, hcs, hd⟩ := hdigit
  have hne {c : Char} (hc : c.isDigit = false) : (c == d) = false := by
    refine beq_false_of_ne ?_
    rintro rfl
    simp [hc] at hd
  rw [toList_toString, append_assoc, hcs, word?]
  by_cases hn : n < 0
  · simp [hn, find?, isPrefixOf, hne]
  · simp [hn, find?, isPrefixOf, hne]

/-! ## Values -/

/-- A text that starts like a value: with no white space, and with no bracket that closes. -/
def Opens (text : Chars) : Prop :=
  ∃ c cs, text = c :: cs ∧ isSpace c = false ∧ c ≠ ']' ∧ c ≠ '\x7d'

structure Reads (room : Nat) (v : Value) (text : Chars) : Prop where
  opens : Opens text
  value {n : Nat} {rest : Chars} : text.length < n → Stops rest →
    valueFrom n room (text ++ rest) = .ok (v, rest)

section

variable {half? : Char → Option Nat} {room n : Nat} {v : Value} {text rest : Chars}

lemma Opens.append (h : Opens text) (rest : Chars) : Opens (text ++ rest) := by
  obtain ⟨c, cs, rfl, hc⟩ := h
  exact ⟨c, cs ++ rest, rfl, hc⟩

lemma Opens.skip_eq (h : Opens text) : skip text = text := by
  obtain ⟨c, cs, rfl, hc, -⟩ := h
  rw [skip, dropWhile_cons_of_neg (by simp [hc])]

variable {texts : List Chars}

lemma opens_intercalate {sep : Chars} (h : Opens text) :
    Opens (sep.intercalate (text :: texts)) := by
  cases texts with
  | nil => rwa [intercalate_singleton]
  | cons text' texts => exact h.append _

variable {c : Char} {items : List Value} {name : String} {fields : Fields}

lemma skip_of_stop (hc : c = ',' ∨ c = ']' ∨ c = '\x7d' ∨ c = ':') :
    skip (c :: rest) = c :: rest := by
  rcases hc with rfl | rfl | rfl | rfl <;> rfl

lemma skip_space : skip (' ' :: text) = skip text := rfl

lemma valueFrom_number {cs : Chars} {found : Value × Chars}
    (hc : c ≠ '"' ∧ c ≠ '\x7b' ∧ c ≠ '[') (hword : word? (c :: cs) = none)
    (h : number? (c :: cs) = some (.ok found)) : valueFrom (n + 1) room (c :: cs) = .ok found := by
  rw [valueFrom.eq_def]
  dsimp only
  split
  · rename_i heq
    exact absurd (List.cons.inj heq).1 hc.1
  · rename_i heq
    exact absurd (List.cons.inj heq).1 hc.2.1
  · rename_i heq
    exact absurd (List.cons.inj heq).1 hc.2.2
  · rw [hword, h]

lemma valueFrom_list :
    valueFrom (n + 1) (room + 1) ('[' :: rest) =
      match skip rest with
      | ']' :: rest => .ok (.list [], rest)
      | rest => itemsFrom n room [] rest := by
  rfl

lemma valueFrom_record :
    valueFrom (n + 1) (room + 1) ('\x7b' :: rest) =
      match skip rest with
      | '\x7d' :: rest => .ok (.map [], rest)
      | rest => membersFrom n room [] rest := by
  rfl

lemma reads_word (word : String)
    (hword : (word, v) ∈ [("null", Value.null), ("true", .bool true), ("false", .bool false)]) :
    Reads room v word.toList := by
  simp only [mem_cons, Prod.mk.injEq, not_mem_nil, or_false] at hword
  constructor
  · rcases hword with ⟨rfl, rfl⟩ | ⟨rfl, rfl⟩ | ⟨rfl, rfl⟩
    · exact ⟨'n', _, rfl, by decide, by decide, by decide⟩
    · exact ⟨'t', _, rfl, by decide, by decide, by decide⟩
    · exact ⟨'f', _, rfl, by decide, by decide, by decide⟩
  · intro n rest hn _
    obtain ⟨n, rfl⟩ := Nat.exists_eq_add_one.2 hn.pos
    rcases hword with ⟨rfl, rfl⟩ | ⟨rfl, rfl⟩ | ⟨rfl, rfl⟩ <;> rfl

lemma reads_text {s : String} (hhalf : Text.Intact half? s) :
    Reads room (.text s) (stringText (escapeChar half?) s).toList := by
  constructor
  · obtain ⟨body, hbody, -⟩ := string_stringText hhalf []
    rw [append_nil] at hbody
    exact ⟨'"', body, hbody, by decide, by decide, by decide⟩
  · intro n rest hn _
    obtain ⟨n, rfl⟩ := Nat.exists_eq_add_one.2 hn.pos
    obtain ⟨body, hbody, hstring⟩ := string_stringText hhalf rest
    rw [hbody, valueFrom.eq_def]
    change (string body >>= _) = _
    rw [hstring]
    rfl

lemma reads_int {k : Int} (hlong : Decimal.isLong 10 (Nat.toDigits 10 k.natAbs).length = false) :
    Reads room (.int k) (toString k).toList := by
  have hopens : ∃ c cs, (toString k).toList = c :: cs ∧ (c.isDigit ∨ c = '-') := by
    rw [toList_toString]
    by_cases hk : k < 0
    · exact ⟨'-', _, by rw [if_pos hk]; rfl, .inr rfl⟩
    · rw [if_neg hk, nil_append]
      cases hcs : Nat.toDigits 10 k.natAbs with
      | nil => exact absurd hcs Nat.toDigits_ne_nil
      | cons d cs =>
        refine ⟨d, cs, rfl, .inl ?_⟩
        exact Nat.isDigit_of_mem_toDigits (b := 10) (n := k.natAbs) (by decide) (by decide)
          (hcs ▸ mem_cons_self)
  obtain ⟨c, cs, hcs, hc⟩ := hopens
  have hne {d : Char} (hd : d.isDigit = false) (hminus : d ≠ '-') : c ≠ d := by
    rintro rfl
    rcases hc with hc | hc
    · simp [hd] at hc
    · exact hminus hc
  constructor
  · refine ⟨c, cs, hcs, ?_, hne (by decide) (by decide), hne (by decide) (by decide)⟩
    have hspace : ∀ d, isSpace d → c ≠ d := by
      intro d hd
      simp only [isSpace, Bool.or_eq_true, beq_iff_eq] at hd
      rcases hd with ((rfl | rfl) | rfl) | rfl
      all_goals exact hne (by decide) (by decide)
    exact Bool.eq_false_iff.2 fun h => hspace c h rfl
  · intro n rest hn hrest
    obtain ⟨n, rfl⟩ := Nat.exists_eq_add_one.2 hn.pos
    have hword := word?_toString k rest
    have hnumber := number?_toString hrest hlong
    rw [hcs, cons_append] at hword hnumber ⊢
    exact valueFrom_number ⟨hne (by decide) (by decide), hne (by decide) (by decide),
      hne (by decide) (by decide)⟩ hword hnumber

lemma itemsFrom_eq (h : Forall₂ (Reads room) items texts)
    (hne : items ≠ []) {acc : List Value} (hn : ([',', ' '].intercalate texts).length + 1 < n) :
    itemsFrom n room acc ([',', ' '].intercalate texts ++ ']' :: rest) =
      .ok (.list (acc.reverse ++ items), rest) := by
  induction h generalizing n acc with
  | nil => exact absurd rfl hne
  | @cons v text items texts hread hrest ih =>
    obtain ⟨n, rfl⟩ := Nat.exists_eq_add_one.2 hn.pos
    cases hrest with
    | nil =>
      rw [intercalate_singleton] at hn ⊢
      rw [itemsFrom.eq_def]
      dsimp only
      rw [hread.value (by omega) (by simp [Stops]), ok_bind]
      rw [skip_of_stop (by simp)]
      simp [pure, Except.pure]
    | @cons w text' items texts hread' hrest' =>
      rw [intercalate_cons_cons, length_append, length_append] at hn
      have hlength : [',', ' '].length = 2 := rfl
      rw [intercalate_cons_cons, append_assoc, append_assoc, itemsFrom.eq_def]
      dsimp only
      rw [hread.value (by omega) (by simp [Stops]), ok_bind]
      dsimp only [cons_append, nil_append]
      rw [skip_of_stop (by simp)]
      show itemsFrom n room (v :: acc) (skip (' ' :: _)) = _
      rw [skip_space, ((opens_intercalate hread'.opens).append _).skip_eq, ih (by simp) (by omega)]
      simp

def memberText (half? : Char → Option Nat) (name : String) (text : Chars) : Chars :=
  (stringText (escapeChar half?) name).toList ++ ':' :: ' ' :: text

lemma opens_memberText (hhalf : Text.Intact half? name) (text : Chars) :
    Opens (memberText half? name text) :=
  (show Reads 0 (.text name) _ from reads_text hhalf).opens.append _

lemma membersFrom_member {acc : Entries} {m : Char}
    (hhalf : Text.Intact half? name) (hread : Reads room v text) (hn : text.length < n)
    (hm : Stops (m :: rest)) : membersFrom (n + 1) room acc (memberText half? name text ++ m :: rest) =
      match m :: rest with
      | '\x7d' :: rest => .ok (.map (Value.putField name v acc), rest)
      | ',' :: rest => membersFrom n room (Value.putField name v acc) (skip rest)
      | rest => .error (.unmet .comma rest) := by
  obtain ⟨body, hbody, hstring⟩ := string_stringText hhalf (':' :: ' ' :: (text ++ m :: rest))
  have htext : memberText half? name text ++ m :: rest = '"' :: body := by
    rw [← hbody, memberText, append_assoc, cons_append, cons_append]
  rw [htext, membersFrom.eq_def]
  change (string body >>= _) = _
  rw [hstring, ok_bind]
  dsimp only
  change (valueFrom n room (skip (' ' :: (text ++ m :: rest))) >>= _) = _
  rw [skip_space, (hread.opens.append _).skip_eq, hread.value hn hm, ok_bind]
  have hstop : m = ',' ∨ m = ']' ∨ m = '\x7d' ∨ m = ':' := by
    rcases hm m rfl with h | h | h
    · exact .inl h
    · exact .inr (.inl h)
    · exact .inr (.inr (.inl h))
  rw [skip_of_stop hstop]
  rfl

lemma membersFrom_eq (h : Forall₂ (fun f text => Reads room f.2 text) fields texts)
    (hhalf : ∀ f ∈ fields, Text.Intact half? f.1) (hne : fields ≠ [])
    (before : Fields) (hnames : ((before ++ fields).map (·.1)).Nodup) (hn : ([',', ' '].intercalate
      (fields.zipWith (fun f text => memberText half? f.1 text) texts)).length + 1 < n) :
    membersFrom n room (before.map fun f => (.text f.1, f.2)) ([',', ' '].intercalate
        (fields.zipWith (fun f text => memberText half? f.1 text) texts) ++ '\x7d' :: rest) =
      .ok (.record (before ++ fields), rest) := by
  induction h generalizing n before with
  | nil => exact absurd rfl hne
  | @cons f text fields texts hread hrest ih =>
    obtain ⟨n, rfl⟩ := Nat.exists_eq_add_one.2 hn.pos
    rw [forall_mem_cons] at hhalf
    have hnew : f.1 ∉ before.map (·.1) := by
      rw [map_append, map_cons, nodup_append] at hnames
      exact fun hmem => hnames.2.2 _ hmem _ mem_cons_self rfl
    have happend : before ++ f :: fields = before ++ [f] ++ fields := by simp
    have hput : Value.putField f.1 f.2 (before.map fun f => (.text f.1, f.2)) =
        (before ++ [f]).map fun f => (.text f.1, f.2) := Value.put_record f.2 hnew
    have hlength : text.length < (memberText half? f.1 text).length := by
      simp [memberText]
      omega
    cases hrest with
    | nil =>
      rw [zipWith_cons_cons, zipWith_nil_left, intercalate_singleton] at hn ⊢
      rw [membersFrom_member hhalf.1 hread (by omega) (by simp [Stops])]
      simp only [hput]
      rfl
    | @cons g text' fields texts hread' hrest' =>
      rw [zipWith_cons_cons, zipWith_cons_cons, intercalate_cons_cons,
        length_append, length_append] at hn
      rw [zipWith_cons_cons, zipWith_cons_cons, intercalate_cons_cons,
        append_assoc, append_assoc, cons_append, cons_append, nil_append]
      rw [membersFrom_member hhalf.1 hread (by omega) (by simp [Stops])]
      simp only [hput]
      have hopens := opens_memberText (forall_mem_cons.1 hhalf.2).1 text'
      rw [skip_space, ((opens_intercalate hopens).append _).skip_eq, happend]
      exact ih hhalf.2 (by simp) _ (by rwa [← happend]) (by rw [zipWith_cons_cons]; omega)

lemma reads_list (h : Forall₂ (Reads room) items texts) :
    Reads (room + 1) (.list items) ('[' :: ([',', ' '].intercalate texts ++ [']'])) := by
  constructor
  · exact ⟨'[', _, rfl, by decide, by decide, by decide⟩
  · intro n rest hn _
    obtain ⟨n, rfl⟩ := Nat.exists_eq_add_one.2 hn.pos
    rw [cons_append, append_assoc, valueFrom_list]
    cases h with
    | nil => rfl
    | @cons v text items texts hread hrest =>
      have hopens : Opens ([',', ' '].intercalate (text :: texts) ++ ']' :: rest) :=
        (opens_intercalate hread.opens).append _
      rw [singleton_append, hopens.skip_eq]
      split
      · rename_i heq
        obtain ⟨c, cs, hcs, -, hc, -⟩ := hopens
        rw [hcs] at heq
        exact absurd (cons.inj heq).1 hc
      · refine itemsFrom_eq (.cons hread hrest) (by simp) ?_
        rw [length_cons, length_append, length_singleton] at hn
        omega

lemma reads_record (h : Forall₂ (fun f text => Reads room f.2 text) fields texts)
    (hhalf : ∀ f ∈ fields, Text.Intact half? f.1) (hnames : (fields.map (·.1)).Nodup) :
    Reads (room + 1) (.record fields) ('\x7b' :: ([',', ' '].intercalate
      (fields.zipWith (fun f text => memberText half? f.1 text) texts) ++ ['\x7d'])) := by
  constructor
  · exact ⟨'\x7b', _, rfl, by decide, by decide, by decide⟩
  · intro n rest hn _
    obtain ⟨n, rfl⟩ := Nat.exists_eq_add_one.2 hn.pos
    rw [cons_append, append_assoc, valueFrom_record]
    cases h with
    | nil => rfl
    | @cons f text fields texts hread hrest =>
      have hopens : Opens ([',', ' '].intercalate
          ((f :: fields).zipWith (fun f text => memberText half? f.1 text) (text :: texts)) ++
            '\x7d' :: rest) :=
        (opens_intercalate (opens_memberText (forall_mem_cons.1 hhalf).1 text)).append _
      rw [singleton_append, hopens.skip_eq]
      split
      · rename_i heq
        obtain ⟨c, cs, hcs, -, -, hc⟩ := hopens
        rw [hcs] at heq
        exact absurd (cons.inj heq).1 hc
      · refine membersFrom_eq (.cons hread hrest) hhalf (by simp) [] hnames ?_
        rw [length_cons, length_append, length_singleton] at hn
        omega

end

end Json

/-! ## Documents -/

/-- A document of records and lists, texts, whole numbers and truth values, with at most `n` values
    inside each other. Its names differ, and none of them is kept for inner use. -/
inductive Value.Neat : Nat → Value → Prop
  | null {n : Nat} : Neat n .null
  | bool {n : Nat} (b : Bool) : Neat n (.bool b)
  | int {n : Nat} (k : Int) : Neat n (.int k)
  | text {n : Nat} (s : String) : Neat n (.text s)
  | list {n : Nat} {items : List Value} : (∀ v ∈ items, Neat n v) → Neat (n + 1) (.list items)
  | record {n : Nat} {fields : Fields} : (fields.map (·.1)).Nodup →
      (∀ name ∈ fields.map (·.1), Web.Reply.isInner (.text name) = false) →
      (∀ f ∈ fields, Neat n f.2) → Neat (n + 1) (.record fields)

/-- A document as JSON has them, with whole numbers that can be written and at most `n` values inside
    each other. None of its characters stands for half of a pair, and the names of a record differ. -/
inductive Value.Document (half? : Char → Option Nat) : Nat → Value → Prop
  | null {n : Nat} : Document half? n .null
  | bool {n : Nat} (b : Bool) : Document half? n (.bool b)
  | int {n : Nat} {k : Int} : Decimal.isLongWhole k = false → Document half? n (.int k)
  | text {n : Nat} {s : String} : Text.Intact half? s → Document half? n (.text s)
  | list {n : Nat} {items : List Value} :
      (∀ v ∈ items, Document half? n v) → Document half? (n + 1) (.list items)
  | record {n : Nat} {fields : Fields} : (fields.map (·.1)).Nodup →
      (∀ f ∈ fields, Text.Intact half? f.1) → (∀ f ∈ fields, Document half? n f.2) →
      Document half? (n + 1) (.record fields)

namespace Value

variable {n : Nat}

lemma Neat.mono {m : Nat} {v : Value} (h : v.Neat n) (hle : n ≤ m) : v.Neat m := by
  induction h generalizing m with
  | null => exact .null
  | bool b => exact .bool b
  | int k => exact .int k
  | text s => exact .text s
  | list _ ih =>
    obtain ⟨m, rfl⟩ := Nat.exists_eq_add_of_lt (Nat.lt_of_succ_le hle)
    exact .list fun v hv => ih v hv (by omega)
  | record hnames hinner _ ih =>
    obtain ⟨m, rfl⟩ := Nat.exists_eq_add_of_lt (Nat.lt_of_succ_le hle)
    exact .record hnames hinner fun f hf => ih f hf (by omega)

lemma Neat.of_names {fields : Fields} (names : Texts)
    (hnames : fields.map (·.1) = names) (hnodup : names.Nodup)
    (hinner : ∀ name ∈ names, Web.Reply.isInner (.text name) = false)
    (h : fields.Forall fun f => f.2.Neat n) : (Value.record fields).Neat (n + 1) := by
  subst hnames
  exact .record hnodup hinner (forall_iff_forall_mem.1 h)

lemma neat_ofText? (s : Option String) : (ofText? s).Neat n := by
  cases s with
  | none => exact .null
  | some s => exact .text s

lemma neat_listMap {α : Type} {items : List α} {f : α → Value}
    (h : ∀ a ∈ items, (f a).Neat n) : (Value.list (items.map f)).Neat (n + 1) := by
  refine .list fun v hv => ?_
  obtain ⟨a, ha, rfl⟩ := mem_map.1 hv
  exact h a ha

lemma neat_ofTexts (texts : Texts) : (ofTexts texts).Neat (n + 1) :=
  neat_listMap fun s _ => .text s

end Value

namespace Json

open Web.Reply Conversion

lemma textsOf_eq (escape : Char → String) (room : Nat) (items : List Value) :
    textsOf escape none room items = items.mapM (textOf escape none room) := by
  induction items with
  | nil => rfl
  | cons v items ih => rw [textsOf, mapM_cons, ih]

lemma membersOf_record (escape : Char → String) (room : Nat) (fields : Fields) :
    membersOf escape none room (fields.map fun f => (.text f.1, f.2)) = fields.mapM fun f =>
        (textOf escape none room f.2).map fun s => stringText escape f.1 ++ ": " ++ s := by
  induction fields with
  | nil => rfl
  | cons f fields ih =>
    rw [map_cons, membersOf, mapM_cons, ih]
    cases textOf escape none room f.2 <;> rfl

lemma forall₂_of_mem {α β : Type} {R S : α → β → Prop} {xs : List α} {ys : List β}
    (h : Forall₂ R xs ys) (himp : ∀ x ∈ xs, ∀ y, R x y → S x y) : Forall₂ S xs ys := by
  induction h with
  | nil => exact .nil
  | cons hxy _ ih =>
    rw [forall_mem_cons] at himp
    exact .cons (himp.1 _ hxy) (ih himp.2)

lemma unencodableIn?_eq_none {items : List Value} :
    unencodableIn? items = none ↔ ∀ v ∈ items, unencodable? v = none := by
  induction items with
  | nil => simp [unencodableIn?]
  | cons v items ih => simp [unencodableIn?, ih]

variable {half? : Char → Option Nat} {fields : Fields} {texts : Texts} {n room : Nat} {v : Value}
  {text : String}

lemma unencodableWithin?_record :
    unencodableWithin? (fields.map fun f => (.text f.1, f.2)) = none ↔
      ∀ f ∈ fields, Text.holdsHalf f.1 = false ∧ unencodable? f.2 = none := by
  induction fields with
  | nil => simp [unencodableWithin?]
  | cons f fields ih => simp [unencodableWithin?, unencodable?, ih]

lemma exists_of_members {escape : Char → String} (h : (fields.mapM fun f =>
      (textOf escape none room f.2).map fun s => stringText escape f.1 ++ ": " ++ s) = .ok texts) :
    ∃ values, Forall₂ (fun f value => textOf escape none room f.2 = .ok value) fields values ∧
      texts = fields.zipWith (fun f value => stringText escape f.1 ++ ": " ++ value) values := by
  have hall := mapM_eq_ok.1 h
  clear h
  induction hall with
  | nil => exact ⟨[], .nil, rfl⟩
  | cons hmember _ ih =>
    obtain ⟨value, hvalue, rfl⟩ := map_eq_ok.1 hmember
    obtain ⟨values, hvalues, rfl⟩ := ih
    exact ⟨value :: values, .cons hvalue hvalues, rfl⟩

section

variable {escape : Char → String}

lemma textOf_list_eq_ok {items : List Value} : textOf escape none room (.list items) = .ok text ↔
    ∃ m texts, room = m + 1 ∧ items.mapM (textOf escape none m) = .ok texts ∧
      bracketed "[" "]" none texts = text := by
  cases room <;> simp [textOf, textsOf_eq, map_eq_ok]

lemma textOf_record_eq_ok : textOf escape none room (.record fields) = .ok text ↔
    ∃ m texts, room = m + 1 ∧ (fields.mapM fun f =>
        (textOf escape none m f.2).map fun s => stringText escape f.1 ++ ": " ++ s) = .ok texts ∧
      bracketed "\x7b" "\x7d" none texts = text := by
  cases room <;> simp [Value.record, textOf, membersOf_record, map_eq_ok]

end

lemma toList_bracketed (opening closing : String) (texts : Texts) :
    (bracketed opening closing none texts).toList = opening.toList ++
      ([',', ' '].intercalate (texts.map String.toList) ++ closing.toList) := by
  unfold bracketed
  split
  · rename_i hempty
    rw [isEmpty_iff.1 hempty]
    simp
  · simp [String.toList_append, String.toList_intercalate]

lemma ascii_unitEscape (h : n < 65536) : Text.Ascii (unitEscape n).toList := by
  rw [toList_unitEscape, Text.toList_hex_four h]
  simp only [Text.Ascii, forall_mem_singleton, forall_mem_cons]
  refine ⟨by decide, by decide, ?_, ?_, ?_, ?_⟩ <;> exact digitChar_lt _

lemma ascii_escapeChar (c : Char) : Text.Ascii (escapeChar half? c).toList := by
  have hvalid := toNat_valid c
  unfold escapeChar
  dsimp only
  split_ifs with hlow hunit
  · unfold escapeLittle
    split_ifs
    iterate 7 · decide
    · exact ascii_unitEscape (by omega)
    · simpa [Text.Ascii, Char.toString] using Nat.lt_succ_of_lt hlow
  · exact ascii_unitEscape hunit
  · rw [String.toList_append, Text.ascii_append]
    exact ⟨ascii_unitEscape (by omega), ascii_unitEscape (by omega)⟩

lemma ascii_stringText (s : String) : Text.Ascii (stringText (escapeChar half?) s).toList := by
  rw [stringText, String.toList_append, String.toList_append, Text.ascii_append, Text.ascii_append]
  refine ⟨⟨by decide, ?_⟩, by decide⟩
  simpa [Text.Ascii, String.toList_join] using fun d c _ hd => ascii_escapeChar c d hd

lemma ascii_bracketed {opening closing : String}
    (hopening : Text.Ascii opening.toList) (hclosing : Text.Ascii closing.toList)
    (h : ∀ text ∈ texts, Text.Ascii text.toList) :
    Text.Ascii (bracketed opening closing none texts).toList := by
  rw [toList_bracketed, Text.ascii_append, Text.ascii_append]
  refine ⟨hopening, ?_, hclosing⟩
  induction texts with
  | nil => simp [Text.Ascii]
  | cons text texts ih =>
    rw [forall_mem_cons] at h
    cases texts with
    | nil => simpa using h.1
    | cons next texts =>
      rw [map_cons, map_cons, intercalate_cons_cons, Text.ascii_append, Text.ascii_append]
      exact ⟨⟨h.1, by decide⟩, ih h.2⟩

lemma ascii_textOf (hneat : v.Neat n)
    (h : textOf (escapeChar half?) none room v = .ok text) : Text.Ascii text.toList := by
  induction hneat generalizing room text with
  | null =>
    cases h
    decide
  | bool b =>
    cases h
    cases b <;> decide
  | int k =>
    rw [textOf, Decimal.wholeText] at h
    split at h <;> cases h
    rw [toList_toString, Text.ascii_append]
    refine ⟨?_, Text.ascii_digits _⟩
    split <;> decide
  | text s =>
    cases h
    exact ascii_stringText s
  | list _ ih =>
    obtain ⟨_, texts, rfl, htexts, rfl⟩ := textOf_list_eq_ok.1 h
    refine ascii_bracketed (by decide) (by decide) fun text htext => ?_
    obtain ⟨v, hv, h⟩ := exists_of_mem_mapM htexts htext
    exact ih v hv h
  | record _ _ _ ih =>
    obtain ⟨_, texts, rfl, htexts, rfl⟩ := textOf_record_eq_ok.1 h
    refine ascii_bracketed (by decide) (by decide) fun text htext => ?_
    obtain ⟨f, hf, h⟩ := exists_of_mem_mapM htexts htext
    obtain ⟨value, hvalue, rfl⟩ := map_eq_ok.1 h
    rw [String.toList_append, String.toList_append, Text.ascii_append, Text.ascii_append]
    exact ⟨⟨ascii_stringText _, by decide⟩, ih f hf hvalue⟩

lemma succeeds_textOf (h : v.Document half? n) : Succeeds (textOf (escapeChar half?) none n v) := by
  induction h with
  | null | bool | text => exact ⟨_, by rw [textOf]⟩
  | int hlong =>
    rw [textOf, Decimal.wholeText, hlong]
    exact ⟨_, rfl⟩
  | list _ ih =>
    obtain ⟨texts, htexts⟩ := Succeeds.mapM_iff.2 ih
    exact ⟨_, textOf_list_eq_ok.2 ⟨_, texts, rfl, htexts, rfl⟩⟩
  | record _ _ _ ih =>
    obtain ⟨texts, htexts⟩ := Succeeds.mapM_iff.2 fun f hf => Succeeds.map_iff.2 (ih f hf)
    exact ⟨_, textOf_record_eq_ok.2 ⟨_, texts, rfl, htexts, rfl⟩⟩

/-- What was written in some room is read in the room that the document needs. -/
lemma reads_textOf (hdocument : v.Document half? n)
    (h : textOf (escapeChar half?) none room v = .ok text) : Reads n v text.toList := by
  induction hdocument generalizing room text with
  | null =>
    cases h
    exact reads_word "null" (by simp)
  | bool b =>
    cases h
    cases b with
    | true => exact reads_word "true" (by simp)
    | false => exact reads_word "false" (by simp)
  | int hlong =>
    rw [textOf, Decimal.wholeText, hlong] at h
    cases h
    exact reads_int hlong
  | text hhalf =>
    cases h
    exact reads_text hhalf
  | @list n items _ ih =>
    obtain ⟨_, texts, rfl, htexts, rfl⟩ := textOf_list_eq_ok.1 h
    have hall : Forall₂ (Reads n) items (texts.map String.toList) := by
      rw [forall₂_map_right_iff]
      exact forall₂_of_mem (mapM_eq_ok.1 htexts) fun v hv text htext => ih v hv htext
    rw [toList_bracketed]
    exact reads_list hall
  | @record n fields hnames hhalves _ ih =>
    obtain ⟨_, texts, rfl, htexts, rfl⟩ := textOf_record_eq_ok.1 h
    obtain ⟨values, hvalues, rfl⟩ := exists_of_members htexts
    have hall :
        Forall₂ (fun f text => Reads n f.2 text) fields (values.map String.toList) := by
      rw [forall₂_map_right_iff]
      exact forall₂_of_mem hvalues fun f hf text htext => ih f hf htext
    have htexts : (fields.zipWith (fun f value => stringText (escapeChar half?) f.1 ++ ": " ++ value)
        values).map String.toList =
          fields.zipWith (fun f text => memberText half? f.1 text) (values.map String.toList) := by
      simp only [map_zipWith, zipWith_map_right, String.toList_append, append_assoc]
      rfl
    rw [toList_bracketed, htexts]
    exact reads_record hall hhalves hnames

lemma document_of_neat (hneat : v.Neat n) (hhalf : unencodable? v = none)
    (h : Succeeds (textOf (escapeChar half?) none room v)) : v.Document Text.half? n := by
  induction hneat generalizing room with
  | null => exact .null
  | bool b => exact .bool b
  | int k =>
    rw [textOf, Decimal.wholeText] at h
    split at h
    · obtain ⟨_, h⟩ := h
      cases h
    · rename_i hlong
      exact .int (Bool.eq_false_iff.2 hlong)
  | text s =>
    rw [unencodable?] at hhalf
    exact .text (Text.intact_iff.2 (by simpa using hhalf))
  | list _ ih =>
    obtain ⟨_, h⟩ := h
    obtain ⟨_, texts, rfl, htexts, -⟩ := textOf_list_eq_ok.1 h
    rw [unencodable?, unencodableIn?_eq_none] at hhalf
    exact .list fun v hv => ih v hv (hhalf v hv) (Succeeds.mapM_iff.1 ⟨texts, htexts⟩ v hv)
  | record hnames _ _ ih =>
    obtain ⟨_, h⟩ := h
    obtain ⟨_, texts, rfl, htexts, -⟩ := textOf_record_eq_ok.1 h
    rw [Value.record, unencodable?, unencodableWithin?_record] at hhalf
    exact .record hnames (fun f hf => Text.intact_iff.2 (hhalf f hf).1) fun f hf =>
      ih f hf (hhalf f hf).2 (Succeeds.map_iff.1 (Succeeds.mapM_iff.1 ⟨texts, htexts⟩ f hf))

/-- Documents are read as they were written. -/
lemma read_of_write (h : v.Document half? n) (hwrite : write v room half? = .ok text) :
    read text n = .ok v := by
  have hreads := reads_textOf h hwrite
  have hvalue : valueFrom (2 * text.toList.length + 2) n (text.toList ++ []) = .ok (v, []) :=
    hreads.value (by omega) (by simp [Stops])
  rw [append_nil] at hvalue
  rw [read, readList, hreads.opens.skip_eq, hvalue]
  rfl

lemma read_write (hneat : v.Neat deepest) (hhalf : unencodable? v = none)
    (h : write v = .ok text) : read text = .ok v :=
  read_of_write (document_of_neat hneat hhalf ⟨text, h⟩) h

end Json

namespace Record

variable {room : Nat}

lemma unpacked_text {text : String} (h : text ≠ "") (empty : Value) :
    unpacked (.text text) empty room = (Json.read text room).mapError Fault.ofJson := by
  simp [unpacked, Value.truthy, h]

lemma unpacked_of_read {text : String} {v : Value} (empty : Value)
    (h : Json.read text room = .ok v) : unpacked (.text text) empty room = .ok v := by
  have hne : text ≠ "" := by
    rintro rfl
    cases h
  rw [unpacked_text hne, h]
  rfl

end Record

/-! ## Bodies -/

namespace Web.Reply

open Conversion

/-- A value that can be sent: it has a body, whose texts all have bytes. -/
def Sendable (v : Value) : Prop := ∃ body, bodyOf v = .ok body ∧ unencodable? body = none

variable {v : Value} {n : Nat}

lemma sendable_iff :
    Sendable v ↔ (bodyOf v).toOption.any (fun body => (unencodable? body).isNone) = true := by
  cases h : bodyOf v with
  | error f => simp [Sendable, h, Except.toOption]
  | ok body => simp [Sendable, h, Except.toOption]

instance : DecidablePred Sendable := fun _ => decidable_of_iff _ sendable_iff.symm

section

variable {fields fields' : Fields}

lemma ofEntries_record (h : (fields.map (·.1)).Nodup) :
    Value.ofEntries (fields.map fun f => (.text f.1, f.2)) =
      fields.map fun f => (.text f.1, f.2) := by
  -- Each field is put at the end, since its name is new.
  suffices hfrom : ∀ before : Fields, ((before ++ fields).map (·.1)).Nodup →
      (fields.map fun f => (Value.text f.1, f.2)).foldl (fun acc e => Value.put e.1 e.2 acc)
        (before.map fun f => (.text f.1, f.2)) =
          (before ++ fields).map fun f => (.text f.1, f.2) from
    hfrom [] h
  clear h
  induction fields with
  | nil => simp
  | cons f fields ih =>
    intro before h
    have hnew : f.1 ∉ before.map (·.1) := by
      rw [map_append, map_cons, nodup_append] at h
      exact fun hmem => h.2.2 _ hmem _ mem_cons_self rfl
    rw [map_cons, foldl_cons, Value.put_record f.2 hnew]
    have h : before ++ f :: fields = before ++ [f] ++ fields := by simp
    rw [ih (before ++ [f]) (by rwa [← h]), h]

lemma plainEntries_record (hinner : ∀ name ∈ fields.map (·.1), isInner (.text name) = false) :
    plainEntries (fields.map fun f => (.text f.1, f.2)) =
      (fields.mapM fun f => (plain f.2).map (f.1, ·)).map (·.map fun f => (.text f.1, f.2)) := by
  induction fields with
  | nil => rfl
  | cons f fields ih =>
    rw [map_cons, forall_mem_cons] at hinner
    rw [map_cons, plainEntries, if_neg (by simp [hinner.1]), mapM_cons, ih hinner.2]
    cases plain f.2 with
    | error e => rfl
    | ok v => cases fields.mapM fun f => (plain f.2).map (f.1, ·) <;> rfl

lemma writableEntries_record : writableEntries (fields.map fun f => (.text f.1, f.2)) =
      (fields.mapM fun f => (writable f.2).map (f.1, ·)).map (·.map fun f => (.text f.1, f.2)) := by
  induction fields with
  | nil => rfl
  | cons f fields ih =>
    rw [map_cons, writableEntries, mapM_cons, ih]
    cases writable f.2 with
    | error e => rfl
    | ok v => cases fields.mapM fun f => (writable f.2).map (f.1, ·) <;> rfl

lemma names_of_plain (h : Forall₂ (fun f g => (plain f.2).map (f.1, ·) = .ok g) fields fields') :
    fields'.map (·.1) = fields.map (·.1) := by
  induction h with
  | nil => rfl
  | cons h _ ih =>
    obtain ⟨v, -, rfl⟩ := map_eq_ok.1 h
    rw [map_cons, map_cons, ih]

lemma forall₂_bodyOf : (∃ mid, Forall₂ (fun f g => (plain f.2).map (f.1, ·) = .ok g) fields mid ∧
      Forall₂ (fun f g => (writable f.2).map (f.1, ·) = .ok g) mid fields') ↔
    Forall₂ (fun f g => g.1 = f.1 ∧ bodyOf f.2 = .ok g.2) fields fields' := by
  constructor
  · rintro ⟨mid, hmid, hshown⟩
    induction hmid generalizing fields' with
    | nil => exact forall₂_nil_left_iff.2 (forall₂_nil_left_iff.1 hshown)
    | cons hplain _ ih =>
      obtain ⟨g, shown, hwritable, hrest, rfl⟩ := forall₂_cons_left_iff.1 hshown
      obtain ⟨v, hv, rfl⟩ := map_eq_ok.1 hplain
      obtain ⟨w, hw, rfl⟩ := map_eq_ok.1 hwritable
      exact .cons ⟨rfl, bind_eq_ok.2 ⟨v, hv, hw⟩⟩ (ih hrest)
  · intro h
    induction h with
    | nil => exact ⟨[], .nil, .nil⟩
    | @cons f g _ _ h _ ih =>
      obtain ⟨mid, hmid, hshown⟩ := ih
      obtain ⟨v, hv, hw⟩ := bind_eq_ok.1 h.2
      refine ⟨(f.1, v) :: mid, .cons (map_eq_ok.2 ⟨v, hv, rfl⟩) hmid, .cons ?_ hshown⟩
      exact map_eq_ok.2 ⟨g.2, hw, by rw [← h.1]⟩

lemma bodyOf_record (hnames : (fields.map (·.1)).Nodup)
    (hinner : ∀ name ∈ fields.map (·.1), isInner (.text name) = false) {body : Value} :
    bodyOf (.record fields) = .ok body ↔ ∃ shown : Fields,
      Forall₂ (fun f g => g.1 = f.1 ∧ bodyOf f.2 = .ok g.2) fields shown ∧
        body = .record shown := by
  constructor
  · intro h
    obtain ⟨v, hv, h⟩ := bind_eq_ok.1 h
    obtain ⟨entries, hentries, hmap⟩ := bind_eq_ok.1 hv
    rw [plainEntries_record hinner] at hentries
    obtain ⟨mid, hmid, rfl⟩ := map_eq_ok.1 hentries
    have hmid := mapM_eq_ok.1 hmid
    cases hmap
    rw [ofEntries_record (by rwa [names_of_plain hmid]), writable, writableEntries_record] at h
    obtain ⟨_, hwritable, rfl⟩ := map_eq_ok.1 h
    obtain ⟨shown, hshown, rfl⟩ := map_eq_ok.1 hwritable
    exact ⟨shown, forall₂_bodyOf.1 ⟨mid, hmid, mapM_eq_ok.1 hshown⟩, rfl⟩
  · rintro ⟨shown, hshown, rfl⟩
    obtain ⟨mid, hmid, hshown⟩ := forall₂_bodyOf.2 hshown
    refine bind_eq_ok.2 ⟨.map (mid.map fun f => (.text f.1, f.2)), ?_, ?_⟩
    · refine bind_eq_ok.2 ⟨_, (plainEntries_record hinner).trans
        (map_eq_ok.2 ⟨mid, mapM_eq_ok.2 hmid, rfl⟩), ?_⟩
      rw [ofEntries_record (by rwa [names_of_plain hmid])]
      rfl
    · rw [writable, writableEntries_record, mapM_eq_ok.2 hshown]
      rfl

lemma field?_of_forall₂ {name : String} {v : Value}
    (h : Forall₂ (fun f g => g.1 = f.1 ∧ bodyOf f.2 = .ok g.2) fields fields')
    (hv : fields.lookup name = some v) :
    ∃ v', (Value.record fields').field? name = some v' ∧ bodyOf v = .ok v' := by
  rw [Value.field?_record]
  induction h with
  | nil => cases hv
  | @cons f g _ _ h _ ih =>
    rw [lookup_cons] at hv ⊢
    rw [h.1]
    cases hname : name == f.1 with
    | true =>
      rw [hname] at hv
      obtain rfl := Option.some.inj hv
      exact ⟨g.2, rfl, h.2⟩
    | false =>
      rw [hname] at hv
      exact ih hv

lemma sendable_record (hnames : (fields.map (·.1)).Nodup)
    (hinner : ∀ name ∈ fields.map (·.1), isInner (.text name) = false) : Sendable (.record fields) ↔
      ∀ f ∈ fields, Text.holdsHalf f.1 = false ∧ Sendable f.2 := by
  constructor
  · rintro ⟨body, hbody, hnone⟩
    obtain ⟨shown, hshown, rfl⟩ := (bodyOf_record hnames hinner).1 hbody
    rw [Value.record, unencodable?, Json.unencodableWithin?_record] at hnone
    clear hbody hnames hinner
    induction hshown with
    | nil => simp
    | @cons f g _ _ hfg _ ih =>
      rw [forall_mem_cons] at hnone ⊢
      exact ⟨⟨hfg.1 ▸ hnone.1.1, g.2, hfg.2, hnone.1.2⟩, ih hnone.2⟩
  · intro h
    have hshown : ∃ shown : Fields,
        Forall₂ (fun f g => g.1 = f.1 ∧ bodyOf f.2 = .ok g.2) fields shown ∧
          ∀ g ∈ shown, Text.holdsHalf g.1 = false ∧ unencodable? g.2 = none := by
      clear hnames hinner
      induction fields with
      | nil => exact ⟨[], .nil, by simp⟩
      | cons f fields ih =>
        rw [forall_mem_cons] at h
        obtain ⟨shown, hshown, hnone⟩ := ih h.2
        obtain ⟨hname, body, hbody, hbodyNone⟩ := h.1
        exact ⟨(f.1, body) :: shown, .cons ⟨rfl, hbody⟩ hshown,
          forall_mem_cons.2 ⟨⟨hname, hbodyNone⟩, hnone⟩⟩
    obtain ⟨shown, hshown, hnone⟩ := hshown
    refine ⟨_, (bodyOf_record hnames hinner).2 ⟨shown, hshown, rfl⟩, ?_⟩
    rw [Value.record, unencodable?, Json.unencodableWithin?_record]
    exact hnone

lemma bodyOf_int {n : Int} {body : Value} (h : bodyOf (.int n) = .ok body) : body = .int n := by
  obtain ⟨v, hv, h⟩ := bind_eq_ok.1 h
  obtain rfl := Except.ok.inj hv
  obtain ⟨_, -, rfl⟩ := map_eq_ok.1 h
  rfl

end

lemma mapM_eq_self {ε α : Type} {f : α → Except ε α} {xs : List α} (h : ∀ x ∈ xs, f x = .ok x) :
    xs.mapM f = .ok xs :=
  mapM_eq_ok.2 (forall₂_same.2 h)

lemma plainAll_eq (items : List Value) : plainAll items = items.mapM plain := by
  induction items with
  | nil => rfl
  | cons v items ih => rw [plainAll, mapM_cons, ih]

lemma writableAll_eq (items : List Value) : writableAll items = items.mapM writable := by
  induction items with
  | nil => rfl
  | cons v items ih => rw [writableAll, mapM_cons, ih]

lemma plain_neat (h : v.Neat n) : plain v = .ok v := by
  induction h with
  | null => rfl
  | bool b => rfl
  | int k => rfl
  | text s => rfl
  | list _ ih =>
    rw [plain, plainAll_eq, mapM_eq_self ih]
    rfl
  | @record _ fields hnames hinner _ ih =>
    have hsame : fields.mapM (fun f => (plain f.2).map (f.1, ·)) = .ok fields :=
      mapM_eq_self fun f hf => by rw [ih f hf]; rfl
    rw [Value.record, plain, plainEntries_record hinner, hsame]
    show Except.ok (Value.map (Value.ofEntries _)) = _
    rw [ofEntries_record hnames]

lemma writable_neat {escape : Char → String} {room : Nat} (h : v.Neat n)
    (hwrite : Succeeds (Json.textOf escape none room v)) : writable v = .ok v := by
  induction h generalizing room with
  | null => rfl
  | bool b => rfl
  | int k =>
    rw [Json.textOf] at hwrite
    obtain ⟨text, htext⟩ := hwrite
    rw [writable, htext]
    rfl
  | text s => rfl
  | list _ ih =>
    obtain ⟨_, hwrite⟩ := hwrite
    obtain ⟨_, texts, rfl, htexts, -⟩ := Json.textOf_list_eq_ok.1 hwrite
    replace hwrite := Succeeds.mapM_iff.1 ⟨texts, htexts⟩
    rw [writable, writableAll_eq, mapM_eq_self fun v hv => ih v hv (hwrite v hv)]
    rfl
  | @record _ fields _ _ _ ih =>
    obtain ⟨_, hwrite⟩ := hwrite
    obtain ⟨_, texts, rfl, htexts, -⟩ := Json.textOf_record_eq_ok.1 hwrite
    replace hwrite := Succeeds.mapM_iff.1 ⟨texts, htexts⟩
    have hsame : fields.mapM (fun f => (writable f.2).map (f.1, ·)) = .ok fields :=
      mapM_eq_self fun f hf => by rw [ih f hf (Succeeds.map_iff.1 (hwrite f hf))]; rfl
    rw [Value.record, writable, writableEntries_record, hsame]
    rfl

lemma bodyOf_neat (h : v.Neat n) {text : String}
    (hwrite : Json.write v = .ok text) : bodyOf v = .ok v := by
  rw [bodyOf, plain_neat h]
  exact writable_neat h ⟨text, hwrite⟩

end Web.Reply

end Huntbook
