import Huntbook.Proofs.Document

/-!
# The clock of the store

A stamp in the store is the text of a moment, to the second. Such texts are read back as the
moments that they are of, and they are in the order of these moments, so a store that compares
stamps as texts compares moments.
-/

namespace Huntbook

open List

/-! ## Readings of a clock -/

namespace Moment

/-- What a clock that counts whole seconds from 1970 on can show. -/
structure Ticks (t : Moment) : Prop where
  check : t.check = .ok t
  micro : t.micro = 0
  offset : t.offset = none
  year : 1970 ≤ t.date.year

structure Ranges (t : Moment) : Prop where
  least : 1970 ≤ t.date.year
  year : t.date.year ≤ 9999
  month : 1 ≤ t.date.month ∧ t.date.month ≤ 12
  day : 1 ≤ t.date.day ∧ t.date.day ≤ daysInMonth t.date.year t.date.month
  hour : t.hour ≤ 23
  minute : t.minute ≤ 59
  second : t.second ≤ 59

lemma daysInMonth_le (year month : Nat) : daysInMonth year month ≤ 31 := by
  unfold daysInMonth
  split
  · split <;> decide
  · split <;> decide

lemma Ticks.ranges {t : Moment} (h : t.Ticks) : t.Ranges := by
  have hcheck := h.check
  rw [Moment.check, Date.check] at hcheck
  split at hcheck
  · cases hcheck
  split at hcheck
  · cases hcheck
  split at hcheck
  · cases hcheck
  split at hcheck
  · cases hcheck
  split at hcheck
  · cases hcheck
  split at hcheck
  · cases hcheck
  rename_i hyear hmonth hday hhour hminute hsecond
  simp only [Bool.or_eq_true, decide_eq_true_eq] at hyear hmonth hday
  exact ⟨h.year, by omega, by omega, by omega, by omega, by omega, by omega⟩

lemma Ranges.widths {t : Moment} (h : t.Ranges) : t.date.year < 10000 ∧ t.date.month < 100 ∧
    t.date.day < 100 ∧ t.hour < 100 ∧ t.minute < 100 ∧ t.second < 100 := by
  have hdays := daysInMonth_le t.date.year t.date.month
  obtain ⟨-, hyear, hmonth, hday, hhour, hminute, hsecond⟩ := h
  exact ⟨by omega, by omega, by omega, by omega, by omega, by omega⟩

end Moment

/-! ## Digits of a fixed width -/

lemma digitChar_lt_iff : ∀ a < 10, ∀ b < 10, Nat.digitChar a < Nat.digitChar b ↔ a < b := by
  decide

variable {width n : Nat}

lemma widened_spec (hwidth : 0 < width) (h : n < 10 ^ width) :
    (widened 10 width n).length = width ∧ (∀ c ∈ widened 10 width n, c.isDigit) ∧
      (widened 10 width n).foldl (fun n d => n * 10 + (d.toNat - '0'.toNat)) 0 = n := by
  induction width, hwidth using Nat.le_induction generalizing n with
  | base =>
    have hone : widened 10 (Nat.succ 0) n = [Nat.digitChar n] := widened_one h
    rw [hone]
    simpa [Nat.isDigit_digitChar] using ⟨h, Nat.toNat_digitChar_sub_48_of_lt_ten h⟩
  | succ width hwidth ih =>
    obtain ⟨hlength, hdigits, hvalue⟩ := @ih (n / 10) (by omega)
    have hlast : n % 10 < 10 := Nat.mod_lt n (by decide)
    rw [widened_succ n (by decide) hwidth]
    refine ⟨by simp [hlength], ?_, ?_⟩
    · intro c hc
      rcases mem_append.1 hc with hc | hc
      · exact hdigits c hc
      · rw [mem_singleton.1 hc]
        simpa [Nat.isDigit_digitChar] using hlast
    · rw [foldl_append, hvalue, foldl_cons, foldl_nil]
      exact (congrArg _ (Nat.toNat_digitChar_sub_48_of_lt_ten hlast)).trans (Nat.div_add_mod' n 10)

lemma append_lt_append_iff {xs ys as bs : Chars} (h : xs.length = ys.length) :
    xs ++ as < ys ++ bs ↔ xs < ys ∨ xs = ys ∧ as < bs := by
  induction xs generalizing ys with
  | nil =>
    rw [eq_nil_of_length_eq_zero h.symm]
    simp
  | cons x xs ih =>
    cases ys with
    | nil => cases h
    | cons y ys =>
      rw [cons_append, cons_append, cons_lt_cons_iff, cons_lt_cons_iff, ih (Nat.succ.inj h)]
      simp only [cons.injEq]
      tauto

lemma widened_lt_iff {m : Nat} (hwidth : 0 < width) (hn : n < 10 ^ width)
    (hm : m < 10 ^ width) : widened 10 width n < widened 10 width m ↔ n < m := by
  induction width, hwidth using Nat.le_induction generalizing n m with
  | base =>
    have hone {n : Nat} (h : n < 10) : widened 10 (Nat.succ 0) n = [Nat.digitChar n] :=
      widened_one h
    rw [hone hn, hone hm, cons_lt_cons_iff, digitChar_lt_iff n hn m hm]
    simp
  | succ width hwidth ih =>
    have hn' : n / 10 < 10 ^ width := by omega
    have hm' : m / 10 < 10 ^ width := by omega
    rw [widened_succ n (by decide) hwidth, widened_succ m (by decide) hwidth,
      append_lt_append_iff (by rw [(widened_spec hwidth hn').1, (widened_spec hwidth hm').1]),
      ih hn' hm', cons_lt_cons_iff, digitChar_lt_iff _ (by omega) _ (by omega)]
    have heq : widened 10 width (n / 10) = widened 10 width (m / 10) ↔ n / 10 = m / 10 := by
      refine ⟨fun h => ?_, congrArg _⟩
      rw [← (widened_spec hwidth hn').2.2, h, (widened_spec hwidth hm').2.2]
    rw [heq]
    simp
    omega

lemma toList_padded (width n : Nat) : (padded width n).toList = widened 10 width n :=
  String.toList_ofList

lemma padded_append_lt_iff {m : Nat} (hwidth : 0 < width) (hn : n < 10 ^ width)
    (hm : m < 10 ^ width) {as bs : Chars} :
    (padded width n).toList ++ as < (padded width m).toList ++ bs ↔ n < m ∨ n = m ∧ as < bs := by
  rw [toList_padded, toList_padded, append_lt_append_iff, widened_lt_iff hwidth hn hm]
  · refine or_congr_right (and_congr_left fun _ => ⟨fun h => ?_, congrArg _⟩)
    rw [← (widened_spec hwidth hn).2.2, h, (widened_spec hwidth hm).2.2]
  · rw [(widened_spec hwidth hn).1, (widened_spec hwidth hm).1]

lemma digits_of_padded (hwidth : 0 < width) (h : n < 10 ^ width) :
    ∀ c ∈ (padded width n).toList, c.isDigit := by
  rw [toList_padded]
  exact (widened_spec hwidth h).2.1

lemma exists_of_padded_two (h : n < 100) : ∃ a b, (padded 2 n).toList = [a, b] ∧ a.isDigit := by
  have hdigits := digits_of_padded (by decide : 0 < 2) h
  obtain ⟨a, b, hab⟩ := length_eq_two.1 (widened_spec (by decide : 0 < 2) h).1
  rw [← toList_padded] at hab
  exact ⟨a, b, hab, hdigits a (by simp [hab])⟩

lemma exists_of_padded_four (h : n < 10000) : ∃ a b c d, (padded 4 n).toList = [a, b, c, d] := by
  have hlength := (widened_spec (by decide : 0 < 4) h).1
  rw [← toList_padded] at hlength
  match (padded 4 n).toList, hlength with
  | [a, b, c, d], _ => exact ⟨a, b, c, d, rfl⟩

/-! ## Texts of moments -/

namespace Iso

variable {n : Nat}

lemma digits?_padded {width : Nat} (hwidth : 0 < width) (h : n < 10 ^ width)
    (rest : Chars) : digits? width ((padded width n).toList ++ rest) = some (n, rest) := by
  obtain ⟨hlength, hdigits, hvalue⟩ := widened_spec hwidth h
  rw [toList_padded, digits?, take_left' hlength, drop_left' hlength, hlength, hvalue]
  simpa using hdigits

lemma digits?_two (h : n < 100) : digits? 2 (padded 2 n).toList = some (n, []) := by
  rw [← append_nil (padded 2 n).toList]
  exact digits?_padded (by decide) h []

lemma toList_loop (bytes : ByteArray) (i : Nat) (done : List UInt8) :
    ByteArray.toList.loop bytes i done = done.reverse ++ bytes.data.toList.drop i := by
  have hsize : bytes.data.toList.length = bytes.size := rfl
  induction hleft : bytes.size - i generalizing i done with
  | zero => rw [ByteArray.toList.loop, if_neg (by omega), drop_eq_nil_of_le (by omega), append_nil]
  | succ left ih =>
    have hi : i < bytes.data.toList.length := by omega
    have hget : bytes.get! i = bytes.data.toList[i] := by
      show bytes.data[i]! = _
      rw [getElem!_pos bytes.data i hi, Array.getElem_toList]
    rw [ByteArray.toList.loop, if_pos (by omega), ih _ _ (by omega), hget, drop_eq_getElem_cons hi]
    simp

lemma bytesOf_eq {s : String} (h : Text.Ascii s.toList) : bytesOf s = s.toList := by
  have hencode : s.toUTF8.toList = s.toList.flatMap String.utf8EncodeChar := by
    rw [ByteArray.toList, toList_loop, reverse_nil, nil_append, drop_zero,
      String.toUTF8_eq_toByteArray, ← String.utf8Encode_toList]
    exact toList_data_toByteArray
  rw [bytesOf, hencode, map_flatMap]
  generalize s.toList = cs at h
  induction cs with
  | nil => rfl
  | cons c cs ih =>
    have hc := h c mem_cons_self
    have hbyte : String.utf8EncodeChar c = [UInt8.ofNat c.toNat] :=
      if_pos (Nat.le_of_lt_succ hc)
    rw [flatMap_cons, ih fun d hd => h d (mem_cons_of_mem c hd), hbyte, map_singleton,
      singleton_append, UInt8.toNat_ofNat_of_lt' (Nat.lt_of_lt_of_le hc (by decide)),
      Char.ofNat_toNat]

lemma clockFrom_colon {colons : Option Bool} (hcolons : colons.getD true = true) (parts : Nat)
    (done : List Nat) {m : Nat} (hn : n < 100) (hm : m < 100) (rest : Chars) :
    clockFrom colons (parts + 1) done
        ((padded 2 n).toList ++ ':' :: ((padded 2 m).toList ++ rest)) =
      clockFrom (some true) parts (done ++ [n]) ((padded 2 m).toList ++ rest) := by
  obtain ⟨a, b, hab, -⟩ := exists_of_padded_two hm
  rw [clockFrom, digits?_padded (by decide) hn, hab]
  cases colons with
  | none => rfl
  | some b =>
    cases b with
    | false => cases hcolons
    | true => rfl

lemma clockFrom_end (colons : Option Bool) (parts : Nat) (done : List Nat)
    (hn : n < 100) : clockFrom colons (parts + 1) done (padded 2 n).toList =
      some (clockFrom.ofParts (done ++ [n]) 0, false) := by
  rw [clockFrom, digits?_two hn]
  rfl

lemma not_startsOffset (h : n < 100) : ∀ c ∈ (padded 2 n).toList, !startsOffset c := by
  intro c hc
  have hdigit := digits_of_padded (by decide : 0 < 2) h c hc
  by_contra hstarts
  simp only [startsOffset, Bool.not_eq_true, Bool.not_eq_false', Bool.or_eq_true, beq_iff_eq]
    at hstarts
  rcases hstarts with (rfl | rfl) | rfl <;> cases hdigit

lemma time?_eq {h m s : Nat} (hh : h < 100) (hm : m < 100) (hs : s < 100) :
    time? ((padded 2 h).toList ++ ':' :: ((padded 2 m).toList ++ ':' :: (padded 2 s).toList)) =
      some (⟨h, m, s, 0⟩, none) := by
  have hclock : clock? ((padded 2 h).toList ++
      ':' :: ((padded 2 m).toList ++ ':' :: (padded 2 s).toList)) =
        some (⟨h, m, s, 0⟩, false) := by
    have hminute : clockFrom (some true) 2 ([] ++ [h]) ((padded 2 m).toList ++
        ':' :: ((padded 2 s).toList ++ [])) = _ := clockFrom_colon rfl 1 _ hm hs []
    rw [append_nil] at hminute
    rw [clock?, clockFrom_colon rfl 2 [] hh hm, hminute, clockFrom_end _ _ _ hs]
    rfl
  have hhere : ((padded 2 h).toList ++ ':' :: ((padded 2 m).toList ++ ':' ::
      (padded 2 s).toList)).takeWhile (!startsOffset ·) = (padded 2 h).toList ++
        ':' :: ((padded 2 m).toList ++ ':' :: (padded 2 s).toList) := by
    rw [takeWhile_eq_self_iff]
    simp only [mem_append, mem_cons]
    rintro c (hc | rfl | hc | rfl | hc)
    · exact not_startsOffset hh c hc
    · rfl
    · exact not_startsOffset hm c hc
    · rfl
    · exact not_startsOffset hs c hc
  rw [time?, hhere, hclock, drop_length]
  rfl

lemma date?_eq {y m d : Nat} (hy : y < 10000) (hm : m < 100) (hd : d < 100) :
    date? ((padded 4 y).toList ++ '-' :: ((padded 2 m).toList ++ '-' :: (padded 2 d).toList)) =
      some ⟨y, m, d⟩ := by
  obtain ⟨a, b, hab, ha⟩ := exists_of_padded_two hm
  have hmonth : digits? 2 ((padded 2 m).toList ++ '-' :: (padded 2 d).toList) = some (m, _) :=
    digits?_padded (by decide) hm _
  rw [date?, digits?_padded (by decide) hy]
  rw [hab] at hmonth ⊢
  dsimp only [Option.bind_eq_bind, Option.bind_some, head?_cons]
  simp only [beq_self_eq_true, if_true, drop_succ_cons, drop_zero]
  split
  · rename_i heq
    cases heq
    cases ha
  · rw [hmonth]
    simp [digits?_two hd]

end Iso

namespace Moment.Ticks

variable {t : Moment} (h : t.Ticks)

include h

lemma toList_stamp : (t.textWith " ").toList =
    ((padded 4 t.date.year).toList ++ '-' :: ((padded 2 t.date.month).toList ++
      '-' :: (padded 2 t.date.day).toList)) ++ ' ' :: ((padded 2 t.hour).toList ++
        ':' :: ((padded 2 t.minute).toList ++ ':' :: (padded 2 t.second).toList)) := by
  simp [textWith, Date.text, h.micro, h.offset, String.toList_append]

lemma ascii_textWith : Text.Ascii (t.textWith " ").toList := by
  obtain ⟨hyear, hmonth, hday, hhour, hminute, hsecond⟩ := h.ranges.widths
  have htwo {n : Nat} (hn : n < 100) : Text.Ascii (padded 2 n).toList :=
    Text.ascii_of_digits (digits_of_padded (by decide) hn)
  rw [h.toList_stamp]
  simp only [Text.Ascii, mem_append, mem_cons]
  rintro c ((hc | rfl | hc | rfl | hc) | rfl | hc | rfl | hc | rfl | hc)
  · exact Text.ascii_of_digits (digits_of_padded (by decide) hyear) c hc
  · decide
  · exact htwo hmonth c hc
  · decide
  · exact htwo hday c hc
  · decide
  · exact htwo hhour c hc
  · decide
  · exact htwo hminute c hc
  · decide
  · exact htwo hsecond c hc

lemma dateLength_stamp : Iso.dateLength (t.textWith " ").toList = 10 := by
  obtain ⟨hyear, hmonth, -⟩ := h.ranges.widths
  obtain ⟨y₁, y₂, y₃, y₄, hyear⟩ := exists_of_padded_four hyear
  obtain ⟨m₁, m₂, hmonth, hdigit⟩ := exists_of_padded_two hmonth
  have hweek : m₁ ≠ 'W' := by
    rintro rfl
    cases hdigit
  rw [h.toList_stamp, hyear, hmonth]
  simp [Iso.dateLength, hweek]

lemma ofIso_textWith : Moment.ofIso (t.textWith " ") = .ok t := by
  obtain ⟨hyear, hmonth, hday, hhour, hminute, hsecond⟩ := h.ranges.widths
  have hlength : ((padded 4 t.date.year).toList ++ '-' :: ((padded 2 t.date.month).toList ++
      '-' :: (padded 2 t.date.day).toList)).length = 10 := by
    obtain ⟨y₁, y₂, y₃, y₄, hyear⟩ := exists_of_padded_four hyear
    obtain ⟨m₁, m₂, hmonth, -⟩ := exists_of_padded_two hmonth
    obtain ⟨d₁, d₂, hday, -⟩ := exists_of_padded_two hday
    rw [hyear, hmonth, hday]
    rfl
  have hdate := Iso.date?_eq hyear hmonth hday
  have htime := Iso.time?_eq hhour hminute hsecond
  have hcheck := h.check
  rw [ofIso, Iso.bytesOf_eq h.ascii_textWith, h.dateLength_stamp, h.toList_stamp]
  generalize ((padded 4 t.date.year).toList ++ '-' :: ((padded 2 t.date.month).toList ++
    '-' :: (padded 2 t.date.day).toList)) = date at hlength hdate ⊢
  generalize ((padded 2 t.hour).toList ++ ':' :: ((padded 2 t.minute).toList ++
    ':' :: (padded 2 t.second).toList)) = time at htime ⊢
  have hwhole : ⟨⟨t.date.year, t.date.month, t.date.day⟩, t.hour, t.minute, t.second, 0, none⟩ = t := by
    obtain ⟨-, hmicro, hoffset, -⟩ := h
    rw [← hmicro, ← hoffset]
  have hlong : ¬(date ++ ' ' :: time).length < 7 := by
    rw [length_append, hlength]
    omega
  rw [take_left' hlength, drop_left' hlength, if_neg hlong, hdate]
  have hspace : Iso.characterLength ' ' - 1 = 0 := by decide
  simp only [hspace, drop_zero, htime, Option.bind_eq_bind, Option.bind_some, Option.pure_def]
  rw [hwhole, hcheck]
  rfl

lemma readStamp_stamp : Record.readStamp (.text (t.textWith " ")) = .ok (.moment t) := by
  have hne : t.textWith " " ≠ "" := fun heq => absurd (heq ▸ h.dateLength_stamp) (by decide)
  simp [Record.readStamp, Value.truthy, hne, h.ofIso_textWith]

end Moment.Ticks

/-! ## Stamps in the store -/

namespace Store

lemma isGap_of_isDigit {c : Char} (h : c.isDigit) : isGap c = false := by
  by_contra hgap
  simp only [isGap, Bool.not_eq_false, Bool.or_eq_true, beq_iff_eq, Bool.and_eq_true,
    decide_eq_true_eq] at hgap
  simp only [Char.isDigit, Bool.and_eq_true, decide_eq_true_eq] at h
  rcases hgap with rfl | ⟨-, hle⟩
  · exact absurd h.1 (by decide)
  · have hlow : (48 : Nat) ≤ c.val.toNat := h.1
    have hhigh : c.val.toNat ≤ 13 := hle
    omega

lemma shape_scan {d : Char} {ds : Chars} (h : ∀ c ∈ d :: ds, c.isDigit) (rest : Chars) :
    (scan (d :: ds ++ '-' :: rest)).shape = .none := by
  have hd := h d mem_cons_self
  have hskip : (d :: ds ++ '-' :: rest).dropWhile isGap = d :: ds ++ '-' :: rest := by
    rw [cons_append, dropWhile_cons_of_neg (by simp [isGap_of_isDigit hd])]
  have hwhole : (d :: ds ++ '-' :: rest).takeWhile Char.isDigit = d :: ds := by
    rw [takeWhile_append_of_pos h, takeWhile_cons_of_neg (by decide), append_nil]
  have hminus : d ≠ '-' := by
    rintro rfl
    cases hd
  have hplus : d ≠ '+' := by
    rintro rfl
    cases hd
  have hhyphen : isGap '-' = false := by decide
  simp only [cons_append] at hskip hwhole ⊢
  simp [scan, hskip, hminus, hplus, hwhole, hhyphen]

lemma toNumber_stampCell {t : Moment} (h : t.Ticks) : (stampCell t).toNumber = stampCell t := by
  have hyear := h.ranges.widths.1
  obtain ⟨a, b, c, d, heq⟩ := exists_of_padded_four hyear
  have hdigits := digits_of_padded (by decide : 0 < 4) hyear
  have hshape : (scan (t.textWith " ").toList).shape = .none := by
    rw [h.toList_stamp, append_assoc, cons_append]
    rw [heq] at hdigits ⊢
    exact shape_scan hdigits _
  have hnone : Cell.number? (t.textWith " ") = none := by
    simp only [Cell.number?, hshape]
  rw [stampCell, Cell.toNumber, hnone, Option.getD_none]

end Store

/-! ## The order of moments -/

namespace Moment

def Before (t u : Moment) : Prop :=
  t.date.year < u.date.year ∨ t.date.year = u.date.year ∧
    (t.date.month < u.date.month ∨ t.date.month = u.date.month ∧
      (t.date.day < u.date.day ∨ t.date.day = u.date.day ∧
        (t.hour < u.hour ∨ t.hour = u.hour ∧
          (t.minute < u.minute ∨ t.minute = u.minute ∧ t.second < u.second))))

lemma textWith_lt_iff {t u : Moment} (ht : t.Ticks) (hu : u.Ticks) :
    t.textWith " " < u.textWith " " ↔ t.Before u := by
  obtain ⟨hyear, hmonth, hday, hhour, hminute, hsecond⟩ := ht.ranges.widths
  obtain ⟨hyear', hmonth', hday', hhour', hminute', hsecond'⟩ := hu.ranges.widths
  have hlast : (padded 2 t.second).toList ++ [] < (padded 2 u.second).toList ++ [] ↔ _ :=
    padded_append_lt_iff (by decide) hsecond hsecond'
  rw [append_nil, append_nil] at hlast
  rw [String.lt_iff_toList_lt, ht.toList_stamp, hu.toList_stamp]
  simp only [append_assoc, cons_append, cons_lt_cons_self, hlast,
    padded_append_lt_iff (by decide : 0 < 4) hyear hyear',
    padded_append_lt_iff (by decide : 0 < 2) hmonth hmonth',
    padded_append_lt_iff (by decide : 0 < 2) hday hday',
    padded_append_lt_iff (by decide : 0 < 2) hhour hhour',
    padded_append_lt_iff (by decide : 0 < 2) hminute hminute']
  simp [Before]

end Moment

namespace Date

lemma ext_iff {d e : Date} : d = e ↔ d.year = e.year ∧ d.month = e.month ∧ d.day = e.day := by
  simp [← Date.mk.injEq]

def marchYear (d : Date) : Nat := if d.month ≤ 2 then d.year - 1 else d.year

def marchMonth (d : Date) : Nat := if d.month ≤ 2 then d.month + 9 else d.month - 3

def yearDays (year : Nat) : Nat := year * 365 + year / 4 - year / 100 + year / 400

def monthDays (month : Nat) : Nat := (month * 153 + 2) / 5

lemma toDays_eq (d : Date) :
    d.toDays = yearDays d.marchYear + monthDays d.marchMonth + (d.day - 1) :=
  rfl

lemma yearDays_le {y y' : Nat} (h : y ≤ y') : yearDays y ≤ yearDays y' := by
  refine monotone_nat_of_le_succ (fun n => ?_) h
  unfold yearDays
  omega

lemma monthDays_le {m m' : Nat} (h : m ≤ m') : monthDays m ≤ monthDays m' := by
  unfold monthDays
  omega

section

variable {d : Date} (hmonth : 1 ≤ d.month ∧ d.month ≤ 12)
  (hday : 1 ≤ d.day ∧ d.day ≤ daysInMonth d.year d.month)

include hmonth hday

lemma day_lt_month (hfebruary : d.month ≠ 2) :
    monthDays d.marchMonth + (d.day - 1) < monthDays (d.marchMonth + 1) := by
  obtain ⟨year, month, day⟩ := d
  obtain ⟨hleast, hmost⟩ := hmonth
  simp only [marchMonth, monthDays] at *
  interval_cases month <;> simp [daysInMonth] at hday hfebruary ⊢ <;> omega

lemma day_lt_year (hyear : 1 ≤ d.year) :
    yearDays d.marchYear + monthDays d.marchMonth + (d.day - 1) < yearDays (d.marchYear + 1) := by
  have hfull (y : Nat) : yearDays y + 365 ≤ yearDays (y + 1) := by
    unfold yearDays
    omega
  by_cases hfebruary : d.month = 2
  · obtain ⟨year, month, day⟩ := d
    subst hfebruary
    have hleap : isLeap year → yearDays (year - 1) + 366 ≤ yearDays (year - 1 + 1) := by
      simp only [isLeap, Bool.and_eq_true, Bool.or_eq_true, beq_iff_eq, bne_iff_ne]
      unfold yearDays
      intro hleap
      have hyear : 1 ≤ year := hyear
      omega
    have hyears := hfull (year - 1)
    simp only [marchYear, marchMonth, monthDays, daysInMonth] at *
    by_cases h : isLeap year <;> simp [h] at hday hleap ⊢ <;> omega
  · have hlt := day_lt_month hmonth hday hfebruary
    have hmarch : d.marchMonth ≤ 10 := by
      unfold marchMonth
      split <;> omega
    have hle : monthDays (d.marchMonth + 1) ≤ monthDays 11 := monthDays_le (by omega)
    have hyears := hfull d.marchYear
    have hmost : monthDays 11 = 337 := rfl
    omega

end

end Date

namespace Moment

lemma toDays_lt {t u : Moment} (ht : t.Ranges) (hu : u.Ranges)
    (h : t.date.year < u.date.year ∨ t.date.year = u.date.year ∧
      (t.date.month < u.date.month ∨ t.date.month = u.date.month ∧ t.date.day < u.date.day)) :
    t.date.toDays < u.date.toDays := by
  have hmonth := ht.month
  have hmonth' := hu.month
  have hday := ht.day
  have hday' := hu.day
  have hleast := ht.least
  have hleast' := hu.least
  -- The order stays the same when years are counted from March.
  have hmarch : t.date.marchYear < u.date.marchYear ∨ t.date.marchYear = u.date.marchYear ∧
      (t.date.marchMonth < u.date.marchMonth ∨ t.date.marchMonth = u.date.marchMonth ∧
        t.date.day < u.date.day) := by
    unfold Date.marchYear Date.marchMonth
    split <;> split <;> omega
  rw [Date.toDays_eq, Date.toDays_eq]
  rcases hmarch with hyears | ⟨hyears, hmonths | ⟨hmonths, hdays⟩⟩
  · have hlt := Date.day_lt_year hmonth hday (by omega)
    have hle : Date.yearDays (t.date.marchYear + 1) ≤ _ := Date.yearDays_le hyears
    omega
  · have hfebruary : t.date.month ≠ 2 := by
      intro hfebruary
      have hlast : t.date.marchMonth = 11 := by simp [Date.marchMonth, hfebruary]
      have hmost : u.date.marchMonth ≤ 11 := by
        unfold Date.marchMonth
        split <;> omega
      omega
    have hlt := Date.day_lt_month hmonth hday hfebruary
    have hle : Date.monthDays (t.date.marchMonth + 1) ≤ _ := Date.monthDays_le hmonths
    rw [hyears]
    omega
  · rw [hyears, hmonths]
    omega

lemma Before.toSeconds_lt {t u : Moment} (ht : t.Ranges) (hu : u.Ranges) (h : t.Before u) :
    t.toSeconds < u.toSeconds := by
  have hhour := ht.hour
  have hminute := ht.minute
  have hsecond := ht.second
  unfold toSeconds
  by_cases hdate : t.date = u.date
  · simp only [Before, hdate] at h ⊢
    omega
  · have hdays : t.date.toDays < u.date.toDays := by
      refine toDays_lt ht hu ?_
      rw [Date.ext_iff] at hdate
      unfold Before at h
      omega
    omega

lemma toSeconds_lt_iff {t u : Moment} (ht : t.Ticks) (hu : u.Ticks) :
    t.toSeconds < u.toSeconds ↔ t.Before u := by
  refine ⟨fun hlt => ?_, Before.toSeconds_lt ht.ranges hu.ranges⟩
  by_contra hnot
  by_cases hafter : u.Before t
  · have hgt := hafter.toSeconds_lt hu.ranges ht.ranges
    omega
  · have heq : t.toSeconds = u.toSeconds := by
      have hdate : t.date = u.date := by
        rw [Date.ext_iff]
        unfold Before at hnot hafter
        omega
      unfold Before at hnot hafter
      rw [toSeconds, toSeconds, hdate]
      omega
    omega

end Moment

namespace Store

lemma less_stampCell {t u : Moment} (ht : t.Ticks) (hu : u.Ticks) :
    (stampCell t).less (stampCell u) = true ↔ t.toSeconds < u.toSeconds := by
  rw [Moment.toSeconds_lt_iff ht hu, ← Moment.textWith_lt_iff ht hu, stampCell, stampCell,
    Cell.less, decide_eq_true_iff]

/-! ## Stamps of changes -/

namespace Instant

section

variable {year days : Int}

/-- The number of a day that is some days after the start of a year, where both years and days are
    counted from March; the days of March start at 122. -/
def dayNumber (year days : Int) : Int :=
  36525 * (year + 4716) / 100 + days + (2 - year / 100 + year / 100 / 4)

variable (hyear : 1969 ≤ year ∧ year ≤ 9999) (hdays : 123 ≤ days ∧ days ≤ 488)
  (hleap : days = 488 → (year + 1) % 4 = 0 ∧ ((year + 1) % 100 ≠ 0 ∨ (year + 1) % 400 = 0))

include hdays hleap

lemma century_dayNumber :
    (4 * (dayNumber year days - 1524) - 7468865) / 146097 = year / 100 - 4 := by
  have hwhole : 36525 * (year + 4716) / 100 = 365 * (year + 4716) + (year + 4716) / 4 := by omega
  have hleast : 146097 * (year / 100 - 4) ≤ 4 * (dayNumber year days - 1524) - 7468865 := by
    unfold dayNumber
    omega
  have hmost :
      4 * (dayNumber year days - 1524) - 7468865 < 146097 * (year / 100 - 4) + 146097 := by
    unfold dayNumber
    by_cases hlast : days = 488
    · have hleap := hleap hlast
      omega
    · omega
  omega

lemma year_of_days : (20 * (36525 * (year + 4716) / 100 + days) - 2442) / 7305 = year + 4716 := by
  have hwhole : 36525 * (year + 4716) / 100 = 365 * (year + 4716) + (year + 4716) / 4 := by omega
  by_cases hlast : days = 488
  · have hleap := hleap hlast
    omega
  · omega

include hyear

lemma fields_dayNumber {clock : Nat} (hclock : clock < 86400000) :
    fields ⟨(2 * dayNumber year days - 3049) * 43200000 + clock⟩ =
      let e := days * 10000 / 306001
      let month := if e < 14 then e - 1 else e - 13
      { year := if month > 2 then year else year + 1
        month
        day := days - 306001 * e / 10000
        clock } := by
  have hmillis : (2 * dayNumber year days - 3049) * 43200000 + (clock : Int) + 43200000 =
      (dayNumber year days - 1524) * 86400000 + clock := by ring
  have hpositive : 1867217 < dayNumber year days - 1524 := by
    unfold dayNumber
    omega
  have hday : ((dayNumber year days - 1524) * 86400000 + (clock : Int)).tdiv 86400000 =
      dayNumber year days - 1524 := by
    rw [Int.tdiv_eq_ediv_of_nonneg (by omega)]
    omega
  have htime : ((dayNumber year days - 1524) * 86400000 + (clock : Int)).tmod 86400000 = clock := by
    rw [Int.tmod_eq_emod_of_nonneg (by omega)]
    omega
  have hcentury : (4 * (dayNumber year days - 1524) - 7468865).tdiv 146097 = year / 100 - 4 := by
    rw [Int.tdiv_eq_ediv_of_nonneg (by omega), century_dayNumber hdays hleap]
  have hquarter : (year / 100 - 4).tdiv 4 = (year / 100 - 4) / 4 :=
    Int.tdiv_eq_ediv_of_nonneg (by omega)
  have hfull : dayNumber year days - 1524 + 1 + (year / 100 - 4) - (year / 100 - 4) / 4 + 1524 =
      36525 * (year + 4716) / 100 + days := by
    unfold dayNumber
    omega
  have hwhole : (20 * (36525 * (year + 4716) / 100 + days) - 2442).tdiv 7305 = year + 4716 := by
    rw [Int.tdiv_eq_ediv_of_nonneg (by omega), year_of_days hdays hleap]
  have hmask : (year + 4716) % 32768 = year + 4716 := by omega
  have hbefore : (36525 * (year + 4716)).tdiv 100 = 36525 * (year + 4716) / 100 :=
    Int.tdiv_eq_ediv_of_nonneg (by omega)
  have hrest : 36525 * (year + 4716) / 100 + days - 36525 * (year + 4716) / 100 = days := by omega
  have hmonth : (days * 10000).tdiv 306001 = days * 10000 / 306001 :=
    Int.tdiv_eq_ediv_of_nonneg (by omega)
  have hstart : (306001 * (days * 10000 / 306001)).tdiv 10000 =
    306001 * (days * 10000 / 306001) / 10000 := Int.tdiv_eq_ediv_of_nonneg (by omega)
  simp only [fields, dayMillis, hmillis, hday, htime, hcentury, hquarter, hfull, hwhole, hmask,
    hbefore, hrest, hmonth, hstart, Int.toNat_natCast]
  rw [Int.add_sub_cancel, show year + 4716 - 4715 = year + 1 by omega]

end

lemma ofDate?_eq {year month day y m : Int} (hyear : 1970 ≤ year ∧ year ≤ 9999)
    (hmarch : (if month ≤ 2 then (year - 1, month + 12) else (year, month)) = (y, m))
    (hy : 0 ≤ y) (hm : 0 ≤ m) : ofDate? year month day =
      some ⟨(2 * dayNumber y (306001 * (m + 1) / 10000 + day) - 3049) * 43200000⟩ := by
  have hrange : ¬(year < -4713 || year > 9999) = true := by
    simp only [Bool.or_eq_true, decide_eq_true_eq]
    omega
  have hhalf : dayMillis / 2 = 43200000 := by decide
  rw [ofDate?, if_neg hrange, hmarch, hhalf]
  dsimp only
  rw [Int.tdiv_eq_ediv_of_nonneg (by omega), Int.tdiv_eq_ediv_of_nonneg (by omega),
    Int.tdiv_eq_ediv_of_nonneg (by omega), Int.tdiv_eq_ediv_of_nonneg (by omega), dayNumber]
  simp only [Int.add_assoc]

lemma days_le {year month day : Nat} (hmonth : 1 ≤ month ∧ month ≤ 12)
    (hday : 1 ≤ day ∧ day ≤ daysInMonth year month) {m : Int}
    (hm : m = if month ≤ 2 then (month : Int) + 12 else month) :
    (m ≠ 14 → 306001 * (m + 1) / 10000 + day ≤ 306001 * (m + 2) / 10000) ∧
      (m = 14 → day ≤ 29 ∧ (day = 29 → isLeap year)) := by
  obtain ⟨hleast, hmost⟩ := hmonth
  interval_cases month <;> simp [daysInMonth] at hday ⊢ <;> try omega
  by_cases hleap : isLeap year <;> simp [hleap] at hday ⊢ <;> omega

lemma month_of_days {m day : Int} (hm : 3 ≤ m ∧ m ≤ 14) (hday : 1 ≤ day)
    (hinner : m ≠ 14 → 306001 * (m + 1) / 10000 + day ≤ 306001 * (m + 2) / 10000)
    (hlast : m = 14 → day ≤ 29) : (306001 * (m + 1) / 10000 + day) * 10000 / 306001 = m + 1 := by
  obtain ⟨hleast, hmost⟩ := hm
  interval_cases m <;> omega

lemma fields_ofMoment {t : Moment} (h : t.Ranges) : (ofMoment t).fields =
    ⟨t.date.year, t.date.month, t.date.day, (t.hour * 3600 + t.minute * 60 + t.second) * 1000⟩ := by
  obtain ⟨⟨year, month, day⟩, hour, minute, second, micro, offset⟩ := t
  obtain ⟨hleast, hmost, hmonth, hday, hhour, hminute, hsecond⟩ := h
  dsimp only at *
  obtain ⟨y, hy⟩ : ∃ y : Int, y = if month ≤ 2 then (year : Int) - 1 else year := ⟨_, rfl⟩
  obtain ⟨m, hm⟩ : ∃ m : Int, m = if month ≤ 2 then (month : Int) + 12 else month := ⟨_, rfl⟩
  obtain ⟨hinner, hlast⟩ := days_le hmonth hday hm
  have hmarch : (if (month : Int) ≤ 2 then ((year : Int) - 1, (month : Int) + 12)
      else ((year : Int), (month : Int))) = (y, m) := by
    rw [hy, hm]
    split <;> split <;> first | rfl | omega
  have hm' : 3 ≤ m ∧ m ≤ 14 := by
    split at hm <;> omega
  have hy' : 1969 ≤ y ∧ y ≤ 9999 := by
    split at hy <;> omega
  have hdays : 123 ≤ 306001 * (m + 1) / 10000 + (day : Int) ∧
      306001 * (m + 1) / 10000 + (day : Int) ≤ 488 := by
    by_cases hfebruary : m = 14
    · have hend := hlast hfebruary
      omega
    · have hend := hinner hfebruary
      omega
  have hleap : 306001 * (m + 1) / 10000 + (day : Int) = 488 →
      (y + 1) % 4 = 0 ∧ ((y + 1) % 100 ≠ 0 ∨ (y + 1) % 400 = 0) := by
    intro hend
    have hfebruary : m = 14 := by
      by_contra hother
      have hbound := hinner hother
      omega
    obtain ⟨-, hleap⟩ := hlast hfebruary
    have hleap := hleap (by omega)
    simp only [isLeap, Bool.and_eq_true, Bool.or_eq_true, beq_iff_eq, bne_iff_ne] at hleap
    have hyear : y + 1 = year := by
      split at hm <;> split at hy <;> omega
    omega
  have hmonths := month_of_days hm' (by omega) hinner fun h => by have := hlast h; omega
  have hclock : ((hour * 3600 + minute * 60 + second : Nat) : Int) * 1000 =
      (((hour * 3600 + minute * 60 + second) * 1000 : Nat) : Int) := by
    push_cast
    ring
  rw [ofMoment, ofDate?_eq (by omega) hmarch (by omega) (by omega), Option.getD_some]
  rw [hclock, fields_dayNumber hy' hdays hleap (by omega)]
  dsimp only
  have hmonth' : (if m + 1 < 14 then m + 1 - 1 else m + 1 - 13) = (month : Int) := by
    split at hm <;> split <;> omega
  have hyear : (if (month : Int) > 2 then y else y + 1) = (year : Int) := by
    split at hy <;> split <;> omega
  rw [hmonths, hmonth', hyear, add_sub_cancel_left]

lemma paddedInt_natCast (width n : Nat) : paddedInt width n = padded width n :=
  if_neg (Int.not_lt.2 (Int.natCast_nonneg n))

lemma stampText_ofMoment {t : Moment} (h : t.Ticks) :
    (ofMoment t).stampText = t.textWith " " := by
  have hhour := h.ranges.hour
  have hminute := h.ranges.minute
  have hsecond := h.ranges.second
  have htime : (t.hour * 3600 + t.minute * 60 + t.second) * 1000 / 1000 =
    t.hour * 3600 + t.minute * 60 + t.second := by omega
  have hh : (t.hour * 3600 + t.minute * 60 + t.second) / 3600 = t.hour :=
    Nat.div_eq_of_lt_le (by omega) (by omega)
  have hm : (t.hour * 3600 + t.minute * 60 + t.second) / 60 % 60 = t.minute := by omega
  have hs : (t.hour * 3600 + t.minute * 60 + t.second) % 60 = t.second := by omega
  have hwhole (s : String) : toString s = s := rfl
  rw [stampText, dateText, timeText, fields_ofMoment h.ranges]
  simp [htime, hh, hm, hs, Moment.textWith, Date.text, paddedInt_natCast, h.micro, h.offset, hwhole,
    String.append_assoc]

end Instant

end Store

end Huntbook
