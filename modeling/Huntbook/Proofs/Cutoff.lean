import Huntbook.Proofs.Pages

/-!
# Old conversions

Conversions from more than a number of days ago are deleted. The limit is a text, which is compared
with the stamps as texts are: this is the order of moments, also for a limit before 1970.

* `deleteOld_exact`: what is deleted.
-/

namespace Huntbook

open List

/-! ## Days back -/

namespace Date

def dayBefore (d : Date) : Date :=
  if d.day ≠ 1 then ⟨d.year, d.month, d.day - 1⟩
  else if d.month ≠ 1 then ⟨d.year, d.month - 1, daysInMonth d.year (d.month - 1)⟩
  else ⟨d.year - 1, 12, 31⟩

lemma yearDays_succ (y : Nat) :
    yearDays y + monthDays 11 + daysInMonth (y + 1) 2 = yearDays (y + 1) := by
  have hmonths : monthDays 11 = 337 := rfl
  have hdays : daysInMonth (y + 1) 2 = if isLeap (y + 1) then 29 else 28 := rfl
  have hle : y / 100 ≤ y / 4 := Nat.div_le_div_left (by decide) (by decide)
  have h100 : (y + 1) % 100 = 0 → (y + 1) % 4 = 0 := by omega
  have h400 : (y + 1) % 400 = 0 → (y + 1) % 100 = 0 := by omega
  rw [hmonths, hdays, yearDays, yearDays, Nat.succ_div, Nat.succ_div, Nat.succ_div]
  simp only [Nat.dvd_iff_mod_eq_zero, isLeap, Bool.and_eq_true, Bool.or_eq_true, beq_iff_eq,
    bne_iff_ne]
  generalize y / 4 = a, y / 100 = b, y / 400 = c at hle ⊢
  by_cases hfour : (y + 1) % 4 = 0 <;> by_cases hhundred : (y + 1) % 100 = 0 <;>
    by_cases hall : (y + 1) % 400 = 0 <;> simp_all <;> omega

lemma dayBefore_spec {d : Date} (hyear : 1 ≤ d.year) (hmonth : 1 ≤ d.month ∧ d.month ≤ 12)
    (hday : 1 ≤ d.day ∧ d.day ≤ daysInMonth d.year d.month) :
    d.dayBefore.toDays + 1 = d.toDays ∧ (1 ≤ d.dayBefore.month ∧ d.dayBefore.month ≤ 12) ∧
      1 ≤ d.dayBefore.day ∧ d.dayBefore.day ≤ daysInMonth d.dayBefore.year d.dayBefore.month := by
  obtain ⟨year, month, day⟩ := d
  obtain ⟨hleast, hmost⟩ := hmonth
  dsimp only at *
  by_cases hfirst : day = 1
  · subst hfirst
    rw [toDays_eq, toDays_eq]
    by_cases hmarch : month = 3
    · subst hmarch
      obtain ⟨y, rfl⟩ := Nat.exists_eq_add_of_le' hyear
      have hyears := yearDays_succ y
      have hdays : daysInMonth (y + 1) 2 = if isLeap (y + 1) then 29 else 28 := rfl
      simp only [dayBefore, marchYear, marchMonth]
      split at hdays <;> simp [monthDays] at hyears ⊢ <;> omega
    · interval_cases month <;>
        simp [dayBefore, marchYear, marchMonth, monthDays, daysInMonth] at hmarch ⊢
  · simp only [dayBefore, hfirst, toDays, ne_eq, not_false_eq_true, if_true]
    omega

end Date

namespace Moment

variable {t : Moment}

lemma Ranges.check (h : t.Ranges) : t.check = .ok t := by
  have hyear := h.year
  have hleast := h.least
  have hmonth := h.month
  have hday := h.day
  have hdate : t.date.check = .ok t.date := by
    rw [Date.check, if_neg (by simp; omega), if_neg (by simp; omega), if_neg (by simp; omega)]
  rw [Moment.check, hdate, ok_bind, if_neg (by have := h.hour; omega),
    if_neg (by have := h.minute; omega), if_neg (by have := h.second; omega)]

def epochDays : Nat := 719468

lemma Ranges.epochDays_le (h : t.Ranges) : epochDays ≤ t.date.toDays := by
  have hleast := h.least
  have hmonth := h.month
  have hstart : epochDays = Date.yearDays 1969 + Date.monthDays 10 := rfl
  have hnext : epochDays ≤ Date.yearDays 1970 := by decide
  rw [Date.toDays_eq, Date.marchYear, Date.marchMonth]
  split
  · have hyears : Date.yearDays 1969 ≤ _ := Date.yearDays_le (by omega : 1969 ≤ t.date.year - 1)
    have hmonths : Date.monthDays 10 ≤ _ := Date.monthDays_le (by omega : 10 ≤ t.date.month + 9)
    omega
  · have hyears : Date.yearDays 1970 ≤ _ := Date.yearDays_le hleast
    omega

lemma Ranges.toDays_le (h : t.Ranges) : t.date.toDays ≤ 3652364 := by
  have hyear := h.year
  have hmonth := h.month
  have hday := h.day.2.trans (daysInMonth_le _ _)
  rw [Date.toDays_eq, Date.marchYear, Date.marchMonth]
  split
  · have hyears := Date.yearDays_le (by omega : t.date.year - 1 ≤ 9998)
    have hmonths := Date.monthDays_le (by omega : t.date.month + 9 ≤ 11)
    have hmost : Date.yearDays 9998 + Date.monthDays 11 + 31 ≤ 3652364 := by decide
    omega
  · have hyears := Date.yearDays_le (by omega : t.date.year ≤ 9999)
    have hmonths := Date.monthDays_le (by omega : t.date.month - 3 ≤ 9)
    have hmost : Date.yearDays 9999 + Date.monthDays 9 + 31 ≤ 3652365 := by decide
    omega

lemma Ticks.exists_dayBefore (h : t.Ticks) (hlater : epochDays < t.date.toDays) :
    ∃ u : Moment, u.Ticks ∧ u.toSeconds + 86400 = t.toSeconds := by
  have hranges := h.ranges
  have hleast := hranges.least
  obtain ⟨hdays, hmonth, hday⟩ := Date.dayBefore_spec (by omega) hranges.month hranges.day
  have hyear : 1970 ≤ t.date.dayBefore.year ∧ t.date.dayBefore.year ≤ t.date.year := by
    unfold Date.dayBefore
    split
    · exact ⟨hleast, le_rfl⟩
    · split
      · exact ⟨hleast, le_rfl⟩
      · refine ⟨?_, Nat.sub_le _ _⟩
        by_contra hyear
        have hdate : t.date = ⟨1970, 1, 1⟩ := by
          rw [Date.ext_iff]
          dsimp only at hyear ⊢
          omega
        rw [hdate] at hlater
        exact absurd hlater (by decide)
  have hu : Ranges { t with date := t.date.dayBefore } :=
    ⟨hyear.1, hyear.2.trans hranges.year, hmonth, hday, hranges.hour, hranges.minute, hranges.second⟩
  refine ⟨{ t with date := t.date.dayBefore }, ⟨hu.check, h.micro, h.offset, hyear.1⟩, ?_⟩
  unfold toSeconds
  dsimp only
  omega

lemma Ticks.exists_daysBefore (h : t.Ticks) (d : Nat)
    (hd : epochDays * 86400 + d * 86400 ≤ t.toSeconds) :
    ∃ u : Moment, u.Ticks ∧ u.toSeconds + d * 86400 = t.toSeconds := by
  induction d with
  | zero => exact ⟨t, h, by rw [Nat.zero_mul, Nat.add_zero]⟩
  | succ d ih =>
    obtain ⟨u, hu, heq⟩ := ih (le_trans (by gcongr; exact Nat.le_succ d) hd)
    have hranges := hu.ranges
    have hclock : u.toSeconds < (u.date.toDays + 1) * 86400 := by
      have hhour := hranges.hour
      have hminute := hranges.minute
      have hsecond := hranges.second
      unfold toSeconds
      omega
    have hlater : epochDays < u.date.toDays := by
      omega
    obtain ⟨v, hv, heq'⟩ := hu.exists_dayBefore hlater
    exact ⟨v, hv, by omega⟩

end Moment

namespace Store.Instant

def origin : Int := 3442239 * 43200000

lemma dayNumber_eq (y m : Nat) (day : Int) (hm : 3 ≤ m ∧ m ≤ 14) :
    dayNumber y (306001 * (m + 1) / 10000 + day) =
      Date.yearDays y + Date.monthDays (m - 3) + day + 1722643 := by
  have hmonths : 306001 * ((m : Int) + 1) / 10000 = Date.monthDays (m - 3) + 122 := by
    obtain ⟨hleast, hmost⟩ := hm
    interval_cases m <;> rfl
  have hwhole : 36525 * ((y : Int) + 4716) / 100 = 365 * y + y / 4 + 1722519 := by omega
  have hyears : (Date.yearDays y : Int) = 365 * y + y / 4 - y / 100 + y / 400 := by
    unfold Date.yearDays
    omega
  rw [dayNumber, hmonths, hwhole, hyears]
  omega

lemma millis_ofMoment {t : Moment} (h : t.Ranges) :
    (ofMoment t).millis = 1000 * t.toSeconds + origin := by
  obtain ⟨⟨year, month, day⟩, hour, minute, second, micro, offset⟩ := t
  obtain ⟨hleast, hmost, hmonth, hday, -, -, -⟩ := h
  dsimp only at *
  obtain ⟨y, m, hy, hm, hdays⟩ : ∃ y m : Nat, y = (Date.mk year month day).marchYear ∧
      m = (Date.mk year month day).marchMonth + 3 ∧ 3 ≤ m ∧ m ≤ 14 := by
    refine ⟨_, _, rfl, rfl, ?_⟩
    unfold Date.marchMonth
    dsimp only
    split <;> omega
  have hmarch : (if (month : Int) ≤ 2 then ((year : Int) - 1, (month : Int) + 12)
      else ((year : Int), (month : Int))) = ((y : Int), (m : Int)) := by
    rw [hy, hm, Date.marchYear, Date.marchMonth]
    dsimp only
    split <;> split <;> simp <;> omega
  rw [ofMoment, ofDate?_eq (by omega) hmarch (by omega) (by omega), Option.getD_some,
    dayNumber_eq y m day hdays, Moment.toSeconds, Date.toDays_eq, ← hy, hm, Nat.add_sub_cancel]
  dsimp only [origin]
  omega

lemma isValid_ofMoment {t : Moment} (h : t.Ranges) : (ofMoment t).isValid := by
  have hdays := h.toDays_le
  have hhour := h.hour
  have hminute := h.minute
  have hsecond := h.second
  have horigin : origin = 148704724800000 := rfl
  rw [isValid, millis_ofMoment h, horigin, Moment.toSeconds, Bool.and_eq_true, decide_eq_true_eq,
    decide_eq_true_eq]
  omega

lemma year_fields_lt {i : Instant} (hleast : 0 ≤ i.millis)
    (h : i.millis < 1000 * (Moment.epochDays * 86400) + origin) : i.fields.year < 1970 := by
  have hz : (i.millis + 43200000).tdiv dayMillis = (i.millis + 43200000) / 86400000 :=
    Int.tdiv_eq_ediv_of_nonneg (by omega)
  have hmost : (i.millis + 43200000) / 86400000 ≤ 2440587 := by
    simp [Moment.epochDays, origin] at h
    omega
  have hz' : 0 ≤ (i.millis + 43200000) / 86400000 := by omega
  simp only [fields, hz]
  generalize (i.millis + 43200000) / 86400000 = z at hmost hz'
  have hcentury : -52 ≤ (4 * z - 7468865).tdiv 146097 - ((4 * z - 7468865).tdiv 146097).tdiv 4 ∧
      (4 * z - 7468865).tdiv 146097 - ((4 * z - 7468865).tdiv 146097).tdiv 4 ≤ 12 := by
    rcases Int.le_total 0 (4 * z - 7468865) with hsign | hsign
    · rw [Int.tdiv_eq_ediv_of_nonneg hsign, Int.tdiv_eq_ediv_of_nonneg (by omega)]
      omega
    · obtain ⟨n, hn⟩ : ∃ n, 4 * z - 7468865 = -n := ⟨_, (Int.neg_neg _).symm⟩
      rw [hn, Int.neg_tdiv, Int.neg_tdiv, Int.tdiv_eq_ediv_of_nonneg (by omega),
        Int.tdiv_eq_ediv_of_nonneg (by omega)]
      omega
  generalize hb : z + 1 + (4 * z - 7468865).tdiv 146097 -
    ((4 * z - 7468865).tdiv 146097).tdiv 4 + 1524 = b
  rw [Int.tdiv_eq_ediv_of_nonneg (by omega : 0 ≤ 20 * b - 2442)]
  by_cases hlast : (20 * b - 2442) / 7305 = 6685
  · have he : 4 ≤ ((b - 2441696) * 10000).tdiv 306001 ∧ ((b - 2441696) * 10000).tdiv 306001 < 14 := by
      rw [Int.tdiv_eq_ediv_of_nonneg (by omega)]
      omega
    have hd : (36525 * ((6685 : Int) % 32768)).tdiv 100 = 2441696 := by decide
    rw [hlast, hd, if_pos he.2, if_pos (by omega)]
    decide
  · split <;> omega

end Store.Instant

namespace Store

/-! ## The limit -/

/-- A stamp before 1970 comes before every later one, also if its year is negative. -/
lemma Instant.stampText_lt {i : Instant} (hi : i.fields.year < 1970) {t : Moment}
    (ht : t.Ticks) : i.stampText < t.textWith " " := by
  have hyear := ht.ranges.widths.1
  have hleast := ht.ranges.least
  have htext : i.stampText = paddedInt 4 i.fields.year ++ ("-" ++ paddedInt 2 i.fields.month ++
      "-" ++ paddedInt 2 i.fields.day ++ " " ++ i.timeText) := by
    simp [stampText, dateText, String.append_assoc, toString]
  rw [String.lt_iff_toList_lt, ht.toList_stamp, append_assoc, htext, String.toList_append]
  by_cases hneg : i.fields.year < 0
  · obtain ⟨a, b, c, d, heq⟩ := exists_of_padded_four hyear
    have hdigit := digits_of_padded (by decide : 0 < 4) hyear a (heq ▸ mem_cons_self)
    rw [paddedInt, if_pos hneg, String.toList_append, heq]
    refine cons_lt_cons_iff.2 (.inl ?_)
    simp only [Char.isDigit, Bool.and_eq_true, decide_eq_true_eq] at hdigit
    exact lt_of_lt_of_le (by decide : '-' < '0') hdigit.1
  · obtain ⟨n, hn⟩ := Int.eq_ofNat_of_zero_le (Int.not_lt.1 hneg)
    rw [hn, paddedInt_natCast]
    exact (padded_append_lt_iff (by decide) (by omega) hyear).2 (.inl (by omega))

lemma Digits.count_foldl_before (cs : Chars) (d : Digits) :
    d.count ≤ (cs.foldl Digits.before d).count := by
  induction cs generalizing d with
  | nil => exact le_rfl
  | cons c cs ih =>
    refine le_trans ?_ (ih _)
    unfold Digits.before
    split
    · exact le_rfl
    · exact Nat.le_succ _

section

open Search.Reader (isDigit_of_mem_digits)

variable (d : Nat)

lemma shape_scan_neg : (scan ('-' :: Nat.toDigits 10 d)).shape = .whole := by
  have hcount : (foldl Digits.before {} (Nat.toDigits 10 d)).count ≠ 0 := by
    cases hcs : Nat.toDigits 10 d with
    | nil => exact absurd hcs Nat.toDigits_ne_nil
    | cons c cs => exact Nat.ne_of_gt (Digits.count_foldl_before cs (Digits.before {} c))
  have hgap : isGap '-' = false := by decide
  simp [scan, dropWhile_cons_of_neg, hgap, takeWhile_eq_self_iff.2 fun _ => isDigit_of_mem_digits,
    hcount]

variable {d} (hd : d < 2 ^ 63)

include hd

lemma wholeStart_neg : (wholeStart ('-' :: Nat.toDigits 10 d)).value = -d := by
  have hgap : isGap '-' = false := by decide
  simp [wholeStart, dropWhile_cons_of_neg, hgap,
    takeWhile_eq_self_iff.2 fun _ => isDigit_of_mem_digits, Json.natOf_toDigits, leastInt, greatestInt]
  omega

namespace Instant

variable (i : Instant)

lemma moved?_days : i.moved? ('-' :: (Nat.toDigits 10 d ++ " days".toList)) =
    if d < 5373485 then some ⟨i.millis - d * dayMillis⟩ else none := by
  have hhead : ∀ c ∈ Nat.toDigits 10 d, (c != ':' && !isGap c) = true := by
    intro c hc
    have hdigit := isDigit_of_mem_digits hc
    rw [isGap_of_isDigit hdigit, Bool.and_eq_true, bne_iff_ne]
    refine ⟨?_, rfl⟩
    rintro rfl
    cases hdigit
  have hends : (" days".toList.takeWhile fun c => c != ':' && !isGap c) = [] := by decide
  have hname : (" days".toList.dropWhile isGap).map Char.toLower = "days".toList := by decide
  have hsize : (String.ofList "days".toList).utf8ByteSize = 4 := by decide
  have hday : String.ofList (if ("days".toList.getLast? == some 's') = true
      then "days".toList.dropLast else "days".toList) = "day" := by decide
  have hunit : units.lookup "day" = some (5373485, 86400) := by decide
  have hmillis : i.millis + -d * 1000 * 86400 = i.millis - d * dayMillis := by
    unfold dayMillis
    omega
  simp only [moved?, take_succ_cons, take_zero, drop_succ_cons, drop_zero,
    takeWhile_append_of_pos hhead, hends, append_nil, singleton_append, length_cons, drop_left,
    hname, shape_scan_neg, wholeStart_neg hd]
  rw [hsize, if_neg (by decide), hday, hunit, ← hmillis]
  refine if_congr ?_ rfl rfl
  rw [Bool.and_eq_true, decide_eq_true_eq, decide_eq_true_eq]
  omega

lemma modify?_days (hi : i.isValid) : i.modify? ("-" ++ toString (d : Int) ++ " days") =
    if d < 5373485 then some ⟨i.millis - d * dayMillis⟩ else none := by
  have hlist : ("-" ++ toString (d : Int) ++ " days").toList =
      '-' :: (Nat.toDigits 10 d ++ " days".toList) := by
    rw [String.toList_append, String.toList_append, Json.toList_toString]
    rfl
  have hnull : ('-' :: (Nat.toDigits 10 d ++ " days".toList)).takeWhile (· != '\x00') =
      '-' :: (Nat.toDigits 10 d ++ " days".toList) := by
    rw [takeWhile_eq_self_iff]
    refine forall_mem_cons.2 ⟨by decide, forall_mem_append.2 ⟨fun c hc => ?_, by decide⟩⟩
    rw [bne_iff_ne]
    rintro rfl
    cases isDigit_of_mem_digits hc
  have hword : ["localtime", "utc"].contains
      (String.ofList ('-' :: (Nat.toDigits 10 d ++ " days".toList))).toLower = false := by
    simp [← String.toList_inj, String.toLower, String.toList_map]
  simp only [modify?, hlist, hnull, hword, hi, i.moved?_days hd, Bool.false_eq_true, if_false]
  rfl

end Instant

/-! ## What is removed -/

section

open Instant

variable {now t : Moment} (hnow : now.Ticks) (ht : t.Ticks)

include hnow

lemma daysBefore?_int : daysBefore? now (.int d) =
    if d < 5373485 ∧ (Instant.mk ((ofMoment now).millis - d * dayMillis)).isValid
    then some ⟨(ofMoment now).millis - d * dayMillis⟩ else none := by
  show resolve? (ofMoment now) ["-" ++ toString (d : Int) ++ " days"] = _
  rw [resolve?, foldlM_cons, modify?_days hd _ (isValid_ofMoment hnow.ranges)]
  by_cases hbound : d < 5373485 <;> simp [hbound]

include ht

lemma outdated_iff {r : Row} (hr : r.get "created_at" = stampCell t) :
    outdated now (.int d) r = true ↔ t.toSeconds + d * 86400 < now.toSeconds := by
  have hmillis := millis_ofMoment hnow.ranges
  have hseconds : Moment.epochDays * 86400 ≤ t.toSeconds :=
    le_trans (Nat.mul_le_mul_right _ ht.ranges.epochDays_le) (by
      unfold Moment.toSeconds
      omega)
  rw [outdated, daysBefore?_int hd hnow, hr]
  by_cases hepoch : Moment.epochDays * 86400 + d * 86400 ≤ now.toSeconds
  · obtain ⟨u, hu, heq⟩ := hnow.exists_daysBefore d hepoch
    have hlimit : Instant.mk ((ofMoment now).millis - d * dayMillis) = ofMoment u := by
      rw [Instant.mk.injEq, hmillis, millis_ofMoment hu.ranges, dayMillis]
      omega
    have hbound : d < 5373485 := by
      have hvalid := isValid_ofMoment hnow.ranges
      have horigin : (0 : Int) ≤ origin := by decide
      rw [isValid, hmillis, Bool.and_eq_true, decide_eq_true_eq, decide_eq_true_eq] at hvalid
      omega
    have hless := less_stampCell ht hu
    rw [hlimit, if_pos ⟨hbound, isValid_ofMoment hu.ranges⟩, Option.map_some, stampText_ofMoment hu]
    dsimp only
    have hnull : (stampCell t).isNull = false := rfl
    rw [← stampCell, hnull, Bool.not_false, Bool.true_and, hless]
    omega
  · refine iff_of_false ?_ (by omega)
    split
    · rename_i limit hlimit
      obtain ⟨i, hi, rfl⟩ := Option.map_eq_some_iff.1 hlimit
      obtain ⟨⟨-, hvalid⟩, hi⟩ := Option.ite_none_right_eq_some.1 hi
      cases hi
      rw [isValid, Bool.and_eq_true, decide_eq_true_eq] at hvalid
      have hearly := stampText_lt (year_fields_lt hvalid.1 (by
        dsimp only [dayMillis]
        omega)) ht
      rw [stampCell, Cell.less, Bool.and_eq_true, decide_eq_true_eq]
      exact fun h => absurd h.2 (not_lt_of_gt hearly)
    · exact Bool.false_ne_true

end

end

def Row.noted? (r : Row) : Option Moment :=
  match Record.readStamp (r.value "created_at") with
  | .ok (.moment t) => some t
  | _ => none

def Row.older (now : Moment) (days : Nat) (r : Row) : Bool :=
  r.noted?.any fun t => t.toSeconds + days * 86400 < now.toSeconds

def Stamped (s : Store) : Prop :=
  ∀ r ∈ s.conversions.rows, ∃ t : Moment, t.Ticks ∧ r.get "created_at" = stampCell t

section

variable {s : Store} {now : Moment}

lemma Row.older_of_le {r : Row} {d₁ d₂ : Nat} (h : d₁ ≤ d₂) (hr : r.older now d₂) :
    r.older now d₁ := by
  obtain ⟨t, ht, hlt⟩ := (Option.any_eq_true _ _).1 hr
  refine (Option.any_eq_true _ _).2 ⟨t, ht, ?_⟩
  rw [decide_eq_true_eq] at hlt ⊢
  exact lt_of_le_of_lt (by gcongr) hlt

lemma Row.older_min (r : Row) (d₁ d₂ : Nat) :
    r.older now (min d₁ d₂) = (r.older now d₁ || r.older now d₂) := by
  rw [Bool.eq_iff_iff, Bool.or_eq_true]
  rcases Nat.le_total d₁ d₂ with h | h
  · rw [Nat.min_eq_left h]
    exact ⟨.inl, fun hr => hr.elim (fun hr => hr) (older_of_le h)⟩
  · rw [Nat.min_eq_right h]
    exact ⟨.inr, fun hr => hr.elim (older_of_le h) fun hr => hr⟩

lemma run_deleteOld (hnow : now.Ticks) (hs : s.Stamped) {d : Nat} (hd : d < 2 ^ 63) :
    (deleteOld now (.int d)).run.run s = (.ok (s.conversions.rows.filter (·.older now d)).length,
      { s with conversions := { s.conversions with
        rows := s.conversions.rows.filter (!·.older now d) } }) := by
  have hbound : bound (.int d) = .ok (.int d) := bound_int ⟨by unfold leastInt; omega, by
    unfold greatestInt
    omega⟩
  have holder : ∀ r ∈ s.conversions.rows, outdated now (.int d) r = r.older now d := by
    intro r hr
    obtain ⟨t, ht, hget⟩ := hs r hr
    have hnoted : r.noted? = some t := by
      rw [Row.noted?, Row.value, hget, stampCell, Cell.toValue, ht.readStamp_stamp]
    rw [Bool.eq_iff_iff, outdated_iff hd hnow ht hget, Row.older, hnoted, Option.any_some,
      decide_eq_true_eq]
  have hrun : (deleteOld now (.int d)).run.run s =
      (.ok (s.conversions.erase (outdated now (.int d))).1,
        s.put .conversions (s.conversions.erase (outdated now (.int d))).2) := by
    rw [deleteOld, run_change, hbound]
    rfl
  have hkept : s.conversions.rows.filter (!outdated now (.int d) ·) =
      s.conversions.rows.filter (!·.older now d) :=
    filter_congr fun r hr => congrArg _ (holder r hr)
  rw [hrun, Table.erase, filter_congr holder, hkept]
  rfl

/-- Just the conversions of more than so many days ago go. More days keep more; of two calls the one
    with fewer days counts. -/
theorem deleteOld_exact (hnow : now.Ticks) (hs : s.Stamped) :
    (∀ d : Nat, d < 2 ^ 63 → (deleteOld now (.int d)).run.run s =
      (.ok (s.conversions.rows.filter (·.older now d)).length,
        { s with conversions := { s.conversions with
          rows := s.conversions.rows.filter (!·.older now d) } })) ∧
    (∀ d₁ d₂ : Nat, d₁ ≤ d₂ → d₂ < 2 ^ 63 →
      ∀ r ∈ ((deleteOld now (.int d₁)).run.run s).2.conversions.rows,
        r ∈ ((deleteOld now (.int d₂)).run.run s).2.conversions.rows) ∧
    ∀ d₁ d₂ : Nat, d₁ < 2 ^ 63 → d₂ < 2 ^ 63 →
      ((deleteOld now (.int d₂)).run.run ((deleteOld now (.int d₁)).run.run s).2).2 =
        ((deleteOld now (.int (min d₁ d₂ : Nat))).run.run s).2 := by
  refine ⟨fun d hd => run_deleteOld hnow hs hd, fun d₁ d₂ hle hd r hr => ?_,
    fun d₁ d₂ hd₁ hd₂ => ?_⟩
  · rw [run_deleteOld hnow hs (by omega)] at hr
    rw [run_deleteOld hnow hs hd]
    obtain ⟨hmem, hr⟩ := mem_filter.1 hr
    refine mem_filter.2 ⟨hmem, ?_⟩
    rw [Bool.not_eq_true'] at hr ⊢
    exact Bool.eq_false_iff.2 fun h => Bool.eq_false_iff.1 hr (Row.older_of_le hle h)
  · have hkept : Stamped { s with conversions := { s.conversions with
        rows := s.conversions.rows.filter (!·.older now d₁) } } :=
      fun r hr => hs r (mem_of_mem_filter hr)
    have hboth : ((s.conversions.rows.filter (!·.older now d₁)).filter (!·.older now d₂)) =
        s.conversions.rows.filter (!·.older now (min d₁ d₂)) := by
      rw [filter_filter]
      refine filter_congr fun r _ => ?_
      rw [Row.older_min, Bool.not_or, Bool.and_comm]
    rw [run_deleteOld hnow hs hd₁, run_deleteOld hnow hs (lt_of_le_of_lt (Nat.min_le_left _ _) hd₁),
      run_deleteOld hnow hkept hd₂, ← hboth]

def februaryNotes : Store :=
  { empty with conversions := { empty.conversions with
    rows := [⟨1, [("created_at", stampCell ⟨⟨2024, 2, 28⟩, 23, 59, 59, 0, none⟩)]⟩,
      ⟨2, [("created_at", stampCell ⟨⟨2024, 2, 29⟩, 0, 0, 0, 0, none⟩)]⟩] } }

def marchStart : Moment := ⟨⟨2024, 3, 1⟩, 0, 0, 0, 0, none⟩

theorem deleteOld_februaryNotes : marchStart.Ticks ∧ februaryNotes.Stamped ∧
    ∃ s', (deleteOld marchStart (.int 1)).run.run februaryNotes = (.ok 1, s') ∧
      s'.conversions.rows = februaryNotes.conversions.rows.drop 1 := by
  have hnow : marchStart.Ticks := ⟨by decide, rfl, rfl, by decide⟩
  have hs : februaryNotes.Stamped :=
    forall_mem_cons.2 ⟨⟨_, ⟨by decide, rfl, rfl, by decide⟩, rfl⟩,
      forall_mem_singleton.2 ⟨_, ⟨by decide, rfl, rfl, by decide⟩, rfl⟩⟩
  have holder : februaryNotes.conversions.rows.map (Row.older marchStart 1) = [true, false] := by
    decide +kernel
  obtain ⟨hfirst, hsecond⟩ := cons_eq_cons.1 holder
  replace hsecond := (cons_eq_cons.1 hsecond).1
  have hkept : februaryNotes.conversions.rows.filter (!·.older marchStart 1) =
      februaryNotes.conversions.rows.drop 1 := by
    rw [februaryNotes, filter_cons_of_neg (by simp [hfirst]), filter_cons_of_pos (by simp [hsecond])]
    rfl
  have hrun := (deleteOld_exact hnow hs).1 1 (by decide)
  refine ⟨hnow, hs, _, hrun.trans (Prod.ext (congrArg _ ?_) rfl), ?_⟩
  · rw [februaryNotes, filter_cons_of_pos hfirst, filter_cons_of_neg (by simp [hsecond])]
    rfl
  · exact hkept

end

end Store

end Huntbook
