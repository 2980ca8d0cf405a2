import OpenshiftAcme.Json.Encoder

/-!
This module contains the part of Go's `time` package that `encoding/json` calls on a `time.Time`,
as of Go 1.13: `Time.MarshalJSON`, which writes the time in the RFC 3339 layout with nanoseconds
between quotes, and `Time.UnmarshalJSON`, which gives the text of the JSON value, quotes included,
to `time.Parse` with the layout `"2006-01-02T15:04:05Z07:00"`. A time is an instant in Unix
nanoseconds and is written in UTC. The calendar is the proleptic Gregorian one of `absDate` and
`Date`; the model finds the year of a day by its 400-, 100- and 4-year cycles, as `absDate` does,
and counts the days before a date in closed form.
-/

namespace OpenshiftAcme.Time

open OpenshiftAcme.Json

/-! ## The calendar -/

def isLeap (year : Int) : Bool :=
  year % 4 = 0 && (year % 100 ≠ 0 || year % 400 = 0)

def yearDays (year : Int) : Nat :=
  if isLeap year then 366 else 365

def daysBeforeYear (year : Nat) : Nat :=
  365 * year + (year + 3) / 4 - (year + 99) / 100 + (year + 399) / 400

def daysBefore : List Nat :=
  [0, 31, 59, 90, 120, 151, 181, 212, 243, 273, 304, 334, 365]

def daysBeforeMonth (leap : Bool) (month : Nat) : Nat :=
  daysBefore.getD (month - 1) 0 + if leap && 3 ≤ month then 1 else 0

def daysIn (leap : Bool) (month : Nat) : Nat :=
  if month = 2 && leap then 29 else daysBefore.getD month 0 - daysBefore.getD (month - 1) 0

def unixEpochDay : Int :=
  719162

def monthDay (leap : Bool) (yday : Nat) : Nat × Nat :=
  if leap ∧ yday = 31 + 29 - 1 then (2, 29)
  else
    let day := if leap ∧ 31 + 29 - 1 < yday then yday - 1 else yday
    let month := day / 31
    let «end» := daysBefore.getD (month + 1) 0
    if «end» ≤ day then (month + 2, day - «end» + 1)
    else (month + 1, day - daysBefore.getD month 0 + 1)

def absDate (n : Int) : Int × Nat × Nat :=
  let d := (n % 146097).toNat
  let centuries := d / 36524 - d / 36524 / 4
  let d := d - 36524 * centuries
  let quadrennia := d / 1461
  let d := d - 1461 * quadrennia
  let years := d / 365 - d / 365 / 4
  let yday := d - 365 * years
  let year := 400 * (n / 146097) + (100 * centuries + 4 * quadrennia + years + 1 : Nat)
  let md := monthDay (isLeap year) yday
  (year, md.1, md.2)

structure Civil where
  year : Int
  month : Nat
  day : Nat
  hour : Nat
  minute : Nat
  second : Nat
  nanosecond : Nat

def civil (t : Int) : Civil :=
  let sec := t / 1000000000
  let d := absDate (sec / 86400 + unixEpochDay)
  let sod := (sec % 86400).toNat
  ⟨d.1, d.2.1, d.2.2, sod / 3600, sod % 3600 / 60, sod % 60, (t % 1000000000).toNat⟩

/-! ## Formatting -/

def appendInt (x : Nat) : Nat → List Char
  | 0 => []
  | width + 1 => appendInt (x / 10) width ++ [Nat.digitChar (x % 10)]

def formatNano (nanosec : Nat) : List Char :=
  let digits := ((appendInt nanosec 9).reverse.dropWhile (· = '0')).reverse
  if digits = [] then [] else '.' :: digits

def formatRFC3339Nano (t : Int) : List Char :=
  let c := civil t
  appendInt c.year.toNat 4 ++ '-' :: appendInt c.month 2 ++ '-' :: appendInt c.day 2 ++
    'T' :: appendInt c.hour 2 ++ ':' :: appendInt c.minute 2 ++ ':' :: appendInt c.second 2 ++
    formatNano c.nanosecond ++ ['Z']

def marshalJSON (t : Int) : Except String (List Char) :=
  if (civil t).year < 0 ∨ 10000 ≤ (civil t).year then
    .error "Time.MarshalJSON: year outside of range [0,9999]"
  else .ok ('"' :: formatRFC3339Nano t ++ ['"'])

/-! ## Parsing -/

def jsonLayout : String :=
  "\"2006-01-02T15:04:05Z07:00\""

def quote (s : String) : String :=
  "\"" ++ s ++ "\""

def parseError (value : List Char) (layoutElem : String) (valueElem : List Char)
    (message : String) : String :=
  if message = "" then
    "parsing time " ++ quote (String.mk value) ++ " as " ++ quote jsonLayout ++ ": cannot parse " ++
      quote (String.mk valueElem) ++ " as " ++ quote layoutElem
  else "parsing time " ++ quote (String.mk value) ++ message

inductive Std where
  | longYear
  | zeroMonth
  | zeroDay
  | hour
  | zeroMinute
  | zeroSecond
  | iso8601ColonTZ

def Std.text : Std → String
  | .longYear => "2006"
  | .zeroMonth => "01"
  | .zeroDay => "02"
  | .hour => "15"
  | .zeroMinute => "04"
  | .zeroSecond => "05"
  | .iso8601ColonTZ => "Z07:00"

def layoutChunks : List (List Char × Std) :=
  [(['"'], .longYear), (['-'], .zeroMonth), (['-'], .zeroDay), (['T'], .hour), ([':'], .zeroMinute),
    ([':'], .zeroSecond), ([], .iso8601ColonTZ)]

structure Fields where
  year : Int := 0
  month : Int := -1
  day : Int := -1
  hour : Int := 0
  min : Int := 0
  sec : Int := 0
  nsec : Int := 0
  zoneOffset : Int := 0

def skip : List Char → List Char → Except (List Char) (List Char)
  | value, [] => .ok value
  | [], _ :: _ => .error []
  | c :: value, p :: pre => if c = p then skip value pre else .error (c :: value)

def getnum (s : List Char) (fixed : Bool) : Option (Nat × List Char) :=
  match s with
  | c :: d :: rest =>
    if !isDigit c then none
    else if isDigit d then some ((c.toNat - 48) * 10 + (d.toNat - 48), rest)
    else if fixed then none else some (c.toNat - 48, d :: rest)
  | [c] => if isDigit c && !fixed then some (c.toNat - 48, []) else none
  | [] => none

def leadingInt : Nat → List Char → Option (Nat × List Char)
  | x, [] => some (x, [])
  | x, c :: cs =>
    if isDigit c then
      if (2 ^ 63 - 1) / 10 < x ∨ 2 ^ 63 ≤ x * 10 + (c.toNat - 48) then none
      else leadingInt (x * 10 + (c.toNat - 48)) cs
    else some (x, c :: cs)

def atoi (s : List Char) : Option Int :=
  let signed : Bool × List Char :=
    match s with
    | c :: s' => if c = '-' then (true, s') else if c = '+' then (false, s') else (false, s)
    | [] => (false, [])
  match leadingInt 0 signed.2 with
  | some (x, []) => some (if signed.1 then -x else x)
  | _ => none

def parseNanoseconds (digits : List Char) : Except (Option String) Nat :=
  match atoi digits with
  | none => .error none
  | some ns =>
    if ns < 0 ∨ 1000000000 ≤ ns then .error (some "fractional second")
    else .ok (ns.toNat * 10 ^ (9 - digits.length))

inductive StdResult where
  | ok (f : Fields) (rest : List Char)
  | bad
  | outOfRange (what : String)

def fractionDigits : List Char → Option (List Char × List Char)
  | c :: d :: more =>
    if c = '.' ∧ isDigit d then some (d :: more.takeWhile isDigit, more.dropWhile isDigit) else none
  | _ => none

/-- The `stdZeroSecond` case, with the fractional second the layout does not name: it is parsed
even when the seconds were not, and its error replaces theirs. -/
def parseSecond (f : Fields) (value : List Char) : StdResult :=
  let got := getnum value true
  let sec := (got.map Prod.fst).getD 0
  let rest := (got.map Prod.snd).getD value
  if 60 ≤ sec then .outOfRange "second"
  else
    match fractionDigits rest with
    | some (digits, after) =>
      match parseNanoseconds digits with
      | .ok ns => .ok { f with sec := sec, nsec := ns } after
      | .error (some what) => .outOfRange what
      | .error none => .bad
    | none => if got.isSome then .ok { f with sec := sec } rest else .bad

def parseZone (f : Fields) : List Char → StdResult
  | 'Z' :: rest => .ok { f with zoneOffset := 0 } rest
  | sign :: h1 :: h2 :: colon :: m1 :: m2 :: rest =>
    if colon ≠ ':' then .bad
    else
      match atoi [h1, h2], atoi [m1, m2] with
      | some hr, some mm =>
        if sign = '+' then .ok { f with zoneOffset := (hr * 60 + mm) * 60 } rest
        else if sign = '-' then .ok { f with zoneOffset := -((hr * 60 + mm) * 60) } rest
        else .bad
      | _, _ => .bad
  | _ => .bad

def parseStd (f : Fields) (value : List Char) : Std → StdResult
  | .longYear =>
    match value with
    | a :: b :: c :: d :: rest =>
      if isDigit a then
        match atoi [a, b, c, d] with
        | some y => .ok { f with year := y } rest
        | none => .bad
      else .bad
    | _ => .bad
  | .zeroMonth =>
    match getnum value true with
    | none => .bad
    | some (m, rest) => if m = 0 ∨ 12 < m then .outOfRange "month" else .ok { f with month := m } rest
  | .zeroDay =>
    match getnum value true with
    | none => .bad
    | some (d, rest) => .ok { f with day := d } rest
  | .hour =>
    match getnum value false with
    | none => .bad
    | some (h, rest) => if 24 ≤ h then .outOfRange "hour" else .ok { f with hour := h } rest
  | .zeroMinute =>
    match getnum value true with
    | none => .bad
    | some (m, rest) => if 60 ≤ m then .outOfRange "minute" else .ok { f with min := m } rest
  | .zeroSecond => parseSecond f value
  | .iso8601ColonTZ => parseZone f value

def parseChunks (avalue : List Char) :
    List (List Char × Std) → Fields → List Char → Except String (Fields × List Char)
  | [], f, value => .ok (f, value)
  | (pre, std) :: chunks, f, value =>
    match skip value pre with
    | .error v => .error (parseError avalue (String.mk pre) v "")
    | .ok hold =>
      match parseStd f hold std with
      | .ok f rest => parseChunks avalue chunks f rest
      | .bad => .error (parseError avalue std.text hold "")
      | .outOfRange what => .error (parseError avalue std.text hold (": " ++ what ++ " out of range"))

def Fields.instant (f : Fields) : Int :=
  let days : Int := daysBeforeYear f.year.toNat + daysBeforeMonth (isLeap f.year) f.month.toNat +
    (f.day - 1) - 366 - unixEpochDay
  (days * 86400 + f.hour * 3600 + f.min * 60 + f.sec - f.zoneOffset) * 1000000000 + f.nsec

def parse (value : List Char) : Except String Int :=
  match parseChunks value layoutChunks {} value with
  | .error e => .error e
  | .ok (f, rest) =>
    match skip rest ['"'] with
    | .error v => .error (parseError value "\"" v "")
    | .ok [] =>
      if f.day < 1 ∨ (daysIn (isLeap f.year) f.month.toNat : Int) < f.day then
        .error (parseError value "" [] ": day out of range")
      else .ok f.instant
    | .ok extra => .error (parseError value "" extra (": extra text: " ++ String.mk extra))

def unmarshalJSON (data : List Char) (t : Int) : Except String Int :=
  if data = ['n', 'u', 'l', 'l'] then .ok t else parse data

/-! ## The calendar's counts -/

theorem daysBeforeYear_cycles (q : Int) (a b c : Nat) (ha : a ≤ 3) (hb : b ≤ 24) (hc : c ≤ 3)
    (hy : 0 ≤ 400 * q + (100 * a + 4 * b + c + 1 : Nat)) :
    (daysBeforeYear (400 * q + (100 * a + 4 * b + c + 1 : Nat)).toNat : Int) =
      366 + 146097 * q + 36524 * a + 1461 * b + 365 * c := by
  unfold daysBeforeYear
  omega

theorem daysBefore_bounds :
    ∀ m < 12, daysBefore.getD m 0 ≤ 31 * m ∧ (11 ≤ m ∨ 31 * m + 31 ≤ daysBefore.getD (m + 2) 0) ∧
      daysBefore.getD m 0 < daysBefore.getD (m + 1) 0 ∧ (m < 2 ∨ 59 ≤ daysBefore.getD m 0) ∧
      (m ≠ 1 ∨ daysBefore.getD m 0 = 31) ∧ (m ≠ 11 ∨ daysBefore.getD (m + 1) 0 = 365) ∧
      (2 ≤ m ∨ daysBefore.getD (m + 1) 0 ≤ 59) := by
  decide

theorem daysIn_eq (leap : Bool) (month : Nat) :
    daysIn leap month =
      if month = 2 ∧ leap then 29 else daysBefore.getD month 0 - daysBefore.getD (month - 1) 0 := by
  simp only [daysIn, Bool.and_eq_true, decide_eq_true_eq]

theorem daysIn_le : ∀ leap : Bool, ∀ month < 13, daysIn leap month ≤ 31 := by
  decide

theorem daysBeforeMonth_eq (leap : Bool) (month : Nat) :
    daysBeforeMonth leap month = daysBefore.getD (month - 1) 0 + if leap ∧ 3 ≤ month then 1 else 0 := by
  simp only [daysBeforeMonth, Bool.and_eq_true, decide_eq_true_eq]

theorem monthDay_common (day : Nat) (h : day < 365) :
    ∃ M d, (if daysBefore.getD (day / 31 + 1) 0 ≤ day
      then (day / 31 + 2, day - daysBefore.getD (day / 31 + 1) 0 + 1)
      else (day / 31 + 1, day - daysBefore.getD (day / 31) 0 + 1)) = (M, d) ∧
      1 ≤ M ∧ M ≤ 12 ∧ 1 ≤ d ∧ daysBefore.getD (M - 1) 0 + (d - 1) = day ∧
      day < daysBefore.getD M 0 := by
  have hm : day / 31 < 12 := by omega
  obtain ⟨h1, h2, h3, -, -, h4, -⟩ := daysBefore_bounds (day / 31) hm
  by_cases he : daysBefore.getD (day / 31 + 1) 0 ≤ day
  · refine ⟨_, _, if_pos he, ?_⟩
    simp only [show day / 31 + 2 - 1 = day / 31 + 1 by omega]
    omega
  · refine ⟨_, _, if_neg he, ?_⟩
    simp only [Nat.add_sub_cancel]
    omega

theorem monthDay_spec (leap : Bool) (yday : Nat) (h : yday < if leap then 366 else 365) :
    1 ≤ (monthDay leap yday).1 ∧ (monthDay leap yday).1 ≤ 12 ∧ 1 ≤ (monthDay leap yday).2 ∧
      (monthDay leap yday).2 ≤ daysIn leap (monthDay leap yday).1 ∧
      daysBeforeMonth leap (monthDay leap yday).1 + ((monthDay leap yday).2 - 1) = yday := by
  cases leap
  case false =>
    simp only [Bool.false_eq_true, if_false] at h
    obtain ⟨M, d, hr, hm1, hm12, hd1, hsum, hlt⟩ := monthDay_common yday h
    obtain ⟨-, -, hinc, -, -, -, -⟩ := daysBefore_bounds (M - 1) (by omega)
    rw [show M - 1 + 1 = M by omega] at hinc
    simp only [monthDay, Bool.false_eq_true, false_and, if_false, hr, daysIn_eq, daysBeforeMonth_eq,
      and_false]
    omega
  case true =>
    simp only [if_true] at h
    rcases Nat.lt_trichotomy yday 59 with hy | rfl | hy
    · obtain ⟨M, d, hr, hm1, hm12, hd1, hsum, hlt⟩ := monthDay_common yday (by omega)
      obtain ⟨-, -, hinc, hmar, hfeb, -, -⟩ := daysBefore_bounds (M - 1) (by omega)
      rw [show M - 1 + 1 = M by omega] at hinc
      simp only [monthDay, true_and, show ¬ yday = 31 + 29 - 1 by omega,
        show ¬ 31 + 29 - 1 < yday by omega, if_false, hr, daysIn_eq, daysBeforeMonth_eq, and_true]
      split_ifs <;> omega
    · decide
    · obtain ⟨M, d, hr, hm1, hm12, hd1, hsum, hlt⟩ := monthDay_common (yday - 1) (by omega)
      obtain ⟨-, -, hinc, hmar, -, -, hfeb⟩ := daysBefore_bounds (M - 1) (by omega)
      rw [show M - 1 + 1 = M by omega] at hinc hfeb
      simp only [monthDay, true_and, show ¬ yday = 31 + 29 - 1 by omega,
        show 31 + 29 - 1 < yday by omega, if_false, if_true, hr, daysIn_eq, daysBeforeMonth_eq, and_true]
      split_ifs <;> omega

theorem isLeap_iff (year : Int) :
    isLeap year = true ↔ year % 4 = 0 ∧ (year % 100 ≠ 0 ∨ year % 400 = 0) := by
  simp [isLeap]

theorem cycles_split (n : Int) :
    n = 146097 * (n / 146097) + ((n % 146097).toNat : Int) ∧ (n % 146097).toNat < 146097 := by
  omega

theorem centuries_split (d : Nat) (h : d < 146097) :
    d / 36524 - d / 36524 / 4 ≤ 3 ∧
      d = 36524 * (d / 36524 - d / 36524 / 4) + (d - 36524 * (d / 36524 - d / 36524 / 4)) ∧
      d - 36524 * (d / 36524 - d / 36524 / 4) < 36525 ∧
      (d / 36524 - d / 36524 / 4 < 3 → d - 36524 * (d / 36524 - d / 36524 / 4) < 36524) := by
  omega

theorem quadrennia_split (d : Nat) (h : d < 36525) :
    d / 1461 ≤ 24 ∧ d = 1461 * (d / 1461) + (d - 1461 * (d / 1461)) ∧ d - 1461 * (d / 1461) < 1461 ∧
      (d < 36524 → d / 1461 = 24 → d - 1461 * (d / 1461) < 1460) := by
  omega

theorem years_split (d : Nat) (h : d < 1461) :
    d / 365 - d / 365 / 4 ≤ 3 ∧ d = 365 * (d / 365 - d / 365 / 4) + (d - 365 * (d / 365 - d / 365 / 4)) ∧
      d - 365 * (d / 365 - d / 365 / 4) < 366 ∧
      (d - 365 * (d / 365 - d / 365 / 4) = 365 → d / 365 - d / 365 / 4 = 3 ∧ d = 1460) := by
  omega

theorem absDate_spec (n : Int) (hy : 0 ≤ (absDate n).1) :
    1 ≤ (absDate n).2.1 ∧ (absDate n).2.1 ≤ 12 ∧ 1 ≤ (absDate n).2.2 ∧
      (absDate n).2.2 ≤ daysIn (isLeap (absDate n).1) (absDate n).2.1 ∧
      (daysBeforeYear (absDate n).1.toNat : Int) +
        daysBeforeMonth (isLeap (absDate n).1) (absDate n).2.1 + ((absDate n).2.2 - 1) = n + 366 := by
  unfold absDate at hy ⊢
  dsimp only at hy ⊢
  obtain ⟨hn, hd⟩ := cycles_split n
  generalize n / 146097 = q at hy hn ⊢
  generalize (n % 146097).toNat = d at hy hn hd ⊢
  obtain ⟨ha, hd1, hd1lt, hd1lt'⟩ := centuries_split d hd
  generalize d / 36524 - d / 36524 / 4 = a at hy ha hd1 hd1lt hd1lt' ⊢
  generalize d - 36524 * a = d1 at hy hd1 hd1lt hd1lt' ⊢
  obtain ⟨hb, hd2, hd2lt, hd2lt'⟩ := quadrennia_split d1 hd1lt
  generalize d1 / 1461 = b at hy hb hd2 hd2lt hd2lt' ⊢
  generalize d1 - 1461 * b = d2 at hy hd2 hd2lt hd2lt' ⊢
  obtain ⟨hc, hyd, hydlt, hyd365⟩ := years_split d2 hd2lt
  generalize d2 / 365 - d2 / 365 / 4 = c at hy hc hyd hydlt hyd365 ⊢
  generalize d2 - 365 * c = yday at hy hyd hydlt hyd365 ⊢
  generalize hyear : 400 * q + ((100 * a + 4 * b + c + 1 : Nat) : Int) = year at hy ⊢
  have hleap : yday < if isLeap year then 366 else 365 := by
    split_ifs with hl
    · omega
    · rw [isLeap_iff] at hl
      omega
  obtain ⟨hm1, hm12, hday1, hdays, hsum⟩ := monthDay_spec _ _ hleap
  refine ⟨hm1, hm12, hday1, hdays, ?_⟩
  have hcyc := daysBeforeYear_cycles q a b c ha hb hc (by omega)
  rw [hyear] at hcyc
  omega

/-! ## Digits -/

theorem appendInt_spec (x w : Nat) :
    (appendInt x w).length = w ∧ (∀ c ∈ appendInt x w, isDigit c = true) ∧
      decimalValue (appendInt x w) = x % 10 ^ w := by
  induction w generalizing x with
  | zero => simp [appendInt, decimalValue, Nat.mod_one]
  | succ w ih =>
    obtain ⟨hlen, hdig, hval⟩ := ih (x / 10)
    have hd := digitChar_toNat (x % 10) (Nat.mod_lt _ (by omega))
    refine ⟨by simp [appendInt, hlen], ?_, ?_⟩
    · intro c hc
      rcases List.mem_append.1 hc with hc | hc
      · exact hdig c hc
      · rw [List.mem_singleton.1 hc]
        exact (isDigit_iff _).2 (by omega)
    · rw [appendInt, decimalValue_append_digit, hval, hd, Nat.pow_succ', Nat.mod_mul]
      omega

theorem appendInt_two (x : Nat) :
    appendInt x 2 = [Nat.digitChar (x / 10 % 10), Nat.digitChar (x % 10)] := by
  simp [appendInt]

theorem getnum_appendInt (x : Nat) (fixed : Bool) (rest : List Char) :
    getnum (appendInt x 2 ++ rest) fixed = some (x % 100, rest) := by
  have h1 := digitChar_toNat (x / 10 % 10) (Nat.mod_lt _ (by omega))
  have h2 := digitChar_toNat (x % 10) (Nat.mod_lt _ (by omega))
  have hd1 : isDigit (Nat.digitChar (x / 10 % 10)) = true := (isDigit_iff _).2 (by omega)
  have hd2 : isDigit (Nat.digitChar (x % 10)) = true := (isDigit_iff _).2 (by omega)
  simp only [appendInt_two, List.cons_append, List.nil_append, getnum, hd1, hd2, Bool.not_true,
    Bool.false_eq_true, if_false, if_true, h1, h2, Option.some.injEq, Prod.mk.injEq, and_true]
  omega

theorem foldl_digits_ge (ds : List Char) (x : Nat) :
    x ≤ ds.foldl (fun x c => x * 10 + (c.toNat - 48)) x := by
  induction ds generalizing x with
  | nil => exact le_refl _
  | cons c cs ih => exact le_trans (show x ≤ x * 10 + (c.toNat - 48) by omega) (ih _)

theorem leadingInt_digits (ds rest : List Char) (x : Nat) (hds : ∀ c ∈ ds, isDigit c = true)
    (hrest : ∀ c ∈ rest.head?, isDigit c = false)
    (hb : ds.foldl (fun x c => x * 10 + (c.toNat - 48)) x < 2 ^ 59) :
    leadingInt x (ds ++ rest) = some (ds.foldl (fun x c => x * 10 + (c.toNat - 48)) x, rest) := by
  induction ds generalizing x with
  | nil =>
    cases rest with
    | nil => rfl
    | cons c cs => simp [leadingInt, hrest c rfl]
  | cons c cs ih =>
    have hc := hds c (List.mem_cons_self _ _)
    have hge := foldl_digits_ge cs (x * 10 + (c.toNat - 48))
    simp only [List.foldl_cons] at hb ⊢
    rw [List.cons_append, leadingInt, if_pos hc, if_neg (by omega)]
    exact ih _ (fun c' hc' => hds c' (List.mem_cons_of_mem _ hc')) hb

theorem atoi_digits (ds : List Char) (hds : ∀ c ∈ ds, isDigit c = true) (hne : ds ≠ [])
    (hb : decimalValue ds < 2 ^ 59) : atoi ds = some (decimalValue ds : Int) := by
  obtain ⟨d, cs, rfl⟩ := List.exists_cons_of_ne_nil hne
  have hd := hds d (List.mem_cons_self _ _)
  have hsign : d ≠ '-' ∧ d ≠ '+' := by
    constructor <;> rintro rfl <;> revert hd <;> decide
  have hl := leadingInt_digits (d :: cs) [] 0 hds (by simp) hb
  rw [List.append_nil] at hl
  simp [atoi, hsign, hl, decimalValue]

theorem decimalValue_zeros (ds : List Char) (k : Nat) :
    decimalValue (ds ++ List.replicate k '0') = decimalValue ds * 10 ^ k := by
  induction k with
  | zero => simp
  | succ k ih =>
    rw [List.replicate_succ', ← List.append_assoc, decimalValue_append_digit, ih, Nat.pow_succ]
    simp only [show '0'.toNat - 48 = 0 from rfl, Nat.add_zero, Nat.mul_assoc]

theorem formatNano_spec (ns : Nat) (h : ns < 10 ^ 9) :
    (ns = 0 ∧ formatNano ns = []) ∨ ∃ ds, formatNano ns = '.' :: ds ∧ ds ≠ [] ∧ ds.length ≤ 9 ∧
      (∀ c ∈ ds, isDigit c = true) ∧ decimalValue ds * 10 ^ (9 - ds.length) = ns := by
  obtain ⟨hlen, hdig, hval⟩ := appendInt_spec ns 9
  unfold formatNano
  generalize appendInt ns 9 = P at hlen hdig hval ⊢
  have hsplit := List.takeWhile_append_dropWhile (· = '0') P.reverse
  generalize hT : (P.reverse.dropWhile (· = '0')).reverse = T
  have hzeros : (P.reverse.takeWhile (· = '0')).reverse =
      List.replicate (P.reverse.takeWhile (· = '0')).length '0' := by
    rw [List.eq_replicate_iff]
    refine ⟨by simp, fun c hc => ?_⟩
    have := List.all_eq_true.1 (List.all_takeWhile (p := (· = '0')) (l := P.reverse)) c
      (List.mem_reverse.1 hc)
    simpa using this
  have hP : P = T ++ List.replicate (P.reverse.takeWhile (· = '0')).length '0' := by
    rw [← hT, ← hzeros, ← List.reverse_append, hsplit, List.reverse_reverse]
  have hvalT := decimalValue_zeros T (P.reverse.takeWhile (· = '0')).length
  rw [← hP, hval, Nat.mod_eq_of_lt h] at hvalT
  have hlenT : T.length + (P.reverse.takeWhile (· = '0')).length = 9 := by
    have := congrArg List.length hP
    rw [List.length_append, List.length_replicate] at this
    omega
  simp only [hT]
  by_cases hTe : T = []
  · left
    subst hTe
    exact ⟨by simpa [decimalValue] using hvalT, rfl⟩
  · right
    refine ⟨T, if_neg hTe, hTe, by omega, fun c hc => hdig c (by rw [hP]; simp [hc]), ?_⟩
    rw [show 9 - T.length = (P.reverse.takeWhile (· = '0')).length by omega]
    exact hvalT.symm

/-! ## The round trip -/

theorem civil_spec (t : Int) (hy : 0 ≤ (civil t).year) :
    1 ≤ (civil t).month ∧ (civil t).month ≤ 12 ∧ 1 ≤ (civil t).day ∧
      (civil t).day ≤ daysIn (isLeap (civil t).year) (civil t).month ∧ (civil t).hour < 24 ∧
      (civil t).minute < 60 ∧ (civil t).second < 60 ∧ (civil t).nanosecond < 10 ^ 9 ∧
      (((daysBeforeYear (civil t).year.toNat : Int) +
        daysBeforeMonth (isLeap (civil t).year) (civil t).month + ((civil t).day - 1) - 366 -
          unixEpochDay) * 86400 + (civil t).hour * 3600 + (civil t).minute * 60 +
            (civil t).second) * 1000000000 + (civil t).nanosecond = t := by
  obtain ⟨hm1, hm12, hd1, hdays, hsum⟩ := absDate_spec (t / 1000000000 / 86400 + unixEpochDay) hy
  refine ⟨hm1, hm12, hd1, hdays, ?_⟩
  simp only [civil]
  rw [hsum]
  omega

theorem skip_nil (value : List Char) : skip value [] = .ok value := by
  cases value <;> rfl

theorem skip_single (c : Char) (value : List Char) : skip (c :: value) [c] = .ok value := by
  simp [skip]

theorem parseChunks_step {avalue pre value hold rest : List Char} {std : Std} {f f' : Fields}
    (chunks : List (List Char × Std)) (hs : skip value pre = .ok hold)
    (h : parseStd f hold std = .ok f' rest) :
    parseChunks avalue ((pre, std) :: chunks) f value = parseChunks avalue chunks f' rest := by
  rw [parseChunks, hs]
  simp only [h]

theorem parseStd_longYear (f : Fields) (y : Nat) (hy : y < 10000) (rest : List Char) :
    parseStd f (appendInt y 4 ++ rest) .longYear = .ok { f with year := y } rest := by
  obtain ⟨hlen, hdig, hval⟩ := appendInt_spec y 4
  rw [Nat.mod_eq_of_lt (hy.trans_eq (by decide))] at hval
  generalize appendInt y 4 = P at hlen hdig hval ⊢
  match P, hlen with
  | [a, b, c, d], _ =>
    have hatoi := atoi_digits [a, b, c, d] hdig (List.cons_ne_nil _ _) (by omega)
    simp only [List.cons_append, List.nil_append, parseStd, hdig a (List.mem_cons_self _ _),
      if_true, hatoi, hval]

theorem parseStd_zeroMonth (f : Fields) (m : Nat) (hm : 1 ≤ m ∧ m ≤ 12) (rest : List Char) :
    parseStd f (appendInt m 2 ++ rest) .zeroMonth = .ok { f with month := m } rest := by
  simp only [parseStd, getnum_appendInt, Nat.mod_eq_of_lt (show m < 100 by omega)]
  rw [if_neg (by omega)]

theorem parseStd_zeroDay (f : Fields) (d : Nat) (hd : d < 100) (rest : List Char) :
    parseStd f (appendInt d 2 ++ rest) .zeroDay = .ok { f with day := d } rest := by
  simp only [parseStd, getnum_appendInt, Nat.mod_eq_of_lt hd]

theorem parseStd_hour (f : Fields) (h : Nat) (hh : h < 24) (rest : List Char) :
    parseStd f (appendInt h 2 ++ rest) .hour = .ok { f with hour := h } rest := by
  simp only [parseStd, getnum_appendInt, Nat.mod_eq_of_lt (show h < 100 by omega)]
  rw [if_neg (by omega)]

theorem parseStd_zeroMinute (f : Fields) (m : Nat) (hm : m < 60) (rest : List Char) :
    parseStd f (appendInt m 2 ++ rest) .zeroMinute = .ok { f with min := m } rest := by
  simp only [parseStd, getnum_appendInt, Nat.mod_eq_of_lt (show m < 100 by omega)]
  rw [if_neg (by omega)]

theorem parseStd_utc (f : Fields) (rest : List Char) :
    parseStd f ('Z' :: rest) .iso8601ColonTZ = .ok { f with zoneOffset := 0 } rest := by
  simp [parseStd, parseZone]

theorem fractionDigits_utc (rest : List Char) : fractionDigits ('Z' :: rest) = none := by
  cases rest <;> simp [fractionDigits]

theorem fractionDigits_digits (ds rest : List Char) (hds : ∀ c ∈ ds, isDigit c = true)
    (hne : ds ≠ []) : fractionDigits ('.' :: (ds ++ 'Z' :: rest)) = some (ds, 'Z' :: rest) := by
  obtain ⟨d, more, rfl⟩ := List.exists_cons_of_ne_nil hne
  have hmore : ∀ c ∈ more, isDigit c = true := fun c hc => hds c (List.mem_cons_of_mem _ hc)
  have hZ : ¬ isDigit 'Z' = true := by decide
  simp [fractionDigits, hds d (List.mem_cons_self _ _), List.takeWhile_append_of_pos hmore,
    List.dropWhile_append_of_pos hmore, List.takeWhile_cons_of_neg hZ, List.dropWhile_cons_of_neg hZ]

theorem parseNanoseconds_digits (ds : List Char) (ns : Nat) (hds : ∀ c ∈ ds, isDigit c = true)
    (hne : ds ≠ []) (hns : ns < 10 ^ 9) (hval : decimalValue ds * 10 ^ (9 - ds.length) = ns) :
    parseNanoseconds ds = .ok ns := by
  have hle : decimalValue ds ≤ ns := hval ▸ Nat.le_mul_of_pos_right _ (Nat.pos_pow_of_pos _ (by omega))
  simp only [parseNanoseconds, atoi_digits ds hds hne (by omega)]
  rw [if_neg (by omega)]
  simp only [Int.toNat_ofNat, hval]

theorem parseSecond_whole {f : Fields} {value rest : List Char} {sec : Nat}
    (hget : getnum value true = some (sec, rest)) (hs : sec < 60) (hfrac : fractionDigits rest = none) :
    parseSecond f value = .ok { f with sec := sec } rest := by
  simp only [parseSecond, hget, Option.map_some', Option.getD_some, Option.isSome_some, hfrac]
  rw [if_neg (by omega)]
  rfl

theorem parseSecond_fraction {f : Fields} {value rest digits after : List Char} {sec ns : Nat}
    (hget : getnum value true = some (sec, rest)) (hs : sec < 60)
    (hfrac : fractionDigits rest = some (digits, after)) (hns : parseNanoseconds digits = .ok ns) :
    parseSecond f value = .ok { f with sec := sec, nsec := ns } after := by
  simp only [parseSecond, hget, Option.map_some', Option.getD_some, hfrac, hns]
  rw [if_neg (by omega)]

theorem parseStd_zeroSecond (f : Fields) (hf : f.nsec = 0) (s ns : Nat) (hs : s < 60)
    (hns : ns < 10 ^ 9) (rest : List Char) :
    parseStd f (appendInt s 2 ++ (formatNano ns ++ 'Z' :: rest)) .zeroSecond =
      .ok { f with sec := s, nsec := ns } ('Z' :: rest) := by
  have hget := getnum_appendInt s true (formatNano ns ++ 'Z' :: rest)
  rw [Nat.mod_eq_of_lt (by omega : s < 100)] at hget
  rcases formatNano_spec ns hns with ⟨rfl, hnil⟩ | ⟨ds, hfmt, hne, -, hdig, hval⟩
  · rw [hnil, List.nil_append] at hget ⊢
    rw [parseStd, parseSecond_whole hget hs (fractionDigits_utc rest)]
    cases f
    subst hf
    rfl
  · rw [hfmt, List.cons_append] at hget ⊢
    exact parseSecond_fraction hget hs (fractionDigits_digits ds rest hdig hne)
      (parseNanoseconds_digits ds ns hdig hne hns hval)

theorem formatNano_plain (ns : Nat) (h : ns < 10 ^ 9) : ∀ c ∈ formatNano ns, escapeChar c = [c] := by
  rcases formatNano_spec ns h with ⟨-, hnil⟩ | ⟨ds, hfmt, -, -, hdig, -⟩
  · simp [hnil]
  · rw [hfmt, List.forall_mem_cons]
    exact ⟨by decide, fun c hc => escapeChar_of_isDigit (hdig c hc)⟩

theorem appendInt_plain (x w : Nat) : ∀ c ∈ appendInt x w, escapeChar c = [c] :=
  fun c hc => escapeChar_of_isDigit ((appendInt_spec x w).2.1 c hc)

theorem formatRFC3339Nano_plain (t : Int) : ∀ c ∈ formatRFC3339Nano t, escapeChar c = [c] := by
  have hns : (civil t).nanosecond < 10 ^ 9 := by simp only [civil]; omega
  simp only [formatRFC3339Nano, List.forall_mem_append, List.forall_mem_cons,
    eq_true (appendInt_plain _ _), eq_true (formatNano_plain _ hns), List.forall_mem_nil, and_true,
    true_and]
  decide

theorem marshalJSON_eq_quoteString {t : Int} {text : List Char} (h : marshalJSON t = .ok text) :
    text = quoteString (formatRFC3339Nano t) := by
  unfold marshalJSON at h
  split_ifs at h
  cases h
  rw [quoteString, flatMap_escapeChar_of_plain (formatRFC3339Nano_plain t)]

theorem parse_marshalJSON {t : Int} {text : List Char} (h : marshalJSON t = .ok text) :
    parse text = .ok t := by
  unfold marshalJSON at h
  split_ifs at h with hyear
  cases h
  have hy : 0 ≤ (civil t).year := by omega
  have hy4 : (civil t).year.toNat < 10000 := by omega
  obtain ⟨hm1, hm12, hd1, hdays, hh, hmi, hs, hns, hinst⟩ := civil_spec t hy
  unfold formatRFC3339Nano
  generalize civil t = C at *
  simp only [List.cons_append, List.append_assoc, List.singleton_append, List.nil_append]
  rw [parse, layoutChunks,
    parseChunks_step _ (skip_single _ _) (parseStd_longYear _ _ hy4 _),
    parseChunks_step _ (skip_single _ _) (parseStd_zeroMonth _ _ ⟨hm1, hm12⟩ _),
    parseChunks_step _ (skip_single _ _)
      (parseStd_zeroDay _ _ (by have := daysIn_le (isLeap C.year) C.month (by omega); omega) _),
    parseChunks_step _ (skip_single _ _) (parseStd_hour _ _ hh _),
    parseChunks_step _ (skip_single _ _) (parseStd_zeroMinute _ _ hmi _),
    parseChunks_step _ (skip_single _ _) (parseStd_zeroSecond _ (by rfl) _ _ hs hns _),
    parseChunks_step _ (skip_nil _) (parseStd_utc _ _), parseChunks]
  simp only [skip_single, Int.toNat_of_nonneg hy, Int.toNat_ofNat]
  rw [if_neg (by omega)]
  simp only [Fields.instant, Int.toNat_ofNat, Int.sub_zero]
  rw [← hinst]

theorem unmarshalJSON_of_marshalJSON {t : Int} {text : List Char} (h : marshalJSON t = .ok text)
    (t₀ : Int) : unmarshalJSON text t₀ = .ok t := by
  have hq := marshalJSON_eq_quoteString h
  rw [unmarshalJSON, if_neg (by rw [hq, quoteString]; simp), parse_marshalJSON h]

end OpenshiftAcme.Time
