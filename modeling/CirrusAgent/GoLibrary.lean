import Mathlib.Data.List.Basic

/-! # The Go library functions the agent calls on strings, integers and durations

`strconv.Atoi` parses a decimal integer; on a 64-bit platform it computes what
`strconv.ParseInt(s, 10, 64)` computes (its fast path for short strings only skips the
range checks that such strings cannot fail), and on an error it still returns a value:
zero after a syntax error, the bound of the sign after a range error. The executor reads
that value in one place without looking at the error (the clone depth), so both halves of
the result are modelled. A `time.Duration` product wraps modulo `2^64`, as Go's `int64`
arithmetic does.

`strings.ToLower`, `strings.Contains`, `strings.HasPrefix` and `strings.TrimPrefix` are
modelled over characters. Go lower-cases more of Unicode than `Char.toLower`, but the only
character outside ASCII that it maps into ASCII is the Kelvin sign, to `k`, which none of
the texts the executor searches for contains; so the searches answer alike. The prefixes
the agent trims are ASCII, so that dropping their characters drops their bytes.
-/

namespace CirrusAgent

/-- `strconv.ErrSyntax` and `strconv.ErrRange`. -/
inductive NumError where
  | errSyntax
  | errRange
  deriving DecidableEq, Repr

/-- `1 << 63`, the cutoff of `ParseInt` for 64 bits. -/
def int64Cutoff : Nat := 9223372036854775808

/-- `math.MaxUint64`. -/
def maxUint64 : Nat := 18446744073709551615

/-- The digit loop of `strconv.ParseUint(s, 10, 64)` from the value `n` scanned so far: a
character other than a decimal digit is a syntax error, and a value past `maxUint64` is a
range error as soon as it is reached. -/
def parseUintDigits : List Char → Nat → Nat × Option NumError
  | [], n => (n, none)
  | c :: rest, n =>
    if c.isDigit then
      let n1 := n * 10 + (c.toNat - '0'.toNat)
      if maxUint64 < n1 then (maxUint64, some .errRange) else parseUintDigits rest n1
    else (0, some .errSyntax)

/-- `strconv.ParseUint(s, 10, 64)`. -/
def parseUint (s : List Char) : Nat × Option NumError :=
  if s.isEmpty then (0, some .errSyntax) else parseUintDigits s 0

/-- `strconv.Atoi`, which is `strconv.ParseInt(s, 10, 64)` on a 64-bit platform. -/
def atoi (s : String) : Int × Option NumError :=
  let (neg, digits) := match s.toList with
    | '+' :: rest => (false, rest)
    | '-' :: rest => (true, rest)
    | chars => (false, chars)
  match parseUint digits with
  | (_, some .errSyntax) => (0, some .errSyntax)
  | (un, _) =>
    if !neg && int64Cutoff ≤ un then (int64Cutoff - 1, some .errRange)
    else if neg && int64Cutoff < un then (-int64Cutoff, some .errRange)
    else (if neg then -un else un, none)

/-- An integer wrapped to `int64`, as Go's `int64` and `time.Duration` arithmetic wraps. -/
def toInt64 (x : Int) : Int := (x + int64Cutoff) % (2 * int64Cutoff) - int64Cutoff

/-- `time.Second`, in nanoseconds. -/
def second : Int := 1000000000

/-- `time.Minute`, in nanoseconds. -/
def minute : Int := 60 * second

/-- The wrap leaves exactly the integers of the `int64` range alone. -/
theorem toInt64_eq_self_iff (x : Int) : toInt64 x = x ↔ -int64Cutoff ≤ x ∧ x < int64Cutoff := by
  unfold toInt64 int64Cutoff
  omega

/-- `strings.ToLower`. -/
def toLower (s : String) : String := ⟨s.toList.map Char.toLower⟩

/-- Whether `needle` occurs in `chars` from its start on or later. -/
def occursIn (needle : List Char) : List Char → Bool
  | [] => needle.isEmpty
  | c :: rest => needle.isPrefixOf (c :: rest) || occursIn needle rest

/-- `strings.Contains(s, substr)`. -/
def contains (s substr : String) : Bool := occursIn substr.toList s.toList

/-- `strings.HasPrefix`. -/
def hasPrefix (s pfx : String) : Bool := pfx.toList.isPrefixOf s.toList

/-- `strings.TrimPrefix`. -/
def trimPrefix (s pfx : String) : String :=
  if hasPrefix s pfx then ⟨s.toList.drop pfx.length⟩ else s

/-! ## Searches as list relations

`contains` and `hasPrefix` decide the infix and the prefix relation of the strings'
characters, so facts about them are facts about `List.IsInfix` and `List.IsPrefix`.
-/

theorem occursIn_eq_true_iff (needle l : List Char) : occursIn needle l = true ↔ needle <:+: l := by
  induction l with
  | nil => simp [occursIn]
  | cons c rest ih => simp [occursIn, ih, List.infix_cons_iff]

theorem contains_eq_true_iff {s substr : String} :
    contains s substr = true ↔ substr.toList <:+: s.toList :=
  occursIn_eq_true_iff _ _

theorem hasPrefix_eq_true_iff {s pfx : String} : hasPrefix s pfx = true ↔ pfx.toList <+: s.toList :=
  List.isPrefixOf_iff_prefix

/-- What contains `t` contains every text `t` contains. -/
theorem contains_trans {s t u : String} (hst : contains s t = true) (htu : contains t u = true) :
    contains s u = true :=
  contains_eq_true_iff.mpr ((contains_eq_true_iff.mp htu).trans (contains_eq_true_iff.mp hst))

/-- A text that lacks `u` lacks every text that contains `u`. -/
theorem contains_eq_false_of {s t u : String} (hsu : contains s u = false)
    (htu : contains t u = true) : contains s t = false :=
  Bool.eq_false_iff.mpr fun hst => Bool.eq_false_iff.mp hsu (contains_trans hst htu)

theorem contains_of_hasPrefix {s pfx : String} (h : hasPrefix s pfx = true) :
    contains s pfx = true :=
  contains_eq_true_iff.mpr (hasPrefix_eq_true_iff.mp h).isInfix

theorem hasPrefix_eq_false_of {s pfx : String} (h : contains s pfx = false) :
    hasPrefix s pfx = false :=
  Bool.eq_false_iff.mpr fun hprefix => Bool.eq_false_iff.mp h (contains_of_hasPrefix hprefix)

theorem hasPrefix_append (s t : String) : hasPrefix (s ++ t) s = true :=
  hasPrefix_eq_true_iff.mpr (List.prefix_append s.data t.data)

theorem contains_append_left (s t : String) : contains (s ++ t) s = true :=
  contains_of_hasPrefix (hasPrefix_append s t)

theorem contains_append_of_left {s t u : String} (h : contains s u = true) :
    contains (s ++ t) u = true :=
  contains_trans (contains_append_left s t) h

@[simp] theorem trimPrefix_append (pfx rest : String) : trimPrefix (pfx ++ rest) pfx = rest := by
  rw [trimPrefix, if_pos (hasPrefix_append pfx rest)]
  show String.mk ((pfx.data ++ rest.data).drop pfx.data.length) = rest
  rw [List.drop_left]

theorem trimPrefix_of_hasPrefix_eq_false {s pfx : String} (h : hasPrefix s pfx = false) :
    trimPrefix s pfx = s := by
  simp [trimPrefix, h]

end CirrusAgent
