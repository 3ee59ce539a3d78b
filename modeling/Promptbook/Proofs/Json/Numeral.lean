import Promptbook.Json.Lexer
import Promptbook.Number.Layout
import Promptbook.Proofs.Number.Packing

/-!
# Numerals are read as they were written

The digits of a number drive the number state of the lexer.  A whole number is read back from its
decimal digits, and a double from its shortest decimal in either notation.
-/

namespace Promptbook

/-! ## Digits -/

namespace Text

/-- The digits of a positive number start with a digit that is no zero. -/
theorem exists_toDigits {n : ℕ} (hn : 0 < n) :
    ∃ c cs, Nat.toDigits 10 n = c :: cs ∧ c ≠ '0' := by
  induction n using Nat.strong_induction_on with
  | _ n ih =>
    rcases Nat.lt_or_ge n 10 with hlt | hge
    · refine ⟨_, _, Nat.toDigits_of_lt_base hlt, ?_⟩
      clear ih
      interval_cases n <;> decide
    · obtain ⟨c, cs, hcs, hc⟩ := ih (n / 10) (by omega) (by omega)
      exact ⟨c, cs ++ [(n % 10).digitChar], by
        rw [Nat.toDigits_of_base_le (by norm_num) hge, hcs, List.cons_append], hc⟩

theorem isDigit_toDigits (n : ℕ) : ∀ c ∈ Nat.toDigits 10 n, c.isDigit = true :=
  fun _ => Nat.isDigit_of_mem_toDigits (by norm_num) (by norm_num)

end Text

namespace Json.Numeric

/-- A number with several more characters, if they belong to it. -/
def read? (n : Numeric) (cs : List Char) : Option Numeric := cs.foldlM next? n

theorem read?_cons (n : Numeric) (c : Char) (cs : List Char) :
    n.read? (c :: cs) = (n.next? c).bind (·.read? cs) := rfl

theorem read?_append (n : Numeric) (cs ds : List Char) :
    n.read? (cs ++ ds) = (n.read? cs).bind (·.read? ds) := by
  rw [read?, List.foldlM_append]
  rfl

/-- The value of a number that is complete. -/
def json (n : Numeric) : Json := n.value (n.stage = .power)

theorem lexemes_eq {n : Numeric} (hn : n.complete = true) (start finish : Nat) :
    n.lexemes start finish = [⟨.number n.json n.digits, start⟩] := by
  cases hs : n.stage <;> simp [complete, hs] at hn <;> simp [lexemes, token, json, hs]

section Digits

variable {n : Numeric} {ds : List Char} (hds : ∀ c ∈ ds, c.isDigit = true)

include hds

/-- Digits before the point. -/
theorem read?_whole (hn : n.stage = .whole) :
    n.read? ds = some { n with
      mantissa := Nat.ofDigitChars 10 ds n.mantissa, digits := n.digits + ds.length } := by
  induction ds generalizing n with
  | nil => rfl
  | cons c cs ih =>
    rw [List.forall_mem_cons] at hds
    have hnext : n.next? c = some { n with
        mantissa := 10 * n.mantissa + (c.toNat - 0x30), digits := n.digits + 1 } := by
      simp [next?, hn, hds.1]
    rw [read?_cons, hnext, Option.bind_some, ih hds.2 (by exact hn), Nat.ofDigitChars_cons]
    simp [Nat.add_comm, Nat.add_left_comm]

/-- Digits after the point. -/
theorem read?_places (hn : n.stage = .point ∨ n.stage = .places) (hne : ds ≠ []) :
    n.read? ds = some { n with
      stage := .places, mantissa := Nat.ofDigitChars 10 ds n.mantissa
      places := n.places + ds.length } := by
  induction ds generalizing n with
  | nil => exact absurd rfl hne
  | cons c cs ih =>
    rw [List.forall_mem_cons] at hds
    have hnext : n.next? c = some { n with
        stage := .places, mantissa := 10 * n.mantissa + (c.toNat - 0x30)
        places := n.places + 1 } := by
      rcases hn with hn | hn <;> simp [next?, hn, hds.1]
    rw [read?_cons, hnext, Option.bind_some]
    rcases cs with _ | ⟨d, cs⟩
    · rfl
    · rw [ih hds.2 (.inr rfl) (List.cons_ne_nil d cs)]
      simp [Nat.ofDigitChars_cons, Nat.add_comm, Nat.add_left_comm]

/-- Digits of the exponent. -/
theorem read?_power (hn : n.stage = .markSign ∨ n.stage = .power) (hne : ds ≠ []) :
    n.read? ds = some { n with
      stage := .power, power := Nat.ofDigitChars 10 ds n.power } := by
  induction ds generalizing n with
  | nil => exact absurd rfl hne
  | cons c cs ih =>
    rw [List.forall_mem_cons] at hds
    have hnext : n.next? c = some { n with
        stage := .power, power := 10 * n.power + (c.toNat - 0x30) } := by
      rcases hn with hn | hn <;> simp [next?, next?.exponentDigit, hn, hds.1]
    rw [read?_cons, hnext, Option.bind_some]
    rcases cs with _ | ⟨d, cs⟩
    · rfl
    · rw [ih hds.2 (.inr rfl) (List.cons_ne_nil d cs)]
      simp [Nat.ofDigitChars_cons]

end Digits

/-- Nothing of a number but its sign. -/
def signed (negative : Bool) : Numeric := { stage := .minus, negative := negative }

variable (negative : Bool)

/-- Digits that start with none that is zero. -/
theorem read?_digits {c : Char} {cs : List Char} (hc : c ≠ '0')
    (hds : ∀ d ∈ c :: cs, d.isDigit = true) :
    (signed negative).read? (c :: cs) = some { signed negative with
      stage := .whole, mantissa := Nat.ofDigitChars 10 (c :: cs) 0, digits := cs.length + 1 } := by
  rw [List.forall_mem_cons] at hds
  have hnext : (signed negative).next? c = some { signed negative with
      stage := .whole, mantissa := 10 * 0 + (c.toNat - 0x30), digits := 1 } := by
    simp [next?, signed, hc, hds.1]
  rw [read?_cons, hnext, Option.bind_some, read?_whole hds.2 rfl, Nat.ofDigitChars_cons]
  simp [Nat.add_comm]

theorem read?_zero : (signed negative).read? ['0'] = some { signed negative with
    stage := .zero, digits := 1 } := rfl

/-- A whole number is read from its digits. -/
theorem read?_toDigits (n : ℕ) : ∃ m, (signed negative).read? (Nat.toDigits 10 n) = some m ∧
    m.complete = true ∧ m.json = .integer (if negative then -n else n) ∧
    m.digits = (Nat.toDigits 10 n).length := by
  rcases Nat.eq_zero_or_pos n with rfl | hn
  · exact ⟨_, read?_zero negative, rfl, by cases negative <;> rfl, rfl⟩
  · obtain ⟨c, cs, hcs, hc⟩ := Text.exists_toDigits hn
    have hvalue : Nat.ofDigitChars 10 (c :: cs) 0 = n := by
      rw [← hcs, Nat.ofDigitChars_ten_toDigits]
    have hds := Text.isDigit_toDigits n
    rw [hcs] at hds ⊢
    refine ⟨_, read?_digits negative hc hds, rfl, ?_, rfl⟩
    rw [hvalue]
    rfl

/-! ## Decimals -/

/-- The power of ten that belongs to the digits of a number. -/
def scale (n : Numeric) : ℤ :=
  (if n.stage = .power then (if n.powerNegative then -(n.power : ℤ) else n.power) else 0) - n.places

/-- A number with digits after the point, or with an exponent, is a double. -/
theorem json_eq_number {n : Numeric} (h : n.places ≠ 0 ∨ n.stage = .power) :
    n.json = .number (Double.ofDecimal n.negative n.mantissa n.scale) := by
  have hwhole : ¬ (n.places = 0 ∧ (!decide (n.stage = .power)) = true) := by
    rcases h with h | h <;> simp [h]
  rw [json, value, if_neg hwhole, scale]
  by_cases hp : n.stage = .power <;> simp [hp]

/-- A point and digits after a whole number. -/
theorem read?_point {n : Numeric} (hn : n.stage = .zero ∨ n.stage = .whole) {ds : List Char}
    (hds : ∀ c ∈ ds, c.isDigit = true) (hne : ds ≠ []) :
    n.read? ('.' :: ds) = some { n with
      stage := .places, mantissa := Nat.ofDigitChars 10 ds n.mantissa
      places := n.places + ds.length } := by
  have hnext : n.next? '.' = some { n with stage := .point } := by
    rcases hn with hn | hn <;> simp [next?, next?.afterWhole, hn]
  rw [read?_cons, hnext, Option.bind_some, read?_places hds (.inl rfl) hne]

/-- An exponent after the digits. -/
theorem read?_exponent {n : Numeric} (hn : n.stage = .whole ∨ n.stage = .places) (minus : Bool)
    {ds : List Char} (hds : ∀ c ∈ ds, c.isDigit = true) (hne : ds ≠ []) :
    n.read? ('e' :: (if minus then '-' else '+') :: ds) = some { n with
      stage := .power, powerNegative := minus, power := Nat.ofDigitChars 10 ds n.power } := by
  have hmark : n.next? 'e' = some { n with stage := .mark } := by
    rcases hn with hn | hn <;>
      simp [next?, next?.afterWhole, next?.exponentMark, hn]
  have hsign : ({ n with stage := .mark } : Numeric).next? (if minus then '-' else '+') =
      some { n with stage := .markSign, powerNegative := minus } := by
    cases minus <;> simp [next?]
  rw [read?_cons, hmark, Option.bind_some, read?_cons, hsign, Option.bind_some,
    read?_power hds (.inl rfl) hne]

/-- A complete number that stands for a decimal with a sign. -/
structure Spells (n : Numeric) (negative : Bool) (d : Shortest.Decimal) : Prop where
  complete : n.complete = true
  isDouble : n.places ≠ 0 ∨ n.stage = .power
  negative_eq : n.negative = negative
  value : (n.mantissa : ℚ) * 10 ^ n.scale = d.value
  digits : n.digits ≤ 16

section Decimal

variable {d : Shortest.Decimal}

/-- The power of ten of the first digit of a decimal. -/
def leading (d : Shortest.Decimal) : ℤ :=
  d.exponent + (Nat.toDigits 10 d.significand).length - 1

/-- A decimal below one in plain notation. -/
theorem spells_fraction (hlow : -5 ≤ leading d) (hhigh : leading d < 0) :
    ∃ n, (signed negative).read? (Layout.plain (Nat.toDigits 10 d.significand) (leading d)) =
      some n ∧ n.Spells negative d := by
  set ds := Nat.toDigits 10 d.significand with hdef
  set zs := List.replicate (-leading d - 1).toNat '0'
  have hds : ∀ c ∈ zs ++ ds, c.isDigit = true := by
    intro c hc
    rcases List.mem_append.1 hc with hc | hc
    · rw [List.eq_of_mem_replicate hc]
      rfl
    · exact Text.isDigit_toDigits _ c hc
  have hne : zs ++ ds ≠ [] := by simp [hdef]
  have hvalue : Nat.ofDigitChars 10 (zs ++ ds) 0 = d.significand := by
    rw [Nat.ofDigitChars_append, Nat.ofDigitChars_replicate_zero, Nat.mul_zero,
      Nat.ofDigitChars_ten_toDigits]
  rw [Layout.plain, if_pos hhigh]
  refine ⟨{ signed negative with
    stage := .places, mantissa := d.significand, digits := 1, places := (zs ++ ds).length },
    ?_, rfl, .inl (by simpa using hne), rfl, ?_, by norm_num⟩
  · change ((signed negative).read? (['0'] ++ '.' :: (zs ++ ds))) = _
    rw [read?_append, read?_zero, Option.bind_some, read?_point (.inl rfl) hds hne]
    simp [signed, hvalue]
  · have hscale : d.exponent = 0 - ((zs ++ ds).length : ℤ) := by
      have : ((zs ++ ds).length : ℤ) = -leading d - 1 + ds.length := by
        rw [List.length_append, List.length_replicate]
        omega
      rw [this, leading, ← hdef]
      omega
    rw [Shortest.Decimal.value, hscale]
    rfl

/-- The digits of a decimal in plain notation, cut at the point. -/
theorem spells_point (hd : 0 < d.significand) (hnonneg : 0 ≤ leading d) (hhigh : leading d < 16)
    (zs : List Char) (hzs : zs = List.replicate zs.length '0') {ps : List Char} (hps : ps ≠ [])
    {ws : List Char} (hws : ws.length = (leading d).toNat + 1)
    (hcut : ws ++ ps = Nat.toDigits 10 d.significand ++ zs) :
    ∃ n, (signed negative).read? (ws ++ '.' :: ps) = some n ∧ n.Spells negative d := by
  obtain ⟨c, cs, hcs, hc⟩ := Text.exists_toDigits hd
  have hds : ∀ x ∈ ws ++ ps, x.isDigit = true := by
    intro x hx
    rw [hcut, hzs] at hx
    rcases List.mem_append.1 hx with hx | hx
    · exact Text.isDigit_toDigits _ x hx
    · rw [List.eq_of_mem_replicate hx]
      rfl
  rw [List.forall_mem_append] at hds
  have hvalue : Nat.ofDigitChars 10 ps (Nat.ofDigitChars 10 ws 0) =
      10 ^ zs.length * d.significand := by
    rw [← Nat.ofDigitChars_append, hcut, Nat.ofDigitChars_append, Nat.ofDigitChars_ten_toDigits,
      hzs, Nat.ofDigitChars_replicate_zero, List.length_replicate]
  have hlength := congrArg List.length hcut
  rw [List.length_append, List.length_append, hws] at hlength
  cases ws with
  | nil => cases hws
  | cons w ws =>
    obtain rfl : w = c := by
      rw [hcs, List.cons_append, List.cons_append] at hcut
      exact (List.cons.inj hcut).1
    refine ⟨{ signed negative with
      stage := .places, mantissa := 10 ^ zs.length * d.significand, digits := ws.length + 1
      places := ps.length }, ?_, rfl, .inl (by simpa using hps), rfl, ?_, ?_⟩
    · rw [read?_append, read?_digits negative hc hds.1, Option.bind_some,
        read?_point (.inr rfl) hds.2 hps]
      simp [signed, hvalue]
    · have hscale : (zs.length : ℤ) + (0 - (ps.length : ℤ)) = d.exponent := by
        rw [leading] at hws hnonneg hlength
        omega
      have hpow : (10 : ℚ) ^ d.exponent = 10 ^ zs.length * 10 ^ (0 - (ps.length : ℤ)) := by
        rw [← hscale, zpow_add₀ (by norm_num), zpow_natCast]
      change ((10 ^ zs.length * d.significand : ℕ) : ℚ) * 10 ^ (0 - (ps.length : ℤ)) = _
      rw [Shortest.Decimal.value, hpow]
      push_cast
      ring
    · simp only [List.length_cons] at hws ⊢
      omega

/-- A decimal from one on in plain notation. -/
theorem spells_whole (hd : 0 < d.significand) (hnonneg : 0 ≤ leading d) (hhigh : leading d < 16) :
    ∃ n, (signed negative).read? (Layout.plain (Nat.toDigits 10 d.significand) (leading d)) =
      some n ∧ n.Spells negative d := by
  set ds := Nat.toDigits 10 d.significand with hdef
  rw [Layout.plain, if_neg (by omega)]
  dsimp only
  rcases Nat.lt_or_ge ((leading d).toNat + 1) ds.length with hlt | hge
  · have hrest : ds.drop ((leading d).toNat + 1) ≠ [] := by
      rw [ne_eq, List.drop_eq_nil_iff]
      omega
    rw [Nat.sub_eq_zero_of_le hlt.le, List.replicate_zero, List.append_nil,
      if_neg (by simpa using hrest)]
    refine spells_point negative hd hnonneg hhigh [] rfl hrest ?_ ?_
    · rw [List.length_take]
      omega
    · rw [List.take_append_drop, List.append_nil]
  · rw [List.take_of_length_le hge, List.drop_eq_nil_of_le hge, if_pos List.isEmpty_nil]
    refine spells_point negative hd hnonneg hhigh
      (List.replicate ((leading d).toNat + 1 - ds.length) '0' ++ ['0']) ?_ (by simp) ?_ ?_
    · rw [List.length_append, List.length_replicate, List.length_singleton,
        List.replicate_succ']
    · rw [List.length_append, List.length_replicate]
      omega
    · rw [List.append_assoc]

/-- A decimal in scientific notation. -/
theorem spells_scientific (hd : 0 < d.significand) (width : ℕ) :
    ∃ n, (signed negative).read?
      (Layout.scientific width (Nat.toDigits 10 d.significand) (leading d)) = some n ∧
      n.Spells negative d := by
  obtain ⟨c, cs, hcs, hc⟩ := Text.exists_toDigits hd
  have hds := Text.isDigit_toDigits d.significand
  have hvalue := @Nat.ofDigitChars_ten_toDigits d.significand
  have hlead : leading d = d.exponent + cs.length := by
    rw [leading, hcs, List.length_cons]
    push_cast
    ring
  rw [hcs] at hds hvalue ⊢
  set zs := List.replicate (width - (Nat.toDigits 10 (leading d).natAbs).length) '0'
  set es := zs ++ Nat.toDigits 10 (leading d).natAbs with hes
  have hesDigits : ∀ x ∈ es, x.isDigit = true := by
    intro x hx
    rcases List.mem_append.1 hx with hx | hx
    · rw [List.eq_of_mem_replicate hx]
      rfl
    · exact Text.isDigit_toDigits _ x hx
  have hesNil : es ≠ [] := by simp [hes]
  have hesValue : Nat.ofDigitChars 10 es 0 = (leading d).natAbs := by
    rw [Nat.ofDigitChars_append, Nat.ofDigitChars_replicate_zero, Nat.mul_zero,
      Nat.ofDigitChars_ten_toDigits]
  -- The digits in front of the exponent, with and without a point.
  obtain ⟨n, hn, hstage, hsign, hmantissa, hplaces, hpower, hdigits⟩ : ∃ n : Numeric,
      (signed negative).read? (c :: if cs.length + 1 ≤ 1 then [] else '.' :: cs) = some n ∧
      (n.stage = .whole ∨ n.stage = .places) ∧ n.negative = negative ∧
      n.mantissa = d.significand ∧ n.places = cs.length ∧ n.power = 0 ∧ n.digits = 1 := by
    rw [List.forall_mem_cons] at hds
    have hfirst := @read?_digits negative c [] hc (by simpa using hds.1)
    rcases cs with _ | ⟨x, xs⟩
    · exact ⟨_, hfirst, .inl rfl, rfl, hvalue, rfl, rfl, rfl⟩
    · refine ⟨{ signed negative with
        stage := .places, mantissa := d.significand, digits := 1, places := (x :: xs).length },
        ?_, .inr rfl, rfl, rfl, rfl, rfl, rfl⟩
      rw [if_neg (by simp), ← List.singleton_append, read?_append, hfirst, Option.bind_some,
        read?_point (.inr rfl) hds.2 (List.cons_ne_nil x xs), ← Nat.ofDigitChars_append,
        List.singleton_append, hvalue]
      simp [signed]
  have hread := read?_exponent hstage (decide (leading d < 0)) hesDigits hesNil
  rw [hpower, hesValue] at hread
  refine ⟨{ n with
    stage := .power, powerNegative := decide (leading d < 0), power := (leading d).natAbs },
    ?_, rfl, .inr rfl, hsign, ?_, by rw [hdigits]; norm_num⟩
  · change (signed negative).read? ((c :: if cs.length + 1 ≤ 1 then [] else '.' :: cs) ++
      'e' :: (if leading d < 0 then '-' else '+') :: es) = _
    simp only [decide_eq_true_eq] at hread
    rw [read?_append, hn, Option.bind_some, hread]
  · have hscale : (if decide (leading d < 0) = true then -((leading d).natAbs : ℤ)
        else (leading d).natAbs) - (n.places : ℤ) = d.exponent := by
      rw [hplaces]
      by_cases hneg : leading d < 0
      · rw [if_pos (decide_eq_true hneg)]
        omega
      · rw [if_neg (by simpa using hneg)]
        omega
    change (n.mantissa : ℚ) * 10 ^ ((if decide (leading d < 0) = true then
      -((leading d).natAbs : ℤ) else (leading d).natAbs) - (n.places : ℤ)) = _
    rw [hscale, hmantissa]
    rfl

/-- A decimal is read from the text that documents give it. -/
theorem spells_decimal (hd : 0 < d.significand ∨ d = ⟨0, 0⟩) :
    ∃ n, (signed negative).read? (Layout.document.decimal d) = some n ∧ n.Spells negative d := by
  rcases hd with hd | rfl
  · rw [Layout.decimal]
    change ∃ n, (signed negative).read? (if -5 ≤ leading d ∧ leading d < 16 then _ else _) =
      some n ∧ _
    split_ifs with h
    · rcases lt_or_ge (leading d) 0 with hneg | hnonneg
      · exact spells_fraction negative h.1 hneg
      · exact spells_whole negative hd hnonneg h.2
    · exact spells_scientific negative hd 1
  · refine ⟨{ signed negative with stage := .places, digits := 1, places := 1 }, rfl, rfl,
      .inl one_ne_zero, rfl, ?_, by norm_num⟩
    simp [signed, Shortest.Decimal.value]

end Decimal

/-- A finite double is read from its text. -/
theorem read?_render {x : Float} {p : Double.Parts} (hx : Double.parts x = .ok p) :
    ∃ n, (signed p.negative).read? (Layout.document.decimal (Shortest.ofParts p)) = some n ∧
      n.complete = true ∧ n.json = .number x ∧ n.digits ≤ 16 := by
  have hd : 0 < (Shortest.ofParts p).significand ∨ Shortest.ofParts p = ⟨0, 0⟩ := by
    rcases Double.unpack_of_parts hx with ⟨hm, -⟩ | ⟨hm, hu⟩
    · exact .inr (by rw [Shortest.ofParts, if_pos hm])
    · exact .inl (Shortest.near_ofParts (Double.canonical_of_unpack hu).1 p.negative).1
  obtain ⟨n, hn, hs⟩ := spells_decimal p.negative hd
  refine ⟨n, hn, hs.complete, ?_, hs.digits⟩
  rw [json_eq_number hs.isDouble, hs.negative_eq, Double.ofDecimal_of_parts hx hs.value]

end Json.Numeric

end Promptbook
