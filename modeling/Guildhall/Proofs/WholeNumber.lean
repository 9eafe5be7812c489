/-
Guildhall/Proofs/WholeNumber.lean

Which values pass for whole numbers.  A value may stand for a rational (`StandsFor`): a
whole number for itself, a floating-point one for its exact value, a text or a row of bytes
for the number that it is read as; truth values, null, lists and objects stand for none.
The check should let a value pass if and only if it stands for a whole number within the
bounds, as that number, and refuse everything else with a complaint about the field
(`WholeOnly`).  It lets pass what it should; where else it strays is said exactly:

    WholeOnly v field least most  ↔  ¬ Strays least most v

It strays at a fraction, which is rounded towards zero and passes if what is left is within
the bounds; at the infinities, which stop it with an overflow; and at a refusal for which a
number of more than 4300 digits would have to be written down.  An amount is never below
zero, yet a fraction between minus one and zero passes for one.  Writing a value down is
taken to work at every depth of lists and objects; that it ends where the stack does is no
part of this.

Main statements: `toInteger_eq_ok`, `integer_eq_reject` and `integer_wholeOnly_iff`.
-/
import Guildhall.Proofs.Address
import Guildhall.Proofs.Rational

namespace Guildhall

open Number Text

/-! ### The number that a value stands for -/

/-- The rational that a value stands for: a whole number, a finite floating-point one, or a
text or a row of ASCII bytes that is read as a whole number. -/
inductive Value.StandsFor : Value → ℚ → Prop
  | int (n : ℤ) : StandsFor (.int n) n
  | float {x : Binary64} {q : ℚ} (h : x.toRat? = some q) : StandsFor (.float x) q
  | text {s : String} {n : ℤ} (h : Numeral.read s = .ok n) : StandsFor (.text s) n
  | torn {s : String} {n : ℤ} (h : Numeral.read s = .ok n) : StandsFor (.torn s) n
  | bytes {b : List UInt8} {n : ℤ} (hascii : b.all (· < 0x80) = true)
      (h : Numeral.read (String.ofList (b.map fun c => Char.ofNat c.toNat)) = .ok n) :
      StandsFor (.bytes b) n

namespace Input

variable {v : Value} {field : String} {least most : Option ℤ} {n : ℤ} {q r : ℚ}

theorem standsFor_unique (hq : v.StandsFor q) (hr : v.StandsFor r) : q = r := by
  cases hq with
  | int n =>
    cases hr
    rfl
  | float h =>
    cases hr with
    | float h' => exact Option.some.inj (h.symm.trans h')
  | text h =>
    cases hr with
    | text h' => rw [Except.ok.inj (h.symm.trans h')]
  | torn h =>
    cases hr with
    | torn h' => rw [Except.ok.inj (h.symm.trans h')]
  | bytes hascii h =>
    cases hr with
    | bytes hascii' h' => rw [Except.ok.inj (h.symm.trans h')]

/-! ### Refusals -/

theorem reject_bind {α β : Type} {given : Value} {complaint : Complaint}
    {f : α → Except Stop β} :
    reject given field complaint >>= f = reject given field complaint := by
  unfold reject
  split
  · rfl
  · rfl

/-- A refusal is a complaint about the field if what is refused can be written down. -/
theorem reject_isComplaint_iff {α : Type} {given : Value} {complaint : Complaint} :
    (∃ c, (reject given field complaint : Except Stop α) =
      .error (.failure (.invalid field c))) ↔ given.isWritable = true := by
  constructor
  · rintro ⟨c, h⟩
    by_contra hnot
    rw [reject, if_neg hnot] at h
    cases h
  · exact fun h => ⟨complaint, reject_of_isWritable h⟩

/-! ### Reading a value -/

/-- What a value stands for is read without its fraction. -/
theorem toInteger_of_standsFor (h : v.StandsFor q) : toInteger v field = .ok (towardZero q) := by
  cases h with
  | int n => rw [towardZero_intCast]; rfl
  | @float x q h =>
    have htruncate : x.truncate? = some (towardZero q) := by
      rw [Binary64.truncate?_eq, h]
      rfl
    unfold toInteger
    cases x with
    | nan => cases h
    | infinite negative => cases h
    | finite negative m e => simp only [htruncate]
  | text h => simp only [toInteger, h, towardZero_intCast]
  | torn h => simp only [toInteger, h, towardZero_intCast]
  | bytes hascii h => simp only [toInteger, h, hascii, if_true, towardZero_intCast]

/-- A value that stands for nothing is refused, an infinity apart. -/
theorem toInteger_of_not_standsFor (field : String) (h : ∀ q, ¬v.StandsFor q)
    (hfinite : ∀ negative, v ≠ .float (.infinite negative)) :
    ∃ complaint, toInteger v field = reject v field complaint := by
  cases v with
  | null => exact ⟨_, rfl⟩
  | bool b => exact ⟨_, rfl⟩
  | int n => exact absurd (.int n) (h n)
  | float x =>
    cases x with
    | nan => exact ⟨_, rfl⟩
    | infinite negative => exact absurd rfl (hfinite negative)
    | finite negative m e => exact absurd (.float rfl) (h _)
  | text s =>
    cases hs : Numeral.read s with
    | ok n => exact absurd (.text hs) (h n)
    | error fault => exact ⟨_, by simp only [toInteger, hs]; rfl⟩
  | torn s =>
    cases hs : Numeral.read s with
    | ok n => exact absurd (.torn hs) (h n)
    | error fault => exact ⟨_, by simp only [toInteger, hs]; rfl⟩
  | bytes b =>
    cases hb : Numeral.read (String.ofList (b.map fun c => Char.ofNat c.toNat)) with
    | ok n =>
      have hascii : ¬b.all (· < 0x80) = true := fun hascii => h n (.bytes hascii hb)
      exact ⟨_, by simp only [toInteger, hb]; exact if_neg hascii⟩
    | error fault => exact ⟨_, by simp only [toInteger, hb]; rfl⟩
  | list items => exact ⟨_, rfl⟩
  | object fields => exact ⟨_, rfl⟩

/-- **The number that is read** is the one that the value stands for, rounded towards
zero. -/
theorem toInteger_eq_ok :
    toInteger v field = .ok n ↔ ∃ q, v.StandsFor q ∧ towardZero q = n := by
  constructor
  · intro h
    by_contra hnone
    have hnot : ∀ q, ¬v.StandsFor q := fun q hq =>
      hnone ⟨q, hq, Except.ok.inj ((toInteger_of_standsFor hq).symm.trans h)⟩
    by_cases hfinite : ∀ negative, v ≠ .float (.infinite negative)
    · obtain ⟨complaint, hreject⟩ := toInteger_of_not_standsFor field hnot hfinite
      exact reject_eq_ok.1 (hreject.symm.trans h)
    · push Not at hfinite
      obtain ⟨negative, rfl⟩ := hfinite
      cases h
  · rintro ⟨q, hq, rfl⟩
    exact toInteger_of_standsFor hq

/-! ### Bounds -/

/-- A number that keeps the bounds that there are. -/
def Within (least most : Option ℤ) (n : ℤ) : Prop :=
  (∀ low ∈ least, low ≤ n) ∧ ∀ high ∈ most, n ≤ high

/-- The bound that a number is refused for: the lower one comes first. -/
def Breaks (least most : Option ℤ) (n bound : ℤ) : Prop :=
  bound ∈ least ∧ n < bound ∨ (∀ low ∈ least, low ≤ n) ∧ bound ∈ most ∧ bound < n

theorem not_within_of_breaks {bound : ℤ} (h : Breaks least most n bound) :
    ¬Within least most n := by
  rintro ⟨hlow, hhigh⟩
  rcases h with ⟨hmem, hlt⟩ | ⟨-, hmem, hlt⟩
  · exact not_lt.2 (hlow bound hmem) hlt
  · exact not_lt.2 (hhigh bound hmem) hlt

theorem exists_breaks (h : ¬Within least most n) : ∃ bound, Breaks least most n bound := by
  by_cases hlow : ∀ low ∈ least, low ≤ n
  · have hhigh : ¬∀ high ∈ most, n ≤ high := fun hhigh => h ⟨hlow, hhigh⟩
    push Not at hhigh
    obtain ⟨high, hmem, hlt⟩ := hhigh
    exact ⟨high, .inr ⟨hlow, hmem, hlt⟩⟩
  · push Not at hlow
    obtain ⟨low, hmem, hlt⟩ := hlow
    exact ⟨low, .inl ⟨hmem, hlt⟩⟩

/-- A value passes as the number it stands for, rounded towards zero, if that is within the
bounds. -/
theorem integer_eq_towardZero :
    integer v field least most = .ok n ↔
      ∃ q, v.StandsFor q ∧ towardZero q = n ∧ Within least most n := by
  rw [integer_eq_ok, toInteger_eq_ok]
  exact ⟨fun ⟨⟨q, hq, hn⟩, hwithin⟩ => ⟨q, hq, hn, hwithin⟩,
    fun ⟨q, hq, hn, hwithin⟩ => ⟨⟨q, hq, hn⟩, hwithin⟩⟩

/-- A number that breaks a bound is refused; the message has the bound and the number. -/
theorem integer_eq_reject (field : String) {bound : ℤ} (hq : v.StandsFor q)
    (h : Breaks least most (towardZero q) bound) :
    ∃ complaint, integer v field least most =
      reject (.list [.int bound, .int (towardZero q)]) field complaint := by
  unfold integer
  rw [toInteger_of_standsFor hq]
  rcases h with ⟨rfl, hlt⟩ | ⟨hlow, rfl, hlt⟩
  · refine ⟨.below bound (towardZero q), ?_⟩
    dsimp only [bind, Except.bind]
    rw [if_pos hlt]
    exact reject_bind
  · refine ⟨.above bound (towardZero q), ?_⟩
    cases least with
    | none =>
      dsimp only [bind, Except.bind]
      rw [if_pos hlt]
      exact reject_bind
    | some low =>
      dsimp only [bind, Except.bind]
      rw [if_neg (not_lt.2 (hlow low rfl)), if_pos hlt]
      exact reject_bind

/-- A value that stands for nothing is refused before any bound is looked at. -/
theorem integer_of_not_standsFor (field : String) (h : ∀ q, ¬v.StandsFor q)
    (hfinite : ∀ negative, v ≠ .float (.infinite negative)) :
    ∃ complaint, integer v field least most = reject v field complaint := by
  obtain ⟨complaint, hreject⟩ := toInteger_of_not_standsFor field h hfinite
  refine ⟨complaint, ?_⟩
  unfold integer
  rw [hreject]
  exact reject_bind

/-! ### Where the check strays -/

/-- What the check of a whole number should do with a value. -/
structure WholeOnly (v : Value) (field : String) (least most : Option ℤ) : Prop where
  accepted : ∀ n, integer v field least most = .ok n → v.StandsFor n ∧ Within least most n
  refused : (∀ n : ℤ, ¬(v.StandsFor n ∧ Within least most n)) →
    ∃ complaint, integer v field least most = .error (.failure (.invalid field complaint))

/-- The values with which the check does something else. -/
inductive Strays (least most : Option ℤ) (v : Value) : Prop
  /-- A fraction, of which the rest is within the bounds. -/
  | fraction {q : ℚ} (hq : v.StandsFor q) (hfraction : ∀ n : ℤ, q ≠ n)
      (hwithin : Within least most (towardZero q))
  | infinite {negative : Bool} (hv : v = .float (.infinite negative))
  /-- A list or an object with a number of too many digits. -/
  | endless (hnone : ∀ q, ¬v.StandsFor q) (hdigits : v.isWritable = false)
  /-- A number beyond a bound, if the message would have too many digits. -/
  | beyond {q : ℚ} {bound : ℤ} (hq : v.StandsFor q)
      (hbreaks : Breaks least most (towardZero q) bound)
      (hdigits : ¬(Numeral.isWritable bound = true ∧ Numeral.isWritable (towardZero q) = true))

/-- Where the check does not stray, only a whole number can be rounded to one within the
bounds. -/
theorem eq_towardZero_of_not_strays (h : ¬Strays least most v) (hq : v.StandsFor q)
    (hwithin : Within least most (towardZero q)) : q = towardZero q := by
  by_contra hne
  refine h (.fraction hq ?_ hwithin)
  rintro n rfl
  exact hne (by rw [towardZero_intCast])

theorem wholeOnly_of_not_strays (h : ¬Strays least most v) : WholeOnly v field least most := by
  refine ⟨fun n hok => ?_, fun hnone => ?_⟩
  · obtain ⟨q, hq, rfl, hwithin⟩ := integer_eq_towardZero.1 hok
    exact ⟨eq_towardZero_of_not_strays h hq hwithin ▸ hq, hwithin⟩
  · by_cases hstands : ∃ q, v.StandsFor q
    · obtain ⟨q, hq⟩ := hstands
      have hout : ¬Within least most (towardZero q) := fun hwithin =>
        hnone _ ⟨eq_towardZero_of_not_strays h hq hwithin ▸ hq, hwithin⟩
      obtain ⟨bound, hbreaks⟩ := exists_breaks hout
      obtain ⟨complaint, hreject⟩ := integer_eq_reject field hq hbreaks
      rw [hreject, reject_isComplaint_iff]
      by_contra hdigits
      refine h (.beyond hq hbreaks fun hboth => hdigits ?_)
      simpa only [Value.isWritable, Value.areWritable, Bool.and_true, Bool.and_eq_true] using hboth
    · push Not at hstands
      have hfinite : ∀ negative, v ≠ .float (.infinite negative) := fun negative hv =>
        h (.infinite hv)
      obtain ⟨complaint, hreject⟩ := integer_of_not_standsFor field hstands hfinite
      rw [hreject, reject_isComplaint_iff]
      by_contra hdigits
      exact h (.endless hstands (eq_false_of_ne_true hdigits))

theorem not_strays_of_wholeOnly (h : WholeOnly v field least most) : ¬Strays least most v := by
  intro hstrays
  cases hstrays with
  | fraction hq hfraction hwithin =>
    obtain ⟨hwhole, -⟩ := h.accepted _ (integer_eq_towardZero.2 ⟨_, hq, rfl, hwithin⟩)
    exact hfraction _ (standsFor_unique hq hwhole)
  | infinite hv =>
    subst hv
    obtain ⟨complaint, hstop⟩ := h.refused fun n hn => nomatch hn.1
    cases hstop
  | endless hnone hdigits =>
    have hfinite : ∀ negative, v ≠ .float (.infinite negative) := by
      rintro negative rfl
      cases hdigits
    obtain ⟨complaint, hreject⟩ := integer_of_not_standsFor field hnone hfinite
    have hstop := h.refused fun n hn => hnone n hn.1
    rw [hreject, reject_isComplaint_iff, hdigits] at hstop
    cases hstop
  | @beyond q bound hq hbreaks hdigits =>
    obtain ⟨complaint, hreject⟩ := integer_eq_reject field hq hbreaks
    have hstop := h.refused fun n hn => by
      obtain rfl := standsFor_unique hq hn.1
      rw [towardZero_intCast] at hbreaks
      exact not_within_of_breaks hbreaks hn.2
    rw [hreject, reject_isComplaint_iff] at hstop
    refine hdigits ?_
    simpa only [Value.isWritable, Value.areWritable, Bool.and_true, Bool.and_eq_true] using hstop

/-- Of the numbers below zero, the fractions above minus one pass for an amount. -/
theorem amount_of_neg (hneg : q < 0) (hq : v.StandsFor q) :
    (∃ n, amount v field = .ok n) ↔ -1 < q := by
  rw [← towardZero_nonneg_iff hneg]
  unfold amount
  simp only [integer_eq_towardZero]
  constructor
  · rintro ⟨n, r, hr, rfl, hlow, -⟩
    rw [standsFor_unique hq hr]
    exact hlow 0 rfl
  · intro h
    have hzero : towardZero q = 0 := le_antisymm (towardZero_nonpos hneg) h
    refine ⟨0, q, hq, hzero, ?_, ?_⟩
    · rintro _ ⟨⟩
      exact le_refl 0
    · rintro _ ⟨⟩
      decide

/-- **The check of a whole number lets pass** what stands for a whole number within the
bounds, as that number, and besides the fractions that are rounded to one.  It refuses
everything else with a complaint about the field, but for the infinities and for what cannot
be complained about.  An amount is not negative, though what it was read from may be.  How
deep a list or an object may be nested to be written down at all is left out of this: a
complaint about such a value is taken to be made. -/
theorem integer_wholeOnly_iff (v : Value) (field : String) (least most : Option ℤ) :
    (WholeOnly v field least most ↔ ¬Strays least most v) ∧
      (∀ n, integer v field least most = .ok n ↔
        ∃ q, v.StandsFor q ∧ towardZero q = n ∧ Within least most n) ∧
      (∀ n, amount v field = .ok n → 0 ≤ n) ∧
      ∀ q < 0, v.StandsFor q → ((∃ n, amount v field = .ok n) ↔ -1 < q) :=
  ⟨⟨not_strays_of_wholeOnly, wholeOnly_of_not_strays⟩, fun _ => integer_eq_towardZero,
    fun _ h => (amount_bounds h).1, fun _ hneg hq => amount_of_neg hneg hq⟩

/-- Minus one half passes for the amount zero, and infinity stops the check with an overflow. -/
theorem half_is_no_amount :
    amount (.float (.finite true (2 ^ 52) (-53))) "amount" = .ok 0 ∧
      amount (.float (.infinite false)) "amount" = .error .overflow ∧
      ¬WholeOnly (.float (.finite true (2 ^ 52) (-53))) "amount" (some 0) (some greatestAmount) ∧
      ¬WholeOnly (.float (.infinite false)) "amount" (some 0) (some greatestAmount) := by
  refine ⟨rfl, rfl, fun h => ?_, fun h => ?_⟩
  · obtain ⟨hstands, -⟩ := h.accepted 0 rfl
    have hhalf := standsFor_unique hstands (.float rfl)
    norm_num at hhalf
  · obtain ⟨complaint, hstop⟩ := h.refused fun n hn => nomatch hn.1
    cases hstop

end Input

end Guildhall
