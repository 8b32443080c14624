import Mathlib.Data.List.Basic
import Mathlib.Data.List.TakeDrop
import Prepared.Json.Reader
import Prepared.Json.Writer

/-! Numbers and texts are read as they were written.

A number ends where the first character stands that cannot belong to it, so that
reading it back asks something of what follows; a text brings its own end. -/
namespace Prepared

/-! ## Numbers -/

/-- At least one digit, and nothing else. -/
def IsDigits (ds : List Char) : Prop :=
  ds ≠ [] ∧ ∀ c ∈ ds, c.isDigit = true

namespace IsDigits

variable {as bs : List Char}

theorem append (ha : IsDigits as) (hb : ∀ c ∈ bs, c.isDigit = true) : IsDigits (as ++ bs) :=
  ⟨by simp [ha.1], fun c hc => (List.mem_append.1 hc).elim (ha.2 c) (hb c)⟩

theorem ofNat (n : Nat) : IsDigits (Nat.toDigits 10 n) :=
  ⟨Nat.toDigits_ne_nil, fun _ hc => Nat.isDigit_of_mem_toDigits (by decide) (by decide) hc⟩

theorem of_mem_zeros {c : Char} {n : Nat} (h : c ∈ Numeral.zeros n) : c.isDigit = true := by
  rw [List.eq_of_mem_replicate h]
  decide

theorem zeros_append (h : IsDigits as) (n : Nat) : IsDigits (Numeral.zeros n ++ as) :=
  ⟨by simp [h.1], fun c hc => (List.mem_append.1 hc).elim of_mem_zeros (h.2 c)⟩

/-- A part of a run of digits that still has one. -/
theorem of_subset (h : IsDigits as) (hb : bs ⊆ as) (hne : bs ≠ []) : IsDigits bs :=
  ⟨hne, fun c hc => h.2 c (hb hc)⟩

end IsDigits

/-- A numeral as the grammar wants it: digits in each of its parts, and a zero in front
only when it is the whole part. -/
structure Numeral.Proper (n : Numeral) : Prop where
  whole : IsDigits n.whole
  leading : n.whole.head? = some '0' → n.whole = ['0']
  fraction : ∀ ds ∈ n.fraction, IsDigits ds
  exponent : ∀ e ∈ n.exponent, IsDigits e.2

/-- Only zero has a leading zero. -/
theorem head?_toDigits (n : Nat) :
    (Nat.toDigits 10 n).head? = some '0' → n = 0 := by
  induction n using Nat.strongRecOn with
  | ind n ih =>
    by_cases h : n < 10
    · rw [Nat.toDigits_of_lt_base h]
      simp
    · rw [Nat.toDigits_of_base_le (by decide) (by omega),
        List.head?_append_of_ne_nil _ Nat.toDigits_ne_nil]
      intro hz
      have := ih (n / 10) (by omega) hz
      omega

namespace Numeral

theorem ofInt_proper (i : Int) : (Numeral.ofInt i).Proper where
  whole := .ofNat _
  leading h := by simp [ofInt, head?_toDigits _ h]
  fraction := by simp [ofInt]
  exponent := by simp [ofInt]

@[simp] theorem toInt?_ofInt (i : Int) : (Numeral.ofInt i).toInt? = some i := by
  have hv : value (Nat.toDigits 10 i.natAbs) = i.natAbs := Nat.ofDigitChars_ten_toDigits
  unfold toInt? ofInt
  simp only [hv, decide_eq_true_eq]
  split
  · rw [if_neg (by omega)]
    exact congrArg some (by omega)
  · exact congrArg some (by omega)

/-- Whatever decimal is found for a finite number, its numeral is a proper one. -/
theorem ofBinary64_proper (x : Binary64) : (Numeral.ofBinary64 x).Proper := by
  unfold Numeral.ofBinary64
  generalize Decimal.shortest x = d
  have hds := IsDigits.ofNat d.digits
  by_cases hd : d.digits = 0
  · simp only [hd, if_true]
    exact ⟨.ofNat 0, fun _ => rfl, by simpa using IsDigits.ofNat 0, by simp⟩
  -- from here on the digits do not start with a zero
  have hhead (h : (Nat.toDigits 10 d.digits).head? = some '0') : False := hd (head?_toDigits _ h)
  have hlen := List.length_pos_of_ne_nil hds.1
  simp only [hd, if_false]
  generalize Nat.toDigits 10 d.digits = digits at hds hhead hlen ⊢
  split
  · exact {
      whole := hds.append fun _ => IsDigits.of_mem_zeros
      leading h := (hhead (by rwa [List.head?_append_of_ne_nil _ hds.1] at h)).elim
      fraction := by simpa using IsDigits.ofNat 0
      exponent := by simp }
  · split
    · exact {
        whole := hds.of_subset (List.take_subset _ _) (by simp [hds.1]; omega)
        leading h := (hhead (by rwa [List.head?_take, if_neg (by omega)] at h)).elim
        fraction := by
          simp only [Option.mem_some_iff, forall_eq']
          exact hds.of_subset (List.drop_subset _ _) (by simp; omega)
        exponent := by simp }
    · split
      · exact {
          whole := .ofNat 0
          leading _ := rfl
          fraction := by simpa using hds.zeros_append _
          exponent := by simp }
      · exact {
          whole := hds.of_subset (List.take_subset _ _) (by simp [hds.1])
          leading h := (hhead (by rwa [List.head?_take, if_neg (by decide)] at h)).elim
          fraction := by
            split
            · simp
            · simp only [Option.mem_some_iff, forall_eq']
              exact hds.of_subset (List.drop_subset _ _) (by rw [Ne, List.drop_eq_nil_iff]; omega)
          exponent := by simpa using IsDigits.ofNat _ }

end Numeral

namespace Json

/-- What follows does not go on with a digit. -/
def NoDigit (cs : List Char) : Prop :=
  ∀ c ∈ cs.head?, c.isDigit = false

/-- What follows cannot belong to a number. -/
def Follows (cs : List Char) : Prop :=
  ∀ c ∈ cs.head?, c.isDigit = false ∧ c ≠ '.' ∧ c ≠ 'e' ∧ c ≠ 'E'

variable {ds cs : List Char}

theorem Follows.noDigit (h : Follows cs) : NoDigit cs :=
  fun c hc => (h c hc).1

theorem digits_append (hd : ∀ c ∈ ds, c.isDigit = true) (hc : NoDigit cs) :
    digits (ds ++ cs) = (ds, cs) := by
  rw [digits, List.span_eq_takeWhile_dropWhile, List.takeWhile_append_of_pos hd,
    List.dropWhile_append_of_pos hd]
  cases cs with
  | nil => simp
  | cons c cs => simp [hc c rfl]

theorem someDigits?_append (hd : IsDigits ds) (hc : NoDigit cs) :
    someDigits? (ds ++ cs) = some (ds, cs) := by
  obtain ⟨hne, hd⟩ := hd
  obtain ⟨d, ds, rfl⟩ := List.exists_cons_of_ne_nil hne
  rw [someDigits?, digits_append hd hc]

theorem wholeDigits?_append (hd : IsDigits ds) (hz : ds.head? = some '0' → ds = ['0'])
    (hc : NoDigit cs) : wholeDigits? (ds ++ cs) = some (ds, cs) := by
  rw [wholeDigits?, someDigits?_append hd hc]
  split
  · next h =>
    cases h
    simp at hz
  · rfl

/-- A fraction as it is written. -/
def writeFraction : Option (List Char) → List Char
  | some ds => '.' :: ds
  | none => []

/-- An exponent as it is written. -/
def writeExponent : Option (Bool × List Char) → List Char
  | some (negative, ds) => 'e' :: (if negative then '-' else '+') :: ds
  | none => []

theorem writeNumeral_eq (n : Numeral) :
    writeNumeral n = (if n.negative then ['-'] else []) ++ n.whole
      ++ writeFraction n.fraction ++ writeExponent n.exponent := rfl

theorem Follows.writeExponent (hc : Follows cs) (e : Option (Bool × List Char)) :
    NoDigit (writeExponent e ++ cs) ∧ ∀ c ∈ (writeExponent e ++ cs).head?, c ≠ '.' := by
  cases e with
  | none => exact ⟨hc.noDigit, fun c h => (hc c h).2.1⟩
  | some e => constructor <;> simp [Json.writeExponent, NoDigit]

theorem exponent?_append {e : Option (Bool × List Char)} (he : ∀ p ∈ e, IsDigits p.2)
    (hc : Follows cs) : exponent? (writeExponent e ++ cs) = some (e, cs) := by
  match e with
  | none =>
    rw [writeExponent, List.nil_append, exponent?]
    · rintro c rfl
      exact (hc _ rfl).2.2.1 rfl
    · rintro c rfl
      exact (hc _ rfl).2.2.2 rfl
  | some (negative, ds) =>
    cases negative <;>
      simp [writeExponent, exponent?, exponentPart?, someDigits?_append (he _ rfl) hc.noDigit]

theorem fraction?_append {f : Option (List Char)} (hf : ∀ ds ∈ f, IsDigits ds)
    (hc : NoDigit cs) (hp : ∀ c ∈ cs.head?, c ≠ '.') :
    fraction? (writeFraction f ++ cs) = some (f, cs) := by
  match f with
  | none =>
    rw [writeFraction, List.nil_append, fraction?]
    rintro c rfl
    exact hp _ rfl rfl
  | some ds => simp [writeFraction, fraction?, someDigits?_append (hf _ rfl) hc]

theorem unsigned?_append {n : Numeral} (hn : n.Proper) (hc : Follows cs) :
    unsigned? n.negative (n.whole ++ writeFraction n.fraction ++ writeExponent n.exponent ++ cs)
      = some (n, cs) := by
  obtain ⟨hd, hp⟩ := hc.writeExponent n.exponent
  have hw : NoDigit (writeFraction n.fraction ++ (writeExponent n.exponent ++ cs)) := by
    cases n.fraction with
    | none => exact hd
    | some ds => simp [writeFraction, NoDigit]
  simp only [unsigned?, List.append_assoc, wholeDigits?_append hn.whole hn.leading hw,
    fraction?_append hn.fraction hd hp, exponent?_append hn.exponent hc, Option.bind_eq_bind,
    Option.bind_some, Option.pure_def]

/-- A proper numeral is read back, with all its digits. -/
theorem numeral?_append {n : Numeral} (hn : n.Proper) (hc : Follows cs) :
    numeral? (writeNumeral n ++ cs) = some (n, cs) := by
  have hu := unsigned?_append hn hc
  rw [writeNumeral_eq]
  cases hneg : n.negative with
  | true => simpa [hneg, numeral?] using hu
  | false =>
    obtain ⟨d, ds, hw⟩ := List.exists_cons_of_ne_nil hn.whole.1
    have hd : d ≠ '-' := by
      rintro rfl
      exact absurd (hn.whole.2 '-' (by simp [hw])) (by decide)
    simp [hneg, hw] at hu ⊢
    rw [numeral?]
    · exact hu
    · intro cs h
      exact hd (List.cons.inj h).1

/-! ## Texts -/

/-- A part of a text names a character: it is that character, or the escape of a control
character. -/
def Piece.Names (p : Piece) (c : Char) : Prop :=
  p = .char c ∨ c.toNat < 0x20 ∧ p = .unit c.toNat

theorem assemble?_cons {p : Piece} {c : Char} (h : p.Names c) (after : List Char)
    (ps : List Piece) : assemble? after (p :: ps) = assemble? (c :: after) ps := by
  obtain rfl | ⟨hc, rfl⟩ := h
  · rfl
  · rw [assemble?.eq_def]
    simp only
    rw [if_neg (by omega), if_neg (by omega), Char.ofNat_toNat]

theorem unit?_hexDigit : ∀ n < 0x20,
    unit? '0' '0' (hexDigit (n / 16)) (hexDigit (n % 16)) = some (.unit n) := by
  decide

/-- A character, escaped or not, is one part of the text that it stands in. -/
theorem pieces?_escapeChar (c : Char) :
    ∃ p : Piece, p.Names c ∧ ∀ before cs,
      pieces? before (escapeChar c ++ cs) = pieces? (p :: before) cs := by
  unfold escapeChar
  split
  case h_8 hq hb _ _ _ _ _ =>
    split
    · next h =>
      refine ⟨.unit c.toNat, .inr ⟨h, rfl⟩, fun before cs => ?_⟩
      simp [pieces?, unit?_hexDigit _ h]
    · next h =>
      refine ⟨.char c, .inl rfl, fun before cs => ?_⟩
      rw [List.singleton_append, pieces?]
      · rw [if_neg h]
      all_goals simp_all
  -- a short escape
  all_goals exact ⟨_, .inl rfl, fun before cs => by simp [pieces?, shortEscape?]⟩

/-- A text is read back up to its closing quote. -/
theorem pieces?_append (text : List Char) (before : List Piece) (cs : List Char) :
    ∃ ps, pieces? before (text.flatMap escapeChar ++ '"' :: cs) = some (ps, cs) ∧
      ∀ after, assemble? after ps = assemble? (text ++ after) before := by
  induction text generalizing before with
  | nil => exact ⟨before, by simp [pieces?], fun _ => rfl⟩
  | cons c text ih =>
    obtain ⟨p, hp, hc⟩ := pieces?_escapeChar c
    obtain ⟨ps, hps, ha⟩ := ih (p :: before)
    refine ⟨ps, by simpa [hc] using hps, fun after => ?_⟩
    rw [ha, assemble?_cons hp, List.cons_append]

theorem text?_append (s : String) (cs : List Char) :
    text? (s.toList.flatMap escapeChar ++ '"' :: cs) = some (some s, cs) := by
  obtain ⟨ps, hps, ha⟩ := pieces?_append s.toList [] cs
  simp [text?, hps, ha, assemble?]

end Json

end Prepared
