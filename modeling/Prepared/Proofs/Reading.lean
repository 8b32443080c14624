import Prepared.Proofs.Tokens

/-! What is written is read back.

The reader is given more fuel than the text has characters, and reads exactly the
characters that one value was written with, whatever stands behind them, as long as it
does not go on with a number. -/
namespace Prepared.Json

/-- A value that has a text of its own: its numbers are proper numerals, and its texts and
the names of its members are texts. -/
inductive Proper : Json → Prop
  | null : Proper null
  | bool (b : Bool) : Proper (bool b)
  | number {n : Numeral} (h : n.Proper) : Proper (number n)
  | text (s : String) : Proper (text (some s))
  | list {items : List Json} (h : ∀ j ∈ items, Proper j) : Proper (list items)
  | record {members : List (Option String × Json)} (names : ∀ m ∈ members, m.1.isSome)
      (h : ∀ m ∈ members, Proper m.2) : Proper (record members)

/-- A value is read from its own text and what follows is left, given twice as much fuel as
the text has characters. -/
def ReadsBack (j : Json) : Prop :=
  ∀ fuel cs, 2 * (write j).length ≤ fuel → Follows cs → value? fuel (write j ++ cs) = some (j, cs)

variable {fuel : Nat} {cs : List Char}

theorem skipSpace_cons {c : Char} (h : isSpace c = false) : skipSpace (c :: cs) = c :: cs := by
  simp [skipSpace, h]

/-- The first character takes one unit of fuel. -/
theorem readsBack_of {j : Json} {c : Char} {ds : List Char} (hw : write j = c :: ds)
    (h : ∀ fuel cs, 2 * ds.length < fuel → Follows cs →
      value? (fuel + 1) (c :: (ds ++ cs)) = some (j, cs)) : ReadsBack j := by
  intro fuel cs hf hc
  rw [hw, List.length_cons] at hf
  obtain ⟨fuel, rfl⟩ : ∃ k, fuel = k + 1 := ⟨fuel - 1, by omega⟩
  rw [hw]
  exact h fuel cs (by omega) hc

theorem follows_cons {c : Char} (h : c = ',' ∨ c = ']' ∨ c = '\x7d') : Follows (c :: cs) := by
  intro d hd
  cases hd
  obtain rfl | rfl | rfl := h <;> decide

theorem writeText_some (s : String) :
    writeText (some s) ++ cs = '"' :: (s.toList.flatMap escapeChar ++ '"' :: cs) := by
  simp [writeText]

/-! ## Values without parts -/

theorem value?_of_scalar {c : Char} (hs : isSpace c = false) (hl : c ≠ '[') (hr : c ≠ '\x7b') :
    value? (fuel + 1) (c :: cs) = scalar? (c :: cs) := by
  rw [value?, skipSpace_cons hs]
  split <;> simp_all

/-- A character that a numeral may begin with. -/
def BeginsNumeral (c : Char) : Prop :=
  c = '-' ∨ c.isDigit = true

theorem BeginsNumeral.ne {c d : Char} (h : BeginsNumeral c) (hd : d ≠ '-' ∧ d.isDigit = false) :
    c ≠ d := by
  rintro rfl
  simp [BeginsNumeral, hd] at h

theorem BeginsNumeral.isSpace {c : Char} (h : BeginsNumeral c) : isSpace c = false := by
  simp [Json.isSpace, h.ne (d := ' ') (by decide), h.ne (d := '\n') (by decide),
    h.ne (d := '\t') (by decide), h.ne (d := '\r') (by decide)]

theorem writeNumeral_cons {n : Numeral} (h : n.Proper) :
    ∃ c ds, writeNumeral n = c :: ds ∧ BeginsNumeral c := by
  obtain ⟨d, ds, hw⟩ := List.exists_cons_of_ne_nil h.whole.1
  rw [writeNumeral_eq, hw]
  cases n.negative with
  | true => exact ⟨_, _, rfl, .inl rfl⟩
  | false => exact ⟨_, _, rfl, .inr (h.whole.2 d (by simp [hw]))⟩

theorem word?_of_numeral {c : Char} (h : BeginsNumeral c) : word? (c :: cs) = none := by
  unfold word?
  split
  case h_4 => rfl
  all_goals
    next hcs => cases hcs; exact absurd h (by simp [BeginsNumeral])

theorem value?_of_numeral {c : Char} (h : BeginsNumeral c) :
    value? (fuel + 1) (c :: cs) = (numeral? (c :: cs)).map fun r => (number r.1, r.2) := by
  rw [value?_of_scalar h.isSpace (h.ne (by decide)) (h.ne (by decide)), scalar?,
    word?_of_numeral h]
  intro cs' hcs
  exact h.ne (d := '"') (by decide) (List.cons.inj hcs).1

theorem readsBack_number {n : Numeral} (h : n.Proper) : ReadsBack (number n) := by
  obtain ⟨c, ds, hw, hd⟩ := writeNumeral_cons h
  refine readsBack_of (by rw [write, hw]) fun fuel cs _ hc => ?_
  have hn := numeral?_append h hc
  rw [hw, List.cons_append] at hn
  rw [value?_of_numeral hd, hn]
  rfl

theorem readsBack_text (s : String) : ReadsBack (text (some s)) := by
  refine readsBack_of rfl fun fuel cs _ _ => ?_
  have ht := text?_append s cs
  rw [value?_of_scalar (by decide) (by decide) (by decide)]
  simpa [scalar?] using ht

theorem readsBack_null : ReadsBack null :=
  readsBack_of rfl fun _ _ _ _ => by
    simp [value?_of_scalar, isSpace, scalar?, word?]

theorem readsBack_bool (b : Bool) : ReadsBack (bool b) := by
  cases b <;>
    exact readsBack_of rfl fun _ _ _ _ => by simp [value?_of_scalar, isSpace, scalar?, word?]

/-! ## Lists and records -/

/-- The text of a value begins with a character that neither is skipped nor ends a list. -/
theorem Proper.begins {j : Json} (h : Proper j) :
    ∃ c ds, write j = c :: ds ∧ isSpace c = false ∧ c ≠ ']' := by
  cases h with
  | number hn =>
    obtain ⟨c, ds, hw, hd⟩ := writeNumeral_cons hn
    exact ⟨c, ds, by rw [write, hw], hd.isSpace, hd.ne (by decide)⟩
  | bool b => cases b <;> exact ⟨_, _, rfl, by decide, by decide⟩
  | _ => exact ⟨_, _, rfl, by decide, by decide⟩

theorem items?_append (fuel : Nat) (cs : List Char) {items : List Json} (hne : items ≠ [])
    (h : ∀ j ∈ items, ReadsBack j)
    (hf : 2 * (writeItems items).length < fuel) :
    items? fuel (writeItems items ++ ']' :: cs) = some (items, cs) := by
  induction items generalizing fuel with
  | nil => contradiction
  | cons j js ih =>
    obtain ⟨fuel, rfl⟩ : ∃ k, fuel = k + 1 := ⟨fuel - 1, by omega⟩
    cases js with
    | nil =>
      have hj := h j (by simp) fuel (']' :: cs) (by rw [writeItems] at hf; omega)
        (follows_cons (by simp))
      simp [writeItems, items?, hj, skipSpace_cons, isSpace]
    | cons k ks =>
      simp only [writeItems, List.length_append, List.length_singleton] at hf
      have hj := h j (by simp) fuel (',' :: (writeItems (k :: ks) ++ ']' :: cs)) (by omega)
        (follows_cons (by simp))
      have hjs := ih fuel (by simp) (fun i hi => h i (by simp [hi])) (by omega)
      simp [writeItems, items?, hj, hjs, skipSpace_cons, isSpace]

theorem members?_append (fuel : Nat) (cs : List Char) {members : List (Option String × Json)}
    (hne : members ≠ []) (names : ∀ m ∈ members, m.1.isSome) (h : ∀ m ∈ members, ReadsBack m.2)
    (hf : 2 * (writeMembers members).length < fuel) :
    members? fuel (writeMembers members ++ '\x7d' :: cs) = some (members, cs) := by
  induction members generalizing fuel with
  | nil => contradiction
  | cons m ms ih =>
    obtain ⟨name, j⟩ := m
    obtain ⟨s, rfl⟩ := Option.isSome_iff_exists.1 (names (name, j) (by simp))
    have hj : ReadsBack j := h _ List.mem_cons_self
    obtain ⟨fuel, rfl⟩ : ∃ k, fuel = k + 1 := ⟨fuel - 1, by omega⟩
    cases ms with
    | nil =>
      simp only [writeMembers, List.length_append] at hf
      have hj := hj fuel ('\x7d' :: cs) (by omega) (follows_cons (by simp))
      simp [writeMembers, writeText_some, members?, text?_append, hj, skipSpace_cons, isSpace]
    | cons k ks =>
      simp only [writeMembers, List.length_append, List.length_singleton] at hf
      have hj := hj fuel (',' :: (writeMembers (k :: ks) ++ '\x7d' :: cs)) (by omega)
        (follows_cons (by simp))
      have hms := ih fuel (by simp) (fun m hm => names m (by simp [hm]))
        (fun m hm => h m (by simp [hm])) (by omega)
      simp [writeMembers, writeText_some, members?, text?_append, hj, hms, skipSpace_cons, isSpace]

theorem writeItems_cons (j : Json) (js : List Json) :
    ∃ cs, writeItems (j :: js) = write j ++ cs := by
  cases js with
  | nil => exact ⟨[], by simp [writeItems]⟩
  | cons k ks => exact ⟨',' :: writeItems (k :: ks), by simp [writeItems]⟩

theorem value?_list {c : Char} (hs : isSpace c = false) (hc : c ≠ ']') :
    value? (fuel + 1) ('[' :: c :: cs) = (items? fuel (c :: cs)).map fun r => (list r.1, r.2) := by
  rw [value?, skipSpace_cons (by decide)]
  simp only [skipSpace_cons hs]
  split
  · next hcs => exact absurd (List.cons.inj hcs).1 hc
  · rfl

theorem readsBack_list {items : List Json} (hp : ∀ j ∈ items, Proper j)
    (h : ∀ j ∈ items, ReadsBack j) : ReadsBack (list items) := by
  have hw : write (list items) = '[' :: (writeItems items ++ [']']) := by simp [write]
  refine readsBack_of hw fun fuel cs hf _ => ?_
  cases items with
  | nil => simp [writeItems, value?, skipSpace_cons, isSpace]
  | cons j js =>
    have hi := items?_append fuel cs (by simp) h (by simp at hf; omega)
    obtain ⟨c, ds, hw, hs, hc⟩ := (hp j (by simp)).begins
    obtain ⟨es, he⟩ := writeItems_cons j js
    simp only [he, hw, List.cons_append, List.append_assoc] at hi ⊢
    rw [value?_list hs hc, List.nil_append, hi]
    rfl

theorem readsBack_record {members : List (Option String × Json)}
    (names : ∀ m ∈ members, m.1.isSome) (h : ∀ m ∈ members, ReadsBack m.2) :
    ReadsBack (record members) := by
  have hw : write (record members) = '\x7b' :: (writeMembers members ++ ['\x7d']) := by
    simp [write]
  refine readsBack_of hw fun fuel cs hf _ => ?_
  cases members with
  | nil => simp [writeMembers, value?, skipSpace_cons, isSpace]
  | cons m ms =>
    have hm := members?_append fuel cs (by simp) names h (by simp at hf; omega)
    obtain ⟨ds, hw⟩ : ∃ ds, writeMembers (m :: ms) = '"' :: ds := by
      cases ms <;> exact ⟨_, rfl⟩
    simp only [hw, List.cons_append, List.append_assoc, List.nil_append] at hm ⊢
    simp [value?, skipSpace_cons, isSpace, hm]

theorem Proper.readsBack {j : Json} (h : Proper j) : ReadsBack j := by
  induction h with
  | null => exact readsBack_null
  | bool b => exact readsBack_bool b
  | number hn => exact readsBack_number hn
  | text s => exact readsBack_text s
  | list hp ih => exact readsBack_list hp ih
  | record names _ ih => exact readsBack_record names ih

/-- Reading is the inverse of writing, on the values that have a text. -/
theorem parse?_render {j : Json} (h : Proper j) : parse? (render j) = some j := by
  have hr := h.readsBack (2 * (write j).length + 2) [] (by omega) (by simp [Follows])
  simp only [List.append_nil] at hr
  simp [parse?, render, hr, skipSpace]

end Prepared.Json
