import Mathlib.Algebra.BigOperators.Group.List.Basic
import Mathlib.Algebra.GroupWithZero.Nat
import Prepared.Proofs.Representation

/-! Classification by characters.

The kind of a text is read off its first three bytes, which may end inside a character or
belong to fewer than three. Every keyword is told apart by three ASCII letters, of one byte
each, so the kind is also that of the first three characters. -/
namespace Prepared

namespace Text

variable {c : Char} {cs ds : List Char}

theorem isUpper_iff : c.isUpper = true ↔ 65 ≤ c.toNat ∧ c.toNat ≤ 90 :=
  decide_eq_true_iff

theorem isLower_iff : c.isLower = true ↔ 97 ≤ c.toNat ∧ c.toNat ≤ 122 :=
  Bool.and_eq_true_iff.trans (and_congr decide_eq_true_iff decide_eq_true_iff)

theorem isAlpha_iff : c.isAlpha = true ↔ c.isUpper = true ∨ c.isLower = true :=
  Bool.or_eq_true_iff

/-- A small letter is made a capital one, and any other character is left as it is. -/
theorem toUpper_cases (c : Char) :
    c.isLower = true ∧ c.toUpper.isUpper = true ∨ c.isLower = false ∧ c.toUpper = c := by
  rw [← Bool.not_eq_true, isLower_iff, isUpper_iff]
  unfold Char.toUpper
  split
  · next lower =>
    have range : 97 ≤ c.toNat ∧ c.toNat ≤ 122 := lower
    have capital : (c.val + ('A'.val - 'a'.val)).toNat = c.toNat - 32 := by
      rw [UInt32.toNat_add]
      change (c.toNat + 4294967264) % 4294967296 = c.toNat - 32
      omega
    refine .inl ⟨range, ?_⟩
    change 65 ≤ (c.val + ('A'.val - 'a'.val)).toNat ∧ (c.val + ('A'.val - 'a'.val)).toNat ≤ 90
    omega
  · next other => exact .inr ⟨other, rfl⟩

theorem toUpper_of_isUpper (upper : c.isUpper = true) : c.toUpper = c := by
  rcases toUpper_cases c with ⟨lower, -⟩ | ⟨-, same⟩
  · rw [isUpper_iff] at upper
    rw [isLower_iff] at lower
    omega
  · exact same

theorem isAlpha_of_toUpper (upper : c.toUpper.isUpper = true) : c.isAlpha = true := by
  rw [isAlpha_iff]
  rcases toUpper_cases c with ⟨lower, -⟩ | ⟨-, same⟩
  · exact .inr lower
  · exact .inl (same ▸ upper)

theorem isBlank_of_isAlpha (letter : c.isAlpha = true) : isBlank c = false := by
  rw [isAlpha_iff, isUpper_iff, isLower_iff] at letter
  simp only [isBlank, blankRanges, List.any_cons, List.any_nil, Bool.or_false, Bool.or_eq_false_iff,
    Bool.and_eq_false_iff, decide_eq_false_iff_not]
  omega

/-- Capitals are letters too, and other characters have none. -/
theorem isBlank_toUpper (c : Char) : isBlank c.toUpper = isBlank c := by
  rcases toUpper_cases c with ⟨lower, upper⟩ | ⟨-, same⟩
  · rw [isBlank_of_isAlpha (c := c.toUpper) (isAlpha_iff.2 (.inl upper)),
      isBlank_of_isAlpha (isAlpha_of_toUpper upper)]
  · rw [same]

theorem trimLeft_map_toUpper (cs : List Char) :
    trimLeft (cs.map Char.toUpper) = (trimLeft cs).map Char.toUpper := by
  have same : isBlank ∘ Char.toUpper = isBlank := funext isBlank_toUpper
  rw [trimLeft, List.dropWhile_map, same, trimLeft]

theorem trimLeft_append (visible : trimLeft cs ≠ []) (ds : List Char) :
    trimLeft (cs ++ ds) = trimLeft cs ++ ds := by
  have nonempty : (cs.dropWhile isBlank).isEmpty = false := by
    simpa [trimLeft] using visible
  rw [trimLeft, List.dropWhile_append, nonempty]
  rfl

/-- What is cut off at the right are blanks. -/
theorem exists_trimRight_append (cs : List Char) :
    ∃ blanks, cs = trimRight cs ++ blanks ∧ ∀ c ∈ blanks, isBlank c = true := by
  refine ⟨cs.rtakeWhile isBlank, ?_, ?_⟩
  · exact List.rdropWhile_append_rtakeWhile.symm
  · intro c hc
    exact List.mem_rtakeWhile_imp hc

end Text

namespace Kind

variable {sql : String} {cs ls : List Char}

/-- The kind of the first three characters of a text, if it has that many. -/
def ofFirst : List Char → Kind
  | a :: b :: c :: _ => ofLetters [a, b, c]
  | _ => .other

/-- The kind of the first three characters after leading blanks, whatever their size in bytes. -/
def ofCharacters (cs : List Char) : Kind :=
  ofFirst (Text.trimLeft cs)

theorem keyword_letters :
    ∀ e ∈ keywords, e.1.toList.length = 3 ∧ ∀ c ∈ e.1.toList, c.isUpper = true := by
  simp [keywords]

/-- What has a kind of its own are three letters. -/
theorem letters_of_ofLetters (known : ofLetters ls ≠ .other) :
    ls.length = 3 ∧ ∀ c ∈ ls, c.isAlpha = true := by
  unfold ofLetters at known
  cases found : keywords.lookup (String.ofList (ls.map Char.toUpper)) with
  | none => simp [found] at known
  | some k =>
    obtain ⟨length, upper⟩ := keyword_letters _ (Lookup.mem_of_lookup found)
    rw [String.toList_ofList] at length upper
    constructor
    · rwa [List.length_map] at length
    · intro c hc
      exact Text.isAlpha_of_toUpper (upper _ (List.mem_map_of_mem hc))

theorem ofLetters_map_toUpper (ls : List Char) : ofLetters (ls.map Char.toUpper) = ofLetters ls := by
  have twice : Char.toUpper ∘ Char.toUpper = Char.toUpper := by
    funext c
    rcases Text.toUpper_cases c with ⟨-, upper⟩ | ⟨-, same⟩
    · exact Text.toUpper_of_isUpper upper
    · exact congrArg Char.toUpper same
  rw [ofLetters, List.map_map, twice, ofLetters]

/-- A kind is told by the letters that a text begins with. -/
theorem ofFirst_eq_iff {k : Kind} (known : k ≠ .other) :
    ofFirst cs = k ↔ ∃ ls, ls <+: cs ∧ ofLetters ls = k := by
  constructor
  · intro told
    match cs with
    | [] | [_] | [_, _] => exact absurd told.symm known
    | a :: b :: c :: rest => exact ⟨[a, b, c], ⟨rest, rfl⟩, told⟩
  · rintro ⟨ls, ⟨rest, rfl⟩, told⟩
    have length := (letters_of_ofLetters (told ▸ known)).1
    match ls with
    | [a, b, c] => exact told

theorem eq_of_iff {k l : Kind} (same : ∀ m, m ≠ .other → (k = m ↔ l = m)) : k = l := by
  by_cases known : l = .other
  · rw [known]
    by_contra other
    exact other (((same k other).1 rfl).symm.trans known)
  · exact (same l known).2 rfl

theorem ofFirst_append (long : 3 ≤ cs.length) (ds : List Char) : ofFirst (cs ++ ds) = ofFirst cs := by
  match cs with
  | a :: b :: c :: rest => rfl

/-- Letters at the beginning of a text are not among the blanks at its end. -/
theorem prefix_of_append_blanks {blanks : List Char} (letters : ∀ c ∈ ls, c.isAlpha = true)
    (hb : ∀ c ∈ blanks, Text.isBlank c = true) (h : ls <+: cs ++ blanks) : ls <+: cs := by
  obtain ⟨rest, whole⟩ := h
  rcases List.append_eq_append_iff.1 whole with ⟨more, rfl, -⟩ | ⟨more, rfl, cut⟩
  · exact List.prefix_append ..
  · cases more with
    | nil => simp
    | cons c more =>
      have letter : c.isAlpha = true := letters c (by simp)
      have blank : Text.isBlank c = true := hb c (by simp [cut])
      simp [Text.isBlank_of_isAlpha letter] at blank

theorem ofFirst_append_blanks {blanks : List Char} (hb : ∀ c ∈ blanks, Text.isBlank c = true) :
    ofFirst (cs ++ blanks) = ofFirst cs := by
  apply eq_of_iff
  intro k known
  rw [ofFirst_eq_iff known, ofFirst_eq_iff known]
  constructor
  · rintro ⟨ls, start, told⟩
    have letters := (letters_of_ofLetters (told ▸ known)).2
    exact ⟨ls, prefix_of_append_blanks letters hb start, told⟩
  · rintro ⟨ls, start, told⟩
    exact ⟨ls, start.trans (List.prefix_append ..), told⟩

theorem ofFirst_map_toUpper (cs : List Char) : ofFirst (cs.map Char.toUpper) = ofFirst cs := by
  match cs with
  | [] | [_] | [_, _] => rfl
  | a :: b :: c :: rest => exact ofLetters_map_toUpper [a, b, c]

/-- The characters of the first bytes are a beginning of the text of that size. -/
theorem leadingBytes_eq_some_iff {n : Nat} :
    leadingBytes n cs = some ls ↔ ls <+: cs ∧ (ls.map Char.utf8Size).sum = n := by
  fun_induction leadingBytes n cs generalizing ls with
  | case1 cs =>
    cases ls with
    | nil => simp
    | cons d ds =>
      have := d.utf8Size_pos
      simp
      omega
  | case2 n =>
    cases ls with
    | nil => simp
    | cons d ds => simp
  | case3 n c cs fits ih =>
    cases ls with
    | nil => simp
    | cons d ds =>
      have size : c.utf8Size + (ds.map Char.utf8Size).sum = n + 1 ↔
          (ds.map Char.utf8Size).sum = n + 1 - c.utf8Size := by omega
      simp only [Option.map_eq_some_iff, List.cons.injEq, List.cons_prefix_cons, List.map_cons,
        List.sum_cons]
      constructor
      · rintro ⟨_, found, rfl, rfl⟩
        obtain ⟨start, rest⟩ := ih.1 found
        exact ⟨⟨rfl, start⟩, size.2 rest⟩
      · rintro ⟨⟨rfl, start⟩, whole⟩
        exact ⟨ds, ih.2 ⟨start, size.1 whole⟩, rfl, rfl⟩
  | case4 n c cs large =>
    cases ls with
    | nil => simp
    | cons d ds =>
      simp only [List.cons_prefix_cons, List.map_cons, List.sum_cons, reduceCtorEq, false_iff]
      rintro ⟨⟨rfl, -⟩, whole⟩
      omega

theorem utf8Size_of_isAlpha {c : Char} (letter : c.isAlpha = true) : c.utf8Size = 1 := by
  rw [Text.isAlpha_iff, Text.isUpper_iff, Text.isLower_iff] at letter
  rw [Char.utf8Size_eq_one_iff, UInt32.le_iff_toNat_le]
  change c.toNat ≤ 127
  omega

/-- Letters are as many as their bytes. -/
theorem size_of_letters (letters : ∀ c ∈ ls, c.isAlpha = true) :
    (ls.map Char.utf8Size).sum = ls.length := by
  rw [List.map_congr_left fun c hc => utf8Size_of_isAlpha (letters c hc)]
  simp

/-- The first three bytes tell the same kinds, by the same letters. -/
theorem classify_eq_iff {k : Kind} (known : k ≠ .other) :
    classify sql = k ↔ ∃ ls, ls <+: Text.trimLeft sql.toList ∧ ofLetters ls = k := by
  constructor
  · intro told
    unfold classify at told
    cases found : leadingBytes 3 (Text.trimLeft sql.toList) with
    | none => exact absurd (by simpa [found] using told.symm) known
    | some ls => exact ⟨ls, (leadingBytes_eq_some_iff.1 found).1, by simpa [found] using told⟩
  · rintro ⟨ls, start, told⟩
    obtain ⟨length, letters⟩ := letters_of_ofLetters (told ▸ known)
    have found : leadingBytes 3 (Text.trimLeft sql.toList) = some ls :=
      leadingBytes_eq_some_iff.2 ⟨start, (size_of_letters letters).trans length⟩
    simpa [classify, found] using told

theorem classify_eq (sql : String) : classify sql = ofCharacters sql.toList := by
  apply eq_of_iff
  intro k known
  rw [classify_eq_iff known, ofCharacters, ofFirst_eq_iff known]

theorem classify_append (long : 3 ≤ (Text.trimLeft sql.toList).length) (more : String) :
    classify (sql ++ more) = classify sql := by
  have visible : Text.trimLeft sql.toList ≠ [] := by
    intro blank
    simp [blank] at long
  rw [classify_eq, classify_eq, ofCharacters, ofCharacters, String.toList_append,
    Text.trimLeft_append visible, ofFirst_append long]

theorem classify_trim (sql : String) : classify (Text.trim sql) = classify sql := by
  have start : Text.trimRight (Text.trimLeft sql.toList) <+: Text.trimLeft sql.toList :=
    List.rdropWhile_prefix Text.isBlank _
  obtain ⟨blanks, whole, hb⟩ := Text.exists_trimRight_append (Text.trimLeft sql.toList)
  calc classify (Text.trim sql)
      = ofFirst (Text.trimRight (Text.trimLeft sql.toList)) := by
        rw [classify_eq, ofCharacters, Text.trim, String.toList_ofList, Text.trimLeft_prefix start]
    _ = ofFirst (Text.trimLeft sql.toList) := by
        rw [whole, ofFirst_append_blanks hb, ← whole]
    _ = classify sql := (classify_eq sql).symm

theorem classify_of_same_letters {sql' : String}
    (same : sql'.toList.map Char.toUpper = sql.toList.map Char.toUpper) :
    classify sql' = classify sql := by
  rw [classify_eq, classify_eq, ofCharacters, ofCharacters, ← ofFirst_map_toUpper,
    ← Text.trimLeft_map_toUpper, same, Text.trimLeft_map_toUpper, ofFirst_map_toUpper]

/-- The program that is created for a text has the text without blanks at its ends, and the kind
of the text as it was given. -/
theorem created_kind {σ : Type} {c : ConnectionId} {p : ProgramId} {s u : Store σ}
    (created : (Store.createDeferred c sql).run s = (.ok p, u)) :
    (u.program p).sql = Text.trim sql ∧ (u.program p).kind = classify sql := by
  by_cases refused : (s.connection c).isOpen = false ∨ ¬ (s.connection c).Grants
  · obtain ⟨e, failed⟩ := Store.createDeferred_error sql refused
    rw [failed] at created
    cases created
  · rw [not_or, Bool.not_eq_false, not_not] at refused
    rw [Store.createDeferred_ok sql refused.1 refused.2] at created
    cases created
    let t := s.withConnection c fun x => { x with references := x.references + 1 }
    rw [(Store.program_created t c sql s.programs.next).trans (if_pos rfl)]
    constructor
    · rfl
    · dsimp only
      exact classify_trim sql

/-- The kind of every text is the one that its first three characters after leading blanks tell,
in upper case. So what follows three characters does not matter, nor do blanks at the ends or the
case of letters. A program is created with the kind of its text; in every run each program with
the text has that kind, and a cache has an entry for the text only if the kind is shared. -/
theorem classify_by_characters (sql : String) :
    classify sql = ofCharacters sql.toList ∧
      (3 ≤ (Text.trimLeft sql.toList).length → ∀ more, classify (sql ++ more) = classify sql) ∧
      classify (Text.trim sql) = classify sql ∧
      (∀ recased : String, recased.toList.map Char.toUpper = sql.toList.map Char.toUpper →
        classify recased = classify sql) ∧
      (∀ (σ : Type) (s u : Store σ) c p, (Store.createDeferred c sql).run s = (.ok p, u) →
        (u.program p).sql = Text.trim sql ∧ (u.program p).kind = classify sql) ∧
      ∀ (σ : Type) (E : Engine σ) e past s, Store.Run E e past s →
        (∀ p, (s.program p).sql = Text.trim sql → (s.program p).kind = classify sql) ∧
        ∀ c, Text.trim sql ∈ (s.connection c).cache.keys → (classify sql).isShared = true := by
  refine ⟨classify_eq sql, classify_append, classify_trim sql, fun _ => classify_of_same_letters,
    fun _ _ _ _ _ => created_kind, fun σ E e past s run => ⟨?_, ?_⟩⟩
  · intro p text
    rw [(run.titled p).kind, text, classify_trim]
  · intro c key
    rw [← classify_trim]
    exact (run.eligible c _ key).shared

/-- An em space before the text, letters in mixed case, and one of two bytes after the first
three. In the last text such a letter ends with the third byte. -/
theorem classify_by_characters_mixed :
    classify "\u2003inSé" = .insert ∧ classify "\u2003inSé, UPDATE" = .insert ∧
      classify "inSé" = .insert ∧ classify "\u2003INsé" = .insert ∧
      (∃ past s, Store.Run Recording.engine {} past s ∧ (s.program 0).sql = "inSé" ∧
        (s.program 0).kind = .insert) ∧
      classify "né" = .other := by
  obtain ⟨characters, appended, trimmed, recased, -, programs⟩ :=
    classify_by_characters "\u2003inSé"
  have kind : classify "\u2003inSé" = .insert := by
    rw [characters]
    decide
  have run := Store.Run.ofActions (E := Recording.engine) (e := {})
    [.openDefault 0, .createCompiled 0 " \tinSé\n"] (by decide +kernel)
  have text : Text.trim "\u2003inSé" = "inSé" := by decide
  refine ⟨kind, ?_, ?_, ?_, ⟨_, _, run, by decide +kernel, ?_⟩, ?_⟩
  · exact (appended (by decide) ", UPDATE").trans kind
  · rw [← text]
    exact trimmed.trans kind
  · exact (recased "\u2003INsé" (by decide)).trans kind
  · exact ((programs _ _ _ _ _ run).1 0 (by rw [text]; decide +kernel)).trans kind
  · rw [(classify_by_characters "né").1]
    decide

end Kind
end Prepared
