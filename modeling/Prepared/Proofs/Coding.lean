import Prepared.Json.Data
import Prepared.Proofs.Lookup
import Prepared.Proofs.Reading

/-! The library's data survives its JSON form.

What is written is read back as the same value, with one exception that the form itself
makes: a real number that is not finite is written as `null`. Reading refuses that, alone
and inside of anything that contains it, so that no such number turns into another
value. -/
namespace Prepared

namespace Json

/-- Reads a datum from a text. -/
def decode? (read : Json → Option α) (s : String) : Option α :=
  (parse? s).bind read

theorem decode?_render {j : Json} (h : Proper j) (read : Json → Option α) :
    decode? read (render j) = read j := by
  rw [decode?, parse?_render h, Option.bind_some]

/-! ## Parts of data -/

variable {f : Json → Option α} {g : α → Json} {as : List α}

theorem ofInt_proper (i : Int) : Proper (ofInt i) :=
  .number (Numeral.ofInt_proper i)

theorem ofString_proper (s : String) : Proper (ofString s) :=
  .text s

theorem ofBinary64_proper (x : Binary64) : Proper (ofBinary64 x) := by
  unfold ofBinary64
  split
  · exact .number (Numeral.ofBinary64_proper x)
  · exact .null

theorem list_map_proper (h : ∀ a ∈ as, Proper (g a)) : Proper (list (as.map g)) :=
  .list (by simpa using h)

theorem ofMembers_proper {members : List (String × Json)} (h : ∀ m ∈ members, Proper m.2) :
    Proper (ofMembers members) :=
  .record (List.forall_mem_map.2 fun _ _ => rfl) (List.forall_mem_map.2 h)

/-- A record with the wanted names in their order, each once, gives all its columns. -/
theorem columns?_ofMembers (members : List (String × Json)) (names : List String)
    (hm : members.map Prod.fst = names) (hn : names.Nodup) (closed : Bool) :
    (ofMembers members).columns? names closed = some (members.map fun m => some m.2) := by
  subst hm
  have hcount (name : String) :
      (members.map fun m => (some m.1, m.2)).countP (fun m => m.1 == some name) ≤ 1 := by
    have := List.nodup_iff_count_le_one.1 hn name
    simpa [List.count_eq_countP, List.countP_map, Function.comp_def] using this
  have distinct : ((members.map fun m => (some m.1, m.2)).map Prod.fst).Nodup := by
    have named := hn.map (f := some) fun _ _ => Option.some.inj
    rwa [List.map_map] at named ⊢
  have hvalues : (members.map Prod.fst).map
      (fun name => (members.map fun m => (some m.1, m.2)).lookup (some name))
        = members.map fun m => some m.2 := by
    rw [List.map_map]
    exact List.map_congr_left fun m hm =>
      Lookup.lookup_of_mem distinct (List.mem_map_of_mem (f := fun m => (some m.1, m.2)) hm)
  rw [ofMembers, columns?, if_pos, if_pos, hvalues]
  · simpa only [List.all_eq_true, decide_eq_true_eq] using fun name _ => hcount name
  · simp only [List.all_map, List.all_eq_true]
    exact fun m hm => by simp [List.mem_map_of_mem hm]

@[simp] theorem toInt?_ofInt (i : Int) : (ofInt i).toInt? = some i := by
  simp [toInt?, ofInt]

@[simp] theorem toNat?_ofInt {n bound : Nat} (h : n < bound) : (ofInt n).toNat? bound = some n := by
  simp [toNat?, h]

theorem toUInt64?_ofInt (n : UInt64) : (ofInt n.toNat).toUInt64? = some n := by
  simp [toUInt64?, toNat?_ofInt n.toNat_lt]

theorem toUInt32?_ofInt (n : UInt32) : (ofInt n.toNat).toUInt32? = some n := by
  simp [toUInt32?, toNat?_ofInt n.toNat_lt]

theorem toUInt8?_ofInt (n : UInt8) : (ofInt n.toNat).toUInt8? = some n := by
  simp [toUInt8?, toNat?_ofInt n.toNat_lt]

theorem toInt64?_ofInt (i : Int64) : (ofInt i.toInt).toInt64? = some i := by
  have hl := i.le_toInt
  have hu := i.toInt_lt
  have hr : -Int.pow 2 63 ≤ i.toInt ∧ i.toInt < Int.pow 2 63 := ⟨hl, hu⟩
  rw [toInt64?, toInt?_ofInt]
  exact (if_pos hr).trans (congrArg some (Int64.ofInt_toInt i))

theorem toList?_map (h : ∀ a ∈ as, f (g a) = some a) : toList? f (list (as.map g)) = some as := by
  rw [toList?]
  induction as with
  | nil => rfl
  | cons a as ih => simp [h, ih fun b hb => h b (List.mem_cons_of_mem _ hb)]

/-- One item that is refused has the whole list refused. -/
theorem toList?_map_eq_none (h : ∃ a ∈ as, f (g a) = none) :
    toList? f (list (as.map g)) = none := by
  rw [toList?]
  induction as with
  | nil => simp at h
  | cons a as ih =>
    cases ha : f (g a) with
    | none => simp [ha]
    | some b =>
      have := ih (by simpa [ha] using h)
      simp [ha, this]

end Json

open Json (decode?)

/-! ## Values -/

namespace Value

/-- The double precision numbers in a value. -/
def reals : Value → List Binary64
  | real x => [x]
  | _ => []

theorem toJson_proper (v : Value) : v.toJson.Proper := by
  cases v <;>
    simp [toJson, Json.ofMembers_proper, Json.ofString_proper, Json.ofInt_proper,
      Json.ofBinary64_proper, Json.list_map_proper]

theorem ofJson?_tagged (tag : String) (content : Json) :
    ofJson? (.ofMembers [("type", .ofString tag), ("value", content)])
      = ofTagged? tag (some content) := by
  have hc := Json.columns?_ofMembers [("type", .ofString tag), ("value", content)]
    ["type", "value"] rfl (by decide) false
  simp only [Json.ofMembers, Json.ofString, List.map_cons, List.map_nil] at hc
  simp [ofJson?, Json.ofMembers, Json.ofString, hc, Json.toChoice?]

theorem ofJson?_toJson {v : Value} (h : v.reals = []) : ofJson? v.toJson = some v := by
  cases v with
  | null => rfl
  | integer i => simp [toJson, typeName, ofJson?_tagged, ofTagged?, Json.toInt64?_ofInt]
  | real x => simp [reals] at h
  | text s =>
    rw [toJson, ofJson?_tagged]
    rfl
  | binary bytes =>
    have hb := Json.toList?_map fun (b : UInt8) (_ : b ∈ bytes) => Json.toUInt8?_ofInt b
    simp [toJson, typeName, ofJson?_tagged, ofTagged?, hb]

/-- A number that is not finite is refused. -/
theorem ofJson?_toJson_eq_none {v : Value} (h : ∃ x ∈ v.reals, x.isFinite = false) :
    ofJson? v.toJson = none := by
  cases v with
  | real x =>
    have hx : x.isFinite = false := by simpa [reals] using h
    simp [toJson, typeName, ofJson?_tagged, ofTagged?, Json.ofBinary64, hx, Json.toBinary64?]
  | _ => simp [reals] at h

end Value

namespace Binding

/-- The double precision numbers in a binding. -/
def reals (b : Binding) : List Binary64 :=
  b.value.reals

theorem toJson_proper (b : Binding) : b.toJson.Proper := by
  simp [toJson, Json.ofMembers_proper, Json.ofInt_proper, Value.toJson_proper]

theorem ofJson?_eq (b : Binding) :
    ofJson? b.toJson = (Value.ofJson? b.value.toJson).map fun v => { b with value := v } := by
  have hc : b.toJson.columns? ["position", "value"] false = _ :=
    Json.columns?_ofMembers _ ["position", "value"] rfl (by decide) false
  cases hv : Value.ofJson? b.value.toJson <;> simp [ofJson?, hc, Json.toUInt32?_ofInt, hv]

theorem ofJson?_toJson {b : Binding} (h : b.reals = []) : ofJson? b.toJson = some b := by
  rw [ofJson?_eq, Value.ofJson?_toJson h, Option.map_some]

theorem ofJson?_toJson_eq_none {b : Binding} (h : ∃ x ∈ b.reals, x.isFinite = false) :
    ofJson? b.toJson = none := by
  rw [ofJson?_eq, Value.ofJson?_toJson_eq_none h, Option.map_none]

end Binding

namespace Output

/-- The double precision numbers in an output. -/
def reals (o : Output) : List Binary64 :=
  o.rows.flatMap fun row => row.flatMap Value.reals

theorem toJson_proper (o : Output) : o.toJson.Proper := by
  refine Json.ofMembers_proper ?_
  simp [Json.ofInt_proper, Json.list_map_proper, Json.ofString_proper, Value.toJson_proper]

/-- The rows of an output, as they are read. -/
def readRows (o : Output) : Option (List (List Value)) :=
  Json.toList? (fun row => row.toList? Value.ofJson?)
    (.list (o.rows.map fun row => .list (row.map Value.toJson)))

theorem ofJson?_eq (o : Output) :
    ofJson? o.toJson = (readRows o).map fun rows => { o with rows } := by
  have hc : o.toJson.columns? ["columns", "rows", "changes"] false = _ :=
    Json.columns?_ofMembers _ ["columns", "rows", "changes"] rfl (by decide) false
  have hs : Json.toList? Json.toString? (.list (o.columns.map .ofString)) = some o.columns :=
    Json.toList?_map fun _ _ => rfl
  cases hr : readRows o <;> unfold readRows at hr <;>
    simp [ofJson?, hc, hs, Json.toUInt64?_ofInt, hr]

theorem ofJson?_toJson {o : Output} (h : o.reals = []) : ofJson? o.toJson = some o := by
  have hr : readRows o = some o.rows :=
    Json.toList?_map fun row hrow => Json.toList?_map fun v hv => Value.ofJson?_toJson <|
      List.flatMap_eq_nil_iff.1 (List.flatMap_eq_nil_iff.1 h row hrow) v hv
  rw [ofJson?_eq, hr, Option.map_some]

theorem ofJson?_toJson_eq_none {o : Output} (h : ∃ x ∈ o.reals, x.isFinite = false) :
    ofJson? o.toJson = none := by
  obtain ⟨x, hx, hfin⟩ := h
  obtain ⟨row, hrow, hx⟩ := List.mem_flatMap.1 hx
  obtain ⟨v, hv, hx⟩ := List.mem_flatMap.1 hx
  have hr : readRows o = none :=
    Json.toList?_map_eq_none ⟨row, hrow,
      Json.toList?_map_eq_none ⟨v, hv, Value.ofJson?_toJson_eq_none ⟨x, hx, hfin⟩⟩⟩
  rw [ofJson?_eq, hr, Option.map_none]

end Output

namespace StatementId

theorem ofJson?_toJson {s : StatementId} (h : s.number < UInt64.size) :
    ofJson? s.toJson = some s := by
  have hs : ofNat? s.number = some s := dif_pos s.number_pos
  have hn : s.number < Nat.pow 2 64 := h
  simpa [ofJson?, toJson, Json.toNat?_ofInt hn] using hs

end StatementId

namespace Kind

theorem ofJson?_toJson (k : Kind) : ofJson? k.toJson = some k :=
  ofLabel?_label k

end Kind

namespace CacheStats

theorem toJson_proper (s : CacheStats) : s.toJson.Proper := by
  refine Json.ofMembers_proper ?_
  simp [Json.ofInt_proper]

theorem ofJson?_toJson (s : CacheStats) : ofJson? s.toJson = some s := by
  have hc : s.toJson.columns? _ false = _ := Json.columns?_ofMembers _
    ["hits", "misses", "contention_fallbacks", "uncached_compiles", "evictions",
     "cached_statements", "max_sql_cache_size"] rfl (by decide) false
  simp [ofJson?, hc, Json.toUInt64?_ofInt]

end CacheStats

namespace Settings

theorem toJson_proper (s : Settings) : s.toJson.Proper := by
  refine Json.ofMembers_proper ?_
  simp [Json.ofInt_proper, Json.Proper.bool]

theorem ofJson?_toJson (s : Settings) : ofJson? s.toJson = some s := by
  have hc : s.toJson.columns? names true = _ := Json.columns?_ofMembers _ names rfl (by decide) true
  simp [ofJson?, hc, Json.toUInt64?_ofInt, Json.toBool?]

end Settings

/-! ## Whole texts -/

/-- Everything that has a JSON text is read back from it as it was, as long as no real
number is in it; and where a real number is in it that is not finite, the text is refused
instead of read as something else. -/
theorem json_round_trip :
    (∀ v : Value,
      (v.reals = [] → decode? Value.ofJson? v.toJson.render = some v) ∧
      ((∃ x ∈ v.reals, x.isFinite = false) → decode? Value.ofJson? v.toJson.render = none)) ∧
    (∀ b : Binding,
      (b.reals = [] → decode? Binding.ofJson? b.toJson.render = some b) ∧
      ((∃ x ∈ b.reals, x.isFinite = false) → decode? Binding.ofJson? b.toJson.render = none)) ∧
    (∀ o : Output,
      (o.reals = [] → decode? Output.ofJson? o.toJson.render = some o) ∧
      ((∃ x ∈ o.reals, x.isFinite = false) → decode? Output.ofJson? o.toJson.render = none)) ∧
    (∀ k : Kind, decode? Kind.ofJson? k.toJson.render = some k) ∧
    (∀ s : StatementId, s.number < UInt64.size →
      decode? StatementId.ofJson? s.toJson.render = some s) ∧
    (∀ s : CacheStats, decode? CacheStats.ofJson? s.toJson.render = some s) ∧
    (∀ s : Settings, decode? Settings.ofJson? s.toJson.render = some s) := by
  refine ⟨fun v => ?_, fun b => ?_, fun o => ?_, fun k => ?_, fun s hs => ?_, fun s => ?_,
    fun s => ?_⟩
  · rw [Json.decode?_render v.toJson_proper]
    exact ⟨Value.ofJson?_toJson, Value.ofJson?_toJson_eq_none⟩
  · rw [Json.decode?_render b.toJson_proper]
    exact ⟨Binding.ofJson?_toJson, Binding.ofJson?_toJson_eq_none⟩
  · rw [Json.decode?_render o.toJson_proper]
    exact ⟨Output.ofJson?_toJson, Output.ofJson?_toJson_eq_none⟩
  · rw [Json.decode?_render (j := k.toJson) (Json.ofString_proper _), Kind.ofJson?_toJson]
  · rw [Json.decode?_render (j := s.toJson) (Json.ofInt_proper _), StatementId.ofJson?_toJson hs]
  · rw [Json.decode?_render s.toJson_proper, CacheStats.ofJson?_toJson]
  · rw [Json.decode?_render s.toJson_proper, Settings.ofJson?_toJson]

example : (Value.real (.infinity true)).toJson.render
    = "\x7b\"type\":\"real\",\"value\":null\x7d" := by decide

/-- An output with a null, both ends of the integers, quotes, control characters and bytes is
read back, and so are the least integer alone, a binding at the last position and the largest
number of a statement; a NaN in a value, an infinity in a binding and one in the last of some
rows are refused. -/
theorem json_round_trip_at_limits :
    ((Value.integer (-9223372036854775808)).reals = [] ∧
      decode? Value.ofJson? (Value.integer (-9223372036854775808)).toJson.render
        = some (.integer (-9223372036854775808))) ∧
    ((Binding.mk 4294967295 .null).reals = [] ∧
      decode? Binding.ofJson? (Binding.mk 4294967295 .null).toJson.render
        = some ⟨4294967295, .null⟩) ∧
    ((Output.mk ["a\"\\", ""]
        [[.null, .integer (-9223372036854775808)], [],
         [.text "\x00\n\x7f\u2028", .binary [0, 255], .integer 9223372036854775807]]
        18446744073709551615).reals = [] ∧
      decode? Output.ofJson? (Output.mk ["a\"\\", ""]
        [[.null, .integer (-9223372036854775808)], [],
         [.text "\x00\n\x7f\u2028", .binary [0, 255], .integer 9223372036854775807]]
        18446744073709551615).toJson.render
        = some (Output.mk ["a\"\\", ""]
          [[.null, .integer (-9223372036854775808)], [],
           [.text "\x00\n\x7f\u2028", .binary [0, 255], .integer 9223372036854775807]]
          18446744073709551615)) ∧
    ((∃ x ∈ (Value.real ⟨0x7FF8000000000000⟩).reals, x.isFinite = false) ∧
      decode? Value.ofJson? (Value.real ⟨0x7FF8000000000000⟩).toJson.render = none) ∧
    ((∃ x ∈ (Binding.mk 1 (.real (.infinity true))).reals, x.isFinite = false) ∧
      decode? Binding.ofJson? (Binding.mk 1 (.real (.infinity true))).toJson.render = none) ∧
    ((∃ x ∈ (Output.mk [] [[.null], [.integer 1, .real (.infinity false)]] 0).reals,
        x.isFinite = false) ∧
      decode? Output.ofJson?
        (Output.mk [] [[.null], [.integer 1, .real (.infinity false)]] 0).toJson.render = none) ∧
    (18446744073709551615 < UInt64.size ∧
      decode? StatementId.ofJson? (StatementId.mk 18446744073709551615).toJson.render
        = some ⟨18446744073709551615, by decide⟩) := by
  obtain ⟨hvalue, hbinding, houtput, -, hstatement, -⟩ := json_round_trip
  refine ⟨⟨rfl, (hvalue _).1 rfl⟩, ⟨rfl, (hbinding _).1 rfl⟩, ⟨rfl, (houtput _).1 rfl⟩,
    ⟨?_, (hvalue _).2 ?_⟩, ⟨?_, (hbinding _).2 ?_⟩, ⟨?_, (houtput _).2 ?_⟩,
    by decide, hstatement _ (by decide)⟩ <;>
    exact ⟨_, List.mem_singleton_self _, by decide⟩

end Prepared
