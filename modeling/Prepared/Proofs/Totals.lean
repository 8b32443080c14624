import Mathlib.Algebra.BigOperators.Group.List.Basic
import Mathlib.Algebra.GroupWithZero.Nat
import Prepared.Proofs.Recorded

/-! What a recording engine counts.

Which statements are live is kept apart from the log, but compilations and destructions are counted in
the log. Once the log was taken they are counted from there on; with the logs that were taken put back
they are those of the whole run. -/
namespace Prepared

namespace Call

/-- Each compilation gives out one statement. -/
theorem length_issued (calls : List Call) : (issued calls).length = calls.countP isCompile := by
  unfold issued
  rw [List.length_filterMap_eq_countP]
  refine List.countP_congr fun c _ => ?_
  cases c <;> simp [isCompile, issued?]

end Call

/-- What is listed once at most. -/
theorem count_of_le_one {α : Type} [DecidableEq α] {a : α} {as : List α} (once : as.count a ≤ 1) :
    as.count a = if a ∈ as then 1 else 0 := by
  split
  · next listed => exact Nat.le_antisymm once (List.count_pos_iff.2 listed)
  · next absent => exact List.count_eq_zero.2 absent

/-- In the calls about one statement there is at most one destruction. -/
theorem IsBiography.count_destroy_le {calls : List Call} (life : IsBiography calls)
    (n : StatementId) : calls.count (.destroy n) ≤ 1 := by
  have none_before {m : StatementId} {sql : String} {uses : List Call}
      (used : ∀ c ∈ uses, c.isUse) : (Call.compile m sql :: uses).count (.destroy n) = 0 := by
    refine List.count_eq_zero.2 fun destroyed => ?_
    rcases List.mem_cons.1 destroyed with first | later
    · nomatch first
    · nomatch used _ later
  cases life with
  | unborn => exact Nat.zero_le 1
  | alive m sql uses used =>
    rw [none_before used]
    exact Nat.zero_le 1
  | ended m sql uses used =>
    rw [List.count_append, none_before used, Nat.zero_add]
    exact List.count_le_length

namespace Recording

/-- The engine with more calls in its log, which came before all others. -/
def behind (r : Recording) (calls : List Call) : Recording :=
  { r with log := calls ++ r.log }

/-- Whether the counters of a recording engine are what calls amount to. -/
structure Totals (calls : List Call) (r : Recording) : Prop where
  /-- Every compilation is counted. -/
  compileCount : r.compileCount = (Call.issued calls).length
  /-- A statement that was destroyed is counted once. -/
  destroyCount : ∀ n, r.destroyCount n = if .destroy n ∈ calls then 1 else 0
  /-- Nothing is counted as destroyed that was not compiled. -/
  unissued : ∀ n, n ∉ Call.issued calls → r.destroyCount n = 0
  /-- A statement is live if it was compiled and is not counted as destroyed. -/
  isLive : ∀ n, r.isLive n = true ↔ n ∈ Call.issued calls ∧ r.destroyCount n = 0
  /-- The live statements and the destructions that are counted make up the compilations. -/
  liveCount : r.liveCount + ((Call.issued calls).map r.destroyCount).sum = r.compileCount

section Behind

variable (r : Recording) (calls : List Call) (n : StatementId)

@[simp] theorem isLive_behind : (r.behind calls).isLive n = r.isLive n := rfl

@[simp] theorem liveCount_behind : (r.behind calls).liveCount = r.liveCount := rfl

theorem compileCount_behind :
    (r.behind calls).compileCount = calls.countP Call.isCompile + r.compileCount :=
  List.countP_append

theorem destroyCount_behind :
    (r.behind calls).destroyCount n = calls.count (.destroy n) + r.destroyCount n :=
  List.count_append

end Behind

namespace Tells

variable {calls : List Call} {r t : Recording} {c : Call} {n : StatementId}

theorem issued_nodup (h : Tells calls r) : (Call.issued calls).Nodup := by
  unfold Call.issued
  rw [h.numbers]
  refine List.nodup_range.map fun j k same => ?_
  exact Nat.succ.inj (congrArg StatementId.number same)

/-- A statement is destroyed once at most. -/
theorem count_destroy (h : Tells calls r) (n : StatementId) :
    calls.count (.destroy n) = if .destroy n ∈ calls then 1 else 0 := by
  apply count_of_le_one
  have about : (calls.filter fun c => c.statement == n).count (.destroy n) =
      calls.count (.destroy n) := List.count_filter (beq_self_eq_true n)
  rw [← about]
  exact (h.biography n).count_destroy_le n

/-- The first call of all is a compilation. -/
theorem begins (h : Tells (c :: calls) r) : c.isCompile = true := by
  have life := h.biography c.statement
  rw [List.filter_cons, if_pos (beq_self_eq_true _)] at life
  obtain ⟨n, sql, rfl⟩ := life.begins
  rfl

/-- What is entered in the log leaves every live statement with one entry. -/
theorem distinct_enter (h : Tells calls r) (enters : Enters r c t)
    (distinct : (r.live.map Prod.fst).Nodup) : (t.live.map Prod.fst).Nodup := by
  cases enters with
  | compiled sql accepted =>
    refine List.nodup_cons.2 ⟨fun listed => ?_, distinct⟩
    have live : r.isLive (.after r.lastNumber) = true := Lookup.isSome_lookup_iff.2 listed
    obtain ⟨sql', before⟩ := Call.mem_issued_iff.1 (h.isLive_iff.1 live).1
    exact h.none_about_next before rfl
  | destroyed n live => exact distinct.sublist (List.filter_sublist.map Prod.fst)
  | used c live use => exact distinct

/-- What was compiled is live, or it was destroyed. -/
theorem liveCount_eq (h : Tells calls r) (distinct : (r.live.map Prod.fst).Nodup) :
    r.liveCount + ((Call.issued calls).map fun n => calls.count (.destroy n)).sum =
      (Call.issued calls).length := by
  have live : (r.live.map Prod.fst).Perm
      ((Call.issued calls).filter fun n => !decide (.destroy n ∈ calls)) := by
    refine (List.perm_ext_iff_of_nodup distinct (h.issued_nodup.filter _)).2 fun n => ?_
    rw [List.mem_filter, ← decide_not, decide_eq_true_iff]
    exact Lookup.isSome_lookup_iff.symm.trans h.isLive_iff
  calc r.liveCount + ((Call.issued calls).map fun n => calls.count (.destroy n)).sum
      = ((Call.issued calls).filter fun n => !decide (.destroy n ∈ calls)).length +
          ((Call.issued calls).filter fun n => decide (.destroy n ∈ calls)).length := by
        rw [← live.length_eq, List.length_map, funext h.count_destroy, List.sum_map_ite]
        simp [liveCount]
    _ = (Call.issued calls).length := by
        rw [Nat.add_comm, ← List.length_eq_length_filter_add]

/-- Counters that are read from all calls are what these amount to. -/
theorem totals (h : Tells calls r) (distinct : (r.live.map Prod.fst).Nodup)
    (whole : r.log = calls) : Totals calls r := by
  have compileCount : r.compileCount = (Call.issued calls).length := by
    rw [Call.length_issued, ← whole]
    rfl
  have destroyCount (n : StatementId) : r.destroyCount n = calls.count (.destroy n) := by
    rw [← whole]
    rfl
  constructor
  case compileCount => exact compileCount
  case destroyCount => exact fun n => (destroyCount n).trans (h.count_destroy n)
  case unissued =>
    intro n unissued
    rw [destroyCount, List.count_eq_zero]
    exact fun destroyed => unissued (h.issued_of_mem destroyed)
  case isLive =>
    intro n
    rw [destroyCount, List.count_eq_zero]
    exact h.isLive_iff
  case liveCount =>
    rw [funext destroyCount, compileCount]
    exact h.liveCount_eq distinct

end Tells

section Runs

variable {past : List Turn} {r : Recording}

/-- Every live statement has one entry. -/
theorem Recorded.distinct (run : Recorded past r) : (r.live.map Prod.fst).Nodup := by
  induction run with
  | start => exact List.nodup_nil
  | @ask past r run q ih =>
    rcases r.ask_cases q with ⟨c, -, -, enters⟩ | ⟨-, -, live, -⟩
    · exact run.tells.2.distinct_enter enters ih
    · rw [live]
      exact ih

/-- With the logs that were taken put back, the counters are right. -/
theorem Recorded.totals_behind (run : Recorded past r) :
    Totals (succeeded past) (r.behind (takenLogs past)) :=
  (run.tells.2.of_same rfl rfl : Tells _ (r.behind (takenLogs past))).totals run.distinct run.tells.1

/-- If a call was taken, the first compilation of all is not counted any more. -/
theorem Recorded.compileCount_lt (run : Recorded past r) (taken : takenLogs past ≠ []) :
    r.compileCount < (Call.issued (succeeded past)).length := by
  obtain ⟨c, cs, list⟩ := List.exists_cons_of_ne_nil taken
  have first : c.isCompile = true := by
    have tells := run.tells.2
    rw [← run.tells.1, list] at tells
    exact tells.begins
  have uncounted : 0 < (takenLogs past).countP Call.isCompile :=
    List.countP_pos_iff.2 ⟨c, list ▸ .head _, first⟩
  rw [← run.totals_behind.compileCount, compileCount_behind]
  exact Nat.lt_add_of_pos_left uncounted

theorem Recorded.destroyCount_le (run : Recorded past r) (n : StatementId) :
    r.destroyCount n ≤ 1 := by
  have whole := run.totals_behind.destroyCount n
  rw [destroyCount_behind] at whole
  split at whole <;> omega

/-- The log holds what has succeeded since it was last taken. -/
theorem Recorded.log_eq (run : Recorded past r) {later earlier : List Turn} {x : Turn}
    (split : past = later ++ x :: earlier) (take : x.request = .takeCalls)
    (untaken : ∀ y ∈ later, y.request ≠ .takeCalls) : r.log = succeeded later := by
  induction run generalizing later with
  | start => simp at split
  | @ask past r run q ih =>
    cases later with
    | nil =>
      obtain ⟨rfl, -⟩ := List.cons.inj split
      obtain rfl : q = .takeCalls := take
      rfl
    | cons y later =>
      obtain ⟨rfl, rest⟩ := List.cons.inj split
      have before := ih rest fun y hy => untaken y (.tail _ hy)
      unfold succeeded
      dsimp only
      rcases r.ask_cases q with ⟨c, call, -, enters⟩ | ⟨silent, taken, -, -⟩
      · rw [call, enters.log, before]
        rfl
      · have kept : q.taken (r.ask q).1 = [] := by
          cases q with
          | takeCalls => exact absurd rfl (untaken _ (.head _))
          | primitive | refuse | setOutput | calls => rfl
        rw [kept] at taken
        rw [silent, ← before]
        exact taken.trans (List.append_nil _).symm

/-- The counters of a recording engine, whatever was asked of it since it was made. Which statements
are live, and how many, does not depend on the log: it is those that were compiled and not destroyed.
Compilations and destructions are counted in the log. So all counters are right with the logs that
were taken put back before it, and as they stand they are right as long as no call was taken; once the
log was taken, they count what has succeeded since it was last taken. -/
theorem counters_of_run (run : Recorded past r) :
    (∀ n, r.isLive n = true ↔ n ∈ Call.issued (succeeded past) ∧ .destroy n ∉ succeeded past) ∧
    r.liveCount +
        ((Call.issued (succeeded past)).map fun n => (succeeded past).count (.destroy n)).sum =
      (Call.issued (succeeded past)).length ∧
    Totals (succeeded past) (r.behind (takenLogs past)) ∧
    (Totals (succeeded past) r ↔ takenLogs past = []) ∧
    ∀ later x earlier, past = later ++ x :: earlier → x.request = .takeCalls →
      (∀ y ∈ later, y.request ≠ .takeCalls) →
      r.compileCount = (Call.issued (succeeded later)).length ∧
      ∀ n, r.destroyCount n = if .destroy n ∈ succeeded later then 1 else 0 := by
  have tells := run.tells.2
  refine ⟨fun n => tells.isLive_iff, tells.liveCount_eq run.distinct, run.totals_behind, ?_, ?_⟩
  · constructor
    · intro totals
      by_contra taken
      exact absurd totals.compileCount (Nat.ne_of_lt (run.compileCount_lt taken))
    · intro untaken
      have whole := run.tells.1
      rw [untaken, List.nil_append] at whole
      exact tells.totals run.distinct whole
  · intro later x earlier split take untaken
    rw [Call.length_issued, ← run.log_eq split take untaken]
    exact ⟨rfl, fun n => count_of_le_one (run.destroyCount_le n)⟩

/-- Three statements are compiled and two of them destroyed; in between the log is taken. -/
theorem counters_of_run_taken : ∃ past r, Recorded past r ∧
    takenLogs past = [.compile (.after 0) "a", .compile (.after 1) "b", .destroy (.after 0)] ∧
    r.log = [.compile (.after 2) "a", .destroy (.after 1)] ∧
    r.isLive (.after 2) = true ∧ r.liveCount + 2 = 3 ∧
    r.compileCount = 1 ∧ (r.behind (takenLogs past)).compileCount = 3 ∧
    r.destroyCount (.after 0) = 0 ∧ (r.behind (takenLogs past)).destroyCount (.after 0) = 1 ∧
    r.destroyCount (.after 1) = 1 ∧ ¬ Totals (succeeded past) r := by
  have run := Recorded.start |>.ask (.primitive (.compile "a")) |>.ask (.primitive (.compile "b"))
    |>.ask (.primitive (.destroy (.after 0))) |>.ask .takeCalls |>.ask (.primitive (.compile "a"))
    |>.ask .calls |>.ask (.primitive (.destroy (.after 0))) |>.ask (.primitive (.destroy (.after 1)))
  obtain ⟨live, liveCount, whole, right, since⟩ := counters_of_run run
  obtain ⟨compiled, destroyed⟩ := since [_, _, _, _] _ _ rfl rfl (by simp)
  exact ⟨_, _, run, by decide +kernel, by decide +kernel, (live _).2 (by decide +kernel), liveCount,
    compiled, whole.compileCount, (destroyed _).trans (by decide +kernel),
    (whole.destroyCount _).trans (by decide +kernel), (destroyed _).trans (by decide +kernel),
    fun totals => absurd (right.1 totals) (by decide +kernel)⟩

/-- Two statements are compiled, one of them is destroyed, and the log is taken. After that neither
the compilations nor the destruction are counted, and what is live does not add up. -/
theorem taken_log_uncounted : ∃ past r, Recorded past r ∧
    Call.issued (succeeded past) = [.after 0, .after 1] ∧ r.compileCount = 0 ∧
    .destroy (.after 0) ∈ succeeded past ∧ r.destroyCount (.after 0) = 0 ∧
    r.isLive (.after 0) = false ∧
    r.liveCount + ((Call.issued (succeeded past)).map r.destroyCount).sum ≠ r.compileCount ∧
    ¬ Totals (succeeded past) r := by
  have run := Recorded.start |>.ask (.primitive (.compile "a")) |>.ask (.primitive (.compile "b"))
    |>.ask (.primitive (.destroy (.after 0))) |>.ask .takeCalls
  exact ⟨_, _, run, by decide +kernel, by decide +kernel, by decide +kernel, by decide +kernel,
    by decide +kernel, by decide +kernel, fun totals => absurd totals.compileCount (by decide +kernel)⟩

end Runs

end Recording

end Prepared
