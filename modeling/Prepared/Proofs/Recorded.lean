import Prepared.Proofs.Stock

/-! The log of a recording engine as a history.

Whatever is asked of a recording engine, the logs that were taken from it, with the log that it has
now, are the primitives that have succeeded, in their order. They tell the life of each statement,
and from them it can be read which statements are live. -/
namespace Prepared

/-- What the log says of a request that succeeded. -/
def Primitive.call : (p : Primitive) → p.Answer → Call
  | .compile sql, n => .compile n sql
  | .destroy n, _ => .destroy n
  | .bind n position value, _ => .bind n position value
  | .clearBindings n, _ => .clearBindings n
  | .execute n, _ => .execute n

namespace Call

/-- The statement that a call has given out. -/
def issued? : Call → Option StatementId
  | compile n _ => some n
  | _ => none

/-- The statements that were compiled, in their order. -/
def issued (calls : List Call) : List StatementId :=
  calls.filterMap issued?

/-- Whether a call has bound, cleared or executed its statement. -/
def isUse : Call → Bool
  | bind .. | clearBindings _ | execute _ => true
  | _ => false

theorem mem_issued_iff {calls : List Call} {n : StatementId} :
    n ∈ issued calls ↔ ∃ sql, .compile n sql ∈ calls := by
  constructor
  · intro listed
    obtain ⟨c, hc, given⟩ := List.mem_filterMap.1 listed
    cases c with
    | compile m sql =>
      cases given
      exact ⟨sql, hc⟩
    | destroy | bind | clearBindings | execute => nomatch given
  · rintro ⟨sql, hc⟩
    exact List.mem_filterMap.2 ⟨_, hc, rfl⟩

end Call

/-- The calls about one statement: none, or its compilation and what it was used for, and then at
most its destruction, which is the last. -/
inductive IsBiography : List Call → Prop
  | unborn : IsBiography []
  | alive (n : StatementId) (sql : String) (uses : List Call) (used : ∀ c ∈ uses, c.isUse) :
      IsBiography (.compile n sql :: uses)
  | ended (n : StatementId) (sql : String) (uses : List Call) (used : ∀ c ∈ uses, c.isUse) :
      IsBiography (.compile n sql :: uses ++ [.destroy n])

/-- A statement is compiled before anything else is done with it. -/
theorem IsBiography.begins {c : Call} {later : List Call} (life : IsBiography (c :: later)) :
    ∃ n sql, c = .compile n sql := by
  generalize whole : c :: later = calls at life
  cases life with
  | unborn => nomatch whole
  | alive n sql uses used | ended n sql uses used => exact ⟨n, sql, (List.cons.inj whole).1⟩

namespace Recording

/-- What is asked of a recording engine: one of the primitives, or what only a test asks. -/
inductive Request where
  | primitive (p : Primitive)
  | refuse (sql : String)
  | setOutput (sql : String) (output : Output)
  /-- To read the log. -/
  | calls
  /-- To take the log, which is empty after that. -/
  | takeCalls

namespace Request

abbrev Answer : Request → Type
  | primitive p => Except EngineError p.Answer
  | refuse _ | setOutput .. => Unit
  | calls | takeCalls => List Call

/-- The call that has succeeded, if the request was for one. -/
def call? : (q : Request) → q.Answer → Option Call
  | primitive p, answer => answer.toOption.map p.call
  | _, _ => none

/-- The log that was taken. -/
def taken : (q : Request) → q.Answer → List Call
  | takeCalls, log => log
  | _, _ => []

end Request

/-- Carries out a request. -/
def ask (r : Recording) : (q : Request) → q.Answer × Recording
  | .primitive p => engine.run 0 p r
  | .refuse sql => ((), r.refuse sql)
  | .setOutput sql output => ((), r.setOutput sql output)
  | .calls => (r.log, r)
  | .takeCalls => (r.log, r.forget)

/-- A request, and the engine that it was made to. -/
structure Turn where
  before : Recording
  request : Request

/-- Requests that were made to an engine from the first one on, the latest first, and the engine that
they lead to. -/
inductive Recorded : List Turn → Recording → Prop
  | start : Recorded [] {}
  | ask {past : List Turn} {r : Recording} (recorded : Recorded past r) (q : Request) :
      Recorded (⟨r, q⟩ :: past) (r.ask q).2

/-- The calls that have succeeded, the oldest first. -/
def succeeded : List Turn → List Call
  | [] => []
  | x :: past => succeeded past ++ (x.request.call? (x.before.ask x.request).1).toList

/-- The logs that were taken, one after the other. -/
def takenLogs : List Turn → List Call
  | [] => []
  | x :: past => takenLogs past ++ x.request.taken (x.before.ask x.request).1

/-- Whether calls tell what is in a recording engine. -/
structure Tells (calls : List Call) (r : Recording) : Prop where
  /-- Numbers were given out in turn. -/
  numbers : calls.filterMap Call.issued? = (List.range r.lastNumber).map StatementId.after
  /-- Each statement was compiled, used and destroyed in this order. -/
  biography : ∀ n, IsBiography (calls.filter fun c => c.statement == n)
  /-- A statement is live, with its text, if it was compiled and not destroyed. -/
  live : ∀ n sql, r.sql? n = some sql ↔ .compile n sql ∈ calls ∧ .destroy n ∉ calls

/-- What a call that succeeds does to the engine. -/
inductive Enters (r : Recording) : Call → Recording → Prop
  | compiled (sql : String) (accepted : r.refused.contains sql = false) :
      Enters r (.compile (.after r.lastNumber) sql) { r with
        lastNumber := r.lastNumber + 1
        live := (.after r.lastNumber, sql) :: r.live
        log := r.log ++ [.compile (.after r.lastNumber) sql] }
  | destroyed (n : StatementId) (live : r.isLive n = true) :
      Enters r (.destroy n) { r with
        live := r.live.filter fun e => e.1 != n
        log := r.log ++ [.destroy n] }
  | used (c : Call) (live : r.isLive c.statement = true) (use : c.isUse) : Enters r c (r.record c)

section Calls

variable {r t : Recording} {c : Call} {p : Primitive} {i : EngineId} {n : StatementId}

theorem Enters.log (h : Enters r c t) : t.log = r.log ++ [c] := by
  cases h <;> rfl

theorem Enters.refused (h : Enters r c t) : t.refused = r.refused := by
  cases h <;> rfl

/-- A primitive that succeeds enters its call. -/
theorem enters_of_ok {a : p.Answer} (answer : (engine.run i p r).1 = .ok a) :
    Enters r (p.call a) (engine.run i p r).2 := by
  cases p with
  | compile sql =>
    change (r.compile sql).1 = .ok a at answer
    show Enters r (.compile a sql) (r.compile sql).2
    cases hr : r.refused.contains sql with
    | true =>
      rw [compile_refused hr] at answer
      nomatch answer
    | false =>
      rw [compile_accepted hr] at answer ⊢
      cases answer
      exact .compiled sql hr
  | destroy n =>
    change (r.destroy n).1 = .ok a at answer
    show Enters r (.destroy n) (r.destroy n).2
    unfold destroy at answer ⊢
    split at answer
    · next live =>
      rw [if_pos live]
      exact .destroyed n live
    · nomatch answer
  | bind n position value =>
    change (r.bind n position value).1 = .ok a at answer
    show Enters r (.bind n position value) (r.bind n position value).2
    unfold bind at answer ⊢
    split at answer
    · nomatch answer
    next first =>
      split at answer
      · next live =>
        rw [if_neg first, if_pos live]
        exact .used _ live rfl
      · nomatch answer
  | clearBindings n =>
    change (r.clearBindings n).1 = .ok a at answer
    show Enters r (.clearBindings n) (r.clearBindings n).2
    unfold clearBindings at answer ⊢
    split at answer
    · next live =>
      rw [if_pos live]
      exact .used _ live rfl
    · nomatch answer
  | execute n =>
    change (r.execute n).1 = .ok a at answer
    show Enters r (.execute n) (r.execute n).2
    cases found : r.sql? n with
    | none =>
      unfold execute at answer
      rw [found] at answer
      nomatch answer
    | some sql =>
      have live : r.isLive n = true := Option.isSome_of_eq_some found
      obtain ⟨output, executed⟩ := execute_live live
      rw [executed]
      exact .used _ live rfl

/-- A primitive that fails changes nothing. -/
theorem run_of_error {e : EngineError} (answer : (engine.run i p r).1 = .error e) :
    (engine.run i p r).2 = r := by
  cases p with
  | compile sql =>
    change (r.compile sql).1 = .error e at answer
    show (r.compile sql).2 = r
    unfold compile at answer ⊢
    split at answer
    · next refused => rw [if_pos refused]
    · nomatch answer
  | destroy n =>
    change (r.destroy n).1 = .error e at answer
    show (r.destroy n).2 = r
    unfold destroy at answer ⊢
    split at answer
    · nomatch answer
    · next dead => rw [if_neg dead]
  | bind n position value =>
    change (r.bind n position value).1 = .error e at answer
    show (r.bind n position value).2 = r
    unfold bind at answer ⊢
    split at answer
    · next zero => rw [if_pos zero]
    next first =>
      split at answer
      · nomatch answer
      · next dead => rw [if_neg first, if_neg dead]
  | clearBindings n =>
    change (r.clearBindings n).1 = .error e at answer
    show (r.clearBindings n).2 = r
    unfold clearBindings at answer ⊢
    split at answer
    · nomatch answer
    · next dead => rw [if_neg dead]
  | execute n =>
    change (r.execute n).1 = .error e at answer
    show (r.execute n).2 = r
    unfold execute at answer ⊢
    split at answer
    · nomatch answer
    · rfl

/-- The call of a request, which it has entered; or it had none, and left what is live as it was. -/
theorem ask_cases (r : Recording) (q : Request) :
    (∃ c, q.call? (r.ask q).1 = some c ∧ q.taken (r.ask q).1 = [] ∧ Enters r c (r.ask q).2) ∨
    (q.call? (r.ask q).1 = none ∧ q.taken (r.ask q).1 ++ (r.ask q).2.log = r.log ∧
      (r.ask q).2.live = r.live ∧ (r.ask q).2.lastNumber = r.lastNumber) := by
  cases q with
  | primitive p =>
    cases answer : (engine.run 0 p r).1 with
    | ok a =>
      refine .inl ⟨p.call a, ?_, rfl, enters_of_ok answer⟩
      show (engine.run 0 p r).1.toOption.map p.call = _
      rw [answer]
      rfl
    | error e =>
      have same : (r.ask (.primitive p)).2 = r := run_of_error answer
      refine .inr ⟨?_, by rw [same]; rfl, by rw [same], by rw [same]⟩
      show (engine.run 0 p r).1.toOption.map p.call = _
      rw [answer]
      rfl
  | refuse sql | setOutput sql output | calls => exact .inr ⟨rfl, rfl, rfl, rfl⟩
  | takeCalls => exact .inr ⟨rfl, List.append_nil _, rfl, rfl⟩

end Calls

namespace Tells

variable {calls : List Call} {r t : Recording} {c : Call} {n : StatementId}

theorem empty : Tells [] {} :=
  ⟨rfl, fun _ => .unborn, fun _ _ => ⟨nofun, nofun⟩⟩

/-- The calls about one statement, once more is entered. -/
theorem filter_append (calls : List Call) (c : Call) (n : StatementId) :
    (calls ++ [c]).filter (fun c => c.statement == n) =
      calls.filter (fun c => c.statement == n) ++ if c.statement = n then [c] else [] := by
  rw [List.filter_append]
  by_cases h : c.statement = n <;> simp [h]

/-- A statement that a call is about was compiled. -/
theorem issued_of_mem (h : Tells calls r) (hc : c ∈ calls) : c.statement ∈ Call.issued calls := by
  have about : c ∈ calls.filter fun d => d.statement == c.statement :=
    List.mem_filter.2 ⟨hc, beq_self_eq_true _⟩
  obtain ⟨first, rest, list⟩ := List.exists_cons_of_ne_nil (List.ne_nil_of_mem about)
  -- the life of the statement has begun with its compilation
  have life := h.biography c.statement
  rw [list] at life
  obtain ⟨n, sql, rfl⟩ := life.begins
  have listed : Call.compile n sql ∈ calls.filter fun d => d.statement == c.statement :=
    list ▸ .head _
  obtain ⟨compiled, own⟩ := List.mem_filter.1 listed
  exact Call.mem_issued_iff.2 ⟨sql, beq_iff_eq.1 own ▸ compiled⟩

/-- No call is about a statement that has not been given out yet. -/
theorem none_about_next (h : Tells calls r) (hc : c ∈ calls) :
    c.statement ≠ .after r.lastNumber := by
  intro same
  have issued := h.issued_of_mem hc
  unfold Call.issued at issued
  rw [same, h.numbers] at issued
  obtain ⟨k, hk, number⟩ := List.mem_map.1 issued
  have : k + 1 = r.lastNumber + 1 := congrArg StatementId.number number
  have := List.mem_range.1 hk
  omega

/-- The live statements are those that were compiled and not destroyed. -/
theorem isLive_iff (h : Tells calls r) :
    r.isLive n = true ↔ n ∈ Call.issued calls ∧ .destroy n ∉ calls := by
  rw [Call.mem_issued_iff, exists_and_right.symm]
  exact Option.isSome_iff_exists.trans (exists_congr fun sql => h.live n sql)

/-- The calls about a live statement. -/
theorem alive (h : Tells calls r) (live : r.isLive n = true) :
    ∃ sql uses, calls.filter (fun c => c.statement == n) = .compile n sql :: uses ∧
      ∀ c ∈ uses, c.isUse := by
  obtain ⟨sql, found⟩ := Option.isSome_iff_exists.1 live
  obtain ⟨compiled, undestroyed⟩ := (h.live n sql).1 found
  have life := h.biography n
  generalize list : calls.filter (fun c => c.statement == n) = cs at life
  have about {c : Call} : c ∈ cs ↔ c ∈ calls ∧ c.statement = n := by
    rw [← list, List.mem_filter, beq_iff_eq]
  cases life with
  | unborn => nomatch about.2 ⟨compiled, rfl⟩
  | alive m sql' uses used =>
    have own : m = n := (about.1 (.head _)).2
    exact ⟨sql', uses, by rw [own], used⟩
  | ended m sql' uses used =>
    have own : m = n := (about.1 (.head _)).2
    have destroyed : Call.destroy m ∈ calls := (about.1 (by simp)).1
    exact absurd (own ▸ destroyed) undestroyed

theorem compiled (h : Tells calls r) (sql : String) :
    Tells (calls ++ [.compile (.after r.lastNumber) sql]) { r with
      lastNumber := r.lastNumber + 1
      live := (.after r.lastNumber, sql) :: r.live
      log := r.log ++ [.compile (.after r.lastNumber) sql] } := by
  refine ⟨?_, fun n => ?_, fun n sql' => ?_⟩
  · show _ = (List.range (r.lastNumber + 1)).map _
    rw [List.filterMap_append, h.numbers, List.range_succ, List.map_append]
    rfl
  · rw [filter_append]
    by_cases hn : Call.statement (.compile (.after r.lastNumber) sql) = n
    · rw [if_pos hn]
      have nothing : calls.filter (fun c => c.statement == n) = [] :=
        List.filter_eq_nil_iff.2 fun c hc same =>
          h.none_about_next hc ((beq_iff_eq.1 same).trans hn.symm)
      rw [nothing]
      exact .alive _ sql [] nofun
    · rw [if_neg hn, List.append_nil]
      exact h.biography n
  · unfold sql?
    rw [List.lookup_cons]
    by_cases hn : n = .after r.lastNumber
    · have new : (n == StatementId.after r.lastNumber) = true := beq_iff_eq.2 hn
      have old {c : Call} (hc : c ∈ calls) : c.statement ≠ n := hn ▸ h.none_about_next hc
      rw [new]
      constructor
      · intro found
        cases found
        refine ⟨List.mem_append_right _ (hn ▸ .head _), fun destroyed => ?_⟩
        exact old ((List.mem_append.1 destroyed).resolve_right nofun) rfl
      · rintro ⟨compiled, -⟩
        rcases List.mem_append.1 compiled with before | now
        · exact absurd rfl (old before)
        · cases List.mem_singleton.1 now
          rfl
    · have other : (n == StatementId.after r.lastNumber) = false := beq_false_of_ne hn
      have kept (c : Call) (hc : c.statement = n) :
          c ∈ calls ++ [.compile (.after r.lastNumber) sql] ↔ c ∈ calls := by
        rw [List.mem_append, List.mem_singleton]
        exact or_iff_left fun same => hn (hc.symm.trans (congrArg Call.statement same))
      rw [other, kept _ rfl, kept _ rfl]
      exact h.live n sql'

theorem destroyed (h : Tells calls r) (live : r.isLive n = true) :
    Tells (calls ++ [.destroy n]) { r with
      live := r.live.filter fun e => e.1 != n
      log := r.log ++ [.destroy n] } := by
  refine ⟨?_, fun m => ?_, fun m sql => ?_⟩
  · rw [List.filterMap_append, h.numbers]
    exact List.append_nil _
  · rw [filter_append]
    by_cases hm : Call.statement (.destroy n) = m
    · rw [if_pos hm]
      obtain ⟨sql, uses, list, used⟩ := h.alive (n := m) (hm ▸ live)
      rw [list, show n = m from hm]
      exact .ended m sql uses used
    · rw [if_neg hm, List.append_nil]
      exact h.biography m
  · show (r.live.filter fun e => e.1 != n).lookup m = _ ↔ _
    rw [List.mem_append, List.mem_append, or_iff_left (by simp)]
    by_cases hm : m = n
    · subst hm
      rw [Lookup.lookup_filter_self]
      exact iff_of_false (Option.some_ne_none sql).symm fun hs => hs.2 (.inr (.head _))
    · rw [Lookup.lookup_filter_of_ne r.live hm, or_iff_left (by simpa using hm)]
      exact h.live m sql

theorem used (h : Tells calls r) (live : r.isLive c.statement = true) (use : c.isUse) :
    Tells (calls ++ [c]) (r.record c) := by
  have others {d : Call} (hd : d.isUse = false) : d ∈ calls ++ [c] ↔ d ∈ calls := by
    rw [List.mem_append, List.mem_singleton]
    refine or_iff_left fun same => ?_
    rw [same, use] at hd
    nomatch hd
  refine ⟨?_, fun m => ?_, fun m sql => ?_⟩
  · have silent : Call.issued? c = none := by
      cases c with
      | compile => nomatch use
      | destroy | bind | clearBindings | execute => rfl
    rw [List.filterMap_append, h.numbers, List.filterMap_cons_none silent]
    exact List.append_nil _
  · rw [filter_append]
    by_cases hm : c.statement = m
    · rw [if_pos hm]
      obtain ⟨sql, uses, list, used⟩ := h.alive (n := m) (hm ▸ live)
      rw [list]
      refine .alive m sql (uses ++ [c]) fun d hd => ?_
      rcases List.mem_append.1 hd with before | now
      · exact used d before
      · exact List.mem_singleton.1 now ▸ use
    · rw [if_neg hm, List.append_nil]
      exact h.biography m
  · rw [others rfl, others rfl]
    exact h.live m sql

theorem enter (h : Tells calls r) (enters : Enters r c t) : Tells (calls ++ [c]) t := by
  cases enters with
  | compiled sql accepted => exact h.compiled sql
  | destroyed n live => exact h.destroyed live
  | used c live use => exact h.used live use

theorem of_same (h : Tells calls r) (live : t.live = r.live)
    (last : t.lastNumber = r.lastNumber) : Tells calls t := by
  refine ⟨last ▸ h.numbers, h.biography, fun n sql => ?_⟩
  unfold sql?
  rw [live]
  exact h.live n sql

end Tells

section Runs

variable {past : List Turn} {r : Recording}

/-- What was taken and what is left are the calls that succeeded, and they tell what is in the
engine. -/
theorem Recorded.tells (run : Recorded past r) :
    takenLogs past ++ r.log = succeeded past ∧ Tells (succeeded past) r := by
  induction run with
  | start => exact ⟨rfl, .empty⟩
  | @ask past r run q ih =>
    obtain ⟨whole, tells⟩ := ih
    unfold takenLogs succeeded
    dsimp only
    rcases r.ask_cases q with ⟨c, call, untaken, enters⟩ | ⟨silent, taken, live, last⟩
    · rw [call, untaken, List.append_nil, enters.log, ← List.append_assoc, whole]
      exact ⟨rfl, tells.enter enters⟩
    · rw [silent, List.append_assoc, taken, whole]
      exact ⟨(List.append_nil _).symm, (List.append_nil (succeeded past)).symm ▸
        tells.of_same live last⟩

/-- A text that was refused once is refused ever after. -/
theorem Recorded.refuses (run : Recorded past r) {x : Turn} {sql : String} (hx : x ∈ past)
    (refuse : x.request = .refuse sql) : r.refused.contains sql = true := by
  induction run with
  | start => nomatch hx
  | @ask past r run q ih =>
    rcases List.mem_cons.1 hx with rfl | before
    · obtain rfl : q = .refuse sql := refuse
      show (sql :: r.refused).contains sql = true
      simp
    · have refused := ih before
      cases q with
      | primitive p => exact (refused_run 0 p r).symm ▸ refused
      | refuse sql' =>
        show (sql' :: r.refused).contains sql = true
        rw [List.contains_cons, refused, Bool.or_true]
      | setOutput | calls | takeCalls => exact refused

/-- A text is not compiled any more once it was refused. -/
theorem Recorded.not_compiled (run : Recorded past r) {later earlier : List Turn} {x : Turn}
    {sql : String} (split : past = later ++ x :: earlier) (refuse : x.request = .refuse sql)
    (n : StatementId) : .compile n sql ∉ succeeded later := by
  induction run generalizing later with
  | start => simp at split
  | @ask past r run q ih =>
    cases later with
    | nil => nofun
    | cons y later =>
      obtain ⟨rfl, rest⟩ := List.cons.inj split
      intro compiled
      unfold succeeded at compiled
      rcases List.mem_append.1 compiled with before | now
      · exact ih rest before
      · have refused := run.refuses (x := x) (rest ▸ by simp) refuse
        rcases r.ask_cases q with ⟨c, call, -, enters⟩ | ⟨silent, -⟩
        · dsimp only at now
          rw [call] at now
          cases List.mem_singleton.1 now
          generalize (r.ask q).2 = t at enters
          cases enters with
          | compiled _ accepted =>
            rw [accepted] at refused
            nomatch refused
          | used _ _ use => nomatch use
        · dsimp only at now
          rw [silent] at now
          nomatch now

/-- The log of a recording engine is a faithful history, whatever was asked of it since it was made.
The logs that were taken and then the log that is left are the calls that have succeeded, in their
order. In them the compilations have given out the numbers `1`, `2`, `3` and so on; the calls about
each statement are its compilation, then what it was used for, and then its destruction at most; and
a statement is live, with the text that it was compiled from, if it was compiled and not destroyed. No
text was compiled after it was refused, and a primitive that fails changes nothing. -/
theorem log_faithful (run : Recorded past r) :
    takenLogs past ++ r.log = succeeded past ∧ Tells (succeeded past) r ∧
    (∀ later x earlier sql, past = later ++ x :: earlier → x.request = .refuse sql →
      ∀ n, .compile n sql ∉ succeeded later) ∧
    ∀ p e, (r.ask (.primitive p)).1 = .error e → (r.ask (.primitive p)).2 = r :=
  ⟨run.tells.1, run.tells.2, fun _ _ _ _ split refuse => run.not_compiled split refuse,
    fun _ _ => run_of_error⟩

/-- Two statements are compiled, and the text of the first is refused from then on. The second is
destroyed, which does not work twice; the log is taken in between. -/
theorem log_faithful_taken : ∃ past r, Recorded past r ∧
    takenLogs past = [.compile (.after 0) "a", .bind (.after 0) 1 .null, .compile (.after 1) "b"] ∧
    r.log = [.destroy (.after 1), .execute (.after 0)] ∧
    takenLogs past ++ r.log = succeeded past ∧
    r.sql? (.after 0) = some "a" ∧ r.sql? (.after 1) = none ∧
    (r.ask (.primitive (.compile "a"))).1 = .error (.compile "injected failure for: a") ∧
    (r.ask (.primitive (.compile "a"))).2 = r := by
  have run := Recorded.start |>.ask (.primitive (.compile "a"))
    |>.ask (.primitive (.bind (.after 0) 1 .null)) |>.ask (.refuse "a")
    |>.ask (.primitive (.compile "a")) |>.ask (.primitive (.compile "b"))
    |>.ask (.primitive (.bind (.after 1) 0 .null)) |>.ask .calls |>.ask .takeCalls
    |>.ask (.primitive (.destroy (.after 1))) |>.ask (.primitive (.destroy (.after 1)))
    |>.ask (.primitive (.execute (.after 0)))
  obtain ⟨whole, tells, -, failing⟩ := log_faithful run
  exact ⟨_, _, run, by decide +kernel, by decide +kernel, whole,
    (tells.live _ _).2 (by decide +kernel), by decide +kernel, by decide +kernel,
    failing _ (.compile "injected failure for: a") (by decide +kernel)⟩

end Runs

end Recording

end Prepared
