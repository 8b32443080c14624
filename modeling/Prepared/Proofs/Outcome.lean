import Prepared.Proofs.Cache
import Prepared.Proofs.Modifications
import Prepared.Proofs.Twin

/-! What comes of running a command.

A command that succeeds has done to the tables what it says, and the link remembers the number of
rows if the command is one that counts them. Only such a command changes the number that is
remembered. -/
namespace Prepared.Sql

namespace Transaction

variable {t u : Transaction} {w : Surroundings} {a : Access}

/-- Whether the tables that a transaction sees have names of their own. -/
def Tidy (t : Transaction) : Prop :=
  ∀ v, t.view = some v → v.content.Named

/-- A transaction that has seen nothing is tidy. -/
theorem Tidy.fresh : Tidy {} :=
  nofun

/-- A transaction that is made ready for a command sees what it saw, or looks at what is
committed. -/
structure Readied (w : Surroundings) (t u : Transaction) : Prop where
  view : u.view = t.view ∨ t.view = none ∧ u.view = some w.committed
  wrote : u.wrote = t.wrote

namespace Readied

theorem refl (w : Surroundings) (t : Transaction) : Readied w t t :=
  ⟨.inl rfl, rfl⟩

theorem content (h : Readied w t u) : u.content w = t.content w := by
  unfold Transaction.content
  rcases h.view with same | ⟨blind, sees⟩
  · rw [same]
  · rw [blind, sees]
    rfl

theorem tidy (h : Readied w t u) (ht : t.Tidy) (named : w.committed.content.Named) : u.Tidy := by
  intro v hv
  rcases h.view with same | ⟨-, sees⟩
  · exact ht v (same ▸ hv)
  · rw [sees] at hv
    cases hv
    exact named

theorem look? (looked : t.look? w = some u) : Readied w t u ∧ u.view.isSome := by
  unfold Transaction.look? at looked
  split at looked
  · next v sees =>
    cases looked
    exact ⟨.refl w t, Option.isSome_of_eq_some sees⟩
  · next blind =>
    split at looked
    · cases looked
      exact ⟨⟨.inr ⟨blind, rfl⟩, rfl⟩, rfl⟩
    · nomatch looked

theorem claim? (claimed : t.claim? w = some u) : Readied w t u ∧ u.view.isSome := by
  unfold Transaction.claim? at claimed
  simp only [Option.bind_eq_bind, Option.bind_eq_some_iff, Option.pure_def] at claimed
  obtain ⟨v, looked, claimed⟩ := claimed
  obtain ⟨ready, sees⟩ := Readied.look? looked
  split at claimed
  · cases claimed
    exact ⟨ready, sees⟩
  · split at claimed
    · nomatch claimed
    · split at claimed
      · cases claimed
        exact ⟨⟨ready.view, ready.wrote⟩, sees⟩
      · nomatch claimed

theorem acquire? (acquired : t.acquire? w a = some u) :
    Readied w t u ∧ (a ≠ .none → u.view.isSome) := by
  cases a with
  | none =>
    cases acquired
    exact ⟨.refl w t, fun none => absurd rfl none⟩
  | reads => exact ⟨(look? acquired).1, fun _ => (look? acquired).2⟩
  | writes => exact ⟨(claim? acquired).1, fun _ => (claim? acquired).2⟩

theorem secure (w : Surroundings) (t : Transaction) (claim : Claim) :
    Readied w t (t.secure w claim).2 := by
  have claimed : Readied w t ((t.claim? w).getD t) := by
    cases h : t.claim? w with
    | none => exact .refl w t
    | some u => exact (claim? h).1
  cases claim with
  | deferred => exact .refl w t
  | immediate => exact claimed
  | exclusive =>
    unfold Transaction.secure
    cases h : t.claim? w with
    | none => exact .refl w t
    | some u =>
      rw [h] at claimed
      dsimp only
      split
      · exact .refl w t
      · split
        · exact ⟨claimed.view, claimed.wrote⟩
        · dsimp only
          split
          · exact ⟨.inl rfl, rfl⟩
          · exact .refl w t

end Readied

/-- What is committed in the end has named tables. -/
theorem Tidy.commit? (h : t.Tidy) (named : w.committed.content.Named) {d : Snapshot}
    (committed : t.commit? w = some d) : d.content.Named := by
  unfold Transaction.commit? at committed
  split at committed
  · nomatch committed
  · split at committed
    · next v sees =>
      split at committed <;> cases committed
      · exact h v sees
      · exact named
    · cases committed
      exact named

end Transaction

/-- A command that counts rows gives none back. -/
theorem Command.titles_of_counts {c : Command} (counts : c.counts = true) (s : Schema) :
    c.titles s = [] := by
  cases c with
  | insert | delete | update => rfl
  | _ => nomatch counts

/-- Whether a plan is one of a text, made for some tables. -/
structure Plan.Suits (p : Plan) (text : String) : Prop where
  command : ∃ count, Command.ofString? text = some (p.command, count)
  titles : ∃ s, p.titles = p.command.titles s

namespace Link

variable {l m k : Link} {w : Surroundings} {t : Transaction} {text sql : String} {p : Plan}

/-- Whether the plans that a link remembers are those of their texts, and the tables that its
transaction sees are named. -/
structure Tidy (l : Link) : Prop where
  plans : ∀ e ∈ l.plans.entries, e.2.Suits e.1
  transaction : ∀ t, l.transaction = some t → t.Tidy

/-- What preparing a text does to a link: its transaction and the number of rows that it remembers
stay. -/
structure Still (l m : Link) : Prop where
  changes : m.changes = l.changes
  transaction : m.transaction = l.transaction
  plans : (∀ e ∈ l.plans.entries, e.2.Suits e.1) → ∀ e ∈ m.plans.entries, e.2.Suits e.1

namespace Still

theorem refl (l : Link) : Still l l :=
  ⟨rfl, rfl, id⟩

theorem trans (h : Still l m) (hk : Still m k) : Still l k :=
  ⟨hk.changes.trans h.changes, hk.transaction.trans h.transaction, fun hp => hk.plans (h.plans hp)⟩

theorem tidy (h : Still l m) (hl : l.Tidy) : m.Tidy :=
  ⟨h.plans hl.plans, fun t ht => hl.transaction t (h.transaction ▸ ht)⟩

theorem content (h : Still l m) (w : Surroundings) : m.content w = l.content w := by
  unfold Link.content
  rw [h.transaction]

theorem expire (l : Link) : Still l l.expire := by
  refine ⟨rfl, rfl, fun hp e he => ?_⟩
  obtain ⟨f, hf, rfl⟩ := List.mem_map.1 he
  exact ⟨(hp f hf).command, (hp f hf).titles⟩

theorem see (l : Link) (s : Schema) : Still l (l.see s) := by
  unfold Link.see
  dsimp only
  split
  · exact ⟨rfl, rfl, id⟩
  · exact ⟨rfl, rfl, (expire l).plans⟩

theorem remember (l : Link) (suits : p.Suits text) : Still l (l.remember text p) := by
  unfold Link.remember
  split
  · exact .refl l
  refine ⟨rfl, rfl, fun hp e he => ?_⟩
  have either : e = (text, p) ∨ e ∈ l.plans.entries := by
    revert he
    unfold Cache.insert
    split
    · exact .inr
    · intro he
      rcases List.mem_cons.1 (List.mem_of_mem_take he) with new | old
      · exact .inl new
      · exact .inr (List.mem_filter.1 old).1
  rcases either with rfl | old
  · exact suits
  · exact hp e old

theorem prepare (l : Link) (w : Surroundings) (sql : String) :
    Still l (l.prepare w sql).2 ∧
      ∀ p count, (l.prepare w sql).1 = some (p, count) → p.Suits sql := by
  unfold Link.prepare
  cases hc : Command.ofString? sql with
  | none => exact ⟨.refl l, nofun⟩
  | some e =>
    obtain ⟨c, count⟩ := e
    have suits (s : Schema) : (c.plan s).Suits sql := ⟨⟨count, hc⟩, s, rfl⟩
    dsimp only
    split
    · split
      · next s _ =>
        refine ⟨see l s, fun p n planned => ?_⟩
        dsimp only at planned
        split at planned
        · cases planned
          exact suits s
        · nomatch planned
      · exact ⟨.refl l, nofun⟩
    · refine ⟨.refl l, fun p n planned => ?_⟩
      cases planned
      exact suits []

theorem adopt {x : Option (Plan × Nat) × Link} (h : Still l x.2)
    (planned : ∀ p count, x.1 = some (p, count) → p.Suits text) (titles : Plan → List String) :
    Still l (Link.adopt text titles x).2 ∧
      ∀ p ts, (Link.adopt text titles x).1 = some (p, ts) → p.Suits text ∧ ts = titles p := by
  obtain ⟨_ | ⟨p, count⟩, m⟩ := x
  · exact ⟨h, nofun⟩
  · have suits : p.Suits text := planned p count rfl
    refine ⟨h.trans (.remember m suits), fun q ts same => ?_⟩
    cases same
    exact ⟨suits, rfl⟩

end Still

/-- The plan for a text is one of it, and has the titles that it had for some tables. -/
theorem planFor_spec (h : l.Tidy) (w : Surroundings) (text : String) :
    Still l (l.planFor w text).2 ∧
      ∀ p titles, (l.planFor w text).1 = some (p, titles) →
        p.Suits text ∧ ∃ s, titles = p.command.titles s := by
  rw [planFor_eq]
  split
  · next p found =>
    have suits : p.Suits text := h.plans _ (Cache.mem_of_peek? found)
    have kept := Still.remember l suits
    split
    · obtain ⟨still, planned⟩ := Still.prepare (l.remember text p) w text
      obtain ⟨after, adopted⟩ := (kept.trans still).adopt planned fun _ => p.titles
      refine ⟨after, fun q titles same => ?_⟩
      obtain ⟨new, rfl⟩ := adopted q titles same
      obtain ⟨⟨n, hp⟩, s, ht⟩ := suits
      obtain ⟨m, hq⟩ := new.command
      have commands : p.command = q.command :=
        congrArg Prod.fst (Option.some.inj (hp.symm.trans hq))
      exact ⟨new, s, commands ▸ ht⟩
    · refine ⟨kept, fun q titles same => ?_⟩
      cases same
      exact ⟨suits, suits.titles⟩
  · obtain ⟨still, planned⟩ := Still.prepare l w text
    obtain ⟨after, adopted⟩ := still.adopt planned Plan.titles
    refine ⟨after, fun q titles same => ?_⟩
    obtain ⟨new, rfl⟩ := adopted q titles same
    exact ⟨new, new.titles⟩

/-- Why an execution has not begun: there is no plan, or none any more. -/
def unbegun : List String :=
  ["the statement cannot be prepared", "the tables have changed"]

/-- What may come of running a command on the tables `db`, when the number of rows that was
remembered is `n`. -/
inductive Outcome (w : Surroundings) (db : Database) (n : Nat) (ps : List Value) (c : Command) :
    Ran → Prop
  | done {list : List (List Value)} {l : Link} {d : Snapshot} {k : Nat} (tidy : l.Tidy)
      (named : d.content.Named) (rows : c.Modifies db ps (l.content (w.commits d)) k)
      (remembered : l.changes = if c.counts then k else n) : Outcome w db n ps c (.ok list, l, d)
  | failed {reason : String} {l : Link} {d : Snapshot} (tidy : l.Tidy)
      (named : d.content.Named)
      (remembered : l.changes = if c.counts ∧ reason ∉ unbegun then 0 else n) :
      Outcome w db n ps c (.error reason, l, d)

namespace Tidy

theorem congr (h : l.Tidy) (plans : m.plans = l.plans) (transaction : m.transaction = l.transaction) :
    m.Tidy := by
  obtain ⟨hp, ht⟩ := h
  exact ⟨plans ▸ hp, transaction ▸ ht⟩

theorem withTransaction (h : l.Tidy) (ht : t.Tidy) : Tidy { l with transaction := some t } :=
  ⟨h.plans, fun _ hu => Option.some.inj hu ▸ ht⟩

theorem without (h : l.Tidy) : Tidy { l with transaction := none } :=
  ⟨h.plans, nofun⟩

theorem keep (h : l.Tidy) (ht : t.Tidy) : (l.keep t).Tidy := by
  unfold Link.keep
  split
  · exact h.withTransaction ht
  · exact h

theorem undo (h : l.Tidy) (t : Transaction) : (l.undo t).Tidy := by
  unfold Link.undo
  dsimp only
  split
  · exact ((Still.expire _).tidy h.without).congr rfl rfl
  · exact h.without

theorem own (h : l.Tidy) : (l.transaction.getD {}).Tidy := by
  cases own : l.transaction with
  | none => exact .fresh
  | some t => exact h.transaction t own

end Tidy

theorem changes_undo (t : Transaction) : (l.undo t).changes = l.changes := by
  unfold undo
  dsimp only
  split <;> rfl

theorem changes_keep (t : Transaction) : (l.keep t).changes = l.changes := by
  unfold keep
  split <;> rfl

theorem isSome_keep (t : Transaction) :
    (l.keep t).transaction.isSome = l.transaction.isSome := by
  unfold keep
  split
  · next within => exact within.symm
  · rfl

namespace Outcome

variable {c : Command} {ps : List Value} {r : Result} {db : Database} {n : Nat} {v d : Snapshot}

theorem fail (h : l.Tidy) (named : w.committed.content.Named) (c : Command) {reason : String}
    (begun : reason ∉ unbegun) :
    Outcome w db l.changes ps c (l.fail w c reason) := by
  refine .failed (h.congr rfl rfl) named ?_
  show (if c.counts then 0 else l.changes) = _
  simp only [begun, not_false_eq_true, and_true]

/-- A command that does not count rows gives back what it has. -/
theorem answer (h : l.Tidy) (named : d.content.Named) (counts : c.counts = false)
    (rows : c.Modifies db ps (l.content (w.commits d)) 0) (list : List (List Value)) :
    Outcome w db l.changes ps c (.ok list, l, d) := by
  refine .done h named rows ?_
  rw [counts]
  rfl

/-- A command that does not count rows is refused. -/
theorem refuse (h : l.Tidy) (named : d.content.Named) (counts : c.counts = false)
    (reason : String) : Outcome w db l.changes ps c (.error reason, l, d) := by
  refine .failed h named ?_
  rw [counts]
  exact (if_neg fun h => nomatch h.1).symm

theorem conclude (h : l.Tidy) (named : d.content.Named) (counts : c.Counts db ps r)
    (content : l.content (w.commits d) = r.content) :
    Outcome w db l.changes ps c (l.conclude r d) := by
  have remembered : r.changed.getD l.changes =
      if c.counts then r.changed.getD 0 else l.changes := by
    have counted := counts.counted
    cases hr : r.changed with
    | none =>
      rw [hr] at counted
      rw [← counted]
      rfl
    | some k =>
      rw [hr] at counted
      rw [← counted]
      rfl
  exact .done (h.congr rfl rfl) named (content ▸ counts.rows) remembered

/-- What the last command of a transaction comes to, or of one for itself. In the latter case the
transaction has seen what is committed. -/
theorem finish (h : l.Tidy) (named : w.committed.content.Named) (counts : c.Counts db ps r)
    (view : t.view = some v) (content : v.content = r.content) (tidy : t.Tidy)
    (alone : l.transaction = none →
      v.version = w.committed.version ∧ t.wrote = r.wrote ∧ w.committed.content = db) :
    Outcome w db l.changes ps c (l.finish w c t r) := by
  rw [finish_eq]
  by_cases within : l.transaction.isSome = true
  · rw [if_pos within]
    have kept : l.keep t = { l with transaction := some t } := if_pos within
    have sees : (l.keep t).content (w.commits w.committed) = r.content := by
      rw [kept]
      unfold Link.content Transaction.content
      rw [Option.getD_some, view]
      exact content
    rw [← changes_keep t (l := l)]
    exact conclude (h.keep tidy) named counts sees
  · rw [if_neg within]
    have none : l.transaction = none := by simpa using within
    obtain ⟨version, wrote, before⟩ := alone none
    split
    · next d committed =>
      have sees : l.content (w.commits d) = (w.commits d).committed.content := by
        unfold Link.content
        rw [none]
        rfl
      refine conclude h (tidy.commit? named committed) counts (sees.trans ?_)
      unfold Transaction.commit? at committed
      split at committed
      · nomatch committed
      · rw [view] at committed
        dsimp only at committed
        split at committed
        · cases committed
          have new : v.version + 1 ≠ w.committed.version := by omega
          unfold Surroundings.commits
          rw [if_neg new]
          exact content
        · next unwritten =>
          cases committed
          rw [Surroundings.commits_self, before, counts.unwritten]
          rw [← wrote]
          exact eq_false_of_ne_true unwritten
    · rw [← changes_undo t (l := l)]
      exact fail (h.undo t) named c (by decide)

/-- What a command comes to once everything is ready for it. -/
theorem carryOut (h : l.Tidy) (named : w.committed.content.Named) (a : Access)
    (view : t.view = some v) (content : v.content = db) (tidy : t.Tidy)
    (alone : l.transaction = none → v = w.committed ∧ t.wrote = false) :
    Outcome w db l.changes ps c (l.carryOut w c a t (c.runOn db ps)) := by
  have after : (c.runOn db ps).content.Named :=
    (Command.leaves_runOn (content ▸ tidy v view) ps c).named
  have recorded : (t.record (c.runOn db ps) c.alters).view =
      some { v with content := (c.runOn db ps).content } := by
    unfold Transaction.record
    rw [view]
    rfl
  have seen : (t.record (c.runOn db ps) c.alters).Tidy := by
    intro u hu
    rw [recorded] at hu
    cases hu
    exact after
  let k : Link := { l with hasRead := l.hasRead || !(c.runOn db ps).content.isEmpty }
  have read : k.Tidy := h.congr rfl rfl
  unfold Link.carryOut
  split
  · exact fail h named c (by decide)
  · dsimp only
    split
    · next succeeded =>
      have counts := Command.counts_runOn (content ▸ tidy v view) succeeded
      refine finish (l := k) read named counts recorded rfl seen (fun none => ?_)
      obtain ⟨same, unwritten⟩ := alone none
      have version : v.version = w.committed.version := congrArg Snapshot.version same
      refine ⟨version, ?_, same ▸ content⟩
      show (t.wrote || _) = _
      rw [unwritten, Bool.false_or]
    · have count : (k.keep (t.record (c.runOn db ps) c.alters)).changes = l.changes :=
        changes_keep _
      have failed : Outcome w db _ ps c (Link.fail (k.keep _) w c "the command failed") :=
        fail (read.keep seen) named c (by decide)
      rw [count] at failed
      exact failed

/-- What a command comes to that fits the tables. -/
theorem proceed (h : l.Tidy) (named : w.committed.content.Named) (ps : List Value)
    (command : ∃ count, Command.ofString? text = some (c, count))
    (onTables : ∀ s, c.access s ≠ .none) :
    Outcome w (l.content w) l.changes ps c (l.proceed w ps text c (l.content w)) := by
  unfold Link.proceed
  split
  · exact fail h named c (by decide)
  · next t acquired =>
    obtain ⟨ready, sees⟩ := Transaction.Readied.acquire? acquired
    obtain ⟨v, view⟩ := Option.isSome_iff_exists.1 (sees (onTables _))
    have tidy := ready.tidy h.own named
    have content : v.content = l.content w := by
      have same := ready.content
      unfold Transaction.content at same
      rw [view] at same
      exact same
    have suits : (c.plan (l.content w).schema).Suits text := ⟨command, _, rfl⟩
    have kept := Still.remember l suits
    have alone (none : ((l.remember text (c.plan (l.content w).schema)).keep t).transaction = none) :
        v = w.committed ∧ t.wrote = false := by
      have none : l.transaction = Option.none := by
        have isSome := isSome_keep (l := l.remember text (c.plan (l.content w).schema)) t
        rw [none, kept.transaction] at isSome
        exact Option.not_isSome_iff_eq_none.1 (by rw [← isSome]; exact Bool.false_ne_true)
      rw [none] at ready
      refine ⟨?_, ready.wrote⟩
      rcases ready.view with same | ⟨-, looked⟩
      · rw [view] at same
        nomatch same
      · rw [view] at looked
        exact Option.some.inj looked
    rw [← kept.changes, ← changes_keep t (l := l.remember text _)]
    exact carryOut ((kept.tidy h).keep tidy) named _ view content tidy alone

/-- What a command on tables comes to. -/
theorem runOnTables (h : l.Tidy) (named : w.committed.content.Named) (suits : p.Suits text)
    (onTables : ∀ s, p.command.access s ≠ .none) :
    Outcome w (l.content w) l.changes ps p.command (l.runOnTables w ps text p) := by
  rw [runOnTables_eq]
  split
  · exact fail h named p.command (by decide)
  · next t acquired =>
    obtain ⟨ready, -⟩ := Transaction.Readied.acquire? acquired
    have same : t.content w = l.content w := ready.content
    dsimp only
    generalize (t.content w).schema = s
    have saw := Still.see l s
    have kept : ((l.see s).keep t).Tidy := (saw.tidy h).keep (ready.tidy h.own named)
    have count : ((l.see s).keep t).changes = l.changes := (changes_keep t).trans saw.changes
    have content : ((l.see s).keep t).content w = l.content w :=
      (content_keep (same.trans (saw.content w).symm)).trans (saw.content w)
    split
    · have expired : { p with isExpired := true }.Suits text := ⟨suits.command, suits.titles⟩
      have remembered := Still.remember ((l.see s).keep t) expired
      refine .failed (remembered.tidy kept) named (remembered.changes.trans (count.trans ?_))
      exact (if_neg fun h => h.2 (by decide)).symm
    · have done := proceed kept named ps suits.command onTables
      rw [count, content] at done
      rw [same]
      exact done

/-- What the plan of a command comes to. -/
theorem run (h : l.Tidy) (named : w.committed.content.Named) (suits : p.Suits text) :
    Outcome w (l.content w) l.changes ps p.command (l.run w ps text p) := by
  have stays : l.content (w.commits w.committed) = l.content w := by
    rw [Surroundings.commits_self]
  cases hc : p.command with
  | empty =>
    simp only [Link.run, hc]
    exact refuse h named rfl _
  | compute items =>
    simp only [Link.run, hc]
    split
    · exact answer h named rfl (stays ▸ .kept rfl) _
    · exact refuse h named rfl _
  | pragma question =>
    simp only [Link.run, hc]
    exact answer h named rfl (stays ▸ .kept rfl) _
  | begin claim =>
    cases own : l.transaction with
    | none =>
      have ready := Transaction.Readied.secure w {} claim
      simp only [Link.run, hc, own]
      cases answered : Transaction.secure {} w claim with
      | mk isSecured t =>
        rw [answered] at ready
        cases isSecured with
        | true =>
          have same : Link.content { l with transaction := some t } (w.commits w.committed) =
              l.content w := by
            rw [Surroundings.commits_self]
            refine Eq.trans ready.content ?_
            unfold Link.content
            rw [own]
            rfl
          have tidy := ready.tidy .fresh named
          exact answer (h.withTransaction tidy) named rfl (same ▸ .kept rfl) _
        | false => exact refuse h named rfl _
    | some t =>
      have ready := Transaction.Readied.secure w t claim
      simp only [Link.run, hc, own]
      exact refuse (h.withTransaction (ready.tidy (h.transaction t own) named)) named rfl _
  | commit =>
    cases own : l.transaction with
    | none =>
      simp only [Link.run, hc, own]
      exact refuse h named rfl _
    | some t =>
      have tidy := h.transaction t own
      simp only [Link.run, hc, own]
      split
      · next d committed =>
        exact answer h.without (tidy.commit? named committed) rfl (.ended rfl _) _
      · have closing : Transaction.Tidy { t with isClosing := true } := tidy
        exact refuse (h.withTransaction closing) named rfl _
  | rollback =>
    cases own : l.transaction with
    | none =>
      simp only [Link.run, hc, own]
      exact refuse h named rfl _
    | some t =>
      simp only [Link.run, hc, own]
      rw [← changes_undo t (l := l)]
      exact answer (h.undo t) named rfl (.ended rfl _) _
  | createTable | dropTable =>
    have onTables (s : Schema) : p.command.access s ≠ .none := by
      simp only [hc, Command.access]
      split <;> decide
    simp only [Link.run, hc]
    exact hc ▸ runOnTables h named suits onTables
  | insert | delete | update | query =>
    have onTables (s : Schema) : p.command.access s ≠ .none := by
      simp [hc, Command.access]
    simp only [Link.run, hc]
    exact hc ▸ runOnTables h named suits onTables

end Outcome

end Link

end Prepared.Sql
