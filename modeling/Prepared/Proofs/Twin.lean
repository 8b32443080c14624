import Prepared.Proofs.Alone

/-! Links that agree up to what was prepared.

Two links that are alone at the same database, and differ only in whether they remember its tables,
run the same text with the same parameters to the same effect, and differ in nothing else
after it. -/
namespace Prepared.Sql

namespace Link

variable {l m : Link} {w : Surroundings} {t : Transaction} {c : Command}

/-- A link without the tables as they were last read. -/
def core (l : Link) : Link :=
  { l with schema := none }

theorem core_see (h : l.Alone w) : (l.see (l.content w).schema).core = l.core := by
  rw [h.see_eq]
  rfl

theorem core_remember (text : String) (p : Plan) :
    (l.remember text p).core = l.core.remember text p := by
  unfold remember
  split <;> rfl

theorem core_keep (t : Transaction) : (l.keep t).core = l.core.keep t := by
  unfold keep
  show _ = if l.transaction.isSome then _ else _
  split <;> rfl

/-- The end of the run of a command on tables. -/
def conclude (l : Link) (r : Result) (d : Snapshot) : Ran :=
  (.ok r.rows, { l with schema := some r.content.schema, changes := r.changed.getD l.changes }, d)

theorem finish_eq (l : Link) (w : Surroundings) (c : Command) (t : Transaction) (r : Result) :
    l.finish w c t r =
      if l.transaction.isSome then (l.keep t).conclude r w.committed
      else
        match t.commit? w with
        | some d => l.conclude r d
        | none => (l.undo t).fail w c "the database is busy" :=
  rfl

/-- The run of a command once everything is ready for it. -/
def carryOut (l : Link) (w : Surroundings) (c : Command) (a : Access) (t : Transaction)
    (r : Result) : Ran :=
  if a = .writes ∧ !l.isWritable then l.fail w c "the database cannot be written"
  else
    let t := t.record r c.alters
    let l := { l with hasRead := l.hasRead || !r.content.isEmpty }
    if r.succeeded then l.finish w c t r
    else (l.keep t).fail w c "the command failed"

/-- The run of a command that fits the tables, once they are read. -/
def proceed (l : Link) (w : Surroundings) (ps : List Value) (text : String) (c : Command)
    (content : Database) : Ran :=
  match (l.transaction.getD {}).acquire? w (c.access content.schema) with
  | none => l.fail w c "the database is busy"
  | some t =>
    ((l.remember text (c.plan content.schema)).keep t).carryOut w c
      (c.access content.schema) t (c.runOn content ps)

theorem runOnTables_eq (l : Link) (w : Surroundings) (ps : List Value) (text : String) (p : Plan) :
    l.runOnTables w ps text p =
      match (l.transaction.getD {}).acquire? w p.access with
      | none => l.fail w p.command "the database is busy"
      | some t =>
        let l := (l.see (t.content w).schema).keep t
        if (p.command.misfit? (t.content w).schema).isSome then
          (.error "the tables have changed", l.remember text { p with isExpired := true },
            w.committed)
        else l.proceed w ps text p.command (t.content w) :=
  rfl

theorem hasRead_remember (text : String) (p : Plan) : (l.remember text p).hasRead = l.hasRead := by
  unfold remember
  split <;> rfl

theorem content_remember (text : String) (p : Plan) :
    (l.remember text p).content w = l.content w := by
  unfold remember
  split <;> rfl

theorem hasRead_keep (t : Transaction) : (l.keep t).hasRead = l.hasRead := by
  unfold keep
  split <;> rfl

/-- A transaction that has got ready for a command sees what was seen before. -/
theorem content_keep (same : t.content w = l.content w) : (l.keep t).content w = l.content w := by
  unfold keep
  split
  · exact same
  · rfl

/-- Two links alone at a database, with the same core. -/
structure Twin (l m : Link) (w : Surroundings) : Prop where
  left : l.Alone w
  right : m.Alone w
  core : l.core = m.core

/-- What comes of two links is the same, up to what they remember of the tables. -/
structure Agree {α : Type} (w : Surroundings) (x y : α × Link × Snapshot) : Prop where
  result : x.1 = y.1
  committed : x.2.2 = y.2.2
  twin : Twin x.2.1 y.2.1 (w.commits x.2.2)

theorem Agree.of_uncommitted {α : Type} {a : α} (h : Twin l m w) :
    Agree w (a, l, w.committed) (a, m, w.committed) := by
  refine ⟨rfl, rfl, ?_⟩
  rw [Surroundings.commits_self]
  exact h

namespace Twin

theorem transaction (h : Twin l m w) : l.transaction = m.transaction :=
  congrArg (fun k => k.transaction) h.core

theorem plans (h : Twin l m w) : l.plans = m.plans :=
  congrArg (fun k => k.plans) h.core

theorem changes (h : Twin l m w) : l.changes = m.changes :=
  congrArg (fun k => k.changes) h.core

theorem pragmas (h : Twin l m w) : l.pragmas = m.pragmas :=
  congrArg (fun k => k.pragmas) h.core

theorem isWritable (h : Twin l m w) : l.isWritable = m.isWritable :=
  congrArg (fun k => k.isWritable) h.core

theorem hasRead (h : Twin l m w) : l.hasRead = m.hasRead :=
  congrArg (fun k => k.hasRead) h.core

theorem content (h : Twin l m w) : l.content w = m.content w := by
  unfold Link.content
  rw [h.transaction]

theorem see (h : Twin l m w) {s : Schema} (hs : s = (l.content w).schema) :
    Twin (l.see s) (m.see s) w := by
  have hm : s = (m.content w).schema := by rw [← h.content, hs]
  have left := core_see h.left
  have right := core_see h.right
  rw [← hs] at left
  rw [← hm] at right
  exact ⟨hs ▸ h.left.see, hm ▸ h.right.see, by rw [left, right, h.core]⟩

theorem remember (h : Twin l m w) (text : String) (p : Plan) :
    Twin (l.remember text p) (m.remember text p) w := by
  refine ⟨h.left.remember text p, h.right.remember text p, ?_⟩
  rw [core_remember, core_remember, h.core]

theorem withChanges (h : Twin l m w) (n : Nat) :
    Twin { l with changes := n } { m with changes := n } w := by
  refine ⟨h.left.congr rfl rfl rfl, h.right.congr rfl rfl rfl, ?_⟩
  exact congrArg (fun k : Link => { k with changes := n }) h.core

theorem withTransaction (h : Twin l m w) (fits : t.Fits w.committed l.hasRead)
    (same : (t.content w).schema = (l.content w).schema) :
    Twin { l with transaction := some t } { m with transaction := some t } w := by
  refine ⟨h.left.withTransaction fits same, h.right.withTransaction (h.hasRead ▸ fits) ?_, ?_⟩
  · rw [same, h.content]
  · exact congrArg (fun k : Link => { k with transaction := some t }) h.core

/-- A transaction of both that asks for more. -/
theorem secured (h : Twin l m w) (own : l.transaction.getD {} = t) (claim : Claim) :
    Twin { l with transaction := some (t.secure w claim).2 }
      { m with transaction := some (t.secure w claim).2 } w := by
  have fits := h.left.fits
  rw [own] at fits
  obtain ⟨fits, same⟩ := fits.secure h.left.named claim
  refine h.withTransaction fits ?_
  unfold Link.content
  rw [same, own]

theorem undo (h : Twin l m w) (own : l.transaction = some t) :
    Twin (l.undo t) (m.undo t) w := by
  have own' : m.transaction = some t := by rw [← h.transaction, own]
  have core (k : Link) : (k.undo t).core = k.core.undo t := by
    unfold Link.undo
    dsimp only
    split <;> rfl
  exact ⟨h.left.undo own, h.right.undo own', by rw [core, core, h.core]⟩

theorem commit (h : Twin l m w) (own : l.transaction = some t) {d : Snapshot}
    (committed : t.commit? w = some d) :
    Twin { l with transaction := none } { m with transaction := none } (w.commits d) := by
  refine ⟨h.left.commit own committed, h.right.commit ?_ committed, ?_⟩
  · rw [← h.transaction, own]
  · exact congrArg (fun k : Link => { k with transaction := none }) h.core

theorem keep (h : Twin l m w) (fits : t.Fits w.committed l.hasRead)
    (same : (t.content w).schema = (l.content w).schema) :
    Twin (l.keep t) (m.keep t) w := by
  refine ⟨h.left.keep fits same, h.right.keep (h.hasRead ▸ fits) ?_, ?_⟩
  · rw [same, h.content]
  · rw [core_keep, core_keep, h.core]

theorem fail (h : Twin l m w) (c : Command) (reason : String) :
    Agree w (l.fail w c reason) (m.fail w c reason) := by
  unfold Link.fail
  rw [h.changes]
  exact .of_uncommitted (h.withChanges _)

/-- The end of the run of a command is the same to both, if both then have up to date what the
command has left. -/
theorem conclude {r : Result} {d : Snapshot} (core : l.core = m.core)
    (left : Alone { l with schema := some r.content.schema } (w.commits d))
    (right : Alone { m with schema := some r.content.schema } (w.commits d)) :
    Agree w (l.conclude r d) (m.conclude r d) := by
  have changes : l.changes = m.changes := congrArg (fun k => k.changes) core
  refine ⟨rfl, rfl, left.congr rfl rfl rfl, right.congr rfl rfl rfl, ?_⟩
  unfold Link.conclude
  rw [changes]
  exact congrArg (fun k : Link => { k with changes := r.changed.getD m.changes }) core

/-- The last command of a transaction, or of one for itself, is the same to both. What the
transaction sees then is what the command has left. -/
theorem finish (h : Twin l m w) (fits : t.Fits w.committed l.hasRead) {r : Result}
    (content : t.content w = r.content) (read : r.content.schema ≠ [] → l.hasRead = true) :
    Agree w (l.finish w c t r) (m.finish w c t r) := by
  rw [finish_eq, finish_eq]
  by_cases within : l.transaction.isSome = true
  -- the transaction goes on
  · have kept {k : Link} (inside : k.transaction.isSome = true) (hk : k.Alone w)
        (hasRead : l.hasRead = k.hasRead) :
        Alone { k.keep t with schema := some r.content.schema } (w.commits w.committed) := by
      have same : k.keep t = { k with transaction := some t } := if_pos inside
      have seen : ({ k with transaction := some t } : Link).content w = r.content := content
      rw [same, Surroundings.commits_self]
      refine ⟨hk.others, hk.named, hasRead ▸ fits, fun s hs => ?_, fun some => ?_⟩
      · rw [← Option.some.inj hs, ← content]
        rfl
      · exact hasRead ▸ read (seen ▸ some)
    have within' : m.transaction.isSome = true := by rw [← h.transaction, within]
    rw [if_pos within, if_pos within']
    refine conclude ?_ (kept within h.left rfl) (kept within' h.right h.hasRead)
    rw [core_keep, core_keep, h.core]
  · have none : l.transaction = none := by simpa using within
    have none' : m.transaction = Option.none := by rw [← h.transaction, none]
    obtain ⟨d, committed⟩ := Option.isSome_iff_exists.1 (Transaction.commit?_alone h.left.others t)
    obtain ⟨named, schema⟩ := fits.commit? h.left.named committed
    have settled {k : Link} (none : k.transaction = Option.none) (hk : k.Alone w)
        (hasRead : l.hasRead = k.hasRead) :
        Alone { k with schema := some r.content.schema } (w.commits d) := by
      have own : ({ k with schema := some r.content.schema } : Link).transaction.getD {} = {} := by
        simp [none]
      have seen : (({ k with schema := some r.content.schema } : Link).content
          (w.commits d)).schema = r.content.schema := by
        unfold Link.content
        rw [own, ← content]
        exact schema
      refine ⟨hk.others, named, ?_, fun s hs => ?_, fun some => ?_⟩
      · rw [own]
        exact .default ..
      · rw [← Option.some.inj hs, seen]
      · exact hasRead ▸ read (seen ▸ some)
    simp only [none, none', committed]
    exact conclude h.core (settled none h.left rfl) (settled none' h.right h.hasRead)

/-- Both have read what a command has left. -/
theorem read (h : Twin l m w) (more : Bool) :
    Twin { l with hasRead := l.hasRead || more } { m with hasRead := m.hasRead || more } w := by
  have alone {k : Link} (hk : k.Alone w) : Alone { k with hasRead := k.hasRead || more } w :=
    ⟨hk.others, hk.named, hk.fits.read more, hk.seen,
      fun some => Bool.or_eq_true_iff.2 (.inl (hk.read some))⟩
  refine ⟨alone h.left, alone h.right, ?_⟩
  exact congrArg (fun k : Link => { k with hasRead := k.hasRead || more }) h.core

/-- A command comes to the same for both once everything is ready for it. -/
theorem carryOut (h : Twin l m w) (c : Command) (x : Access) (ps : List Value)
    (fits : t.Fits w.committed l.hasRead) (same : t.content w = l.content w)
    (view : t.view.isSome) :
    Agree w (l.carryOut w c x t (c.runOn (l.content w) ps))
      (m.carryOut w c x t (c.runOn (l.content w) ps)) := by
  have leaves : Command.Leaves (l.content w) c (c.runOn (l.content w) ps) :=
    Command.leaves_runOn (h.left.fits.content_named h.left.named) ps c
  have known : l.content w ≠ [] → l.hasRead = true := fun some =>
    h.left.read fun none => some (List.map_eq_nil_iff.1 none)
  have recorded := fits.record c ps h.left.named (same ▸ known)
  rw [same] at recorded
  generalize c.runOn (l.content w) ps = r at leaves recorded ⊢
  have content : (t.record r c.alters).content w = r.content := by
    obtain ⟨v, hv⟩ := Option.isSome_iff_exists.1 view
    simp [Transaction.content, Transaction.record, hv]
  have read := h.read !r.content.isEmpty
  unfold Link.carryOut
  by_cases refused : x = .writes ∧ (!l.isWritable) = true
  · have refused' : x = .writes ∧ (!m.isWritable) = true := by
      rw [← h.isWritable]
      exact refused
    rw [if_pos refused, if_pos refused']
    exact h.fail c _
  · have allowed : ¬ (x = .writes ∧ (!m.isWritable) = true) := by
      rw [← h.isWritable]
      exact refused
    rw [if_neg refused, if_neg allowed]
    dsimp only
    split
    · refine read.finish recorded content fun some => Bool.or_eq_true_iff.2 (.inr ?_)
      simpa using fun none => some (List.map_eq_nil_iff.2 none)
    · next failed =>
      refine (read.keep recorded ?_).fail c _
      rw [content]
      exact leaves.schema (leaves.failed (eq_false_of_ne_true failed))

/-- A command that fits the tables comes to the same for both, once the tables are read. -/
theorem proceed (h : Twin l m w) (ps : List Value) (text : String)
    (onTables : ∀ s, c.access s ≠ .none) :
    Agree w (l.proceed w ps text c (l.content w)) (m.proceed w ps text c (l.content w)) := by
  unfold Link.proceed
  rw [← h.transaction]
  generalize hp : c.plan (l.content w).schema = p
  cases acquired : (l.transaction.getD {}).acquire? w (c.access (l.content w).schema) with
  | none => exact h.fail c _
  | some t =>
    obtain ⟨fits, same, view⟩ := h.left.fits.acquire? h.left.named acquired
    have hasRead : ((l.remember text p).keep t).hasRead = l.hasRead := by
      rw [hasRead_keep, hasRead_remember]
    have content : ((l.remember text p).keep t).content w = l.content w :=
      (content_keep (same.trans (content_remember text p).symm)).trans (content_remember text p)
    have kept : Twin ((l.remember text p).keep t) ((m.remember text p).keep t) w := by
      refine (h.remember text p).keep ?_ ?_
      · rw [hasRead_remember]
        exact fits
      · rw [content_remember]
        exact congrArg Database.schema same
    have done := kept.carryOut (t := t) c (c.access (l.content w).schema) ps
    rw [content, hasRead] at done
    exact done fits same (view (onTables _))

/-- A command on tables comes to the same for both. -/
theorem runOnTables (h : Twin l m w) (ps : List Value) (text : String) (p : Plan)
    (onTables : ∀ s, p.command.access s ≠ .none) :
    Agree w (l.runOnTables w ps text p) (m.runOnTables w ps text p) := by
  rw [runOnTables_eq, runOnTables_eq, ← h.transaction]
  cases acquired : (l.transaction.getD {}).acquire? w p.access with
  | none => exact h.fail p.command _
  | some t =>
    obtain ⟨fits, same, -⟩ := h.left.fits.acquire? h.left.named acquired
    dsimp only
    rw [same]
    have saw := h.see rfl
    have hasRead : (l.see (l.content w).schema).hasRead = l.hasRead := by rw [h.left.see_eq]
    have seen : (l.see (l.content w).schema).content w = l.content w := by rw [h.left.see_eq]; rfl
    have content : ((l.see (l.content w).schema).keep t).content w = l.content w :=
      (content_keep (same.trans seen.symm)).trans seen
    have kept : Twin ((l.see (l.content w).schema).keep t)
        ((m.see (l.content w).schema).keep t) w := by
      refine saw.keep ?_ ?_
      · rw [hasRead]
        exact fits
      · exact congrArg Database.schema (same.trans seen.symm)
    split
    · exact .of_uncommitted (kept.remember text _)
    · have done := kept.proceed ps text onTables
      rw [content] at done
      exact done

/-- The plan of a command comes to the same for both. -/
theorem run (h : Twin l m w) (ps : List Value) (text : String) (p : Plan) :
    Agree w (l.run w ps text p) (m.run w ps text p) := by
  cases hc : p.command with
  | empty =>
    simp only [Link.run, hc]
    exact .of_uncommitted h
  | compute items =>
    simp only [Link.run, hc]
    split <;> exact .of_uncommitted h
  | pragma question =>
    simp only [Link.run, hc]
    rw [h.pragmas]
    exact .of_uncommitted h
  | begin claim =>
    simp only [Link.run, hc, ← h.transaction]
    cases own : l.transaction with
    | none =>
      have secured := h.secured (t := {}) (by rw [own]; rfl) claim
      dsimp only
      cases answer : Transaction.secure {} w claim with
      | mk isSecured t =>
        rw [answer] at secured
        cases isSecured with
        | true => exact .of_uncommitted secured
        | false => exact .of_uncommitted h
    | some t => exact .of_uncommitted (h.secured (by rw [own]; rfl) claim)
  | commit =>
    simp only [Link.run, hc, ← h.transaction]
    cases own : l.transaction with
    | none => exact .of_uncommitted h
    | some t =>
      obtain ⟨d, committed⟩ :=
        Option.isSome_iff_exists.1 (Transaction.commit?_alone h.left.others t)
      simp only [committed]
      exact ⟨rfl, rfl, h.commit own committed⟩
  | rollback =>
    simp only [Link.run, hc, ← h.transaction]
    cases own : l.transaction with
    | none => exact .of_uncommitted h
    | some t => exact .of_uncommitted (h.undo own)
  | createTable | dropTable =>
    have onTables (s : Schema) : p.command.access s ≠ .none := by
      simp only [hc, Command.access]
      split <;> decide
    simp only [Link.run, hc]
    exact h.runOnTables ps text p onTables
  | insert | delete | update | query =>
    have onTables (s : Schema) : p.command.access s ≠ .none := by
      rw [hc]
      nofun
    simp only [Link.run, hc]
    exact h.runOnTables ps text p onTables

/-- Both prepare the same plan, or none. -/
theorem prepare (h : Twin l m w) (sql : String) :
    (l.prepare w sql).1 = (m.prepare w sql).1 ∧
      Twin (l.prepare w sql).2 (m.prepare w sql).2 w := by
  rw [prepare_alone h.left, prepare_alone h.right, ← h.content]
  cases Command.ofString? sql with
  | none => exact ⟨rfl, h⟩
  | some e =>
    dsimp only
    split
    · exact ⟨rfl, h.see rfl⟩
    · exact ⟨rfl, h⟩

/-- The same plan, or none, was prepared for both, and is remembered. -/
theorem adopt {x y : Option (Plan × Nat) × Link} (same : x.1 = y.1) (twin : Twin x.2 y.2 w)
    (text : String) (titles : Plan → List String) :
    (Link.adopt text titles x).1 = (Link.adopt text titles y).1 ∧
      Twin (Link.adopt text titles x).2 (Link.adopt text titles y).2 w := by
  obtain ⟨found, l⟩ := x
  obtain ⟨_, m⟩ := y
  cases same
  cases found with
  | none => exact ⟨rfl, twin⟩
  | some p => exact ⟨rfl, twin.remember text p.1⟩

/-- Both find the same plan for a text, or none. -/
theorem planFor (h : Twin l m w) (text : String) :
    (l.planFor w text).1 = (m.planFor w text).1 ∧
      Twin (l.planFor w text).2 (m.planFor w text).2 w := by
  rw [planFor_eq, planFor_eq, ← h.plans]
  cases l.plans.peek? text with
  | none =>
    obtain ⟨same, twin⟩ := h.prepare text
    exact adopt same twin text _
  | some p =>
    have kept := h.remember text p
    dsimp only
    split
    · obtain ⟨same, twin⟩ := kept.prepare text
      exact adopt same twin text _
    · exact ⟨rfl, kept⟩

end Twin

/-- A link that has prepared a text is the same up to what it remembers of the tables. -/
theorem twin_prepare (h : Twin l m w) (sql : String) : Twin l (m.prepare w sql).2 w := by
  rw [prepare_alone h.right]
  cases Command.ofString? sql with
  | none => exact h
  | some e =>
    dsimp only
    split
    · exact ⟨h.left, h.right.see, h.core.trans (core_see h.right).symm⟩
    · exact h

end Link

end Prepared.Sql
