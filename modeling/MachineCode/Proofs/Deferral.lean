import MachineCode.Proofs.Acceptance
import MachineCode.Proofs.Schedules

/-!
Deferred resolution. A program that uses local labels is turned into one that uses dynamic labels
in their place: a label is set aside for every binding of a local label, it is bound when that
binding takes place, and references to it are put off until the commit.
-/
namespace MachineCode

/-- The bindings of local labels that a program may come to: the name with the number of the
binding, counted from one. Their places in the list are the numbers of their dynamic labels. -/
abbrev Slots := List (String × Nat)

namespace Operation

def boundLocal? : Operation → Option String
  | localLabel name => some name
  | _ => none

def isNewDynamic : Operation → Bool
  | newDynamic => true
  | _ => false

end Operation

namespace Slots

def ofNames (seen : List String) : List String → Slots
  | [] => []
  | name :: rest => (name, seen.count name + 1) :: ofNames (name :: seen) rest

theorem mem_ofNames {seen names : List String} {name : String} {n : Nat} :
    (name, n) ∈ ofNames seen names ↔
      seen.count name < n ∧ n ≤ seen.count name + names.count name := by
  induction names generalizing seen with
  | nil =>
    simp only [ofNames, List.not_mem_nil, List.count_nil, false_iff]
    omega
  | cons x names ih =>
    simp only [ofNames, List.mem_cons, Prod.mk.injEq, ih, List.count_cons]
    by_cases hx : name = x
    · subst hx
      simp only [true_and, beq_self_eq_true, if_true]
      omega
    · simp only [hx, false_and, beq_false_of_ne (Ne.symm hx), Bool.false_eq_true, if_false,
        false_or]
      omega

def ofOperations (ops : List Operation) : Slots := ofNames [] (ops.filterMap (·.boundLocal?))

variable (slots : Slots)

/-- The dynamic label for a binding. A binding that is not foreseen gets one that is never
bound. -/
def fresh (name : String) (n : Nat) : UInt32 := UInt32.ofNat (slots.idxOf (name, n))

/-- The dynamic labels of the program come after those that are set aside. A number that is too
large to be moved up becomes the last one. -/
def shifted (id : UInt32) : UInt32 :=
  UInt32.ofNat (min (id.toNat + (slots.length + 1)) (UInt32.size - 1))

def target (h : History) : Target → Target
  | .forward name => .dynamic (slots.fresh name ((h.bindings (.local name)).length + 1))
  | .backward name => .dynamic (slots.fresh name (h.bindings (.local name)).length)
  | .dynamic id => .dynamic (slots.shifted id)
  | t => t

def use (h : History) (u : Use) : Use := { u with target := slots.target h u.target }

def code (h : History) (c : Code) : Code := { c with refs := c.refs.map (slots.use h) }

def operation (h : History) : Operation → List Operation
  | .append c => [.append (slots.code h c)]
  | .relocate u => [.relocate (slots.use h u)]
  | .emit instruction => [.emit (instruction.map (slots.code h))]
  | .dynamicLabel id => [.dynamicLabel (slots.shifted id)]
  | .localLabel name =>
    [.localLabel name,
      .dynamicLabel (slots.fresh name ((h.bindings (.local name)).length + 1))]
  | op => [op]

/-- A local label that could not be bound is not there for its references. -/
def step (s : Session) (op : Operation) : List Operation :=
  match op, s.assembler.perform op with
  | .localLabel name, .error _ => [.localLabel name]
  | _, _ => slots.operation s.history op

def operations (s : Session) : List Operation → List Operation
  | [] => []
  | op :: rest => slots.step s op ++ operations (s.step op) rest

def program (s : Session) (ops : List Operation) : List Operation :=
  List.replicate (slots.length + 1) .newDynamic ++ slots.operations s ops

def deferred (before : History) (r : Reference) : Reference :=
  { r with target := slots.target before r.target }

end Slots

theorem Slots.reference?_use (slots : Slots) (h : History) (anchor : Nat) (u : Use) :
    Operation.reference? anchor (slots.use h u) =
      (Operation.reference? anchor u).map (slots.deferred h) := by
  unfold Operation.reference? use
  cases u.rel <;> rfl

theorem Slots.references_code (slots : Slots) (h : History) (anchor : Nat) (c : Code) :
    (slots.code h c).refs.filterMap (Operation.reference? anchor) =
      (c.refs.filterMap (Operation.reference? anchor)).map (slots.deferred h) := by
  rw [code, List.filterMap_map, List.map_filterMap]
  exact congrArg (List.filterMap · c.refs) (funext (slots.reference?_use h anchor))

/-- Two histories of which the second records the same references with their targets replaced.
Bindings are no concern here. -/
inductive Paired (slots : Slots) : History → History → Prop where
  | start : Paired slots [] []
  | appended {h h'} (data : Bytes) : Paired slots h h' →
      Paired slots (h ++ [Happening.appended data]) (h' ++ [Happening.appended data])
  | recorded {h h'} (r : Reference) : Paired slots h h' →
      Paired slots (h ++ [Happening.recorded r]) (h' ++ [Happening.recorded (slots.deferred h r)])
  | committed {h h'} : Paired slots h h' →
      Paired slots (h ++ [Happening.committed]) (h' ++ [Happening.committed])
  | bound {h h'} (l : Label) (offset : Nat) : Paired slots h h' →
      Paired slots (h ++ [Happening.bound l offset]) h'
  | bound' {h h'} (l : Label) (offset : Nat) : Paired slots h h' →
      Paired slots h (h' ++ [Happening.bound l offset])

section references

variable {slots : Slots} {h h' before after before' after' : History} {r r' : Reference}

/-- No target is a local one any more, and the others stay of their kind. -/
theorem Slots.target_cases (slots : Slots) (h : History) (t : Target) :
    (slots.target h t).isExternal = t.isExternal ∧ (slots.target h t).isValid = t.isValid ∧
      (∀ name, slots.target h t ≠ .forward name) ∧ ∀ name, slots.target h t ≠ .backward name := by
  cases t <;> simp [target, Target.isExternal, Target.isValid]

/-- The value does not depend on the kind of label that a reference is to. -/
theorem Slots.value_deferred (slots : Slots) (h : History) (r : Reference) (bound : Option Nat)
    (base : UInt64) : ({ slots.deferred h r with bound } : Reference).value base =
      ({ r with bound } : Reference).value base := by
  have hdest : ({ slots.deferred h r with bound } : Reference).destination base =
      ({ r with bound } : Reference).destination base := by
    unfold deferred Reference.destination
    cases r.target <;> rfl
  unfold Reference.value
  rw [hdest]
  rfl

theorem Reference.Misfits.deferred {offset : Nat} (hr : r.Misfits offset) :
    (slots.deferred h r).Misfits offset := by
  intro base
  rw [slots.value_deferred]
  exact hr base

theorem Paired.code_eq (hp : Paired slots h h') : h'.code = h.code := by
  induction hp with
  | start => rfl
  | appended data _ ih | committed _ ih => rw [History.code_append, History.code_append, ih]
  | recorded r _ ih =>
    rw [History.code_append, History.code_append, ih]
    rfl
  | bound l offset _ ih =>
    rw [History.code_append, ih]
    exact (List.append_nil _).symm
  | bound' l offset _ ih =>
    rw [History.code_append, ih]
    exact List.append_nil _

theorem Paired.fields_eq (hp : Paired slots h h') :
    h'.references.map (fun r => (r.field, r.fieldEnd)) =
      h.references.map fun r => (r.field, r.fieldEnd) := by
  induction hp with
  | start => rfl
  | appended data _ ih | committed _ ih =>
    rw [History.references_append, History.references_append, List.map_append, List.map_append, ih]
  | recorded r _ ih =>
    rw [History.references_append, History.references_append, List.map_append, List.map_append, ih]
    rfl
  | bound l offset _ ih =>
    rw [History.references_append, List.map_append, ih]
    exact (List.append_nil _).symm
  | bound' l offset _ ih =>
    rw [History.references_append, List.map_append, ih]
    exact List.append_nil _

theorem Paired.apart (hp : Paired slots h h') (ha : h.references.Pairwise Reference.Apart) :
    h'.references.Pairwise Reference.Apart := by
  let separate (p q : Nat × Nat) : Prop := p.2 ≤ q.1 ∨ q.2 ≤ p.1
  have key (refs : List Reference) : refs.Pairwise Reference.Apart ↔
      (refs.map fun r => (r.field, r.fieldEnd)).Pairwise separate := by
    rw [List.pairwise_map]
    rfl
  rw [key] at ha ⊢
  rw [hp.fields_eq]
  exact ha

/-- Each reference stands in the other history too, committed there if it is committed here. -/
theorem Paired.records (hp : Paired slots h h') (hr : h.Records before r after) :
    ∃ before' after', h'.Records before' (slots.deferred before r) after' ∧
      (.committed ∈ after' ↔ .committed ∈ after) := by
  induction hp generalizing after with
  | start => simp [History.Records] at hr
  | appended data _ ih =>
    obtain ⟨tail, hold, rfl⟩ := hr.of_append rfl
    obtain ⟨before', after', hr', hc⟩ := ih hold
    exact ⟨before', _, hr'.append _, by simp [hc]⟩
  | @recorded h h' s _ ih =>
    rcases History.records_append.mp hr with ⟨tail, hold, rfl⟩ | ⟨mid, hbefore, hnew⟩
    · obtain ⟨before', after', hr', hc⟩ := ih hold
      exact ⟨before', _, hr'.append _, by simp [hc]⟩
    · obtain ⟨rfl, rfl, rfl⟩ : mid = [] ∧ r = s ∧ after = [] := by
        cases mid <;> simp_all [History.Records]
      rw [List.append_nil] at hbefore
      subst hbefore
      exact ⟨h', [], rfl, by simp⟩
  | committed _ ih =>
    obtain ⟨tail, hold, rfl⟩ := hr.of_append rfl
    obtain ⟨before', after', hr', -⟩ := ih hold
    exact ⟨before', _, hr'.append _, by simp⟩
  | bound l offset _ ih =>
    obtain ⟨tail, hold, rfl⟩ := hr.of_append rfl
    obtain ⟨before', after', hr', hc⟩ := ih hold
    exact ⟨before', after', hr', by simp [hc]⟩
  | bound' l offset _ ih =>
    obtain ⟨before', after', hr', hc⟩ := ih hr
    exact ⟨before', _, hr'.append _, by simp [hc]⟩

theorem Paired.records' (hp : Paired slots h h') (hr : h'.Records before' r' after') :
    ∃ before r after, h.Records before r after ∧ r' = slots.deferred before r ∧
      (.committed ∈ after' ↔ .committed ∈ after) := by
  induction hp generalizing after' with
  | start => simp [History.Records] at hr
  | appended data _ ih =>
    obtain ⟨tail, hold, rfl⟩ := hr.of_append rfl
    obtain ⟨before, r, after, hr', he, hc⟩ := ih hold
    exact ⟨before, r, _, hr'.append _, he, by simp [hc]⟩
  | @recorded h h' s _ ih =>
    rcases History.records_append.mp hr with ⟨tail, hold, rfl⟩ | ⟨mid, hbefore, hnew⟩
    · obtain ⟨before, r, after, hr', he, hc⟩ := ih hold
      exact ⟨before, r, _, hr'.append _, he, by simp [hc]⟩
    · obtain ⟨rfl, rfl, rfl⟩ : mid = [] ∧ r' = slots.deferred h s ∧ after' = [] := by
        cases mid <;> simp_all [History.Records]
      exact ⟨h, s, [], rfl, rfl, by simp⟩
  | committed _ ih =>
    obtain ⟨tail, hold, rfl⟩ := hr.of_append rfl
    obtain ⟨before, r, after, hr', he, -⟩ := ih hold
    exact ⟨before, r, _, hr'.append _, he, by simp⟩
  | bound l offset _ ih =>
    obtain ⟨before, r, after, hr', he, hc⟩ := ih hr
    exact ⟨before, r, _, hr'.append _, he, by simp [hc]⟩
  | bound' l offset _ ih =>
    obtain ⟨tail, hold, rfl⟩ := hr.of_append rfl
    obtain ⟨before, r, after, hr', he, hc⟩ := ih hold
    exact ⟨before, r, after, hr', he, by simp [hc]⟩

theorem Slots.deferred_congr (hb : ∀ l, before.bindings l = before'.bindings l) :
    slots.deferred before r = slots.deferred before' r := by
  unfold deferred
  cases r.target <;> simp [target, hb]

theorem Paired.appends (hp : Paired slots h h') (data : Bytes) (refs : List Reference) :
    Paired slots (h ++ Happening.appended data :: refs.map .recorded)
      (h' ++ Happening.appended data :: (refs.map (slots.deferred h)).map .recorded) := by
  have record : ∀ {k k' : History}, Paired slots k k' → (∀ l, k.bindings l = h.bindings l) →
      Paired slots (k ++ refs.map .recorded)
        (k' ++ (refs.map (slots.deferred h)).map .recorded) := by
    induction refs with
    | nil =>
      intro k k' hk _
      simpa using hk
    | cons r refs ih =>
      intro k k' hk hb
      have hnext := ih (hk.recorded r) fun l => by
        rw [History.bindings_append, hb]
        exact List.append_nil _
      rw [Slots.deferred_congr hb] at hnext
      simpa using hnext
  have hall := record (hp.appended data) fun l => by
    rw [History.bindings_append]
    exact List.append_nil _
  simpa using hall

end references

end MachineCode
