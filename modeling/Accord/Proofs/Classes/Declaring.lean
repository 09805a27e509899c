import Accord.Classes.Graph
import Accord.Proofs.Contract.Building
import Accord.Proofs.Named
import Mathlib.Logic.Relation

namespace Accord.ClassGraph

variable {g h : ClassGraph} {decl : ClassDecl} {name other : String} {entry : ClassEntry}

def adding (name : String) (entry : ClassEntry) (g : ClassGraph) : ClassGraph :=
  ⟨g.entries ++ [(name, entry)]⟩

theorem get?_adding (name other : String) (entry : ClassEntry) (g : ClassGraph) :
    (g.adding name entry).get? other =
      (g.get? other).or (if other = name then some entry else none) := by
  rw [get?, adding, List.lookup_append, Named.lookup_cons_ite]
  rfl

theorem contains_eq_isSome (name : String) (g : ClassGraph) :
    g.contains name = (g.get? name).isSome := by
  rw [Bool.eq_iff_iff, contains, Named.has, List.any_eq_true, Option.isSome_iff_exists]
  constructor
  · rintro ⟨⟨k, entry⟩, he, hk⟩
    rw [← beq_iff_eq.mp hk]
    cases hfound : g.get? k with
    | some found => exact ⟨found, rfl⟩
    | none =>
      exact absurd (List.mem_map_of_mem he) (Named.lookup_eq_none_iff_not_mem.mp hfound)
  · rintro ⟨entry, hentry⟩
    exact ⟨(name, entry), Named.mem_of_lookup hentry, beq_self_eq_true name⟩

/-- What a declaration that is accepted has passed, and the class that it makes. -/
structure Declares (g : ClassGraph) (decl : ClassDecl) (entry : ClassEntry) : Prop where
  new : g.get? decl.name = none
  checked : ∀ b ∈ decl.bases, g.checkBase decl b = .ok ()
  params : declaredParams decl = .ok entry.params
  bases : entry.bases = decl.bases
  order : g.linearize? decl = some entry.order

def inconsistent (decl : ClassDecl) : Failure :=
  .misdeclared ("Cannot create a consistent method resolution order (MRO) for bases " ++
    Text.join ", " (decl.bases.map BaseRef.base))

theorem declare_of_checked {params : List String} (new : g.contains decl.name = false)
    (checked : ∀ b ∈ decl.bases, g.checkBase decl b = .ok ())
    (hparams : declaredParams decl = .ok params) :
    g.declare decl = match g.linearize? decl with
      | some order => .ok (g.adding decl.name ⟨params, decl.bases, order⟩)
      | none => .error (inconsistent decl) := by
  unfold declare
  rw [new, if_neg Bool.false_ne_true]
  refine (bind_of_ok (forM_eq_ok_iff.mpr checked) _).trans ?_
  exact bind_of_ok hparams _

theorem declare_eq_ok_iff : g.declare decl = .ok h ↔
    ∃ entry, Declares g decl entry ∧ h = g.adding decl.name entry := by
  constructor
  · intro hok
    cases hnew : g.contains decl.name with
    | true =>
      rw [declare, if_pos hnew] at hok
      cases hok
    | false =>
      have hsteps := hok
      rw [declare, if_neg (Bool.eq_false_iff.mp hnew)] at hsteps
      obtain ⟨⟨⟩, hchecked, hsteps⟩ := ok_of_bind hsteps
      obtain ⟨params, hparams, -⟩ := ok_of_bind hsteps
      have hchecked := forM_eq_ok_iff.mp hchecked
      rw [declare_of_checked hnew hchecked hparams] at hok
      have hnone : g.get? decl.name = none := by
        rwa [contains_eq_isSome, Option.isSome_eq_false_iff, Option.isNone_iff_eq_none] at hnew
      cases horder : g.linearize? decl with
      | none =>
        rw [horder] at hok
        cases hok
      | some order =>
        rw [horder] at hok
        exact ⟨⟨params, decl.bases, order⟩, ⟨hnone, hchecked, hparams, rfl, horder⟩,
          (Except.ok.inj hok).symm⟩
  · rintro ⟨⟨params, bases, order⟩, ⟨hnew, hchecked, hparams, rfl, horder⟩, rfl⟩
    have hcontains : g.contains decl.name = false := by
      rw [contains_eq_isSome, hnew]
      rfl
    rw [declare_of_checked hcontains hchecked hparams, horder]

theorem exists_of_checkBase {b : BaseRef} (hb : g.checkBase decl b = .ok ()) :
    ∃ above, g.get? b.base = some above := by
  unfold checkBase at hb
  split at hb
  · cases hb
  · next above habove => exact ⟨above, habove⟩

/-- Declares a class; a declaration that fails changes nothing. -/
def attempt (g : ClassGraph) (decl : ClassDecl) : ClassGraph :=
  match g.declare decl with
  | .ok h => h
  | .error _ => g

/-- The graph after these declarations, be they accepted or not. -/
def after (history : List ClassDecl) (g : ClassGraph) : ClassGraph := history.foldl attempt g

theorem after_concat (history : List ClassDecl) (decl : ClassDecl) (g : ClassGraph) :
    g.after (history ++ [decl]) = (g.after history).attempt decl :=
  List.foldl_concat ..

theorem after_append (history later : List ClassDecl) (g : ClassGraph) :
    g.after (history ++ later) = (g.after history).after later :=
  List.foldl_append ..

theorem attempt_of_error {failure : Failure} (hfails : g.declare decl = .error failure) :
    g.attempt decl = g := by
  rw [attempt, hfails]

theorem attempt_eq_or (g : ClassGraph) (decl : ClassDecl) :
    g.attempt decl = g ∨ ∃ entry, Declares g decl entry ∧ g.attempt decl = g.adding decl.name entry := by
  cases hdeclare : g.declare decl with
  | error failure => exact .inl (attempt_of_error hdeclare)
  | ok h =>
    obtain ⟨entry, hentry, rfl⟩ := declare_eq_ok_iff.mp hdeclare
    exact .inr ⟨entry, hentry, by rw [attempt, hdeclare]⟩

/-- What holds at first and is kept by every class that is added holds after all declarations. -/
theorem after_induction {P : ClassGraph → Prop} (start : P g)
    (keeps : ∀ (g : ClassGraph) (decl : ClassDecl) (entry : ClassEntry),
      P g → Declares g decl entry → P (g.adding decl.name entry))
    (history : List ClassDecl) : P (g.after history) := by
  induction history using List.reverseRecOn with
  | nil => exact start
  | append_singleton history decl ih =>
    rw [after_concat]
    rcases attempt_eq_or (g.after history) decl with hsame | ⟨entry, hdeclares, hadded⟩
    · rw [hsame]
      exact ih
    · rw [hadded]
      exact keeps _ _ _ ih hdeclares

/-- All classes of the one graph are in the other, just as they are. -/
def Within (g h : ClassGraph) : Prop :=
  ∀ name entry, g.get? name = some entry → h.get? name = some entry

theorem Within.refl (g : ClassGraph) : g.Within g := fun _ _ => id

theorem Within.trans {k : ClassGraph} (hgh : g.Within h) (hhk : h.Within k) : g.Within k :=
  fun name entry hentry => hhk name entry (hgh name entry hentry)

theorem within_adding (name : String) (entry : ClassEntry) (g : ClassGraph) :
    g.Within (g.adding name entry) := by
  intro other found hfound
  rw [get?_adding, hfound, Option.some_or]

theorem within_after (history : List ClassDecl) (g : ClassGraph) : g.Within (g.after history) :=
  after_induction (Within.refl g) (fun _ _ _ hwithin _ => hwithin.trans (within_adding _ _ _)) history

theorem Declares.get?_adding_self (hdeclares : Declares g decl entry) :
    (g.adding decl.name entry).get? decl.name = some entry := by
  rw [get?_adding, hdeclares.new, if_pos rfl, Option.none_or]

def HasBase (g : ClassGraph) (name base : String) : Prop := ∃ b ∈ g.bases name, b.base = base

def Inherits (g : ClassGraph) : String → String → Prop := Relation.ReflTransGen g.HasBase

def Closed (g : ClassGraph) : Prop :=
  ∀ name entry, g.get? name = some entry → ∀ b ∈ entry.bases, ∃ above, g.get? b.base = some above

theorem bases_of_get? (hentry : g.get? name = some entry) : g.bases name = entry.bases := by
  rw [bases, hentry]
  rfl

theorem hasBase_of_get? (hentry : g.get? name = some entry) :
    g.HasBase name other ↔ ∃ b ∈ entry.bases, b.base = other := by
  rw [HasBase, bases_of_get? hentry]

theorem Closed.adding (closed : g.Closed) (hdeclares : Declares g decl entry) :
    (g.adding decl.name entry).Closed := by
  have hwithin := within_adding decl.name entry g
  intro name found hfound b hb
  rw [get?_adding] at hfound
  rcases Option.or_eq_some_iff.mp hfound with hold | ⟨-, hnew⟩
  · obtain ⟨above, habove⟩ := closed name found hold b hb
    exact ⟨above, hwithin _ _ habove⟩
  · split at hnew
    · cases hnew
      rw [hdeclares.bases] at hb
      obtain ⟨above, habove⟩ := exists_of_checkBase (hdeclares.checked b hb)
      exact ⟨above, hwithin _ _ habove⟩
    · cases hnew

theorem initial_closed : initial.Closed := by
  intro name entry hentry b hb
  rw [get?, initial, Named.lookup_cons_ite] at hentry
  split at hentry
  · cases hentry
    cases hb
  · cases hentry

theorem Closed.declared_of_inherits (closed : g.Closed) (hentry : g.get? name = some entry)
    (hinherits : g.Inherits name other) : ∃ above, g.get? other = some above := by
  induction hinherits with
  | refl => exact ⟨entry, hentry⟩
  | tail _ hbase ih =>
    obtain ⟨above, habove⟩ := ih
    obtain ⟨b, hb, rfl⟩ := (hasBase_of_get? habove).mp hbase
    exact closed _ above habove b hb

theorem Closed.inherits_iff_of_within (closed : g.Closed) (hwithin : g.Within h)
    (hentry : g.get? name = some entry) : h.Inherits name other ↔ g.Inherits name other := by
  constructor
  · intro hinherits
    induction hinherits with
    | refl => exact .refl
    | tail _ hbase ih =>
      obtain ⟨above, habove⟩ := closed.declared_of_inherits hentry ih
      have hbase := (hasBase_of_get? (hwithin _ _ habove)).mp hbase
      exact ih.tail ((hasBase_of_get? habove).mpr hbase)
  · intro hinherits
    induction hinherits with
    | refl => exact .refl
    | tail hstart hbase ih =>
      obtain ⟨above, habove⟩ := closed.declared_of_inherits hentry hstart
      have hbase := (hasBase_of_get? habove).mp hbase
      exact ih.tail ((hasBase_of_get? (hwithin _ _ habove)).mpr hbase)

theorem inherits_iff_of_get? (hentry : g.get? name = some entry) :
    g.Inherits name other ↔ other = name ∨ ∃ b ∈ entry.bases, g.Inherits b.base other := by
  constructor
  · intro hinherits
    rcases Relation.ReflTransGen.cases_head hinherits with rfl | ⟨base, hbase, hrest⟩
    · exact .inl rfl
    · obtain ⟨b, hb, rfl⟩ := (hasBase_of_get? hentry).mp hbase
      exact .inr ⟨b, hb, hrest⟩
  · rintro (rfl | ⟨b, hb, hrest⟩)
    · exact .refl
    · exact .head ((hasBase_of_get? hentry).mpr ⟨b, hb, rfl⟩) hrest

end Accord.ClassGraph
